import Mathlib.Data.List.Basic

/-!
# Locks by key

Processes that hold one key each at most, out of a shared list of the keys that are held. What
such a process does in one step, and why no two of them ever hold the same key.
-/

namespace KeyedLock

variable {ι κ : Type*}

/-- Every key of a process is held, and no two processes have the same one. -/
structure Exclusive (key : ι → Option κ) (held : List κ) : Prop where
  held : ∀ i k, key i = some k → k ∈ held
  apart : ∀ i j k, key i = some k → key j = some k → i = j

lemma exclusive_none : Exclusive (fun _ : ι => (none : Option κ)) [] :=
  ⟨fun _ _ h => absurd h (by simp), fun _ _ _ h => absurd h (by simp)⟩

variable [DecidableEq κ]

/-- What one step does to the key of the process that takes it and to the keys that are held. -/
inductive Move (key : Option κ) (held : List κ) : Option κ → List κ → Prop
  | keeps : Move key held key held
  | takes (k : κ) : key = none → k ∉ held → Move key held (some k) (k :: held)
  | gives : Move key held none (key.elim held held.erase)

/-- A step of one process, which leaves the keys of the others alone, keeps the exclusion. -/
theorem Exclusive.move {key key' : ι → Option κ} {held held' : List κ} {i : ι}
    (h : Exclusive key held) (hmove : Move (key i) held (key' i) held')
    (hother : ∀ j, j ≠ i → key' j = key j) : Exclusive key' held' := by
  generalize hi : key' i = new at hmove
  cases hmove with
  | keeps =>
    have hsame : key' = key := by
      funext j
      by_cases hj : j = i
      · rw [hj, hi]
      · exact hother j hj
    rwa [hsame]
  | takes k _ hfree =>
    -- Nobody else has the key: it was free.
    have hfresh : ∀ j, j ≠ i → key' j ≠ some k := by
      intro j hj hk
      rw [hother j hj] at hk
      exact hfree (h.held j k hk)
    refine ⟨fun j k' hk' => ?_, fun j j' k' hj hj' => ?_⟩
    · by_cases hj : j = i
      · rw [hj, hi] at hk'
        exact Option.some.inj hk' ▸ List.mem_cons_self
      · rw [hother j hj] at hk'
        exact List.mem_cons_of_mem k (h.held j k' hk')
    · by_cases hji : j = i
      · by_cases hji' : j' = i
        · rw [hji, hji']
        · rw [hji, hi] at hj
          obtain rfl := Option.some.inj hj
          exact absurd hj' (hfresh j' hji')
      · by_cases hji' : j' = i
        · rw [hji', hi] at hj'
          obtain rfl := Option.some.inj hj'
          exact absurd hj (hfresh j hji)
        · rw [hother j hji] at hj
          rw [hother j' hji'] at hj'
          exact h.apart j j' k' hj hj'
  | gives =>
    have hne : ∀ j k, key' j = some k → j ≠ i := by
      intro j k hk hj
      rw [hj, hi] at hk
      exact absurd hk (by simp)
    refine ⟨fun j k hk => ?_, fun j j' k hj hj' => ?_⟩
    · have hj := hne j k hk
      rw [hother j hj] at hk
      cases hkey : key i with
      | none => exact h.held j k hk
      | some k' =>
        have hk' : k ≠ k' := fun heq => hj (h.apart j i k hk (heq ▸ hkey))
        exact (List.mem_erase_of_ne hk').mpr (h.held j k hk)
    · rw [hother j (hne j k hj)] at hj
      rw [hother j' (hne j' k hj')] at hj'
      exact h.apart j j' k hj hj'

/-- The keys that are held, each of them once, are keys of the processes in `own`. -/
structure HeldBy (own : ι → Prop) (key : ι → Option κ) (held : List κ) : Prop where
  nodup : held.Nodup
  owner : ∀ k ∈ held, ∃ i, own i ∧ key i = some k

omit [DecidableEq κ] in
lemma heldBy_nil (own : ι → Prop) (key : ι → Option κ) : HeldBy own key [] :=
  ⟨List.nodup_nil, List.forall_mem_nil _⟩

omit [DecidableEq κ] in
lemma HeldBy.held {own : ι → Prop} {key : ι → Option κ} {held held' : List κ}
    (h : HeldBy own key held) (hall : Exclusive key held') : ∀ k ∈ held, k ∈ held' := by
  intro k hk
  obtain ⟨i, -, hi⟩ := h.owner k hk
  exact hall.held i k hi

omit [DecidableEq κ] in
/-- What the other processes do to their keys does not matter. -/
lemma HeldBy.other {own : ι → Prop} {key key' : ι → Option κ} {held : List κ} {i : ι}
    (h : HeldBy own key held) (hi : ¬own i) (hother : ∀ j, j ≠ i → key' j = key j) :
    HeldBy own key' held := by
  refine ⟨h.nodup, fun k hk => ?_⟩
  obtain ⟨j, hj, hkey⟩ := h.owner k hk
  exact ⟨j, hj, (hother j (fun hji => hi (hji ▸ hj))).trans hkey⟩

theorem HeldBy.move {own : ι → Prop} {key key' : ι → Option κ} {held held' : List κ} {i : ι}
    (h : HeldBy own key held) (hi : own i) (hmove : Move (key i) held (key' i) held')
    (hother : ∀ j, j ≠ i → key' j = key j) : HeldBy own key' held' := by
  have hstays : ∀ k ∈ held, key i ≠ some k → ∃ j, own j ∧ key' j = some k := by
    intro k hk hne
    obtain ⟨j, hj, hkey⟩ := h.owner k hk
    exact ⟨j, hj, (hother j (fun hji => hne (hji ▸ hkey))).trans hkey⟩
  generalize hnew : key' i = new at hmove
  cases hmove with
  | keeps =>
    refine ⟨h.nodup, fun k hk => ?_⟩
    by_cases hkey : key i = some k
    · exact ⟨i, hi, hnew.trans hkey⟩
    · exact hstays k hk hkey
  | takes k hnone hfree =>
    refine ⟨List.nodup_cons.mpr ⟨hfree, h.nodup⟩, fun k' hk' => ?_⟩
    rcases List.mem_cons.mp hk' with rfl | hk'
    · exact ⟨i, hi, hnew⟩
    · exact hstays k' hk' (by simp [hnone])
  | gives =>
    cases hkey : key i with
    | none => exact ⟨h.nodup, fun k hk => hstays k hk (by simp [hkey])⟩
    | some k =>
      refine ⟨h.nodup.erase k, fun k' hk' => ?_⟩
      obtain ⟨hne, hheld⟩ := h.nodup.mem_erase_iff.mp hk'
      exact hstays k' hheld (fun hsame => hne (Option.some.inj (hkey.symm.trans hsame)).symm)

end KeyedLock
