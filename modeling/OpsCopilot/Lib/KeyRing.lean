import Mathlib.Data.List.Induction

/-!
# Keys that are issued and revoked

A history of keys that were issued to holders, and of holders whose keys were revoked. The ring
is what a table of keys holds after it; a key is live when it was issued and its holder's keys
were not revoked since.
-/

namespace KeyRing

variable {τ κ : Type*}

inductive KeyEvent (τ κ : Type*) where
  | issued (holder : τ) (key : κ)
  | revoked (holders : List τ)

/-- A key of the ring. -/
@[ext] structure Entry (τ κ : Type*) where
  holder : τ
  key : κ
  live : Bool

/-- Issued, and not revoked since. -/
def Live (history : List (KeyEvent τ κ)) (holder : τ) (key : κ) : Prop :=
  ∃ before after, history = before ++ .issued holder key :: after ∧
    ∀ holders, .revoked holders ∈ after → holder ∉ holders

/-- All keys that were issued, whether they are live or not. -/
def Known (history : List (KeyEvent τ κ)) (key : κ) : Prop :=
  ∃ holder, .issued holder key ∈ history

lemma Live.known {history : List (KeyEvent τ κ)} {holder : τ} {key : κ}
    (h : Live history holder key) : Known history key := by
  obtain ⟨before, after, rfl, -⟩ := h
  exact ⟨holder, List.mem_append_right _ List.mem_cons_self⟩

section Ring

variable [DecidableEq τ]

def apply (entries : List (Entry τ κ)) : KeyEvent τ κ → List (Entry τ κ)
  | .issued holder key => entries ++ [⟨holder, key, true⟩]
  | .revoked holders => entries.map
      (fun e => if e.holder ∈ holders then { e with live := false } else e)

def ring (history : List (KeyEvent τ κ)) : List (Entry τ κ) := history.foldl apply []

lemma ring_concat (history : List (KeyEvent τ κ)) (event : KeyEvent τ κ) :
    ring (history ++ [event]) = apply (ring history) event := by
  rw [ring, List.foldl_append, ring]
  rfl

lemma ring_append (history more : List (KeyEvent τ κ)) :
    ring (history ++ more) = more.foldl apply (ring history) := by
  rw [ring, List.foldl_append, ring]

lemma foldl_apply_issued (entries : List (Entry τ κ)) (keys : List (τ × κ)) :
    (keys.map (fun k => KeyEvent.issued k.1 k.2)).foldl apply entries =
      entries ++ keys.map (fun k => ⟨k.1, k.2, true⟩) := by
  induction keys generalizing entries with
  | nil => exact (List.append_nil entries).symm
  | cons k keys ih =>
    rw [List.map_cons, List.foldl_cons, ih, apply, List.append_assoc]
    rfl

end Ring

/-- Where an element of a list stands that has got one more. -/
lemma split_concat {α : Type*} {xs before after : List α} {x y : α}
    (h : xs ++ [x] = before ++ y :: after) :
    (after = [] ∧ x = y) ∨ ∃ rest, after = rest ++ [x] ∧ xs = before ++ y :: rest := by
  cases after using List.reverseRecOn with
  | nil => exact .inl ⟨rfl, (List.cons.inj (List.append_inj' h rfl).2).1⟩
  | append_singleton rest last _ =>
    rw [← List.cons_append, ← List.append_assoc] at h
    obtain ⟨rfl, hlast⟩ := List.append_inj' h rfl
    obtain rfl := (List.cons.inj hlast).1
    exact .inr ⟨rest, rfl, rfl⟩

lemma live_concat_issued {history : List (KeyEvent τ κ)} {holder holder' : τ} {key key' : κ} :
    Live (history ++ [.issued holder' key']) holder key ↔
      Live history holder key ∨ holder = holder' ∧ key = key' := by
  constructor
  · rintro ⟨before, after, heq, hkept⟩
    rcases split_concat heq with ⟨-, hlast⟩ | ⟨rest, rfl, rfl⟩
    · obtain ⟨rfl, rfl⟩ := KeyEvent.issued.inj hlast
      exact .inr ⟨rfl, rfl⟩
    · exact .inl ⟨before, rest, rfl, fun holders h => hkept holders (List.mem_append_left _ h)⟩
  · rintro (⟨before, after, rfl, hkept⟩ | ⟨rfl, rfl⟩)
    · refine ⟨before, after ++ [.issued holder' key'], by simp, fun holders h => ?_⟩
      rcases List.mem_append.mp h with h | h
      · exact hkept holders h
      · exact absurd (List.mem_singleton.mp h) (by simp)
    · exact ⟨history, [], rfl, fun _ h => absurd h List.not_mem_nil⟩

lemma live_concat_revoked {history : List (KeyEvent τ κ)} {holder : τ} {key : κ}
    {holders : List τ} :
    Live (history ++ [.revoked holders]) holder key ↔
      Live history holder key ∧ holder ∉ holders := by
  constructor
  · rintro ⟨before, after, heq, hkept⟩
    rcases split_concat heq with ⟨-, hlast⟩ | ⟨rest, rfl, rfl⟩
    · cases hlast
    · exact ⟨⟨before, rest, rfl, fun hs h => hkept hs (List.mem_append_left _ h)⟩,
        hkept holders (List.mem_append_right _ List.mem_cons_self)⟩
  · rintro ⟨⟨before, after, rfl, hkept⟩, hfree⟩
    refine ⟨before, after ++ [.revoked holders], by simp, fun hs h => ?_⟩
    rcases List.mem_append.mp h with h | h
    · exact hkept hs h
    · obtain rfl := KeyEvent.revoked.inj (List.mem_singleton.mp h)
      exact hfree

variable [DecidableEq τ]

/-- The live keys of the ring are those that were issued and not revoked since. -/
theorem mem_ring_live {history : List (KeyEvent τ κ)} {holder : τ} {key : κ} :
    ⟨holder, key, true⟩ ∈ ring history ↔ Live history holder key := by
  induction history using List.reverseRecOn with
  | nil =>
    refine iff_of_false List.not_mem_nil ?_
    rintro ⟨before, after, heq, -⟩
    exact absurd heq (by simp)
  | append_singleton history event ih =>
    rw [ring_concat]
    cases event with
    | issued holder' key' =>
      rw [live_concat_issued, ← ih, apply, List.mem_append, List.mem_singleton, Entry.mk.injEq]
      simp
    | revoked holders =>
      rw [live_concat_revoked, ← ih, apply, List.mem_map]
      constructor
      · rintro ⟨e, he, heq⟩
        split_ifs at heq with hmem
        · exact absurd (congrArg Entry.live heq) (by simp)
        · subst heq
          exact ⟨he, hmem⟩
      · rintro ⟨he, hfree⟩
        exact ⟨_, he, if_neg hfree⟩

/-- The keys of the ring are those that were issued. -/
theorem exists_mem_ring {history : List (KeyEvent τ κ)} {key : κ} :
    (∃ e ∈ ring history, e.key = key) ↔ Known history key := by
  induction history using List.reverseRecOn with
  | nil => exact iff_of_false (by simp [ring]) (by simp [Known])
  | append_singleton history event ih =>
    rw [ring_concat]
    cases event with
    | issued holder' key' =>
      simp only [apply, Known, List.mem_append, List.mem_singleton, KeyEvent.issued.injEq,
        or_and_right, exists_or, ih, exists_eq_left]
      rw [eq_comm]
    | revoked holders =>
      simp only [apply, Known, List.mem_append, List.mem_singleton, reduceCtorEq, or_false,
        List.mem_map, exists_exists_and_eq_and]
      rw [← Known, ← ih]
      refine exists_congr fun e => and_congr_right fun _ => ?_
      split_ifs <;> rfl

end KeyRing
