import OpsCopilot.Model.IdempotencyRegistry

/-!
# Rows that are written once

`complete` and `fail` only touch a row that is in progress. The row of a stale claim is written
whatever has become of it since it was read, so that a row keeps its outcome exactly when no such
write comes after an outcome.
-/

namespace OpsCopilot

open Python Interleaving

/-- What may become of the row: it is not deleted, it starts in progress, and with an outcome it
keeps the status and the result. -/
structure WriteOnce (before after : Option IdempotencyKey) : Prop where
  kept : before.isSome → after.isSome
  outcome : ∀ row ∈ before, row.status ≠ .inProgress →
    ∃ row' ∈ after, row'.status = row.status ∧ row'.result = row.result

/-- The outcome that a stale claim writes. -/
def Abandoned (row : IdempotencyKey) : Prop :=
  row.status = .failed ∧ row.result = some (errorResult "abandoned")

/-- A claim that ends on a stale row finds it in progress, or abandoned by another claim. -/
def FindsOpen {ι : Type*} (c : Config ι (Option IdempotencyKey) ClaimPhase) (i : ι)
    (a : RegistryAction) : Prop :=
  match a, c.proc i with
  | .settle, .seen _ true => ∀ row ∈ c.shared, row.status = .inProgress ∨ Abandoned row
  | _, _ => True

lemma WriteOnce.refl (before : Option IdempotencyKey) : WriteOnce before before :=
  ⟨id, fun row hrow _ => ⟨row, hrow, rfl, rfl⟩⟩

lemma WriteOnce.trans {a b c : Option IdempotencyKey} (hab : WriteOnce a b) (hbc : WriteOnce b c) :
    WriteOnce a c := by
  refine ⟨fun h => hbc.kept (hab.kept h), fun row hrow hstatus => ?_⟩
  obtain ⟨row₁, hrow₁, hstatus₁, hresult₁⟩ := hab.outcome row hrow hstatus
  obtain ⟨row₂, hrow₂, hstatus₂, hresult₂⟩ := hbc.outcome row₁ hrow₁ (hstatus₁ ▸ hstatus)
  exact ⟨row₂, hrow₂, hstatus₂.trans hstatus₁, hresult₂.trans hresult₁⟩

lemma writeOnce_insert (row : IdempotencyKey) : WriteOnce none (some row) :=
  ⟨fun h => absurd h (by simp), fun row hrow => absurd hrow (by simp)⟩

/-- The conditional update of `complete` and `fail`. -/
lemma writeOnce_finish (found : Option IdempotencyKey) (status : KeyStatus) (result : Value)
    (now : Timestamp) : WriteOnce found (found.map (fun row => row.finish status result now)) := by
  refine ⟨fun h => by rwa [Option.isSome_map], fun row hrow hstatus => ?_⟩
  refine ⟨row.finish status result now, Option.mem_map_of_mem _ hrow, ?_⟩
  rw [IdempotencyKey.finish, if_neg hstatus]
  exact ⟨rfl, rfl⟩

/-- The unconditional update of `claim`. -/
lemma writeOnce_abandon_iff (found : Option IdempotencyKey) :
    WriteOnce found (found.map IdempotencyKey.abandon) ↔
      ∀ row ∈ found, row.status = .inProgress ∨ Abandoned row := by
  constructor
  · intro h row hrow
    by_cases hstatus : row.status = .inProgress
    · exact .inl hstatus
    · obtain ⟨row', hrow', hstatus', hresult'⟩ := h.outcome row hrow hstatus
      rw [Option.mem_def] at hrow
      rw [hrow, Option.map_some, Option.mem_some_iff] at hrow'
      rw [← hrow'] at hstatus' hresult'
      exact .inr ⟨hstatus'.symm, hresult'.symm⟩
  · intro h
    refine ⟨fun hsome => by rwa [Option.isSome_map], fun row hrow hstatus => ?_⟩
    obtain ⟨hfailed, hresult⟩ := (h row hrow).resolve_left hstatus
    exact ⟨row.abandon, Option.mem_map_of_mem _ hrow, hfailed.symm, hresult.symm⟩

variable {O : Outside} {ι : Type*} [DecidableEq ι]

/-- Between any two points of the run the row is written as in `WriteOnce`. -/
def OutcomesKept (O : Outside) (c : Config ι (Option IdempotencyKey) ClaimPhase)
    (s : List (ι × RegistryAction)) : Prop :=
  ∀ s₁ s₂ s₃ e f, s = s₁ ++ s₂ ++ s₃ → (registryCalls O ι).run c s₁ = some e →
    (registryCalls O ι).run e s₂ = some f → WriteOnce e.shared f.shared

/-- One statement keeps an outcome exactly when a stale claim finds none. -/
lemma writeOnce_step_iff {c d : Config ι (Option IdempotencyKey) ClaimPhase} {i : ι}
    {a : RegistryAction} (h : (registryCalls O ι).fire c i a = some d) :
    WriteOnce c.shared d.shared ↔ FindsOpen c i a := by
  have hstep : registryStep O a c.shared (c.proc i) = some (d.shared, d.proc i) :=
    (registryCalls O ι).step_of_fire h
  unfold FindsOpen
  generalize c.shared = before, c.proc i = phase, d.shared = after, d.proc i = phase' at hstep ⊢
  revert hstep
  fun_cases registryStep O a before phase with
  | case5 found row stale =>
    intro hstep
    obtain ⟨rfl, -⟩ := Prod.mk.inj (Option.some.inj hstep)
    cases stale with
    | true => exact writeOnce_abandon_iff before
    | false => exact iff_of_true (.refl before) trivial
  | case1 fingerprint now =>
    intro hstep
    obtain ⟨rfl, -⟩ := Prod.mk.inj (Option.some.inj hstep)
    exact iff_of_true (writeOnce_insert _) trivial
  | case7 found now result stored hstored =>
    intro hstep
    obtain ⟨rfl, -⟩ := Prod.mk.inj (Option.some.inj hstep)
    exact iff_of_true (writeOnce_finish before .completed _ _) trivial
  | case8 =>
    intro hstep
    obtain ⟨rfl, -⟩ := Prod.mk.inj (Option.some.inj hstep)
    exact iff_of_true (writeOnce_finish before .failed _ _) trivial
  | case9 =>
    intro hstep
    exact absurd hstep (by simp)
  | _ =>
    intro hstep
    obtain ⟨rfl, -⟩ := Prod.mk.inj (Option.some.inj hstep)
    exact iff_of_true (.refl _) trivial

/-- In every run of `claim`, `complete` and `fail` the outcomes are kept exactly when each claim
that ends on a stale row finds it open. -/
theorem outcomes_kept_iff (c d : Config ι (Option IdempotencyKey) ClaimPhase)
    (s : List (ι × RegistryAction)) (hrun : (registryCalls O ι).run c s = some d) :
    (registryCalls O ι).Along FindsOpen c s ↔ OutcomesKept O c s := by
  exact (registryCalls O ι).along_iff_rel (R := fun e f => WriteOnce e.shared f.shared)
    (fun e => .refl e.shared) (fun _ _ _ => .trans) (fun _ _ _ _ => writeOnce_step_iff) hrun

/-! ### A completed row that is abandoned -/

/-- The first worker inserts the row; six minutes later the second finds it stale, and before the
second has written it the first completes. -/
def lateCompletion : List (Bool × RegistryAction) :=
  [(true, .insert "f" 0), (false, .insert "f" 360000000), (false, .read 360000000),
    (true, .complete [] 360000001)]

def noRow : Config Bool (Option IdempotencyKey) ClaimPhase := ⟨none, fun _ => .free⟩

def statusAfter (s : List (Bool × RegistryAction)) : Option (Option KeyStatus) :=
  ((registryCalls (.prescribed []) Bool).run noRow s).map
    (fun c => c.shared.map IdempotencyKey.status)

lemma statusAfter_lateCompletion : statusAfter lateCompletion = some (some .completed) := by
  decide +kernel

lemma statusAfter_settle :
    statusAfter (lateCompletion ++ [(false, .settle)]) = some (some .failed) := by
  decide +kernel

theorem completion_overwritten :
    ¬OutcomesKept (.prescribed []) noRow (lateCompletion ++ [(false, .settle)]) := by
  intro h
  obtain ⟨e, he, hcompleted⟩ := Option.map_eq_some_iff.mp statusAfter_lateCompletion
  obtain ⟨f, hf, hfailed⟩ := Option.map_eq_some_iff.mp statusAfter_settle
  have hlast : (registryCalls (.prescribed []) Bool).run e [(false, .settle)] = some f := by
    rwa [Program.run_append, he] at hf
  have honce : WriteOnce e.shared f.shared :=
    h lateCompletion [(false, .settle)] [] e f (List.append_nil _).symm he hlast
  obtain ⟨row, hrow, hstatus⟩ := Option.map_eq_some_iff.mp hcompleted
  obtain ⟨row', hrow', hkept, -⟩ := honce.outcome row hrow (hstatus ▸ by decide)
  rw [Option.mem_def.mp hrow', Option.map_some, Option.some_inj, hkept, hstatus] at hfailed
  exact absurd hfailed (by decide)

/-- The claim abandons the row before the first worker completes, which then changes nothing. -/
def lateCompletionSettled : List (Bool × RegistryAction) :=
  [(true, .insert "f" 0), (false, .insert "f" 360000000), (false, .read 360000000),
    (false, .settle), (true, .complete [] 360000001)]

lemma statusAfter_settled : statusAfter lateCompletionSettled = some (some .failed) := by
  decide +kernel

theorem abandonment_kept : OutcomesKept (.prescribed []) noRow lateCompletionSettled := by
  obtain ⟨e, he, -⟩ := Option.map_eq_some_iff.mp statusAfter_settled
  have hopen : (registryCalls (.prescribed []) Bool).Along FindsOpen noRow
      lateCompletionSettled := by
    refine ⟨trivial, fun c₁ h₁ => ⟨trivial, fun c₂ h₂ => ⟨trivial, fun c₃ h₃ => ⟨?_, ?_⟩⟩⟩⟩
    · obtain rfl := Option.some.inj h₁
      obtain rfl := Option.some.inj h₂
      obtain rfl := Option.some.inj h₃
      rintro row ⟨⟩
      exact .inl rfl
    · exact fun _ _ => ⟨trivial, fun _ _ => trivial⟩
  exact (outcomes_kept_iff noRow e lateCompletionSettled he).mp hopen

end OpsCopilot
