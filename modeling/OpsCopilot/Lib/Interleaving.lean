import Mathlib.Logic.Function.Basic
import Mathlib.Data.List.Basic

/-!
# Interleaved processes over a shared store

A `Program` says what one process does in one atomic step: it reads and writes the
shared store and moves its own local state. A schedule is a list of process names with
the action each of them takes, so that a statement about every schedule is a statement
about every interleaving. Readings of a clock and results of outside calls are part of
the action, hence arbitrary.
-/

namespace Interleaving

/-- The step of process `i` for action `a`; `none` where the action is not enabled. -/
structure Program (ι σ π α : Type*) where
  step : ι → α → σ → π → Option (σ × π)

/-- The shared store and the local state of every process. -/
@[ext] structure Config (ι σ π : Type*) where
  shared : σ
  proc : ι → π

/-- The steps of one process alone. -/
def own {ι α : Type*} (i : ι) (actions : List α) : List (ι × α) := actions.map (fun a => (i, a))

namespace Program

variable {ι σ π α : Type*} [DecidableEq ι] (P : Program ι σ π α)

/-- One process takes one step. -/
def fire (c : Config ι σ π) (i : ι) (a : α) : Option (Config ι σ π) :=
  (P.step i a c.shared (c.proc i)).map (fun r => ⟨r.1, Function.update c.proc i r.2⟩)

/-- Runs a schedule; `none` when some action of it is not enabled. -/
def run : Config ι σ π → List (ι × α) → Option (Config ι σ π)
  | c, [] => some c
  | c, (i, a) :: rest => (P.fire c i a).bind (fun d => run d rest)

/-- Every step of the schedule meets `ok` in the configuration it is taken from. -/
def Along (ok : Config ι σ π → ι → α → Prop) : Config ι σ π → List (ι × α) → Prop
  | _, [] => True
  | c, (i, a) :: rest => ok c i a ∧ ∀ d, P.fire c i a = some d → Along ok d rest

lemma fire_eq_some {c d : Config ι σ π} {i : ι} {a : α} :
    P.fire c i a = some d ↔ ∃ s p, P.step i a c.shared (c.proc i) = some (s, p) ∧
      d = ⟨s, Function.update c.proc i p⟩ := by
  unfold fire
  rw [Option.map_eq_some_iff]
  constructor
  · rintro ⟨⟨s, p⟩, hstep, rfl⟩
    exact ⟨s, p, hstep, rfl⟩
  · rintro ⟨s, p, hstep, rfl⟩
    exact ⟨(s, p), hstep, rfl⟩

/-- A step moves the store and the process that takes it. -/
lemma step_of_fire {c d : Config ι σ π} {i : ι} {a : α} (h : P.fire c i a = some d) :
    P.step i a c.shared (c.proc i) = some (d.shared, d.proc i) := by
  obtain ⟨s, p, hstep, rfl⟩ := P.fire_eq_some.mp h
  rw [hstep]
  simp only [Function.update_self]

lemma proc_of_fire {c d : Config ι σ π} {i j : ι} {a : α} (h : P.fire c i a = some d)
    (hj : j ≠ i) : d.proc j = c.proc j := by
  obtain ⟨s, p, -, rfl⟩ := P.fire_eq_some.mp h
  exact Function.update_of_ne hj p c.proc

@[simp] lemma run_nil (c : Config ι σ π) : P.run c [] = some c := rfl

lemma run_cons (c : Config ι σ π) (i : ι) (a : α) (rest : List (ι × α)) :
    P.run c ((i, a) :: rest) = (P.fire c i a).bind (fun d => P.run d rest) := rfl

lemma run_cons_eq_some {c e : Config ι σ π} {i : ι} {a : α} {rest : List (ι × α)} :
    P.run c ((i, a) :: rest) = some e ↔ ∃ d, P.fire c i a = some d ∧ P.run d rest = some e := by
  rw [run_cons, Option.bind_eq_some_iff]

lemma run_append (c : Config ι σ π) (s t : List (ι × α)) :
    P.run c (s ++ t) = (P.run c s).bind (fun d => P.run d t) := by
  induction s generalizing c with
  | nil => rfl
  | cons x s ih =>
    rcases x with ⟨i, a⟩
    rw [List.cons_append, run_cons, run_cons]
    cases P.fire c i a with
    | none => rfl
    | some d => exact ih d

lemma along_cons {ok : Config ι σ π → ι → α → Prop} {c d : Config ι σ π} {i : ι} {a : α}
    {rest : List (ι × α)} (hok : ok c i a) (hfire : P.fire c i a = some d)
    (hrest : P.Along ok d rest) : P.Along ok c ((i, a) :: rest) := by
  refine ⟨hok, fun e he => ?_⟩
  obtain rfl := Option.some.inj (hfire.symm.trans he)
  exact hrest

/-- Whether every step of a schedule meets a condition can be found out by running it. -/
instance decidableAlong {ok : Config ι σ π → ι → α → Prop} [∀ c i a, Decidable (ok c i a)] :
    (c : Config ι σ π) → (s : List (ι × α)) → Decidable (P.Along ok c s)
  | _, [] => isTrue trivial
  | c, (i, a) :: rest =>
    have : Decidable (∀ d, P.fire c i a = some d → P.Along ok d rest) :=
      match P.fire c i a with
      | none => isTrue (fun _ h => absurd h (by simp))
      | some e =>
        have : Decidable (P.Along ok e rest) := decidableAlong e rest
        decidable_of_iff (P.Along ok e rest)
          ⟨fun h _ he => Option.some.inj he ▸ h, fun h => h e rfl⟩
    inferInstanceAs (Decidable (_ ∧ _))

lemma along_append {ok : Config ι σ π → ι → α → Prop} {c d : Config ι σ π} {s t : List (ι × α)}
    (h : P.Along ok c (s ++ t)) (hrun : P.run c s = some d) : P.Along ok d t := by
  induction s generalizing c with
  | nil =>
    rw [run_nil, Option.some.injEq] at hrun
    exact hrun ▸ h
  | cons x s ih =>
    rcases x with ⟨i, a⟩
    rcases P.run_cons_eq_some.mp hrun with ⟨e, hfire, hrest⟩
    exact ih (h.2 e hfire) hrest

lemma along_left {ok : Config ι σ π → ι → α → Prop} {c : Config ι σ π} {s t : List (ι × α)}
    (h : P.Along ok c (s ++ t)) : P.Along ok c s := by
  induction s generalizing c with
  | nil => trivial
  | cons x s ih => exact ⟨h.1, fun d hd => ih (h.2 d hd)⟩

lemma along_true (c : Config ι σ π) (s : List (ι × α)) : P.Along (fun _ _ _ => True) c s := by
  induction s generalizing c with
  | nil => trivial
  | cons x s ih => exact ⟨trivial, fun d _ => ih d⟩

/-- The steps of one process meet a condition that all its steps meet. -/
lemma along_own {ok : Config ι σ π → ι → α → Prop} {i : ι} (c : Config ι σ π)
    (h : ∀ c a, ok c i a) (actions : List α) : P.Along ok c (own i actions) := by
  induction actions generalizing c with
  | nil => trivial
  | cons a actions ih => exact ⟨h c a, fun d _ => ih d⟩

lemma along_mono {ok ok' : Config ι σ π → ι → α → Prop} (himp : ∀ c i a, ok c i a → ok' c i a)
    {c : Config ι σ π} {s : List (ι × α)} (h : P.Along ok c s) : P.Along ok' c s := by
  induction s generalizing c with
  | nil => trivial
  | cons x s ih => exact ⟨himp c x.1 x.2 h.1, fun d hd => ih (h.2 d hd)⟩

/-- What every step keeps holds at the end of every run. -/
theorem run_invariant {ok : Config ι σ π → ι → α → Prop} {Inv : Config ι σ π → Prop}
    (hstep : ∀ c i a d, Inv c → ok c i a → P.fire c i a = some d → Inv d)
    {c d : Config ι σ π} {s : List (ι × α)} (hinit : Inv c) (hok : P.Along ok c s)
    (hrun : P.run c s = some d) : Inv d := by
  induction s generalizing c with
  | nil =>
    rw [run_nil, Option.some.injEq] at hrun
    exact hrun ▸ hinit
  | cons x s ih =>
    rcases x with ⟨i, a⟩
    rcases P.run_cons_eq_some.mp hrun with ⟨e, hfire, hrest⟩
    exact ih (hstep c i a e hinit hok.1 hfire) (hok.2 e hfire) hrest

/-- What follows from an invariant holds before every step of every run. -/
theorem along_of_invariant {ok good : Config ι σ π → ι → α → Prop} {Inv : Config ι σ π → Prop}
    (hstep : ∀ c i a d, Inv c → ok c i a → P.fire c i a = some d → Inv d)
    (hgood : ∀ c i a, Inv c → ok c i a → good c i a)
    {c : Config ι σ π} {s : List (ι × α)} (hinit : Inv c) (hok : P.Along ok c s) :
    P.Along good c s := by
  induction s generalizing c with
  | nil => trivial
  | cons x s ih =>
    rcases x with ⟨i, a⟩
    exact ⟨hgood c i a hinit hok.1,
      fun d hd => ih (hstep c i a d hinit hok.1 hd) (hok.2 d hd)⟩

/-- What every step relates, every part of a run relates. -/
lemma rel_of_along {ok : Config ι σ π → ι → α → Prop} {R : Config ι σ π → Config ι σ π → Prop}
    (hrefl : ∀ c, R c c) (htrans : ∀ c d e, R c d → R d e → R c e)
    (hstep : ∀ c i a d, ok c i a → P.fire c i a = some d → R c d)
    {c d : Config ι σ π} {s : List (ι × α)} (hok : P.Along ok c s) (hrun : P.run c s = some d) :
    R c d := by
  induction s generalizing c with
  | nil =>
    rw [run_nil, Option.some.injEq] at hrun
    exact hrun ▸ hrefl c
  | cons x s ih =>
    rcases x with ⟨i, a⟩
    rcases P.run_cons_eq_some.mp hrun with ⟨e, hfire, hrest⟩
    exact htrans c e d (hstep c i a e hok.1 hfire) (ih (hok.2 e hfire) hrest)

/-- Where `ok` tells exactly which steps are related, it tells which runs are related throughout. -/
theorem along_iff_rel {ok : Config ι σ π → ι → α → Prop}
    {R : Config ι σ π → Config ι σ π → Prop}
    (hrefl : ∀ c, R c c) (htrans : ∀ c d e, R c d → R d e → R c e)
    (hstep : ∀ c i a d, P.fire c i a = some d → (R c d ↔ ok c i a))
    {c d : Config ι σ π} {s : List (ι × α)} (hrun : P.run c s = some d) :
    P.Along ok c s ↔ ∀ s₁ s₂ s₃ e f, s = s₁ ++ s₂ ++ s₃ → P.run c s₁ = some e →
      P.run e s₂ = some f → R e f := by
  constructor
  · rintro hok s₁ s₂ s₃ e f rfl he hf
    rw [List.append_assoc] at hok
    exact P.rel_of_along hrefl htrans (fun c i a d h hfire => (hstep c i a d hfire).mpr h)
      (P.along_left (P.along_append hok he)) hf
  · intro hrel
    induction s generalizing c with
    | nil => trivial
    | cons x s ih =>
      rcases x with ⟨i, a⟩
      rcases P.run_cons_eq_some.mp hrun with ⟨e, hfire, hrest⟩
      have hone : P.run c [(i, a)] = some e := P.run_cons_eq_some.mpr ⟨e, hfire, rfl⟩
      have hok : ok c i a := (hstep c i a e hfire).mp (hrel [] [(i, a)] s c e rfl rfl hone)
      refine P.along_cons hok hfire (ih hrest ?_)
      rintro s₁ s₂ s₃ f g rfl hf hg
      exact hrel ((i, a) :: s₁) s₂ s₃ f g rfl (P.run_cons_eq_some.mpr ⟨e, hfire, hf⟩) hg

/-- The unconditional form of `run_invariant`. -/
theorem run_invariant' {Inv : Config ι σ π → Prop}
    (hstep : ∀ c i a d, Inv c → P.fire c i a = some d → Inv d)
    {c d : Config ι σ π} {s : List (ι × α)} (hinit : Inv c) (hrun : P.run c s = some d) : Inv d :=
  P.run_invariant (fun c i a d hc _ hd => hstep c i a d hc hd) hinit (P.along_true c s) hrun

/-- What holds at the end of a run and not at its start has begun to hold in one of the steps. -/
theorem exists_step {G : Config ι σ π → Prop} {c d : Config ι σ π} {s : List (ι × α)}
    (hrun : P.run c s = some d) (hc : ¬G c) (hd : G d) :
    ∃ before i a after e f, s = before ++ (i, a) :: after ∧ P.run c before = some e ∧
      P.fire e i a = some f ∧ P.run f after = some d ∧ ¬G e ∧ G f := by
  induction s generalizing c with
  | nil =>
    rw [run_nil, Option.some.injEq] at hrun
    exact absurd (hrun ▸ hd) hc
  | cons x s ih =>
    rcases x with ⟨i, a⟩
    obtain ⟨f, hfire, hrest⟩ := P.run_cons_eq_some.mp hrun
    by_cases hf : G f
    · exact ⟨[], i, a, s, c, f, rfl, rfl, hfire, hrest, hc, hf⟩
    · obtain ⟨before, j, b, after, e, g, rfl, hbefore, hg, hafter, he, hgood⟩ := ih hrest hf
      refine ⟨(i, a) :: before, j, b, after, e, g, rfl, ?_, hg, hafter, he, hgood⟩
      exact P.run_cons_eq_some.mpr ⟨f, hfire, hbefore⟩

/-- A step that leaves a lasting mark has not been taken if there is no mark in the end. -/
theorem along_of_unmarked {bad : Config ι σ π → ι → α → Prop} {Mark : Config ι σ π → Prop}
    (hmark : ∀ c i a d, bad c i a → P.fire c i a = some d → Mark d)
    (hlasts : ∀ c i a d, Mark c → P.fire c i a = some d → Mark d)
    {c d : Config ι σ π} {s : List (ι × α)} (hrun : P.run c s = some d) (hd : ¬Mark d) :
    P.Along (fun c i a => ¬bad c i a) c s := by
  induction s generalizing c with
  | nil => trivial
  | cons x s ih =>
    rcases x with ⟨i, a⟩
    obtain ⟨e, hfire, hrest⟩ := P.run_cons_eq_some.mp hrun
    refine P.along_cons (fun hbad => hd ?_) hfire (ih hrest)
    exact P.run_invariant' hlasts (hmark c i a e hbad hfire) hrest

/-- A run without the steps of some processes. `R` relates the whole run to what is left of it: the
steps that stay can be taken in both, those that go leave the relation. -/
theorem run_purge {own : ι → Prop} [DecidablePred own] {ok : Config ι σ π → ι → α → Prop}
    {R : Config ι σ π → Config ι σ π → Prop}
    (hown : ∀ c c' i a d, own i → R c c' → ok c i a → P.fire c i a = some d →
      ∃ d', P.fire c' i a = some d' ∧ R d d')
    (hother : ∀ c c' i a d, ¬own i → R c c' → ok c i a → P.fire c i a = some d → R d c')
    {c c' d : Config ι σ π} {s : List (ι × α)} (hR : R c c') (hok : P.Along ok c s)
    (hrun : P.run c s = some d) :
    ∃ d', P.run c' (s.filter (fun x => own x.1)) = some d' ∧ R d d' := by
  induction s generalizing c c' with
  | nil =>
    rw [run_nil, Option.some.injEq] at hrun
    exact ⟨c', rfl, hrun ▸ hR⟩
  | cons x s ih =>
    rcases x with ⟨i, a⟩
    rcases P.run_cons_eq_some.mp hrun with ⟨e, hfire, hrest⟩
    by_cases hi : own i
    · obtain ⟨e', hfire', hR'⟩ := hown c c' i a e hi hR hok.1 hfire
      obtain ⟨d', hrun', hd⟩ := ih hR' (hok.2 e hfire) hrest
      refine ⟨d', ?_, hd⟩
      rw [List.filter_cons_of_pos (by simpa using hi)]
      exact P.run_cons_eq_some.mpr ⟨e', hfire', hrun'⟩
    · rw [List.filter_cons_of_neg (by simpa using hi)]
      exact ih (hother c c' i a e hi hR hok.1 hfire) (hok.2 e hfire) hrest

end Program

end Interleaving
