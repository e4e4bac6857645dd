import Mathlib.Tactic.SplitIfs

/-!
# Computations that may fail

What is known about the parts of a fallible computation that has returned a value.
-/

namespace Fallible

universe u

variable {ε ε' : Type*} {α β : Type u}

/-- Raises `e` when `c` holds. -/
def raiseIf (c : Prop) [Decidable c] (e : ε) : Except ε Unit := if c then .error e else .ok ()

lemma raiseIf_ok {c : Prop} [Decidable c] {e : ε} {u : Unit} : raiseIf c e = .ok u ↔ ¬c := by
  unfold raiseIf
  split_ifs with h
  · simp [h]
  · simp [h]

lemma ok_bind (a : α) (f : α → Except ε β) : Except.ok a >>= f = f a := rfl

lemma error_bind (e : ε) (f : α → Except ε β) : Except.error e >>= f = .error e := rfl

lemma bind_ok {x : Except ε α} {f : α → Except ε β} {b : β} :
    x >>= f = .ok b ↔ ∃ a, x = .ok a ∧ f a = .ok b := by
  cases x with
  | error e => exact ⟨fun h => (nomatch h), fun ⟨a, h, _⟩ => (nomatch h)⟩
  | ok a => exact ⟨fun h => ⟨a, rfl, h⟩, fun ⟨b, hb, h⟩ => Except.ok.inj hb ▸ h⟩

lemma eq_ok_of_toOption {x : Except ε α} {a : α} (h : x.toOption = some a) : x = .ok a := by
  cases x with
  | error e => exact absurd h (by simp [Except.toOption])
  | ok b => exact congrArg Except.ok (Option.some.inj h)

lemma map_ok {x : Except ε α} {f : α → β} {b : β} :
    x.map f = .ok b ↔ ∃ a, x = .ok a ∧ f a = b := by
  cases x with
  | error e => simp [Except.map]
  | ok a => simp [Except.map]

lemma map_bind_eq {γ : Type u} (x : Except ε α) (f : α → Except ε β) (g : β → γ) :
    (x >>= f).map g = x >>= fun a => (f a).map g := by
  cases x with
  | error e => rfl
  | ok a => rfl

lemma mapError_ok {x : Except ε α} {f : ε → ε'} {a : α} : x.mapError f = .ok a ↔ x = .ok a := by
  cases x with
  | error e => simp [Except.mapError]
  | ok a => simp [Except.mapError]

lemma pure_ok {a b : α} : (pure a : Except ε α) = .ok b ↔ a = b := by
  constructor
  · intro h
    exact Except.ok.inj h
  · intro h
    rw [h]
    rfl

/-! ### What a computation may raise -/

/-- Every error of the computation satisfies `C`. -/
def OnlyRaises {α : Type u} (C : ε → Prop) (x : Except ε α) : Prop := ∀ e, x = .error e → C e

section OnlyRaises

variable {C C' : ε → Prop} {x : Except ε α} {f : α → Except ε β}

lemma onlyRaises_ok (a : α) : OnlyRaises C (.ok a : Except ε α) := fun _ h => nomatch h

lemma onlyRaises_error {e : ε} (h : C e) : OnlyRaises C (.error e : Except ε α) := by
  intro e' he
  exact Except.error.inj he ▸ h

lemma onlyRaises_raiseIf {c : Prop} [Decidable c] {e : ε} (h : C e) :
    OnlyRaises C (raiseIf c e) := by
  unfold raiseIf
  split_ifs
  · exact onlyRaises_error h
  · exact onlyRaises_ok ()

lemma OnlyRaises.bind (hx : OnlyRaises C x) (hf : ∀ a, x = .ok a → OnlyRaises C (f a)) :
    OnlyRaises C (x >>= f) := by
  cases x with
  | error e => exact onlyRaises_error (hx e rfl)
  | ok a => exact hf a rfl

lemma OnlyRaises.mono (h : OnlyRaises C x) (hC : ∀ e, C e → C' e) : OnlyRaises C' x :=
  fun e he => hC e (h e he)

end OnlyRaises

/-! ### How a computation fails -/

section Fails

variable {C : ε → Prop} {x : Except ε α} {f : α → Except ε β}

end Fails

lemma exists_ok_of_toOption {x : Except ε α} {f : α → β} {b : β}
    (h : x.toOption.map f = some b) : ∃ a, x = .ok a ∧ f a = b := by
  cases x with
  | error e => exact absurd h (by simp [Except.toOption])
  | ok a => exact ⟨a, rfl, Option.some.inj h⟩

/-- Every result of a traversal is the result of an element. -/
lemma exists_of_mem_mapM {f : α → Except ε β} {l : List α} {bs : List β}
    (h : l.mapM f = .ok bs) {b : β} (hb : b ∈ bs) : ∃ a ∈ l, f a = .ok b := by
  induction l generalizing bs with
  | nil =>
    rw [List.mapM_nil] at h
    rw [← pure_ok.mp h] at hb
    exact absurd hb List.not_mem_nil
  | cons a l ih =>
    rw [List.mapM_cons] at h
    obtain ⟨b', hb', h⟩ := bind_ok.mp h
    obtain ⟨bs', hbs', h⟩ := bind_ok.mp h
    rw [← pure_ok.mp h] at hb
    rcases List.mem_cons.mp hb with hb | hb
    · exact ⟨a, List.mem_cons_self, hb ▸ hb'⟩
    · obtain ⟨a', ha', hfa'⟩ := ih hbs' hb
      exact ⟨a', List.mem_cons_of_mem a ha', hfa'⟩

/-- Every element of a traversal that succeeds has its result. -/
lemma exists_mem_of_mapM {f : α → Except ε β} {l : List α} {bs : List β}
    (h : l.mapM f = .ok bs) {a : α} (ha : a ∈ l) : ∃ b ∈ bs, f a = .ok b := by
  induction l generalizing bs with
  | nil => exact absurd ha List.not_mem_nil
  | cons a' l ih =>
    rw [List.mapM_cons] at h
    obtain ⟨b', hb', h⟩ := bind_ok.mp h
    obtain ⟨bs', hbs', h⟩ := bind_ok.mp h
    rw [← pure_ok.mp h]
    rcases List.mem_cons.mp ha with rfl | ha
    · exact ⟨b', List.mem_cons_self, hb'⟩
    · obtain ⟨b, hb, hfb⟩ := ih hbs' ha
      exact ⟨b, List.mem_cons_of_mem b' hb, hfb⟩

/-- A traversal depends on what is done with the elements only. -/
lemma mapM_congr_mem {f g : α → Except ε β} {l : List α} (h : ∀ a ∈ l, f a = g a) :
    l.mapM f = l.mapM g := by
  induction l with
  | nil => rfl
  | cons a l ih =>
    rw [List.mapM_cons, List.mapM_cons, h a List.mem_cons_self,
      ih (fun b hb => h b (List.mem_cons_of_mem a hb))]

/-- A traversal whose results are known. -/
lemma mapM_eq_filterMap {f : α → Except ε β} {g : α → Option β} {l : List α}
    (h : ∀ a ∈ l, ∃ b, g a = some b ∧ f a = .ok b) : l.mapM f = .ok (l.filterMap g) := by
  induction l with
  | nil => rfl
  | cons a l ih =>
    obtain ⟨b, hg, hf⟩ := h a List.mem_cons_self
    rw [List.mapM_cons, hf, ok_bind, ih (fun b hb => h b (List.mem_cons_of_mem a hb)), ok_bind,
      List.filterMap_cons_some hg]
    rfl

/-- A traversal whose steps succeed exactly where `P` holds. -/
lemma mapM_ok_iff {f : α → Except ε β} {g : α → β} {P : α → Prop}
    (h : ∀ a b, f a = .ok b ↔ b = g a ∧ P a) {l : List α} {bs : List β} :
    l.mapM f = .ok bs ↔ bs = l.map g ∧ ∀ a ∈ l, P a := by
  induction l generalizing bs with
  | nil =>
    rw [List.mapM_nil, pure_ok, List.map_nil]
    exact ⟨fun heq => ⟨heq.symm, fun a ha => absurd ha List.not_mem_nil⟩, fun heq => heq.1.symm⟩
  | cons a l ih =>
    rw [List.mapM_cons, bind_ok, List.map_cons, List.forall_mem_cons]
    constructor
    · rintro ⟨b, hb, hrest⟩
      obtain ⟨bs', hbs', heq⟩ := bind_ok.mp hrest
      obtain ⟨rfl, ha⟩ := (h a b).mp hb
      obtain ⟨rfl, hl⟩ := ih.mp hbs'
      exact ⟨(pure_ok.mp heq).symm, ha, hl⟩
    · rintro ⟨rfl, ha, hl⟩
      exact ⟨g a, (h a (g a)).mpr ⟨rfl, ha⟩, bind_ok.mpr ⟨l.map g, ih.mpr ⟨rfl, hl⟩, rfl⟩⟩

/-- What every step of a loop keeps holds after it. -/
lemma foldlM_keeps {Inv : β → Prop} {step : β → α → Except ε β} {l : List α} {b b' : β}
    (hstep : ∀ a ∈ l, ∀ b b', Inv b → step b a = .ok b' → Inv b') (hb : Inv b)
    (h : l.foldlM step b = .ok b') : Inv b' := by
  induction l generalizing b with
  | nil =>
    rw [List.foldlM_nil] at h
    exact pure_ok.mp h ▸ hb
  | cons a l ih =>
    rw [List.foldlM_cons] at h
    obtain ⟨c, hc, hrest⟩ := bind_ok.mp h
    exact ih (fun a' ha' => hstep a' (List.mem_cons_of_mem a ha'))
      (hstep a List.mem_cons_self b c hb hc) hrest

/-- Every element of a loop that succeeds has had its step. -/
lemma exists_step_of_foldlM {step : β → α → Except ε β} {l : List α} {b b' : β}
    (h : l.foldlM step b = .ok b') {a : α} (ha : a ∈ l) : ∃ c c', step c a = .ok c' := by
  induction l generalizing b with
  | nil => exact absurd ha List.not_mem_nil
  | cons a' l ih =>
    rw [List.foldlM_cons] at h
    obtain ⟨c, hc, hrest⟩ := bind_ok.mp h
    rcases List.mem_cons.mp ha with rfl | ha
    · exact ⟨b, c, hc⟩
    · exact ih hrest ha

/-- The same for a loop that counts. -/
lemma foldlM_zipIdx_keeps {Inv : Nat → β → Prop} {step : β → α × Nat → Except ε β} {l : List α}
    {b b' : β} {n : Nat}
    (hstep : ∀ a ∈ l, ∀ k b b', Inv k b → step b (a, k) = .ok b' → Inv (k + 1) b')
    (hb : Inv n b) (h : (l.zipIdx n).foldlM step b = .ok b') : Inv (n + l.length) b' := by
  induction l generalizing b n with
  | nil =>
    rw [List.zipIdx_nil, List.foldlM_nil] at h
    exact pure_ok.mp h ▸ hb
  | cons a l ih =>
    rw [List.zipIdx_cons, List.foldlM_cons] at h
    obtain ⟨c, hc, hrest⟩ := bind_ok.mp h
    have hrun := ih (fun a' ha' => hstep a' (List.mem_cons_of_mem a ha'))
      (hstep a List.mem_cons_self n b c hb hc) hrest
    rw [List.length_cons, Nat.add_comm l.length 1, ← Nat.add_assoc]
    exact hrun

/-- A loop of checks. -/
lemma forM_ok {α : Type*} {f : α → Except ε PUnit.{u + 1}} {l : List α} {v : PUnit} :
    l.forM f = .ok v ↔ ∀ a ∈ l, f a = .ok PUnit.unit := by
  induction l with
  | nil => exact iff_of_true rfl (fun a ha => absurd ha List.not_mem_nil)
  | cons a l ih =>
    have hcons : (a :: l).forM f = f a >>= fun _ => l.forM f := rfl
    rw [hcons, bind_ok, List.forall_mem_cons, ← ih]
    exact ⟨fun ⟨_, ha, hl⟩ => ⟨ha, hl⟩, fun ⟨ha, hl⟩ => ⟨_, ha, hl⟩⟩

end Fallible
