import OpsCopilot.Lib.Fallible

/-!
# Operations confined to one owner

A state is shared by owners, each of whom sees a part of it. An operation of an owner is confined
when it treats alike all states that the owner sees alike, and changes nothing for the others.
-/

namespace Noninterference

open Fallible

universe u

variable {σ α ε ι : Type u} {ν : Type u} (view : ι → σ → ν) (me : ι)

/-- The owner sees no difference. -/
def SameView (s s' : σ) : Prop := view me s = view me s'

/-- The operation treats states alike that are related by `R`, and leaves the others alone. -/
structure Confined (R : σ → σ → Prop) (op : σ → Except ε σ) : Prop where
  alike : ∀ s s', R s s' → (op s).map (view me) = (op s').map (view me)
  others : ∀ s d, op s = .ok d → ∀ o, o ≠ me → view o d = view o s

namespace Confined

variable {view me} {R : σ → σ → Prop} {op op' : σ → Except ε σ}

/-- An operation that always fails. -/
lemma fail (e : ε) : Confined view me R (fun _ => .error e) :=
  ⟨fun _ _ _ => rfl, fun _ _ h => nomatch h⟩

/-- A change that cannot fail, and that the owner sees as a change `g` of its own part. -/
lemma change {f : σ → σ} (g : ν → ν) (hR : ∀ s s', R s s' → SameView view me s s')
    (hme : ∀ s, view me (f s) = g (view me s)) (hothers : ∀ s o, o ≠ me → view o (f s) = view o s) :
    Confined view me R (fun s => (pure (f s) : Except ε σ)) := by
  constructor
  · intro s s' h
    change Except.ok (view me (f s)) = Except.ok (view me (f s'))
    rw [hme, hme, hR s s' h]
  · intro s d h o ho
    rw [← pure_ok.mp h]
    exact hothers s o ho

/-- What is read first is the same in related states. -/
lemma read {x : σ → Except ε α} {f : α → σ → Except ε σ} (hx : ∀ s s', R s s' → x s = x s')
    (hf : ∀ a, (∃ s, x s = .ok a) → Confined view me R (f a)) :
    Confined view me R (fun s => x s >>= fun a => f a s) := by
  constructor
  · intro s s' h
    rw [← hx s s' h]
    cases ha : x s with
    | error e => rfl
    | ok a => exact (hf a ⟨s, ha⟩).alike s s' h
  · intro s d h o ho
    obtain ⟨a, ha, h⟩ := bind_ok.mp h
    exact (hf a ⟨s, ha⟩).others s d h o ho

/-- What is looked up on the way is the same in related states. -/
lemma look {x : σ → α} {f : α → σ → Except ε σ} (hx : ∀ s s', R s s' → x s = x s')
    (hf : ∀ a, (∃ s, x s = a) → Confined view me R (f a)) :
    Confined view me R (fun s => f (x s) s) := by
  refine read (x := fun s => .ok (x s)) (fun s s' h => congrArg Except.ok (hx s s' h)) ?_
  rintro a ⟨s, hs⟩
  exact hf a ⟨s, Except.ok.inj hs⟩

/-- One operation after the other, where the first leads to states related by `R'`. -/
lemma andThenOf {R' : σ → σ → Prop} (h : Confined view me R op) (h' : Confined view me R' op')
    (hR' : ∀ s s' d d', R s s' → op s = .ok d → op s' = .ok d' → view me d = view me d' → R' d d') :
    Confined view me R (fun s => op s >>= op') := by
  constructor
  · intro s s' hR
    have hsame := h.alike s s' hR
    change (op s >>= op').map _ = (op s' >>= op').map _
    cases ha : op s <;> cases hb : op s' <;> rw [ha, hb] at hsame
    · exact congrArg Except.error (Except.error.inj hsame)
    · exact nomatch hsame
    · exact nomatch hsame
    · exact h'.alike _ _ (hR' s s' _ _ hR ha hb (Except.ok.inj hsame))
  · intro s e hrun o ho
    obtain ⟨d, hd, he⟩ := bind_ok.mp hrun
    exact (h'.others d e he o ho).trans (h.others s d hd o ho)

lemma andThen (h : Confined view me R op) (h' : Confined view me (SameView view me) op') :
    Confined view me R (fun s => op s >>= op') :=
  h.andThenOf h' (fun _ _ _ _ _ _ _ hview => hview)

lemma mono {R' : σ → σ → Prop} (h : Confined view me R op) (hR : ∀ s s', R' s s' → R s s') :
    Confined view me R' op :=
  ⟨fun s s' hs => h.alike s s' (hR s s' hs), h.others⟩

/-- How an operation reports its errors makes no difference. -/
lemma mapError (f : ε → ε) (h : Confined view me R op) :
    Confined view me R (fun s => (op s).mapError f) := by
  constructor
  · intro s s' hR
    have hsame := h.alike s s' hR
    change ((op s).mapError f).map _ = ((op s').mapError f).map _
    cases ha : op s <;> cases hb : op s' <;> rw [ha, hb] at hsame
    · exact congrArg (fun e => Except.error (f e)) (Except.error.inj hsame)
    · exact nomatch hsame
    · exact nomatch hsame
    · exact congrArg Except.ok (Except.ok.inj hsame)
  · intro s d hd
    exact h.others s d (mapError_ok.mp hd)

lemma foldlM {l : List α} {step : σ → α → Except ε σ}
    (h : ∀ a, Confined view me (SameView view me) (fun s => step s a)) :
    Confined view me (SameView view me) (fun s => l.foldlM step s) := by
  induction l with
  | nil => exact change id (fun _ _ h => h) (fun _ => rfl) (fun _ _ _ => rfl)
  | cons a l ih =>
    simp only [List.foldlM_cons]
    exact (h a).andThen ih

end Confined

/-! ### Results that look the same -/

section Results

variable {ε : Type*} {β γ : Type}

/-- Two results are the same to who sees `v` of them. -/
def SameBy (v : β → γ) (r r' : Except ε β) : Prop := r.map v = r'.map v

namespace SameBy

variable {v : β → γ}

lemma ok {b b' : β} (h : v b = v b') : SameBy v (.ok b : Except ε β) (.ok b') :=
  congrArg Except.ok h

lemma error (e : ε) : SameBy v (.error e) (.error e) := rfl

lemma bind {α : Type} {x x' : Except ε α} {f f' : α → Except ε β} (hx : x = x')
    (hf : ∀ a, SameBy v (f a) (f' a)) : SameBy v (x >>= f) (x' >>= f') := by
  subst hx
  cases x with
  | error e => exact error e
  | ok a => exact hf a

lemma raise {p p' : Prop} [Decidable p] [Decidable p'] {e : ε} {f f' : Unit → Except ε β}
    (hp : p ↔ p') (hf : SameBy v (f ()) (f' ())) :
    SameBy v (raiseIf p e >>= f) (raiseIf p' e >>= f') := by
  refine bind ?_ (fun _ => hf)
  unfold raiseIf
  simp only [hp]

/-- Results that look the same, followed by operations that treat what looks the same alike. -/
lemma andThen {α δ : Type} {w : α → δ} {x x' : Except ε α} {f f' : α → Except ε β}
    (hx : SameBy w x x') (hf : ∀ a a', w a = w a' → SameBy v (f a) (f' a')) :
    SameBy v (x >>= f) (x' >>= f') := by
  unfold SameBy at hx
  cases x with
  | error e =>
    cases x' with
    | error e' =>
      obtain rfl := Except.error.inj hx
      exact error e
    | ok a' => cases hx
  | ok a =>
    cases x' with
    | error e' => cases hx
    | ok a' => exact hf a a' (Except.ok.inj hx)

lemma mapError (g : ε → ε) {r r' : Except ε β} (h : SameBy v r r') :
    SameBy v (r.mapError g) (r'.mapError g) := by
  unfold SameBy at h
  cases r with
  | error e =>
    cases r' with
    | error e' => exact congrArg (fun e => Except.error (g e)) (Except.error.inj h)
    | ok b' => cases h
  | ok b =>
    cases r' with
    | error e' => cases h
    | ok b' => exact congrArg Except.ok (Except.ok.inj h)

end SameBy

end Results

end Noninterference
