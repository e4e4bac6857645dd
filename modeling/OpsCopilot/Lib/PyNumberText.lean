import Mathlib.Data.List.TakeWhile
import OpsCopilot.Lib.PyJson

/-!
# Number texts can be read back

`float.__repr__` is injective on finite floats, and no float text is an integer text. Both
follow from reading the text back as a rational number.
-/

namespace Python

lemma takeWhile_append_cons {α : Type*} (p : α → Bool) (l r : List α) (c : α)
    (hl : ∀ x ∈ l, p x = true) (hc : p c = false) :
    (l ++ c :: r).takeWhile p = l ∧ (l ++ c :: r).dropWhile p = c :: r := by
  rw [List.takeWhile_append_of_pos hl, List.dropWhile_append_of_pos hl]
  simp [hc]

lemma takeWhile_eq_self_of_all {α : Type*} (p : α → Bool) (l : List α)
    (hl : ∀ x ∈ l, p x = true) : l.takeWhile p = l ∧ l.dropWhile p = [] :=
  ⟨List.takeWhile_eq_self_iff.mpr hl, List.dropWhile_eq_nil_iff.mpr hl⟩

/-! ### Digits -/

lemma isDigit_toDigits {n : ℕ} {c : Char} (hc : c ∈ Nat.toDigits 10 n) : c.isDigit = true :=
  Nat.isDigit_of_mem_toDigits (by norm_num) (by norm_num) hc

lemma ne_of_isDigit {c d : Char} (hc : c.isDigit = true) (hd : d.isDigit = false) : c ≠ d := by
  rintro rfl
  rw [hc] at hd
  exact Bool.noConfusion hd

lemma toDigits_inj {m n : ℕ} (h : Nat.toDigits 10 m = Nat.toDigits 10 n) : m = n := by
  have hm : Nat.ofDigitChars 10 (Nat.toDigits 10 m) 0 = m := Nat.ofDigitChars_ten_toDigits
  rw [h, Nat.ofDigitChars_ten_toDigits] at hm
  exact hm.symm

lemma intText_of_nonneg {n : ℤ} (h : ¬n < 0) : intText n = Nat.toDigits 10 n.natAbs := if_neg h

lemma intText_of_neg {n : ℤ} (h : n < 0) : intText n = '-' :: Nat.toDigits 10 n.natAbs := if_pos h

lemma toDigits_ne_minus_cons (m : ℕ) (r : List Char) : Nat.toDigits 10 m ≠ '-' :: r := by
  intro h
  have hmem : '-' ∈ Nat.toDigits 10 m := h ▸ List.mem_cons_self
  exact ne_of_isDigit (isDigit_toDigits hmem) (by decide) rfl

lemma intText_inj {m n : ℤ} (h : intText m = intText n) : m = n := by
  by_cases hm : m < 0 <;> by_cases hn : n < 0
  · rw [intText_of_neg hm, intText_of_neg hn, List.cons.injEq] at h
    have := toDigits_inj h.2
    omega
  · rw [intText_of_neg hm, intText_of_nonneg hn] at h
    exact absurd h.symm (toDigits_ne_minus_cons _ _)
  · rw [intText_of_nonneg hm, intText_of_neg hn] at h
    exact absurd h (toDigits_ne_minus_cons _ _)
  · rw [intText_of_nonneg hm, intText_of_nonneg hn] at h
    have := toDigits_inj h
    omega

lemma mem_intText {n : ℤ} {c : Char} (hc : c ∈ intText n) : c = '-' ∨ c.isDigit = true := by
  by_cases hn : n < 0
  · rw [intText_of_neg hn, List.mem_cons] at hc
    exact hc.imp_right isDigit_toDigits
  · rw [intText_of_nonneg hn] at hc
    exact .inr (isDigit_toDigits hc)

/-! ### Reading a float literal -/

def readExponent : List Char → ℤ
  | '-' :: ds => -(Nat.ofDigitChars 10 ds 0 : ℤ)
  | _ :: ds => Nat.ofDigitChars 10 ds 0
  | [] => 0

lemma readExponent_minus (ds : List Char) :
    readExponent ('-' :: ds) = -(Nat.ofDigitChars 10 ds 0 : ℤ) := rfl

lemma readExponent_plus (ds : List Char) :
    readExponent ('+' :: ds) = Nat.ofDigitChars 10 ds 0 := rfl

/-- The digits of a mantissa without its point, and how many of them follow the point. -/
def readMantissa (cs : List Char) : ℕ × ℕ :=
  let whole := cs.takeWhile (· != '.')
  let frac := (cs.dropWhile (· != '.')).drop 1
  (Nat.ofDigitChars 10 (whole ++ frac) 0, frac.length)

/-- The value of an unsigned float literal. -/
def readDecimal (cs : List Char) : ℚ :=
  let m := readMantissa (cs.takeWhile (· != 'e'))
  (m.1 : ℚ) * 10 ^ (readExponent ((cs.dropWhile (· != 'e')).drop 1) - m.2)

lemma readMantissa_point (whole frac : List Char) (h : ∀ c ∈ whole, c ≠ '.') :
    readMantissa (whole ++ '.' :: frac) =
      (Nat.ofDigitChars 10 (whole ++ frac) 0, frac.length) := by
  have hsplit := takeWhile_append_cons (· != '.') whole frac '.' (by simpa using h) (by simp)
  simp only [readMantissa, hsplit.1, hsplit.2, List.drop_one, List.tail_cons]

lemma readMantissa_whole (whole : List Char) (h : ∀ c ∈ whole, c ≠ '.') :
    readMantissa whole = (Nat.ofDigitChars 10 whole 0, 0) := by
  have hsplit := takeWhile_eq_self_of_all (· != '.') whole (by simpa using h)
  simp [readMantissa, hsplit.1, hsplit.2]

lemma readDecimal_plain (cs : List Char) (h : ∀ c ∈ cs, c ≠ 'e') :
    readDecimal cs = ((readMantissa cs).1 : ℚ) * 10 ^ (-((readMantissa cs).2 : ℤ)) := by
  have hsplit := takeWhile_eq_self_of_all (· != 'e') cs (by simpa using h)
  simp [readDecimal, hsplit.1, hsplit.2, readExponent]

lemma readDecimal_exponent (cs es : List Char) (h : ∀ c ∈ cs, c ≠ 'e') :
    readDecimal (cs ++ 'e' :: es) =
      ((readMantissa cs).1 : ℚ) * 10 ^ (readExponent es - (readMantissa cs).2) := by
  have hsplit := takeWhile_append_cons (· != 'e') cs es 'e' (by simpa using h) (by simp)
  simp only [readDecimal, hsplit.1, hsplit.2, List.drop_one, List.tail_cons]

lemma ofDigitChars_zero_cons (ds : List Char) :
    Nat.ofDigitChars 10 ('0' :: ds) 0 = Nat.ofDigitChars 10 ds 0 := by
  rw [Nat.ofDigitChars_cons]
  rfl

lemma readExponent_exponentText (e : ℤ) : readExponent (exponentText e) = e := by
  have hdigits : (Nat.ofDigitChars 10 (if e.natAbs < 10 then '0' :: Nat.toDigits 10 e.natAbs
      else Nat.toDigits 10 e.natAbs) 0) = e.natAbs := by
    split_ifs
    · rw [ofDigitChars_zero_cons, Nat.ofDigitChars_ten_toDigits]
    · exact Nat.ofDigitChars_ten_toDigits
  unfold exponentText
  by_cases h : e < 0
  · rw [if_pos h, readExponent_minus, hdigits]
    omega
  · rw [if_neg h, readExponent_plus, hdigits]
    omega

lemma readDecimal_zero : readDecimal ['0', '.', '0'] = 0 := by
  rw [readDecimal_plain _ (by simp)]
  have hm : (readMantissa ['0', '.', '0']).1 = 0 := by decide
  rw [hm]
  simp

/-! ### Reading `digitsText` back -/

section Digits

variable (ds : List Char) (hds : ∀ c ∈ ds, c.isDigit = true)
include hds

lemma digits_ne {d : Char} (hd : d.isDigit = false) : ∀ c ∈ ds, c ≠ d :=
  fun c hc => ne_of_isDigit (hds c hc) hd

lemma take_ne {d : Char} (k : ℕ) (hd : d.isDigit = false) : ∀ c ∈ ds.take k, c ≠ d :=
  fun c hc => ne_of_isDigit (hds c (List.mem_of_mem_take hc)) hd

lemma drop_ne {d : Char} (k : ℕ) (hd : d.isDigit = false) : ∀ c ∈ ds.drop k, c ≠ d :=
  fun c hc => ne_of_isDigit (hds c (List.mem_of_mem_drop hc)) hd

lemma readDecimal_leadingZeros (k : ℕ) :
    readDecimal ('0' :: '.' :: (List.replicate k '0' ++ ds)) =
      Nat.ofDigitChars 10 ds 0 * (10 : ℚ) ^ (-(k + ds.length : ℤ)) := by
  have hm : readMantissa ('0' :: '.' :: (List.replicate k '0' ++ ds)) =
      (Nat.ofDigitChars 10 ds 0, k + ds.length) := by
    have h := readMantissa_point ['0'] (List.replicate k '0' ++ ds) (by simp)
    simp only [List.cons_append, List.nil_append, List.length_append, List.length_replicate] at h
    rw [h, ofDigitChars_zero_cons, Nat.ofDigitChars_append, Nat.ofDigitChars_replicate_zero,
      Nat.mul_zero]
  rw [readDecimal_plain, hm]
  · push_cast
    rfl
  · intro c hc
    simp only [List.mem_cons, List.mem_append, List.mem_replicate] at hc
    rcases hc with rfl | rfl | ⟨-, rfl⟩ | hc
    · decide
    · decide
    · decide
    · exact digits_ne ds hds (by decide) c hc

lemma readDecimal_insidePoint (k : ℕ) (hk : k ≤ ds.length) :
    readDecimal (ds.take k ++ '.' :: ds.drop k) =
      Nat.ofDigitChars 10 ds 0 * (10 : ℚ) ^ ((k : ℤ) - ds.length) := by
  have hm : readMantissa (ds.take k ++ '.' :: ds.drop k) =
      (Nat.ofDigitChars 10 ds 0, ds.length - k) := by
    rw [readMantissa_point _ _ (take_ne ds hds k (by decide)), List.take_append_drop,
      List.length_drop]
  rw [readDecimal_plain, hm]
  · have he : -((ds.length - k : ℕ) : ℤ) = (k : ℤ) - ds.length := by omega
    rw [he]
  · intro c hc
    simp only [List.mem_append, List.mem_cons] at hc
    rcases hc with hc | rfl | hc
    · exact take_ne ds hds k (by decide) c hc
    · decide
    · exact drop_ne ds hds k (by decide) c hc

lemma readDecimal_trailingZeros (k : ℕ) :
    readDecimal (ds ++ List.replicate k '0' ++ ['.', '0']) =
      Nat.ofDigitChars 10 ds 0 * (10 : ℚ) ^ (k : ℤ) := by
  have hne : ∀ d : Char, d.isDigit = false → ∀ c ∈ ds ++ List.replicate k '0', c ≠ d := by
    intro d hd c hc
    rcases List.mem_append.mp hc with hc | hc
    · exact digits_ne ds hds hd c hc
    · exact ne_of_isDigit ((List.mem_replicate.mp hc).2 ▸ by decide) hd
  have hm : readMantissa (ds ++ List.replicate k '0' ++ ['.', '0']) =
      (10 * (10 ^ k * Nat.ofDigitChars 10 ds 0), 1) := by
    rw [readMantissa_point _ _ (hne '.' (by decide)), Nat.ofDigitChars_append,
      Nat.ofDigitChars_append, Nat.ofDigitChars_replicate_zero, Nat.ofDigitChars_cons]
    simp
  rw [readDecimal_plain, hm]
  · push_cast
    rw [zpow_neg, zpow_one, zpow_natCast]
    ring
  · intro c hc
    simp only [List.mem_append, List.mem_cons, List.not_mem_nil, or_false] at hc
    rcases hc with hc | rfl | rfl
    · exact hne 'e' (by decide) c (List.mem_append.mpr hc)
    · decide
    · decide

lemma readDecimal_scientific (hne : ds ≠ []) (e : ℤ) :
    readDecimal (ds.take 1 ++ (if 1 < ds.length then '.' :: ds.drop 1 else []) ++
        'e' :: exponentText e) =
      Nat.ofDigitChars 10 ds 0 * (10 : ℚ) ^ (e + 1 - ds.length) := by
  have hlen : 0 < ds.length := List.length_pos_iff.mpr hne
  split_ifs with h
  · rw [readDecimal_exponent, readExponent_exponentText,
      readMantissa_point _ _ (take_ne ds hds 1 (by decide)), List.take_append_drop,
      List.length_drop]
    · have he : e - ((ds.length - 1 : ℕ) : ℤ) = e + 1 - ds.length := by omega
      rw [he]
    · intro c hc
      simp only [List.mem_append, List.mem_cons] at hc
      rcases hc with hc | rfl | hc
      · exact take_ne ds hds 1 (by decide) c hc
      · decide
      · exact drop_ne ds hds 1 (by decide) c hc
  · have htake : ds.take 1 = ds := List.take_of_length_le (by omega)
    rw [List.append_nil, htake, readDecimal_exponent _ _ (digits_ne ds hds (by decide)),
      readExponent_exponentText, readMantissa_whole _ (digits_ne ds hds (by decide))]
    have he : e - ((0 : ℕ) : ℤ) = e + 1 - ds.length := by omega
    rw [he]

theorem readDecimal_digitsText (hne : ds ≠ []) (point : ℤ) :
    readDecimal (digitsText ds point) =
      Nat.ofDigitChars 10 ds 0 * (10 : ℚ) ^ (point - ds.length) := by
  unfold digitsText
  split_ifs with hfixed hle hlt
  · rw [readDecimal_leadingZeros ds hds]
    have he : -(((-point).toNat : ℤ) + ds.length) = point - ds.length := by omega
    rw [he]
  · rw [readDecimal_insidePoint ds hds _ (by omega)]
    have he : ((point.toNat : ℕ) : ℤ) - ds.length = point - ds.length := by omega
    rw [he]
  · rw [readDecimal_trailingZeros ds hds]
    have he : (((point - ds.length).toNat : ℕ) : ℤ) = point - ds.length := by omega
    rw [he]
  · have h := readDecimal_scientific ds hds hne (point - 1)
    rw [if_pos ‹1 < ds.length›] at h
    rw [h]
    have he : point - 1 + 1 - (ds.length : ℤ) = point - ds.length := by omega
    rw [he]
  · have h := readDecimal_scientific ds hds hne (point - 1)
    rw [if_neg ‹¬1 < ds.length›] at h
    rw [h]
    have he : point - 1 + 1 - (ds.length : ℤ) = point - ds.length := by omega
    rw [he]

end Digits

/-! ### Floats -/

/-- `float.__repr__` without its sign. -/
def FiniteFloat.body (x : FiniteFloat) : List Char :=
  if x.coeff = 0 then ['0', '.', '0']
  else digitsText (Nat.toDigits 10 x.coeff) ((Nat.toDigits 10 x.coeff).length + x.exp)

lemma FiniteFloat.text_eq (x : FiniteFloat) :
    x.text = if x.neg then '-' :: x.body else x.body := rfl

lemma FiniteFloat.readDecimal_body (x : FiniteFloat) :
    readDecimal x.body = x.coeff * (10 : ℚ) ^ x.exp := by
  unfold FiniteFloat.body
  split_ifs with h
  · rw [readDecimal_zero, h]
    simp
  · rw [readDecimal_digitsText _ (fun c hc => isDigit_toDigits hc) Nat.toDigits_ne_nil,
      Nat.ofDigitChars_ten_toDigits]
    have he : ((Nat.toDigits 10 x.coeff).length : ℤ) + x.exp - (Nat.toDigits 10 x.coeff).length =
        x.exp := by omega
    rw [he]

/-- A literal in normal form is determined by its value. -/
lemma normal_unique {c d : ℕ} {e f : ℤ} (hc : c % 10 ≠ 0 ∨ c = 0 ∧ e = 0)
    (hd : d % 10 ≠ 0 ∨ d = 0 ∧ f = 0) (hle : e ≤ f)
    (h : (c : ℚ) * (10 : ℚ) ^ e = d * (10 : ℚ) ^ f) : c = d ∧ e = f := by
  obtain ⟨k, rfl⟩ := Int.le.dest hle
  have hcd : c = d * 10 ^ k := by
    rw [zpow_add₀ (by norm_num : (10 : ℚ) ≠ 0), zpow_natCast] at h
    have hpos : (10 : ℚ) ^ e ≠ 0 := zpow_ne_zero e (by norm_num)
    have hq : (c : ℚ) = d * 10 ^ k := by
      apply mul_right_cancel₀ hpos
      rw [h]
      ring
    exact_mod_cast hq
  cases k with
  | zero => exact ⟨by simpa using hcd, by simp⟩
  | succ k =>
    have hmod : c % 10 = 0 := by
      rw [hcd, pow_succ, ← mul_assoc, Nat.mul_mod_left]
    have hc0 : c = 0 := (hc.resolve_left (fun hne => hne hmod)).1
    have hd0 : d = 0 := by
      rw [hc0] at hcd
      rcases Nat.mul_eq_zero.mp hcd.symm with hd0 | hpow
      · exact hd0
      · exact absurd hpow (by positivity)
    have he := (hc.resolve_left (fun hne => hne hmod)).2
    have hf := (hd.resolve_left (fun hne => hne (by rw [hd0]))).2
    omega

lemma FiniteFloat.eq_of_value {x y : FiniteFloat} (hneg : x.neg = y.neg)
    (h : (x.coeff : ℚ) * (10 : ℚ) ^ x.exp = y.coeff * (10 : ℚ) ^ y.exp) : x = y := by
  have hparts : x.coeff = y.coeff ∧ x.exp = y.exp := by
    rcases le_total x.exp y.exp with hle | hle
    · exact normal_unique x.normal y.normal hle h
    · exact (normal_unique y.normal x.normal hle h.symm).imp Eq.symm Eq.symm
  cases x
  cases y
  simp_all

lemma digitsText_head {ds : List Char} (hds : ∀ c ∈ ds, c.isDigit = true) (hne : ds ≠ [])
    (point : ℤ) : ∃ c r, digitsText ds point = c :: r ∧ c.isDigit = true := by
  obtain ⟨d, tl, rfl⟩ := List.exists_cons_of_ne_nil hne
  have hd : d.isDigit = true := hds d List.mem_cons_self
  unfold digitsText
  split_ifs with hfixed hle hlt
  · exact ⟨'0', _, rfl, by decide⟩
  · obtain ⟨k, hk⟩ : ∃ k, point.toNat = k + 1 := ⟨point.toNat - 1, by omega⟩
    exact ⟨d, tl.take k ++ '.' :: (d :: tl).drop point.toNat, by rw [hk]; rfl, hd⟩
  · exact ⟨d, _, rfl, hd⟩
  · exact ⟨d, _, rfl, hd⟩
  · exact ⟨d, _, rfl, hd⟩

lemma FiniteFloat.body_head (x : FiniteFloat) :
    ∃ c r, x.body = c :: r ∧ c.isDigit = true := by
  unfold FiniteFloat.body
  split_ifs
  · exact ⟨'0', _, rfl, by decide⟩
  · exact digitsText_head (fun c hc => isDigit_toDigits hc) Nat.toDigits_ne_nil _

lemma FiniteFloat.body_ne_minus (x : FiniteFloat) (r : List Char) : x.body ≠ '-' :: r := by
  obtain ⟨c, tl, hbody, hc⟩ := x.body_head
  rw [hbody]
  rintro h
  rw [List.cons.injEq] at h
  exact ne_of_isDigit hc (by decide) h.1

theorem FiniteFloat.text_inj {x y : FiniteFloat} (h : x.text = y.text) : x = y := by
  rw [FiniteFloat.text_eq, FiniteFloat.text_eq] at h
  have key : x.neg = y.neg ∧ x.body = y.body := by
    cases hx : x.neg <;> cases hy : y.neg <;>
      simp only [hx, hy, Bool.false_eq_true, if_true, if_false] at h
    · exact ⟨rfl, h⟩
    · exact absurd h (x.body_ne_minus _)
    · exact absurd h.symm (y.body_ne_minus _)
    · exact ⟨rfl, (List.cons.injEq _ _ _ _ ▸ h).2⟩
  refine FiniteFloat.eq_of_value key.1 ?_
  rw [← x.readDecimal_body, ← y.readDecimal_body, key.2]

/-- Every float text holds a point or an exponent, which no integer text does. -/
lemma digitsText_mark (ds : List Char) (point : ℤ) :
    '.' ∈ digitsText ds point ∨ 'e' ∈ digitsText ds point := by
  unfold digitsText
  split_ifs <;> simp

lemma FiniteFloat.body_mark (x : FiniteFloat) : '.' ∈ x.body ∨ 'e' ∈ x.body := by
  unfold FiniteFloat.body
  split_ifs
  · exact .inl (by decide)
  · exact digitsText_mark _ _

lemma FiniteFloat.text_ne_intText (x : FiniteFloat) (n : ℤ) : x.text ≠ intText n := by
  intro h
  have hmark : '.' ∈ x.text ∨ 'e' ∈ x.text := by
    rw [FiniteFloat.text_eq]
    split_ifs
    · exact x.body_mark.imp (List.mem_cons_of_mem _) (List.mem_cons_of_mem _)
    · exact x.body_mark
  rw [h] at hmark
  rcases hmark with hm | hm
  · rcases mem_intText hm with hc | hc
    · exact absurd hc (by decide)
    · exact absurd hc (by decide)
  · rcases mem_intText hm with hc | hc
    · exact absurd hc (by decide)
    · exact absurd hc (by decide)

end Python
