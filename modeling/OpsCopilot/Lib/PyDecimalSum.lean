import Mathlib.Data.Nat.Digits.Defs
import Mathlib.Algebra.Order.Field.Power
import OpsCopilot.Lib.PyDecimal
import OpsCopilot.Lib.SqlNumeric

/-!
# Sums of `Decimal`s

The default context rounds a sum to 28 digits. A sum is at most twice what is returned for it,
and a short sum is returned exactly.
-/

namespace Python

open Sql

/-! ### Rounding of digits -/

lemma roundDigits_near (drop coeff : ℕ) : coeff ≤ roundDigits drop coeff * 10 ^ drop + 10 ^ drop := by
  have hsplit := Nat.div_add_mod coeff (10 ^ drop)
  have hmod := Nat.mod_lt coeff (by positivity : 0 < 10 ^ drop)
  rw [mul_comm] at hsplit
  unfold roundDigits
  dsimp only
  split_ifs
  · rw [add_mul]
    omega
  · omega

lemma roundDigits_le (drop coeff : ℕ) : roundDigits drop coeff * 10 ^ drop ≤ coeff + 10 ^ drop := by
  have hle := Nat.div_mul_le_self coeff (10 ^ drop)
  unfold roundDigits
  dsimp only
  split_ifs
  · rw [add_mul, one_mul]
    omega
  · omega

lemma roundDigits_exact {drop coeff : ℕ} (h : 10 ^ drop ∣ coeff) :
    roundDigits drop coeff * 10 ^ drop = coeff := by
  have hmod : coeff % 10 ^ drop = 0 := Nat.mod_eq_zero_of_dvd h
  have hpos : 0 < 10 ^ drop := by positivity
  unfold roundDigits
  dsimp only
  rw [hmod, if_neg (by omega)]
  exact Nat.div_mul_cancel h

/-! ### Signs and exponents -/

lemma decimalRat_natAbs (n : ℤ) (exp : ℤ) :
    decimalRat (n < 0) n.natAbs exp = n * (10 : ℚ) ^ exp := by
  unfold decimalRat
  by_cases h : n < 0
  · simp only [h, decide_true, if_true]
    rw [Nat.cast_natAbs, Int.cast_abs, abs_of_neg (by exact_mod_cast h)]
    ring
  · simp only [h, decide_false, Bool.false_eq_true, if_false, one_mul]
    rw [Nat.cast_natAbs, Int.cast_abs, abs_of_nonneg (by exact_mod_cast not_lt.mp h)]

lemma abs_decimalRat (neg : Bool) (coeff : ℕ) (exp : ℤ) :
    |decimalRat neg coeff exp| = coeff * (10 : ℚ) ^ exp := by
  have hpos : (0 : ℚ) ≤ coeff * 10 ^ exp :=
    mul_nonneg (Nat.cast_nonneg coeff) (zpow_nonneg (by norm_num) exp)
  unfold decimalRat
  cases neg with
  | false => rw [if_neg (by simp), one_mul, abs_of_nonneg hpos]
  | true => rw [if_pos rfl, neg_one_mul, abs_neg, abs_of_nonneg hpos]

/-- A literal written with a smaller exponent. -/
lemma decimalRat_signed (neg : Bool) (coeff : ℕ) {exp low : ℤ} (h : low ≤ exp) :
    (signed neg (coeff * 10 ^ (exp - low).toNat) : ℚ) * 10 ^ low = decimalRat neg coeff exp := by
  have hshift : (10 : ℚ) ^ (exp - low).toNat * 10 ^ low = 10 ^ exp := by
    rw [← zpow_natCast, Int.toNat_of_nonneg (sub_nonneg.mpr h), ← zpow_add₀ (by norm_num), sub_add_cancel]
  unfold signed decimalRat
  cases neg with
  | false =>
    simp only [Bool.false_eq_true, if_false, one_mul]
    push_cast
    rw [← hshift]
    ring
  | true =>
    simp only [if_true]
    push_cast
    rw [← hshift]
    ring

/-! ### The context -/

lemma pow_le_of_length {coeff k : ℕ} (hk : 0 < k) (h : k < (Nat.toDigits 10 coeff).length) :
    10 ^ k ≤ coeff := by
  by_contra hlt
  have hle := (Nat.length_toDigits_le_iff (by norm_num : 1 < 10) hk).mpr (not_le.mp hlt)
  omega

lemma decimalRat_drop (neg : Bool) (coeff drop : ℕ) (exp : ℤ) :
    decimalRat neg coeff (exp + drop) = decimalRat neg (coeff * 10 ^ drop) exp := by
  unfold decimalRat
  rw [zpow_add₀ (by norm_num), zpow_natCast]
  push_cast
  ring

lemma roundContext_near (neg : Bool) (coeff : ℕ) (exp : ℤ) :
    ∃ r, (roundContext neg coeff exp).toRat? = some r ∧ |decimalRat neg coeff exp| ≤ 2 * |r| := by
  unfold roundContext
  dsimp only
  split_ifs with hlen
  · refine ⟨_, rfl, ?_⟩
    linarith [abs_nonneg (decimalRat neg coeff exp)]
  · generalize hdrop : (Nat.toDigits 10 coeff).length - contextPrecision = drop
    refine ⟨_, rfl, ?_⟩
    have hlong : drop + 27 < (Nat.toDigits 10 coeff).length := by
      unfold contextPrecision at hlen hdrop
      omega
    have hcoeff : 10 ^ drop ≤ coeff :=
      (Nat.pow_le_pow_right (by norm_num) (Nat.le_add_right drop 27)).trans
        (pow_le_of_length (by omega) hlong)
    have hone : 1 ≤ roundDigits drop coeff := by
      have hdiv : 1 ≤ coeff / 10 ^ drop := (Nat.one_le_div_iff (by positivity)).mpr hcoeff
      unfold roundDigits
      dsimp only
      split_ifs <;> omega
    have hnear : (coeff : ℚ) ≤ 2 * (roundDigits drop coeff * 10 ^ drop : ℕ) := by
      have hround := roundDigits_near drop coeff
      have hpow := Nat.mul_le_mul_right (10 ^ drop) hone
      exact_mod_cast (by omega : coeff ≤ 2 * (roundDigits drop coeff * 10 ^ drop))
    rw [decimalRat_drop, abs_decimalRat, abs_decimalRat, ← mul_assoc]
    exact mul_le_mul_of_nonneg_right hnear (by positivity)

/-- The error of one rounding, relative to the number. -/
lemma roundContext_close (neg : Bool) (coeff : ℕ) (exp : ℤ) :
    ∃ r, (roundContext neg coeff exp).toRat? = some r ∧
      |r - decimalRat neg coeff exp| ≤ 10 ^ (-27 : ℤ) * |decimalRat neg coeff exp| := by
  unfold roundContext
  dsimp only
  split_ifs with hlen
  · refine ⟨_, rfl, ?_⟩
    rw [sub_self, abs_zero]
    positivity
  · generalize hdrop : (Nat.toDigits 10 coeff).length - contextPrecision = drop
    refine ⟨_, rfl, ?_⟩
    have hlong : drop + 27 < (Nat.toDigits 10 coeff).length := by
      unfold contextPrecision at hlen hdrop
      omega
    have hcoeff : (10 : ℚ) ^ drop * 10 ^ 27 ≤ coeff := by
      rw [← pow_add]
      exact_mod_cast pow_le_of_length (by omega) hlong
    have hnear : |(roundDigits drop coeff * 10 ^ drop : ℕ) - (coeff : ℚ)| ≤ 10 ^ drop := by
      have hbelow := roundDigits_near drop coeff
      have habove := roundDigits_le drop coeff
      rw [abs_le]
      constructor
      · have h : (coeff : ℚ) ≤ (roundDigits drop coeff * 10 ^ drop : ℕ) + 10 ^ drop := by
          exact_mod_cast hbelow
        linarith
      · have h : ((roundDigits drop coeff * 10 ^ drop : ℕ) : ℚ) ≤ coeff + 10 ^ drop := by
          exact_mod_cast habove
        linarith
    have hsplit : |decimalRat neg (roundDigits drop coeff) (exp + drop) - decimalRat neg coeff exp| =
        |(roundDigits drop coeff * 10 ^ drop : ℕ) - (coeff : ℚ)| * 10 ^ exp := by
      have hpos : (0 : ℚ) < 10 ^ exp := zpow_pos (by norm_num) exp
      rw [decimalRat_drop, ← abs_of_pos hpos, ← abs_mul]
      unfold decimalRat
      cases neg with
      | false => rw [if_neg (by simp), one_mul, one_mul, sub_mul]
      | true =>
        rw [if_pos rfl, ← abs_neg]
        congr 1
        ring
    rw [hsplit, abs_decimalRat, ← mul_assoc]
    refine mul_le_mul_of_nonneg_right (hnear.trans ?_) (by positivity)
    rw [zpow_neg, ← div_eq_inv_mul, le_div_iff₀ (by positivity)]
    exact_mod_cast hcoeff

/-- A number with few digits is left as it is, however it is written. -/
lemma roundContext_exact {neg : Bool} {coeff : ℕ} {exp : ℤ} {scale : ℕ}
    (hscale : OnScale scale (decimalRat neg coeff exp))
    (hshort : |decimalRat neg coeff exp| * 10 ^ scale < 10 ^ 27) :
    (roundContext neg coeff exp).toRat? = some (decimalRat neg coeff exp) := by
  unfold roundContext
  dsimp only
  split_ifs with hlen
  · rfl
  · generalize hdrop : (Nat.toDigits 10 coeff).length - contextPrecision = drop
    have hlong : drop + 27 < (Nat.toDigits 10 coeff).length := by
      unfold contextPrecision at hlen hdrop
      omega
    have hcoeff := pow_le_of_length (by omega) hlong
    suffices h : 10 ^ drop ∣ coeff by
      rw [PyDecimal.toRat?, decimalRat_drop, roundDigits_exact h]
    obtain ⟨n, hn⟩ := hscale
    have hunits : (n.natAbs : ℚ) = coeff * 10 ^ (exp + scale) := by
      have habs := abs_decimalRat neg coeff exp
      rw [hn, abs_div, abs_of_pos (by positivity : (0 : ℚ) < 10 ^ scale),
        div_eq_iff (by positivity)] at habs
      rw [Nat.cast_natAbs, Int.cast_abs, habs, zpow_add₀ (by norm_num), zpow_natCast]
      ring
    have hsmall : (n.natAbs : ℚ) < 10 ^ 27 := by
      rw [abs_decimalRat] at hshort
      rw [hunits, zpow_add₀ (by norm_num), zpow_natCast, ← mul_assoc]
      exact hshort
    have hexp : exp + scale < -drop := by
      by_contra hge
      have hpow : (10 : ℚ) ^ (-(drop : ℤ)) ≤ 10 ^ (exp + scale) :=
        zpow_le_zpow_right₀ (by norm_num) (not_lt.mp hge)
      have hbig : (10 : ℚ) ^ 27 ≤ n.natAbs := by
        have hcoeff' : (10 : ℚ) ^ (drop + 27) ≤ coeff := by exact_mod_cast hcoeff
        calc (10 : ℚ) ^ 27 = 10 ^ (drop + 27) * 10 ^ (-(drop : ℤ)) := by
              rw [zpow_neg, zpow_natCast, pow_add]
              field_simp
          _ ≤ coeff * 10 ^ (exp + scale) := by gcongr
          _ = n.natAbs := hunits.symm
      linarith
    obtain ⟨k, hk⟩ : ∃ k : ℕ, exp + scale = -(drop + k : ℕ) := ⟨(-(exp + scale) - drop).toNat, by omega⟩
    refine ⟨n.natAbs * 10 ^ k, ?_⟩
    have hrat : (coeff : ℚ) = 10 ^ drop * (n.natAbs * 10 ^ k) := by
      rw [hunits, hk, zpow_neg, zpow_natCast, pow_add]
      field_simp
    exact_mod_cast hrat

/-! ### The range of the context -/

variable {x y : PyDecimal} {p q : ℚ}

/-- The sum of two literals, written with the smaller exponent. -/
lemma exact_sum (a b : Bool) (c d : ℕ) (e f : ℤ) :
    let sum := signed a (c * 10 ^ (e - min e f).toNat) + signed b (d * 10 ^ (f - min e f).toNat)
    decimalRat (sum < 0) sum.natAbs (min e f) = decimalRat a c e + decimalRat b d f := by
  dsimp only
  rw [decimalRat_natAbs, ← decimalRat_signed a c (min_le_left e f),
    ← decimalRat_signed b d (min_le_right e f)]
  push_cast
  ring

theorem PyDecimal.add_spec (hx : x.toRat? = some p) (hy : y.toRat? = some q) :
    ∃ z r, x.add y = .ok z ∧ z.toRat? = some r ∧ |p + q| ≤ 2 * |r| ∧
      ∀ scale, OnScale scale (p + q) → |p + q| * 10 ^ scale < 10 ^ 27 → r = p + q := by
  cases x with
  | nan | inf _ => exact absurd hx (by simp [PyDecimal.toRat?])
  | finite a c e =>
    cases y with
    | nan | inf _ => exact absurd hy (by simp [PyDecimal.toRat?])
    | finite b d f =>
      obtain rfl := Option.some.inj hx
      obtain rfl := Option.some.inj hy
      rw [PyDecimal.add]
      generalize hsum : signed a (c * 10 ^ (e - min e f).toNat) +
        signed b (d * 10 ^ (f - min e f).toNat) = sum
      have hvalue := exact_sum a b c d e f
      rw [hsum] at hvalue
      obtain ⟨r, hr, hnear⟩ := roundContext_near (sum < 0) sum.natAbs (min e f)
      rw [hvalue] at hnear
      refine ⟨_, r, rfl, hr, hnear, fun scale hscale hshort => ?_⟩
      rw [← hvalue] at hscale hshort ⊢
      exact Option.some.inj (hr.symm.trans (roundContext_exact hscale hshort))

lemma PyDecimal.toRat?_negate (hx : x.toRat? = some p) : x.negate.toRat? = some (-p) := by
  cases x with
  | nan | inf _ => exact absurd hx (by simp [PyDecimal.toRat?])
  | finite a c e =>
    obtain rfl := Option.some.inj hx
    rw [PyDecimal.negate, PyDecimal.toRat?]
    cases a <;> simp [decimalRat]

theorem PyDecimal.sub_spec (hx : x.toRat? = some p) (hy : y.toRat? = some q) :
    ∃ z r, x.sub y = .ok z ∧ z.toRat? = some r ∧ |p - q| ≤ 2 * |r| ∧
      ∀ scale, OnScale scale (p - q) → |p - q| * 10 ^ scale < 10 ^ 27 → r = p - q := by
  simp only [sub_eq_add_neg]
  exact PyDecimal.add_spec hx (PyDecimal.toRat?_negate hy)

end Python
