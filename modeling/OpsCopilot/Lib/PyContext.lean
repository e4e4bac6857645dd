import Mathlib.Data.Int.Log
import Mathlib.Algebra.Order.Field.Power
import OpsCopilot.Lib.PyDecimal
import OpsCopilot.Lib.PyRound

/-!
# The default `Decimal` context on exact numbers

An operation of `Decimal` rounds its exact value to 28 significant digits. Here the exact value is
a rational, so that quotients are covered.
-/

namespace Python

/-- The exponent of the last digit of a number with `digits` significant digits; the context has
no digits below `10 ^ -1000026`. -/
def lastExponent (digits : ℕ) (q : ℚ) : ℤ := max (Int.log 10 |q| + 1 - digits) (-1000026)

/-- `q` with `digits` significant digits, halves to even. -/
def roundSignificant (digits : ℕ) (q : ℚ) : ℚ :=
  roundHalfEven (q / 10 ^ lastExponent digits q) * 10 ^ lastExponent digits q

/-- What an operation with the exact value `q` returns; `none` stands for `decimal.Overflow`. -/
def contextResult (q : ℚ) : Option ℚ :=
  if 999999 < Int.log 10 |roundSignificant 28 q| then none else some (roundSignificant 28 q)

/-- `q.quantize(Decimal("1"), rounding=ROUND_HALF_UP)`; `none` stands for `InvalidOperation`. -/
def quantizeUnits (q : ℚ) : Option ℤ :=
  let n := if 0 ≤ q then ⌊q + 1 / 2⌋ else -⌊-q + 1 / 2⌋
  if 10 ^ 28 ≤ n.natAbs then none else some n

lemma quantizeUnits_lt {q : ℚ} {n : ℤ} (h : quantizeUnits q = some n) : n.natAbs < 10 ^ 28 := by
  unfold quantizeUnits at h
  generalize (if 0 ≤ q then ⌊q + 1 / 2⌋ else -⌊-q + 1 / 2⌋) = k at h
  dsimp only at h
  split_ifs at h with hk
  rw [← Option.some.inj h]
  exact not_le.mp hk

lemma quantizeUnits_of_nonneg {q : ℚ} (hq : 0 ≤ q) (hlt : ⌊q + 1 / 2⌋ < 10 ^ 28) :
    quantizeUnits q = some ⌊q + 1 / 2⌋ := by
  have hpos : 0 ≤ ⌊q + 1 / 2⌋ := Int.floor_nonneg.mpr (by linarith)
  unfold quantizeUnits
  dsimp only
  rw [if_pos hq, if_neg (by omega)]

lemma quantizeUnits_eq {q : ℚ} {n : ℤ} (hq : 0 ≤ q) (h : quantizeUnits q = some n) :
    n = ⌊q + 1 / 2⌋ := by
  unfold quantizeUnits at h
  dsimp only at h
  rw [if_pos hq] at h
  split_ifs at h
  exact (Option.some.inj h).symm

def exceedsStrDigits (n : ℤ) : Bool := maxStrDigits ≤ Nat.log 10 n.natAbs

example : contextResult (2 / 3) = some (6666666666666666666666666667 / 10 ^ 28) := by
  decide +kernel

/-! ### The error of one rounding -/

section Error

variable {digits : ℕ} {q : ℚ}

lemma roundSignificant_near_ulp (digits : ℕ) (q : ℚ) :
    |roundSignificant digits q - q| ≤ 1 / 2 * 10 ^ lastExponent digits q := by
  have hpos : (0 : ℚ) < 10 ^ lastExponent digits q := by positivity
  have hnear := roundHalfEven_near (q / 10 ^ lastExponent digits q)
  have hsplit : roundSignificant digits q - q =
      ((roundHalfEven (q / 10 ^ lastExponent digits q) : ℚ) - q / 10 ^ lastExponent digits q) *
        10 ^ lastExponent digits q := by
    rw [roundSignificant, sub_mul, div_mul_cancel₀ _ hpos.ne']
  rw [hsplit, abs_mul, abs_of_pos hpos]
  exact mul_le_mul_of_nonneg_right hnear hpos.le

@[simp] lemma roundSignificant_zero (digits : ℕ) : roundSignificant digits 0 = 0 := by
  rw [roundSignificant, zero_div, roundHalfEven_zero, Int.cast_zero, zero_mul]

/-- Either the last digit counts a fixed fraction of the number, or the number is tiny. -/
lemma ulp_cases (digits : ℕ) (hq : q ≠ 0) :
    (10 : ℚ) ^ lastExponent digits q ≤ 10 ^ (1 - digits : ℤ) * |q| ∨
      lastExponent digits q = -1000026 ∧ |q| < 10 ^ (digits - 1000026 : ℤ) := by
  have habs : 0 < |q| := abs_pos.mpr hq
  rcases le_total (-1000026) (Int.log 10 |q| + 1 - digits) with h | h
  · left
    have hlog : (10 : ℚ) ^ Int.log 10 |q| ≤ |q| := by
      exact_mod_cast Int.zpow_log_le_self (by norm_num) habs
    have hsplit : Int.log 10 |q| + 1 - digits = 1 - digits + Int.log 10 |q| := by ring
    rw [lastExponent, max_eq_left h, hsplit, zpow_add₀ (by norm_num)]
    exact mul_le_mul_of_nonneg_left hlog (by positivity)
  · right
    refine ⟨max_eq_right h, ?_⟩
    have hlog : |q| < (10 : ℚ) ^ (Int.log 10 |q| + 1) := by
      exact_mod_cast Int.lt_zpow_succ_log_self (by norm_num) |q|
    refine hlog.trans_le (zpow_le_zpow_right₀ (by norm_num) ?_)
    linarith

/-- The error of a rounding, relative to the number or to the least digit there is. -/
theorem roundSignificant_near (digits : ℕ) (q : ℚ) : |roundSignificant digits q - q| ≤
    1 / 2 * 10 ^ (1 - digits : ℤ) * |q| + 1 / 2 * 10 ^ (-1000026 : ℤ) := by
  have hulp := roundSignificant_near_ulp digits q
  have htiny : (0 : ℚ) ≤ 1 / 2 * 10 ^ (-1000026 : ℤ) := by positivity
  have hrel : 0 ≤ 1 / 2 * (10 : ℚ) ^ (1 - digits : ℤ) * |q| := by positivity
  rcases eq_or_ne q 0 with rfl | hq
  · rw [roundSignificant_zero, sub_zero, abs_zero]
    simp only [abs_zero] at hrel
    linarith
  · rcases ulp_cases digits hq with h | ⟨h, -⟩
    · linarith
    · rw [h] at hulp
      linarith

/-- A number with few enough digits is kept. -/
theorem roundSignificant_exact {n e : ℤ} (hq : q = n * 10 ^ e) (hn : n.natAbs < 10 ^ digits)
    (he : -1000026 ≤ e) : roundSignificant digits q = q := by
  rcases eq_or_ne n 0 with rfl | hn0
  · rw [hq, Int.cast_zero, zero_mul, roundSignificant_zero]
  · have hq0 : q ≠ 0 := by
      rw [hq]
      positivity
    have hlt : |q| < (10 : ℚ) ^ (digits + e : ℤ) := by
      rw [hq, abs_mul, abs_of_pos (by positivity : (0 : ℚ) < 10 ^ e), zpow_add₀ (by norm_num),
        zpow_natCast]
      refine mul_lt_mul_of_pos_right ?_ (by positivity)
      rw [← Int.cast_abs, Int.abs_eq_natAbs]
      exact_mod_cast hn
    have hlog : Int.log 10 |q| < digits + e :=
      (Int.lt_zpow_iff_log_lt (by norm_num) (abs_pos.mpr hq0)).mp (by exact_mod_cast hlt)
    have hle : lastExponent digits q ≤ e := max_le (by linarith) he
    obtain ⟨k, hk⟩ := Int.eq_ofNat_of_zero_le (sub_nonneg.mpr hle)
    have hscaled : q / 10 ^ lastExponent digits q = ((n * 10 ^ k : ℤ) : ℚ) := by
      have hsplit : (10 : ℚ) ^ e = 10 ^ k * 10 ^ lastExponent digits q := by
        rw [← zpow_natCast, ← zpow_add₀ (by norm_num)]
        congr 1
        linarith
      rw [div_eq_iff (by positivity)]
      push_cast
      rw [mul_assoc, ← hsplit, hq]
    rw [roundSignificant, hscaled, roundHalfEven_intCast, ← hscaled,
      div_mul_cancel₀ _ (by positivity)]

lemma contextResult_eq {r : ℚ} (h : contextResult q = some r) : r = roundSignificant 28 q := by
  unfold contextResult at h
  split_ifs at h
  exact (Option.some.inj h).symm

lemma contextResult_nonneg {r : ℚ} (h : contextResult q = some r) (hq : 0 ≤ q) : 0 ≤ r := by
  have hround := roundHalfEven_nonneg (div_nonneg hq (zpow_nonneg (by norm_num : (0 : ℚ) ≤ 10)
    (lastExponent 28 q)))
  rw [contextResult_eq h, roundSignificant]
  exact mul_nonneg (by exact_mod_cast hround) (by positivity)

/-- The error of one operation. -/
theorem contextResult_near {r : ℚ} (h : contextResult q = some r) :
    |r - q| ≤ 1 / 2 * 10 ^ (-27 : ℤ) * |q| + 1 / 2 * 10 ^ (-1000026 : ℤ) := by
  rw [contextResult_eq h]
  exact roundSignificant_near 28 q

/-- A number whose result is within a bound exceeds the bound by a fraction of itself at most. -/
theorem contextResult_le {r b : ℚ} (h : contextResult q = some r) (hq : 0 ≤ q) (hr : r ≤ b)
    (hb : (10 : ℚ) ^ (28 - 1000026 : ℤ) ≤ b) : (1 - 1 / 2 * 10 ^ (-27 : ℤ)) * q ≤ b := by
  rcases hq.eq_or_lt with hq0 | hpos
  · rw [← hq0, mul_zero]
    exact (zpow_pos (by norm_num) _).le.trans hb
  · have hulp := roundSignificant_near_ulp 28 q
    rw [← contextResult_eq h, abs_le] at hulp
    rcases ulp_cases 28 hpos.ne' with hfrac | ⟨-, htiny⟩
    · rw [abs_of_pos hpos] at hfrac
      norm_num at hfrac ⊢
      linarith [hulp.1]
    · rw [abs_of_pos hpos] at htiny
      have hshrink : (1 - 1 / 2 * (10 : ℚ) ^ (-27 : ℤ)) * q ≤ q :=
        mul_le_of_le_one_left hq (by norm_num)
      exact hshrink.trans (htiny.le.trans hb)

theorem contextResult_exact {r : ℚ} {n e : ℤ} (h : contextResult q = some r)
    (hq : q = n * 10 ^ e) (hn : n.natAbs < 10 ^ 28) (he : -1000026 ≤ e) : r = q := by
  rw [contextResult_eq h]
  exact roundSignificant_exact hq hn he

/-- Numbers below the range of the context have results. -/
lemma contextResult_of_small (h : |q| ≤ 10 ^ (999998 : ℤ)) :
    contextResult q = some (roundSignificant 28 q) := by
  rw [contextResult, if_neg]
  rcases eq_or_ne (roundSignificant 28 q) 0 with hr | hr
  · rw [hr, abs_zero, Int.log_zero_right]
    norm_num
  · have hnear := roundSignificant_near 28 q
    have htriangle := abs_sub_abs_le_abs_sub (roundSignificant 28 q) q
    have htiny : (10 : ℚ) ^ (-1000026 : ℤ) ≤ 1 :=
      zpow_le_one_of_nonpos₀ (by norm_num) (by norm_num)
    have hone : (1 : ℚ) ≤ 10 ^ (999998 : ℤ) := one_le_zpow₀ (by norm_num) (by norm_num)
    have hstep : (10 : ℚ) ^ (999999 : ℤ) = 10 * 10 ^ (999998 : ℤ) := by
      rw [show (999999 : ℤ) = 1 + 999998 by norm_num, zpow_add₀ (by norm_num), zpow_one]
    have hlt : |roundSignificant 28 q| < (10 : ℚ) ^ (999999 : ℤ) := by
      rw [hstep]
      generalize (10 : ℚ) ^ (-1000026 : ℤ) = tiny at hnear htiny
      generalize (10 : ℚ) ^ (999998 : ℤ) = large at h hone
      norm_num at hnear
      linarith
    have hlog := (Int.lt_zpow_iff_log_lt (b := 10) (x := 999999) (by norm_num) (abs_pos.mpr hr)).mp
      (by exact_mod_cast hlt)
    omega

lemma contextResult_of_lt (h : |q| < 10 ^ 28) : contextResult q = some (roundSignificant 28 q) := by
  refine contextResult_of_small (h.le.trans ?_)
  rw [← zpow_natCast]
  exact zpow_le_zpow_right₀ (by norm_num) (by norm_num)

/-- What is kept and does not overflow is returned. -/
lemma contextResult_of_exact {n e : ℤ} (hq : q = n * 10 ^ e) (hn : n.natAbs < 10 ^ 28)
    (he : -1000026 ≤ e) (hlt : |q| < 10 ^ 28) : contextResult q = some q := by
  rw [contextResult_of_lt hlt, roundSignificant_exact hq hn he]

end Error

/-! ### Numbers of the context -/

/-- The `Decimal` that an operation with the exact value `q` returns. -/
def contextDecimal (q : ℚ) : PyDecimal :=
  .finite (q < 0) (roundHalfEven (|q| / 10 ^ lastExponent 28 q)).natAbs (lastExponent 28 q)

end Python
