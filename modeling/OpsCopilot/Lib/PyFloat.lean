import OpsCopilot.Lib.PyContext

/-!
# Doubles

`float(d)` of a `Decimal` is the double next to it, named by its shortest literal. `round(x, n)`
rounds the exact value of the double, not the literal.
-/

namespace Python

/-- What is known of `float(d)`: a number of 15 digits keeps its digits, every number is met
closely, and no number within the range of doubles becomes infinite. -/
structure FloatReading (f : PyDecimal → PyFloat) : Prop where
  exact : ∀ neg coeff exp n e, decimalRat neg coeff exp = decimalRat neg n e → n < 10 ^ 15 →
    -300 ≤ e → e ≤ 280 →
      ∃ x, f (.finite neg coeff exp) = .finite x ∧ x.toRat = decimalRat neg n e
  near : ∀ neg coeff exp x, f (.finite neg coeff exp) = .finite x →
    10 ^ (-300 : ℤ) ≤ |decimalRat neg coeff exp| →
      |x.toRat - decimalRat neg coeff exp| ≤ 10 ^ (-15 : ℤ) * |decimalRat neg coeff exp|
  bounded : ∀ neg coeff exp, |decimalRat neg coeff exp| ≤ 10 ^ 300 →
    ∃ x, f (.finite neg coeff exp) = .finite x

/-- `-x` of a float. -/
def PyFloat.negate : PyFloat → PyFloat
  | .nan => .nan
  | .inf neg => .inf !neg
  | .finite x => .finite ⟨!x.neg, x.coeff, x.exp, x.normal⟩

/-- The exponent of the last binary digit of the double next to `q`. -/
def binaryExponent (q : ℚ) : ℤ := max (Int.log 2 |q| - 52) (-1074)

/-- The double next to a number within the range of doubles, halves to even. -/
def binary64 (q : ℚ) : ℚ := roundHalfEven (q / 2 ^ binaryExponent q) * 2 ^ binaryExponent q

/-- `round(x, digits)` of a float. -/
def roundFloat (f : PyDecimal → PyFloat) (digits : ℕ) : PyFloat → PyFloat
  | .finite x =>
    f (.finite x.neg (roundHalfEven (|binary64 x.toRat| * 10 ^ digits)).natAbs (-digits))
  | x => x

theorem binary64_near (q : ℚ) :
    |binary64 q - q| ≤ 2 ^ (-53 : ℤ) * |q| + 2 ^ (-1075 : ℤ) := by
  have hpos : (0 : ℚ) < 2 ^ binaryExponent q := by positivity
  have hnear := roundHalfEven_near (q / 2 ^ binaryExponent q)
  have hsplit : binary64 q - q =
      ((roundHalfEven (q / 2 ^ binaryExponent q) : ℚ) - q / 2 ^ binaryExponent q) *
        2 ^ binaryExponent q := by
    rw [binary64, sub_mul, div_mul_cancel₀ _ hpos.ne']
  have hhalf : |binary64 q - q| ≤ 1 / 2 * 2 ^ binaryExponent q := by
    rw [hsplit, abs_mul, abs_of_pos hpos]
    exact mul_le_mul_of_nonneg_right hnear hpos.le
  have hrel : (0 : ℚ) ≤ 2 ^ (-53 : ℤ) * |q| := by positivity
  have htiny : (1 / 2 : ℚ) * 2 ^ (-1074 : ℤ) = 2 ^ (-1075 : ℤ) := by
    rw [show (-1075 : ℤ) = -1 + -1074 by norm_num, zpow_add₀ (by norm_num)]
    norm_num
  rcases le_total (Int.log 2 |q| - 52) (-1074) with h | h
  · rw [binaryExponent, max_eq_right h, htiny] at hhalf
    linarith
  · rcases eq_or_ne q 0 with rfl | hq
    · rw [binary64, zero_div, roundHalfEven_zero, Int.cast_zero, zero_mul, sub_zero, abs_zero]
      positivity
    · have hlog : (2 : ℚ) ^ Int.log 2 |q| ≤ |q| := by
        exact_mod_cast Int.zpow_log_le_self (by norm_num) (abs_pos.mpr hq)
      have hscale : (1 / 2 : ℚ) * 2 ^ (Int.log 2 |q| - 52) = 2 ^ (-53 : ℤ) * 2 ^ Int.log 2 |q| := by
        rw [← zpow_add₀ (by norm_num), show -53 + Int.log 2 |q| = -1 + (Int.log 2 |q| - 52) by ring,
          zpow_add₀ (by norm_num)]
        norm_num
      rw [binaryExponent, max_eq_left h, hscale] at hhalf
      have hle := mul_le_mul_of_nonneg_left hlog (by positivity : (0 : ℚ) ≤ 2 ^ (-53 : ℤ))
      have hpos' : (0 : ℚ) < 2 ^ (-1075 : ℤ) := by positivity
      linarith

end Python
