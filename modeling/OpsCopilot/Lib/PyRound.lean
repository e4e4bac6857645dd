import Mathlib.Data.Rat.Floor
import Mathlib.Tactic.Linarith
import OpsCopilot.Lib.PyValue

/-!
# Rounding and formatting of numbers

`round(x, digits)` and the format specifications `.2f` and `.2%`, on exact rationals, halves to
even.
-/

namespace Python

/-- The nearest integer, halves to even. -/
def roundHalfEven (q : ℚ) : ℤ :=
  let n := ⌊q⌋
  if q - n < 1 / 2 then n
  else if 1 / 2 < q - n then n + 1
  else if n % 2 = 0 then n else n + 1

/-- `round(x, digits)`. -/
def pyRound (digits : ℕ) (q : ℚ) : ℚ := roundHalfEven (q * 10 ^ digits) / 10 ^ digits

/-- Whether `float` of the number is infinite. -/
def overflowsFloat (q : ℚ) : Bool := 2 ^ 1024 - 2 ^ 970 ≤ |q|

/-- `f"{x:.<places>f}"`. -/
def fixedText (places : ℕ) (q : ℚ) : String :=
  let digits := Nat.toDigits 10 (roundHalfEven (|q| * 10 ^ places)).natAbs
  let padded := List.replicate (places + 1 - digits.length) '0' ++ digits
  let whole := padded.take (padded.length - places)
  let fraction := padded.drop (padded.length - places)
  String.ofList ((if q < 0 then ['-'] else []) ++ whole ++
    (if places = 0 then [] else '.' :: fraction))

/-- `f"{x:.<places>%}"`. -/
def percentText (places : ℕ) (q : ℚ) : String := fixedText places (q * 100) ++ "%"

/-- `f"{x:+.<places>%}"`. -/
def signedPercentText (places : ℕ) (q : ℚ) : String :=
  (if q < 0 then "" else "+") ++ percentText places q

example : percentText 2 (1 / 3) = "33.33%" ∧ signedPercentText 0 (-1 / 200) = "-0%" := by
  decide +kernel

/-! ### Distance to the rounded number -/

lemma roundHalfEven_near (q : ℚ) : |(roundHalfEven q : ℚ) - q| ≤ 1 / 2 := by
  have hle := Int.floor_le q
  have hlt := Int.lt_floor_add_one q
  unfold roundHalfEven
  dsimp only
  split_ifs with h₁ h₂ h₃
  · rw [abs_le]
    constructor <;> linarith
  · push_cast
    rw [abs_le]
    constructor <;> linarith
  · rw [abs_le]
    constructor <;> linarith
  · push_cast
    rw [abs_le]
    constructor <;> linarith

@[simp] lemma roundHalfEven_intCast (n : ℤ) : roundHalfEven n = n := by
  unfold roundHalfEven
  simp

lemma roundHalfEven_zero : roundHalfEven 0 = 0 := by simpa using roundHalfEven_intCast 0

lemma roundHalfEven_nonneg {q : ℚ} (h : 0 ≤ q) : 0 ≤ roundHalfEven q := by
  have hfloor : 0 ≤ ⌊q⌋ := Int.floor_nonneg.mpr h
  unfold roundHalfEven
  dsimp only
  split_ifs <;> omega

lemma roundHalfEven_le {q : ℚ} {n : ℤ} (h : q ≤ n) : roundHalfEven q ≤ n := by
  have hnear := (abs_le.mp (roundHalfEven_near q)).2
  have hlt : (roundHalfEven q : ℚ) < n + 1 := by linarith
  exact Int.lt_add_one_iff.mp (by exact_mod_cast hlt)

/-- A share stays a share. -/
lemma pyRound_unit {q : ℚ} (digits : ℕ) (hnonneg : 0 ≤ q) (hone : q ≤ 1) :
    0 ≤ pyRound digits q ∧ pyRound digits q ≤ 1 := by
  have hscale : (0 : ℚ) < 10 ^ digits := by positivity
  have hlow := roundHalfEven_nonneg (mul_nonneg hnonneg hscale.le)
  have hhigh : roundHalfEven (q * 10 ^ digits) ≤ ((10 ^ digits : ℕ) : ℤ) := by
    refine roundHalfEven_le ?_
    push_cast
    exact mul_le_of_le_one_left hscale.le hone
  constructor
  · exact div_nonneg (by exact_mod_cast hlow) hscale.le
  · rw [pyRound, div_le_one hscale]
    exact_mod_cast hhigh

/-- Numbers far below the largest float do not overflow. -/
lemma overflowsFloat_of_small {q : ℚ} (h : |q| ≤ 10 ^ 30) : overflowsFloat q = false := by
  unfold overflowsFloat
  rw [decide_eq_false_iff_not, not_le]
  exact h.trans_lt (by decide +kernel)

/-! ### Characters of a formatted number -/

end Python
