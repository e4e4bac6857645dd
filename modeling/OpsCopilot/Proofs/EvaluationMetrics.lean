import OpsCopilot.Proofs.NumberSums
import OpsCopilot.Proofs.NumericVerdicts

/-!
# Metrics of accepted records

When `evaluate` returns metrics for records that the constructor accepted, in whatever order they
come. The constructor keeps texts, mixed kinds of numbers and extreme `Decimal`s that the sums and
quotients cannot take.
-/

namespace OpsCopilot

open Python Fallible

/-! ### What a record holds -/

/-- A float holds the number, as it does of every number that the constructor accepts. -/
def Number.HeldByFloat : Number → Prop
  | .float _ => True
  | x => overflowsFloat x.value = false

/-- What the constructor checked of a numeric field. -/
def CheckedNumber (v : Value) : Prop := ∀ x, finiteNumber v = some x → x.HeldByFloat

/-- What it checked of a field that is not negative. -/
def CheckedAmount (v : Value) : Prop := CheckedNumber v ∧ ∀ x, finiteNumber v = some x → 0 ≤ x.integer

structure EvaluationRecord.Checked (r : EvaluationRecord) : Prop where
  latency : ∀ v, r.latencyMs = some v → CheckedAmount v
  cost : ∀ v, r.costUsd = some v → CheckedAmount v
  predicted : ∀ v, r.predictedEconomicImpact = some v → CheckedNumber v
  actual : ∀ v, r.actualEconomicImpact = some v → CheckedNumber v

section Checked

variable {R : TextReaders} {v v' : Value} {fieldName : String} {nonnegative : Bool}

lemma checkedNumber_of_optionalFinite {number : Option ℚ}
    (h : optionalFinite R v fieldName = .ok number) : CheckedNumber v := by
  intro x hx
  cases v with
  | int n =>
    obtain rfl := Option.some.inj hx
    rw [optionalFinite] at h
    split_ifs at h with hover
    exact Bool.eq_false_iff.mpr hover
  | float y =>
    cases y with
    | nan | inf _ => cases hx
    | finite y =>
      obtain rfl := Option.some.inj hx
      trivial
  | decimal d =>
    cases d with
    | nan | inf _ => cases hx
    | finite neg coeff exp =>
      obtain rfl := Option.some.inj hx
      rw [optionalFinite] at h
      split_ifs at h with hover
      exact Bool.eq_false_iff.mpr hover
  | none | bool _ | str _ | list _ | dict _ => cases hx

/-- A negative integer is a negative float. -/
lemma binary64_neg_of_int {n : ℤ} (h : n < 0) : binary64 n < 0 := by
  have hone : (1 : ℚ) ≤ -n := by exact_mod_cast (by omega : 1 ≤ -n)
  have hpos := binary64_pos hone
  rw [binary64_neg] at hpos
  linarith

lemma numericField_checked (h : numericField R nonnegative v fieldName = .ok (some v')) :
    v' = v ∧ CheckedNumber v ∧
      (nonnegative = true → ∀ x, finiteNumber v = some x → 0 ≤ x.integer) := by
  obtain ⟨number, hnumber, h⟩ := bind_ok.mp h
  cases number with
  | none => cases h
  | some number =>
    obtain ⟨checked, hraise, h⟩ := bind_ok.mp h
    obtain rfl := Option.some.inj (Except.ok.inj h)
    refine ⟨rfl, checkedNumber_of_optionalFinite hnumber, fun hcheck x hx => ?_⟩
    have hpos : ¬number < 0 := fun hneg => raiseIf_ok.mp hraise ⟨hcheck, hneg⟩
    cases v with
    | int n =>
      obtain rfl := Option.some.inj hx
      rw [optionalFinite] at hnumber
      split_ifs at hnumber with hover
      rw [← Option.some.inj (Except.ok.inj hnumber)] at hpos
      exact not_lt.mp (fun hneg => hpos (binary64_neg_of_int hneg))
    | float y =>
      cases y with
      | nan | inf _ => cases hx
      | finite y =>
        obtain rfl := Option.some.inj hx
        exact le_rfl
    | decimal d =>
      cases d with
      | nan | inf _ => cases hx
      | finite _ _ _ =>
        obtain rfl := Option.some.inj hx
        exact le_rfl
    | none | bool _ | str _ | list _ | dict _ => cases hx

theorem construct_checked {f : RecordFields} {r : EvaluationRecord}
    (h : EvaluationRecord.construct R f = .ok r) : r.Checked := by
  obtain ⟨tenantId, -, h⟩ := bind_ok.mp h
  obtain ⟨recordId, -, h⟩ := bind_ok.mp h
  obtain ⟨decisionId, -, h⟩ := bind_ok.mp h
  obtain ⟨actionType, -, h⟩ := bind_ok.mp h
  obtain ⟨opportunityWasCorrect, -, h⟩ := bind_ok.mp h
  obtain ⟨candidateWasValid, -, h⟩ := bind_ok.mp h
  obtain ⟨decisionSucceeded, -, h⟩ := bind_ok.mp h
  obtain ⟨humanOverrode, -, h⟩ := bind_ok.mp h
  obtain ⟨policyViolation, -, h⟩ := bind_ok.mp h
  obtain ⟨isolationBreach, -, h⟩ := bind_ok.mp h
  obtain ⟨executionFailed, -, h⟩ := bind_ok.mp h
  obtain ⟨autonomous, -, h⟩ := bind_ok.mp h
  obtain ⟨retryCount, -, h⟩ := bind_ok.mp h
  obtain ⟨latencyMs, hlatency, h⟩ := bind_ok.mp h
  obtain ⟨costUsd, hcost, h⟩ := bind_ok.mp h
  obtain ⟨predictedEconomicImpact, hpredicted, h⟩ := bind_ok.mp h
  obtain ⟨actualEconomicImpact, hactual, h⟩ := bind_ok.mp h
  obtain rfl := Except.ok.inj h
  constructor
  · rintro v rfl
    obtain ⟨rfl, hnumber, hpos⟩ := numericField_checked hlatency
    exact ⟨hnumber, hpos rfl⟩
  · rintro v rfl
    obtain ⟨rfl, hnumber, hpos⟩ := numericField_checked hcost
    exact ⟨hnumber, hpos rfl⟩
  · rintro v rfl
    obtain ⟨rfl, hnumber, -⟩ := numericField_checked hpredicted
    exact hnumber
  · rintro v rfl
    obtain ⟨rfl, hnumber, -⟩ := numericField_checked hactual
    exact hnumber

end Checked

/-! ### Predictions beside outcomes -/

/-- A prediction and an outcome that can be subtracted. -/
structure Comparison where
  arithmetic : Regime
  predicted : Number
  actual : Number

/-- The comparison of two values; a text has none, nor have a float and a `Decimal`. -/
def comparison (pair : Value × Value) : Option Comparison := do
  let predicted ← finiteNumber pair.1
  let actual ← finiteNumber pair.2
  let arithmetic ← regime predicted actual
  return ⟨arithmetic, predicted, actual⟩

namespace Comparison

variable (c : Comparison)

/-- The distance of the two, to the digits of the arithmetic. -/
def distance : ℚ :=
  |c.arithmetic.difference (c.arithmetic.operand c.predicted) (c.arithmetic.operand c.actual)|

/-- The divisor of a relative error, to the digits of the arithmetic. -/
def base : ℚ :=
  match c.arithmetic, c.actual with
  | .decimals, .decimal q => roundSignificant 28 |q|
  | r, y => r.operand y.abs

/-- The absolute error as a number of its kind. -/
def absolute : Number :=
  match c.arithmetic with
  | .integers => .int ⌊c.distance⌋
  | .doubles => .float c.distance
  | .decimals => .decimal c.distance

/-- The relative error as a number of its kind. -/
def relative : Number :=
  match c.arithmetic with
  | .decimals => .decimal (roundSignificant 28 (c.distance / c.base))
  | _ => .float (binary64 (c.distance / c.base))

/-- The quotient of a relative error exists. -/
def Divides : Prop :=
  match c.arithmetic with
  | .integers => overflowsFloat (c.distance / c.base) = false
  | .doubles => True
  | .decimals => c.base ≠ 0 ∧ contextResult (c.distance / c.base) ≠ none

end Comparison

section Errors

variable {pair : Value × Value} {c : Comparison} {x y e : Number}

lemma operand_ok {v : Value} (h : finiteNumber v = some x) : operand v = .ok x := by
  rw [operand, h]
  rfl

lemma operand_error {v : Value} (h : finiteNumber v = none) :
    operand v = .error (.ofStd .typeError) := by
  rw [operand, h]
  rfl

lemma toFloat_of_held (h : x.HeldByFloat) : x.toFloat = .ok (Regime.doubles.operand x) := by
  cases x with
  | int n => exact if_neg (Bool.eq_false_iff.mp h)
  | float q => rfl
  | decimal q => rfl

lemma held_abs (h : x.HeldByFloat) : x.abs.HeldByFloat := by
  cases x with
  | float q => trivial
  | int n =>
    change overflowsFloat ((|n| : ℤ) : ℚ) = false
    rw [Int.cast_abs, overflowsFloat, abs_abs]
    exact h
  | decimal q =>
    change overflowsFloat |q| = false
    rw [overflowsFloat, abs_abs]
    exact h

/-- What a float holds is far within the range of the context. -/
lemma abs_le_of_held (h : overflowsFloat x.value = false) : |x.value| ≤ 10 ^ (1000 : ℤ) := by
  unfold overflowsFloat at h
  rw [decide_eq_false_iff_not, not_le] at h
  refine h.le.trans ?_
  decide +kernel

lemma comparison_eq (hx : finiteNumber pair.1 = some x) (hy : finiteNumber pair.2 = some y) :
    comparison pair = (regime x y).map fun r => ⟨r, x, y⟩ := by
  rw [comparison, hx, hy]
  change (regime x y).bind _ = _
  cases regime x y with
  | none => rfl
  | some r => rfl

lemma comparison_none (h : finiteNumber pair.1 = none ∨ finiteNumber pair.2 = none) :
    comparison pair = none := by
  rcases h with h | h
  · rw [comparison, h]
    rfl
  · rw [comparison, h]
    cases finiteNumber pair.1 with
    | none => rfl
    | some x => rfl

/-- In the arithmetic of the context no number is a float. -/
lemma not_float_of_context (h : regime x y = some .decimals) :
    (∀ q, x ≠ .float q) ∧ ∀ q, y ≠ .float q := by
  refine ⟨?_, not_float_of_decimals h⟩
  rintro q rfl
  cases y with
  | int _ | float _ | decimal _ => cases h

lemma held_bound (hfloat : ∀ q, x ≠ .float q) (h : x.HeldByFloat) : |x.value| ≤ 10 ^ (1000 : ℤ) := by
  cases x with
  | float q => exact absurd rfl (hfloat q)
  | int n => exact abs_le_of_held (x := .int n) h
  | decimal q => exact abs_le_of_held (x := .decimal q) h

/-- The difference of two numbers that floats hold. -/
lemma decimalResult_difference (h : regime x y = some .decimals) (hx : x.HeldByFloat)
    (hy : y.HeldByFloat) : decimalResult (x.value - y.value) =
      .ok (.decimal (roundSignificant 28 (x.value - y.value))) := by
  obtain ⟨hfloatX, hfloatY⟩ := not_float_of_context h
  have hsmall : |x.value - y.value| ≤ 10 ^ (999998 : ℤ) := by
    have hstep : 2 * (10 : ℚ) ^ (1000 : ℤ) ≤ 10 ^ (1001 : ℤ) := by
      rw [show (1001 : ℤ) = 1 + 1000 by norm_num, zpow_add₀ (by norm_num), zpow_one]
      gcongr
      norm_num
    calc |x.value - y.value| ≤ |x.value| + |y.value| := abs_sub _ _
      _ ≤ 2 * (10 : ℚ) ^ (1000 : ℤ) := by
        linarith [held_bound hfloatX hx, held_bound hfloatY hy]
      _ ≤ 10 ^ (1001 : ℤ) := hstep
      _ ≤ 10 ^ (999998 : ℤ) := zpow_le_zpow_right₀ (by norm_num) (by norm_num)
  rw [decimalResult, inContext, contextResult_of_small hsmall]
  rfl

/-- `abs(predicted - actual)` of two numbers of one arithmetic. -/
lemma absoluteError_eq {r : Regime} (hx : finiteNumber pair.1 = some x)
    (hy : finiteNumber pair.2 = some y) (hr : regime x y = some r) (hheldX : x.HeldByFloat)
    (hheldY : y.HeldByFloat) :
    absoluteError pair = .ok (Comparison.mk r x y).absolute := by
  rw [absoluteError, operand_ok hx, operand_ok hy, ok_bind, ok_bind]
  cases r with
  | integers =>
    obtain ⟨m, n, rfl, rfl⟩ := exists_int_of_regime hr
    have hdistance : (Comparison.mk .integers (.int m) (.int n)).distance = ((|m - n| : ℤ) : ℚ) := by
      rw [Int.cast_abs, Int.cast_sub]
      rfl
    rw [Comparison.absolute, hdistance, Int.floor_intCast]
    rfl
  | doubles =>
    rw [Number.sub_doubles hr (toFloat_of_held hheldX) (toFloat_of_held hheldY), ok_bind]
    rfl
  | decimals =>
    rw [Number.sub_decimals hr, decimalResult_difference hr hheldX hheldY, ok_bind]
    rfl

/-- On checked values, absolute errors are those of the comparisons. -/
lemma absoluteError_ok_iff (hpredicted : CheckedNumber pair.1) (hactual : CheckedNumber pair.2) :
    absoluteError pair = .ok e ↔ ∃ c, comparison pair = some c ∧ e = c.absolute := by
  cases hx : finiteNumber pair.1 with
  | none =>
    rw [absoluteError, operand_error hx, error_bind, comparison_none (.inl hx)]
    exact iff_of_false (by rintro ⟨⟩) (by rintro ⟨c, ⟨⟩, -⟩)
  | some x =>
    cases hy : finiteNumber pair.2 with
    | none =>
      rw [absoluteError, operand_ok hx, operand_error hy, ok_bind, error_bind,
        comparison_none (.inr hy)]
      exact iff_of_false (by rintro ⟨⟩) (by rintro ⟨c, ⟨⟩, -⟩)
    | some y =>
      rw [comparison_eq hx hy]
      cases hr : regime x y with
      | none =>
        rw [absoluteError, operand_ok hx, operand_ok hy, ok_bind, ok_bind, Number.sub_mixed hr,
          error_bind]
        exact iff_of_false (by rintro ⟨⟩) (by rintro ⟨c, ⟨⟩, -⟩)
      | some r =>
        rw [absoluteError_eq hx hy hr (hpredicted x hx) (hactual y hy)]
        constructor
        · intro h
          exact ⟨_, rfl, (Except.ok.inj h).symm⟩
        · rintro ⟨c, hc, rfl⟩
          rw [← Option.some.inj hc]

lemma comparison_some (h : comparison pair = some c) :
    finiteNumber pair.1 = some c.predicted ∧ finiteNumber pair.2 = some c.actual ∧
      regime c.predicted c.actual = some c.arithmetic := by
  cases hx : finiteNumber pair.1 with
  | none =>
    rw [comparison_none (.inl hx)] at h
    cases h
  | some x =>
    cases hy : finiteNumber pair.2 with
    | none =>
      rw [comparison_none (.inr hy)] at h
      cases h
    | some y =>
      rw [comparison_eq hx hy] at h
      obtain ⟨r, hr, rfl⟩ := Option.map_eq_some_iff.mp h
      exact ⟨rfl, rfl, hr⟩

lemma value_abs (z : Number) : z.abs.value = |z.value| := by
  cases z with
  | int n => exact Int.cast_abs
  | float q | decimal q => rfl

lemma divide_of_ne (z : Number) (h : y.value ≠ 0) : z.divide y = z.div y := if_neg h

lemma divide_integers (d n : ℤ) (h : (n : ℚ) ≠ 0) (e : Number) :
    (Number.int d).divide (.int n) = .ok e ↔
      overflowsFloat ((d : ℚ) / n) = false ∧ e = .float (binary64 ((d : ℚ) / n)) := by
  rw [divide_of_ne (y := .int n) _ h, Number.div]
  by_cases hover : overflowsFloat ((d : ℚ) / n) = true
  · rw [if_pos hover]
    exact iff_of_false (by rintro ⟨⟩) (fun hiff => Bool.eq_false_iff.mp hiff.1 hover)
  · rw [if_neg hover]
    exact ⟨fun hok => ⟨Bool.eq_false_iff.mpr hover, (Except.ok.inj hok).symm⟩,
      fun hiff => congrArg _ hiff.2.symm⟩

/-- `abs(actual)` beside a `Decimal` or of one: a number of the size of the divisor. -/
lemma absolute_decimals (hr : regime x y = some .decimals) (hheld : y.HeldByFloat) :
    ∃ z, y.absolute = .ok z ∧ z.value = (Comparison.mk .decimals x y).base ∧
      ∀ q, z ≠ .float q := by
  cases y with
  | int n => exact ⟨.int |n|, rfl, rfl, fun q h => by cases h⟩
  | float q => exact absurd rfl ((not_float_of_context hr).2 q)
  | decimal q =>
    have hsmall : |(|q|)| ≤ 10 ^ (999998 : ℤ) := by
      rw [abs_abs]
      exact (abs_le_of_held (x := .decimal q) hheld).trans
        (zpow_le_zpow_right₀ (by norm_num) (by norm_num))
    refine ⟨.decimal (roundSignificant 28 |q|), ?_, rfl, fun q h => by cases h⟩
    rw [Number.absolute, decimalResult, inContext, contextResult_of_small hsmall]
    rfl

lemma decimalResult_ok_iff {q : ℚ} :
    decimalResult q = .ok e ↔ contextResult q ≠ none ∧ e = .decimal (roundSignificant 28 q) := by
  rw [decimalResult, map_ok]
  constructor
  · rintro ⟨r, hr, rfl⟩
    rw [inContext_ok] at hr
    rw [hr, contextResult_eq hr]
    exact ⟨Option.some_ne_none _, rfl⟩
  · rintro ⟨hne, rfl⟩
    obtain ⟨r, hr⟩ := Option.ne_none_iff_exists'.mp hne
    exact ⟨r, inContext_ok.mpr hr, by rw [contextResult_eq hr]⟩

/-- On checked values, relative errors are those of the comparisons, where these divide. -/
lemma relativeError_ok_iff (hpredicted : CheckedNumber pair.1) (hactual : CheckedNumber pair.2)
    (hc : comparison pair = some c) (hne : c.actual.value ≠ 0) :
    relativeError pair = .ok e ↔ c.Divides ∧ e = c.relative := by
  obtain ⟨hx, hy, hr⟩ := comparison_some hc
  have hheldX := hpredicted _ hx
  have hheldY := hactual _ hy
  rw [relativeError, absoluteError_eq hx hy hr hheldX hheldY, ok_bind, operand_ok hy, ok_bind]
  obtain ⟨r, x, y⟩ := c
  have habs : y.abs.value ≠ 0 := by
    rw [value_abs]
    exact abs_ne_zero.mpr hne
  dsimp only at hr hheldX hheldY
  cases r with
  | integers =>
    obtain ⟨m, n, rfl, rfl⟩ := exists_int_of_regime hr
    have hdistance : (Comparison.mk .integers (.int m) (.int n)).distance = ((|m - n| : ℤ) : ℚ) := by
      rw [Int.cast_abs, Int.cast_sub]
      rfl
    have hbase : (Comparison.mk .integers (.int m) (.int n)).base = ((|n| : ℤ) : ℚ) := rfl
    rw [Comparison.absolute, Comparison.Divides, Comparison.relative, hdistance, hbase,
      Int.floor_intCast]
    exact divide_integers |m - n| |n| habs e
  | doubles =>
    have habsolute : y.absolute = .ok y.abs := by
      cases y with
      | int n => rfl
      | float q => rfl
      | decimal q => exact absurd rfl (not_decimal_of_doubles hr q)
    have hdecimal : ∀ q, y.abs ≠ .decimal q := by
      intro q
      cases y with
      | int n => exact fun h => by cases h
      | float q => exact fun h => by cases h
      | decimal q => exact absurd rfl (not_decimal_of_doubles hr q)
    rw [habsolute, ok_bind, Comparison.absolute, Comparison.Divides, Comparison.relative]
    dsimp only
    rw [divide_of_ne _ habs, Number.float_div _ hdecimal (toFloat_of_held (held_abs hheldY))]
    exact ⟨fun h => ⟨trivial, (Except.ok.inj h).symm⟩, fun h => congrArg _ h.2.symm⟩
  | decimals =>
    obtain ⟨z, hz, hvalue, hfloat⟩ := absolute_decimals hr hheldY
    rw [hz, ok_bind, Comparison.Divides, Comparison.relative, Comparison.absolute, ← hvalue]
    dsimp only
    by_cases hzero : z.value = 0
    · rw [Number.divide, if_pos hzero]
      exact iff_of_false (by rintro ⟨⟩) (fun h => h.1.1 hzero)
    · rw [divide_of_ne _ hzero, Number.decimal_div _ hfloat, decimalResult_ok_iff]
      exact ⟨fun h => ⟨⟨hzero, h.1⟩, h.2⟩, fun h => ⟨h.1.2, h.2⟩⟩

end Errors

end OpsCopilot
