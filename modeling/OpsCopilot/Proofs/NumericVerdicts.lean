import OpsCopilot.Model.NumericCritic
import OpsCopilot.Proofs.LlmProposals

/-!
# Verdicts on every kind of number

When the critic returns the verdict that the exact values of its two numbers call for. It raises
on integers beyond the floats, on a float beside a `Decimal` and on `Decimal`s out of range, and
near the limit it judges the rounded share instead of the exact one.
-/

namespace OpsCopilot

open Python Fallible

/-! ### The line that the rounded shares draw -/

lemma binary64_thirty : binary64 maxPriceChangePct = 5404319552844595 / 2 ^ 54 := by decide +kernel

lemma binary64_fifty : binary64 maxSupplierPriceIncreasePct = 1 / 2 := by decide +kernel

/-- Rounded to a double, a share is within the double of 0.30 up to the middle between that double
and the next. -/
lemma binary64_le_thirty (x : ℚ) :
    binary64 x ≤ binary64 maxPriceChangePct ↔ x < 10808639105689191 / 2 ^ 55 := by
  rw [binary64_thirty, binary64_eq_gridRound, gridRound_le_iff (n := 5404319552844595) (e := -54)
    (by norm_num) (by norm_num) (by norm_num) (by norm_num) (by norm_num) (by norm_num)
    (by norm_num), roundHalfEven_le_iff_of_odd (by norm_num), div_lt_iff₀ (by positivity)]
  norm_num

lemma binary64_le_fifty (x : ℚ) :
    binary64 x ≤ binary64 maxSupplierPriceIncreasePct ↔ x ≤ 1 / 2 + 1 / 2 ^ 54 := by
  rw [binary64_fifty, binary64_eq_gridRound, gridRound_le_iff (n := 2 ^ 52) (e := -53)
    (by norm_num) (by norm_num) (by norm_num) (by norm_num) (by norm_num) (by norm_num)
    (by norm_num), roundHalfEven_le_iff_of_even (by norm_num), div_le_iff₀ (by positivity)]
  norm_num

/-- The double of 0.30 is less than 0.30: a `Decimal` is compared with the number itself. -/
lemma decimal_le_thirty (x : ℚ) : roundSignificant 28 x ≤ binary64 maxPriceChangePct ↔
    x < 29999999999999998889776975375 / 10 ^ 29 := by
  rw [binary64_thirty, roundSignificant_eq_gridRound,
    gridRound_le_iff (n := 2999999999999999888977697537) (e := -28)
    (by norm_num) (by norm_num) (by norm_num) (by norm_num) (by norm_num) (by norm_num)
    (by norm_num), roundHalfEven_le_iff_of_odd (by norm_num), div_lt_iff₀ (by positivity)]
  norm_num

lemma decimal_le_fifty (x : ℚ) : roundSignificant 28 x ≤ binary64 maxSupplierPriceIncreasePct ↔
    x ≤ 1 / 2 + 1 / (2 * 10 ^ 28) := by
  rw [binary64_fifty, roundSignificant_eq_gridRound, gridRound_le_iff (n := 5 * 10 ^ 27) (e := -28)
    (by norm_num) (by norm_num) (by norm_num) (by norm_num) (by norm_num) (by norm_num)
    (by norm_num), roundHalfEven_le_iff_of_even (by norm_num), div_le_iff₀ (by positivity)]
  norm_num

/-! ### When a verdict is right -/

/-- The arithmetic in which two numbers are subtracted and divided. -/
inductive Regime where
  | integers
  | doubles
  | decimals

/-- The arithmetic of two numbers; a float and a `Decimal` have none. -/
def regime : Number → Number → Option Regime
  | .int _, .int _ => some .integers
  | .float _, .decimal _ | .decimal _, .float _ => none
  | .float _, _ | _, .float _ => some .doubles
  | .decimal _, _ | _, .decimal _ => some .decimals

/-- The number that takes part in the arithmetic. -/
def Regime.operand : Regime → Number → ℚ
  | .doubles, .int n => binary64 n
  | _, x => x.value

/-- The difference of two numbers in an arithmetic. -/
def Regime.difference : Regime → ℚ → ℚ → ℚ
  | .integers, p, q => p - q
  | .doubles, p, q => binary64 (p - q)
  | .decimals, p, q => roundSignificant 28 (p - q)

/-- The highest shares that pass for 30 per cent in an arithmetic. -/
def belowThirty : Regime → ℚ → Prop
  | .decimals, x => x < 29999999999999998889776975375 / 10 ^ 29
  | _, x => x < 10808639105689191 / 2 ^ 55

/-- The highest shares that pass for 50 per cent in an arithmetic. -/
def belowFifty : Regime → ℚ → Prop
  | .decimals, x => x ≤ 1 / 2 + 1 / (2 * 10 ^ 28)
  | _, x => x ≤ 1 / 2 + 1 / 2 ^ 54

/-- No float holds the integer. -/
def BeyondFloats (v : Value) : Prop := ∃ n : ℤ, v = .int n ∧ overflowsFloat n = true

namespace ChangePolicy

variable (P : ChangePolicy)

/-- The change that counts, for a difference. -/
def change (q : ℚ) : ℚ := if P.absolute then |q| else q

/-- Both numbers are finite, the current value is positive, and the change is within the limit. -/
def Allows (payload : Dict) (currentValue : Value) : Prop :=
  ∃ c n, finiteNumber currentValue = some c ∧ 0 < c.value ∧
    finiteNumber (payload.get P.field) = some n ∧ P.change (n.value - c.value) / c.value ≤ P.limit

/-- The critic returns a verdict, which approves what the policy allows. -/
def Judges (payload : Dict) (currentValue : Value) : Prop :=
  ∃ verdict, P.critique payload currentValue = .ok verdict ∧
    (verdict.approved = true ↔ P.Allows payload currentValue)

/-- The share of the current value, before it is rounded. -/
def share (r : Regime) (c n : Number) : ℚ :=
  P.change (r.difference (r.operand n) (r.operand c)) / r.operand c

/-- The operations stay in range. -/
def InRange (c n : Number) : Regime → Prop
  | .integers => overflowsFloat (P.share .integers c n) = false
  | .doubles => True
  | .decimals =>
    contextResult (n.value - c.value) ≠ none ∧ contextResult (P.share .decimals c n) ≠ none

/-- When the critic meets the policy, where `below` is the line that rounded shares draw: no integer
is beyond the floats, the two kinds mix and stay in range, and rounding does not carry the change
across the limit. -/
def Judgeable (below : Regime → ℚ → Prop) (payload : Dict) (currentValue : Value) : Prop :=
  ¬BeyondFloats currentValue ∧
    ∀ c, finiteNumber currentValue = some c → 0 < c.value →
      ¬BeyondFloats (payload.get P.field) ∧
      ∀ n, finiteNumber (payload.get P.field) = some n →
        ∃ r, regime n c = some r ∧ P.InRange c n r ∧
          (below r (P.share r c n) ↔ P.change (n.value - c.value) / c.value ≤ P.limit)

end ChangePolicy

/-! ### Operations -/

section Read

lemma readNumber_eq {v : Value} (h : ¬BeyondFloats v) : readNumber v = .ok (finiteNumber v) := by
  cases v with
  | int n =>
    have hsmall : ¬overflowsFloat n = true := fun hover => h ⟨n, rfl, hover⟩
    have hvalid : isValidNumeric (.int n) = .ok true := if_neg hsmall
    rw [readNumber, hvalid]
    rfl
  | float x =>
    cases x with
    | nan | inf _ | finite _ => rfl
  | decimal d =>
    cases d with
    | nan | inf _ | finite _ _ _ => rfl
  | none | bool _ | str _ | list _ | dict _ => rfl

lemma readNumber_beyond {v : Value} (h : BeyondFloats v) :
    readNumber v = .error (.ofStd .overflowError) := by
  obtain ⟨n, rfl, hover⟩ := h
  have hvalid : isValidNumeric (.int n) = .error (.ofStd .overflowError) := if_pos hover
  rw [readNumber, hvalid]
  rfl

lemma toFloat_of_read {v : Value} {x : Number} (h : ¬BeyondFloats v) (hv : finiteNumber v = some x) :
    x.toFloat = .ok (Regime.doubles.operand x) := by
  cases v with
  | int n =>
    obtain rfl := Option.some.inj hv
    exact if_neg (fun hover => h ⟨n, rfl, hover⟩)
  | float y =>
    cases y with
    | nan | inf _ => cases hv
    | finite y =>
      obtain rfl := Option.some.inj hv
      rfl
  | decimal d =>
    cases d with
    | nan | inf _ => cases hv
    | finite _ _ _ =>
      obtain rfl := Option.some.inj hv
      rfl
  | none | bool _ | str _ | list _ | dict _ => cases hv

end Read

section Mixed

variable (m : ℤ) (q : ℚ)

lemma sub_int_float : (Number.int m).sub (.float q) =
    (Number.int m).toFloat >>= fun x => .ok (.float (binary64 (x - q))) := rfl

lemma sub_float_int : (Number.float q).sub (.int m) =
    (Number.int m).toFloat >>= fun x => .ok (.float (binary64 (q - x))) :=
  ok_bind q fun p => (Number.int m).toFloat >>= fun x => .ok (Number.float (binary64 (p - x)))

lemma div_float_int : (Number.float q).div (.int m) =
    (Number.int m).toFloat >>= fun x => .ok (.float (binary64 (q / x))) :=
  ok_bind q fun p => (Number.int m).toFloat >>= fun x => .ok (Number.float (binary64 (p / x)))

end Mixed

section Arithmetic

variable {x y : Number}

lemma exists_int_of_regime (h : regime x y = some .integers) :
    ∃ m n : ℤ, x = .int m ∧ y = .int n := by
  cases x with
  | int m =>
    cases y with
    | int n => exact ⟨m, n, rfl, rfl⟩
    | float _ | decimal _ => cases h
  | float _ =>
    cases y with
    | int _ | float _ | decimal _ => cases h
  | decimal _ =>
    cases y with
    | int _ | float _ | decimal _ => cases h

lemma Number.sub_doubles (h : regime x y = some .doubles)
    (hx : x.toFloat = .ok (Regime.doubles.operand x))
    (hy : y.toFloat = .ok (Regime.doubles.operand y)) :
    x.sub y = .ok (.float (binary64 (Regime.doubles.operand x - Regime.doubles.operand y))) := by
  cases x with
  | int m =>
    cases y with
    | float q =>
      rw [sub_int_float, hx, ok_bind]
      rfl
    | int _ | decimal _ => cases h
  | float p =>
    cases y with
    | int k =>
      rw [sub_float_int, hy, ok_bind]
      rfl
    | float q => rfl
    | decimal _ => cases h
  | decimal _ =>
    cases y with
    | int _ | float _ | decimal _ => cases h

lemma Number.sub_decimals (h : regime x y = some .decimals) :
    x.sub y = decimalResult (x.value - y.value) := by
  cases x with
  | int m =>
    cases y with
    | decimal q => rfl
    | int _ | float _ => cases h
  | float p =>
    cases y with
    | int _ | float _ | decimal _ => cases h
  | decimal p =>
    cases y with
    | int k => rfl
    | decimal q => rfl
    | float _ => cases h

lemma Number.sub_mixed (h : regime x y = none) : x.sub y = .error (mixedKinds "-" x y) := by
  cases x with
  | int m =>
    cases y with
    | int _ | float _ | decimal _ => cases h
  | float p =>
    cases y with
    | decimal q => rfl
    | int _ | float _ => cases h
  | decimal p =>
    cases y with
    | float q => rfl
    | int _ | decimal _ => cases h

/-- A double is divided by the double of the divisor. -/
lemma Number.float_div (d : ℚ) (hdecimal : ∀ q, y ≠ .decimal q)
    (hy : y.toFloat = .ok (Regime.doubles.operand y)) :
    (Number.float d).div y = .ok (.float (binary64 (d / Regime.doubles.operand y))) := by
  cases y with
  | int k =>
    rw [div_float_int, hy, ok_bind]
  | float q => rfl
  | decimal q => exact absurd rfl (hdecimal q)

/-- A `Decimal` is divided by an integer or a `Decimal` in the context. -/
lemma Number.decimal_div (d : ℚ) (hfloat : ∀ q, y ≠ .float q) :
    (Number.decimal d).div y = decimalResult (d / y.value) := by
  cases y with
  | int k => rfl
  | decimal q => rfl
  | float q => exact absurd rfl (hfloat q)

lemma not_decimal_of_doubles (h : regime x y = some .doubles) (q : ℚ) : y ≠ .decimal q := by
  rintro rfl
  cases x with
  | int _ | float _ | decimal _ => cases h

lemma not_float_of_decimals (h : regime x y = some .decimals) (q : ℚ) : y ≠ .float q := by
  rintro rfl
  cases x with
  | int _ | float _ | decimal _ => cases h

end Arithmetic

section Judge

variable {P : ChangePolicy} {c n : Number}

lemma ChangePolicy.change_int (k : ℤ) : ∃ j : ℤ,
    (if P.absolute then (Number.int k).abs else .int k) = .int j ∧ (j : ℚ) = P.change k := by
  unfold ChangePolicy.change
  cases P.absolute with
  | false => exact ⟨k, rfl, rfl⟩
  | true => exact ⟨|k|, rfl, Int.cast_abs⟩

lemma ChangePolicy.change_float (q : ℚ) :
    (if P.absolute then (Number.float q).abs else .float q) = .float (P.change q) := by
  unfold ChangePolicy.change
  cases P.absolute with
  | false => rfl
  | true => rfl

lemma ChangePolicy.change_decimal (q : ℚ) :
    (if P.absolute then (Number.decimal q).abs else .decimal q) = .decimal (P.change q) := by
  unfold ChangePolicy.change
  cases P.absolute with
  | false => rfl
  | true => rfl

/-- Integers are subtracted exactly and divided into a double. -/
lemma ChangePolicy.judge_integers (h : regime n c = some .integers) :
    P.judge c n = if overflowsFloat (P.share .integers c n) then .error (.ofStd .overflowError)
      else .ok (P.verdict (.float (binary64 (P.share .integers c n)))) := by
  obtain ⟨m, k, rfl, rfl⟩ := exists_int_of_regime h
  obtain ⟨j, hj, hvalue⟩ := P.change_int (m - k)
  have hshare : P.share .integers (.int k) (.int m) = (j : ℚ) / k := by
    rw [hvalue, Int.cast_sub]
    rfl
  have hsub : (Number.int m).sub (.int k) = .ok (.int (m - k)) := rfl
  rw [ChangePolicy.judge, hsub, ok_bind, hj, hshare, Number.div]
  split_ifs
  · rfl
  · rfl

/-- What doubles, or a double and an integer, are computed to. -/
lemma ChangePolicy.judge_doubles (h : regime n c = some .doubles)
    (hc : c.toFloat = .ok (Regime.doubles.operand c))
    (hn : n.toFloat = .ok (Regime.doubles.operand n)) :
    P.judge c n = .ok (P.verdict (.float (binary64 (P.share .doubles c n)))) := by
  rw [ChangePolicy.judge, Number.sub_doubles h hn hc, ok_bind, P.change_float,
    Number.float_div _ (not_decimal_of_doubles h) hc, ok_bind]
  rfl

/-- A `Decimal` on either side makes both operations those of the context. -/
lemma ChangePolicy.judge_decimals (h : regime n c = some .decimals) :
    P.judge c n = inContext (n.value - c.value) >>= fun d =>
      inContext (P.change d / c.value) >>= fun r => .ok (P.verdict (.decimal r)) := by
  rw [ChangePolicy.judge, Number.sub_decimals h, decimalResult]
  cases inContext (n.value - c.value) with
  | error e => rfl
  | ok d =>
    rw [Except.map, ok_bind, ok_bind, P.change_decimal,
      Number.decimal_div _ (not_float_of_decimals h), decimalResult]
    cases inContext (P.change d / c.value) with
    | error e => rfl
    | ok r => rfl

lemma ChangePolicy.judge_mixed (h : regime n c = none) : P.judge c n = .error (mixedKinds "-" n c) := by
  rw [ChangePolicy.judge, Number.sub_mixed h, error_bind]

lemma ChangePolicy.verdict_approved (x : Number) :
    (P.verdict x).approved = true ↔ x.value ≤ binary64 P.limit := by
  unfold ChangePolicy.verdict Number.exceeds
  split_ifs with hbeyond
  · exact iff_of_false Bool.false_ne_true (not_le.mpr (of_decide_eq_true hbeyond))
  · exact iff_of_true rfl (not_lt.mp (fun hlt => hbeyond (decide_eq_true hlt)))

/-- Decimals end in a verdict only where both operations stay in the context. -/
lemma ChangePolicy.decimals_ok_iff {verdict : CriticVerdict} :
    (inContext (n.value - c.value) >>= fun d => inContext (P.change d / c.value) >>= fun r =>
      .ok (P.verdict (.decimal r))) = .ok verdict ↔
      contextResult (n.value - c.value) ≠ none ∧
        contextResult (P.change (roundSignificant 28 (n.value - c.value)) / c.value) ≠ none ∧
        verdict = P.verdict (.decimal
          (roundSignificant 28 (P.change (roundSignificant 28 (n.value - c.value)) / c.value))) := by
  constructor
  · intro h
    obtain ⟨d, hd, h⟩ := bind_ok.mp h
    obtain ⟨r, hr, hverdict⟩ := bind_ok.mp h
    rw [inContext_ok] at hd hr
    rw [contextResult_eq hd] at hr
    rw [hr, ← contextResult_eq hr]
    exact ⟨Option.ne_none_iff_exists'.mpr ⟨d, hd⟩, Option.some_ne_none r,
      (Except.ok.inj hverdict).symm⟩
  · rintro ⟨hd, hr, rfl⟩
    obtain ⟨d, hd⟩ := Option.ne_none_iff_exists'.mp hd
    obtain ⟨r, hr⟩ := Option.ne_none_iff_exists'.mp hr
    rw [inContext_ok.mpr hd, ok_bind, contextResult_eq hd, inContext_ok.mpr hr, ok_bind,
      contextResult_eq hr]

/-- Where the operations are in range, the verdict is on the share to the digits of the arithmetic;
elsewhere there is none. -/
theorem ChangePolicy.judge_ok_iff {below : Regime → ℚ → Prop}
    (hintegers : ∀ x, binary64 x ≤ binary64 P.limit ↔ below .integers x)
    (hdoubles : ∀ x, binary64 x ≤ binary64 P.limit ↔ below .doubles x)
    (hdecimals : ∀ x, roundSignificant 28 x ≤ binary64 P.limit ↔ below .decimals x)
    (hc : c.toFloat = .ok (Regime.doubles.operand c))
    (hn : n.toFloat = .ok (Regime.doubles.operand n)) (allowed : Prop) :
    (∃ verdict, P.judge c n = .ok verdict ∧ (verdict.approved = true ↔ allowed)) ↔
      ∃ r, regime n c = some r ∧ P.InRange c n r ∧ (below r (P.share r c n) ↔ allowed) := by
  cases h : regime n c with
  | none =>
    rw [P.judge_mixed h]
    refine iff_of_false ?_ ?_
    · rintro ⟨verdict, hverdict, -⟩
      cases hverdict
    · rintro ⟨r, hr, -⟩
      cases hr
  | some r =>
    simp only [Option.some.injEq, exists_eq_left']
    cases r with
    | integers =>
      rw [P.judge_integers h, ← hintegers, ChangePolicy.InRange]
      by_cases hover : overflowsFloat (P.share .integers c n) = true
      · rw [if_pos hover]
        refine iff_of_false ?_ (fun hrange => ?_)
        · rintro ⟨verdict, hverdict, -⟩
          cases hverdict
        · rw [hover] at hrange
          exact Bool.noConfusion hrange.1
      · rw [if_neg hover]
        simp only [Except.ok.injEq, exists_eq_left', P.verdict_approved, Bool.not_eq_true] at hover ⊢
        exact ⟨fun hiff => ⟨hover, hiff⟩, And.right⟩
    | doubles =>
      rw [P.judge_doubles h hc hn, ← hdoubles]
      simp only [Except.ok.injEq, exists_eq_left', P.verdict_approved]
      exact ⟨fun hiff => ⟨trivial, hiff⟩, And.right⟩
    | decimals =>
      rw [P.judge_decimals h, ← hdecimals]
      simp only [P.decimals_ok_iff]
      constructor
      · rintro ⟨verdict, ⟨hdifference, hshare, rfl⟩, hiff⟩
        exact ⟨⟨hdifference, hshare⟩, (P.verdict_approved _).symm.trans hiff⟩
      · rintro ⟨⟨hdifference, hshare⟩, hiff⟩
        exact ⟨_, ⟨hdifference, hshare, rfl⟩, (P.verdict_approved _).trans hiff⟩

end Judge

/-! ### The checks before the comparison -/

section Checks

variable {P : ChangePolicy} {payload : Dict} {currentValue : Value}

/-- Where the current value is no finite positive number, the verdict is to block. -/
lemma ChangePolicy.baseline_blocked (hread : ¬BeyondFloats currentValue)
    (h : ∀ c, finiteNumber currentValue = some c → ¬0 < c.value) :
    ∃ reason, P.baseline currentValue = .ok (.error (blocked reason)) := by
  unfold ChangePolicy.baseline
  split
  · exact ⟨_, rfl⟩
  · rw [readNumber_eq hread, ok_bind]
    cases hnumber : finiteNumber currentValue with
    | none => exact ⟨_, rfl⟩
    | some c => exact ⟨_, if_pos (not_lt.mp (h c hnumber))⟩

lemma ChangePolicy.baseline_ok {c : Number} (hread : ¬BeyondFloats currentValue)
    (hnumber : finiteNumber currentValue = some c) (hpos : 0 < c.value) :
    P.baseline currentValue = .ok (.ok c) := by
  unfold ChangePolicy.baseline
  split
  · cases hnumber
  · rw [readNumber_eq hread, ok_bind, hnumber]
    exact if_neg (not_le.mpr hpos)

lemma ChangePolicy.baseline_beyond (h : BeyondFloats currentValue) :
    P.baseline currentValue = .error (.ofStd .overflowError) := by
  unfold ChangePolicy.baseline
  split
  · obtain ⟨n, hn, -⟩ := h
    cases hn
  · rw [readNumber_beyond h, error_bind]

lemma ChangePolicy.payloadNumber_blocked (hread : ¬BeyondFloats (payload.get P.field))
    (h : finiteNumber (payload.get P.field) = none) :
    ∃ reason, P.payloadNumber payload = .ok (.error (blocked reason)) := by
  unfold ChangePolicy.payloadNumber
  split
  next => exact ⟨_, rfl⟩
  next v hv =>
    have hget : payload.get P.field = v := by rw [Dict.get, hv, Option.getD_some]
    rw [hget] at hread h
    rw [readNumber_eq hread, ok_bind, h]
    exact ⟨_, rfl⟩

lemma ChangePolicy.payloadNumber_ok {n : Number} (hread : ¬BeyondFloats (payload.get P.field))
    (h : finiteNumber (payload.get P.field) = some n) :
    P.payloadNumber payload = .ok (.ok n) := by
  unfold ChangePolicy.payloadNumber
  split
  next hv =>
    rw [Dict.get, hv, Option.getD_none] at h
    cases h
  next v hv =>
    have hget : payload.get P.field = v := by rw [Dict.get, hv, Option.getD_some]
    rw [hget] at hread h
    rw [readNumber_eq hread, ok_bind, h]
    rfl

lemma ChangePolicy.payloadNumber_beyond (h : BeyondFloats (payload.get P.field)) :
    P.payloadNumber payload = .error (.ofStd .overflowError) := by
  unfold ChangePolicy.payloadNumber
  split
  next hv =>
    obtain ⟨n, hn, -⟩ := h
    rw [Dict.get, hv, Option.getD_none] at hn
    cases hn
  next v hv =>
    have hget : payload.get P.field = v := by rw [Dict.get, hv, Option.getD_some]
    rw [readNumber_beyond (hget ▸ h), error_bind]

/-- A blocked verdict is right of what the policy does not allow. -/
lemma judges_blocked {reason : String} (h : P.critique payload currentValue = .ok (blocked reason))
    (hallows : ¬P.Allows payload currentValue) : P.Judges payload currentValue :=
  ⟨_, h, iff_of_false Bool.false_ne_true hallows⟩

lemma not_judges_error {e : PyException} (h : P.critique payload currentValue = .error e) :
    ¬P.Judges payload currentValue := by
  rintro ⟨verdict, hverdict, -⟩
  rw [h] at hverdict
  cases hverdict

end Checks

/-- The critic meets its policy exactly on the pairs of numbers that are judgeable. -/
theorem ChangePolicy.judges_iff (P : ChangePolicy) (below : Regime → ℚ → Prop)
    (hintegers : ∀ x, binary64 x ≤ binary64 P.limit ↔ below .integers x)
    (hdoubles : ∀ x, binary64 x ≤ binary64 P.limit ↔ below .doubles x)
    (hdecimals : ∀ x, roundSignificant 28 x ≤ binary64 P.limit ↔ below .decimals x)
    (payload : Dict) (currentValue : Value) :
    P.Judges payload currentValue ↔ P.Judgeable below payload currentValue := by
  by_cases hcurrent : BeyondFloats currentValue
  · have herror : P.critique payload currentValue = .error (.ofStd .overflowError) := by
      rw [ChangePolicy.critique, P.baseline_beyond hcurrent, error_bind]
    exact iff_of_false (not_judges_error herror) (fun h => h.1 hcurrent)
  by_cases hpos : ∃ c, finiteNumber currentValue = some c ∧ 0 < c.value
  · obtain ⟨c, hc, hpos⟩ := hpos
    have hbase : P.baseline currentValue = .ok (.ok c) := P.baseline_ok hcurrent hc hpos
    by_cases hpayload : BeyondFloats (payload.get P.field)
    · have herror : P.critique payload currentValue = .error (.ofStd .overflowError) := by
        rw [ChangePolicy.critique, hbase, ok_bind]
        dsimp only
        rw [P.payloadNumber_beyond hpayload, error_bind]
      exact iff_of_false (not_judges_error herror) (fun h => (h.2 c hc hpos).1 hpayload)
    cases hn : finiteNumber (payload.get P.field) with
    | none =>
      obtain ⟨reason, hblocked⟩ := P.payloadNumber_blocked hpayload hn
      have hcritique : P.critique payload currentValue = .ok (blocked reason) := by
        rw [ChangePolicy.critique, hbase, ok_bind]
        dsimp only
        rw [hblocked, ok_bind]
        rfl
      refine iff_of_true (judges_blocked hcritique ?_) ⟨hcurrent, fun _ _ _ => ⟨hpayload, ?_⟩⟩
      · rintro ⟨_, n, -, -, hsome, -⟩
        rw [hn] at hsome
        cases hsome
      · intro n hsome
        cases hn.symm.trans hsome
    | some n =>
      have hcritique : P.critique payload currentValue = P.judge c n := by
        rw [ChangePolicy.critique, hbase, ok_bind]
        dsimp only
        rw [P.payloadNumber_ok hpayload hn, ok_bind]
      have hallows : P.Allows payload currentValue ↔
          P.change (n.value - c.value) / c.value ≤ P.limit := by
        constructor
        · rintro ⟨c', n', hc', -, hn', hlimit⟩
          rw [Option.some.inj (hc.symm.trans hc'), Option.some.inj (hn.symm.trans hn')]
          exact hlimit
        · exact fun hlimit => ⟨c, n, hc, hpos, hn, hlimit⟩
      have hjudge := P.judge_ok_iff hintegers hdoubles hdecimals (toFloat_of_read hcurrent hc)
        (toFloat_of_read hpayload hn) (P.change (n.value - c.value) / c.value ≤ P.limit)
      rw [ChangePolicy.Judges, hcritique, hallows, hjudge]
      constructor
      · intro hverdict
        refine ⟨hcurrent, fun c' hc' _ => ⟨hpayload, fun n' hn' => ?_⟩⟩
        rw [← Option.some.inj (hc.symm.trans hc'), ← Option.some.inj (hn.symm.trans hn')]
        exact hverdict
      · exact fun h => (h.2 c hc hpos).2 n hn
  · have hnone : ∀ c, finiteNumber currentValue = some c → ¬0 < c.value :=
      fun c hc hlt => hpos ⟨c, hc, hlt⟩
    obtain ⟨reason, hblocked⟩ := P.baseline_blocked hcurrent hnone
    have hcritique : P.critique payload currentValue = .ok (blocked reason) := by
      rw [ChangePolicy.critique, hblocked, ok_bind]
      rfl
    refine iff_of_true (judges_blocked hcritique ?_)
      ⟨hcurrent, fun c hc hlt => absurd hlt (hnone c hc)⟩
    rintro ⟨c, -, hc, hlt, -⟩
    exact hnone c hc hlt

/-- The critic on price changes and supplier switches returns a verdict, approving what the policy
allows, exactly on the pairs of values that the two conditions describe. -/
theorem critic_verdicts (payload : Dict) (currentValue : Value) :
    (pricePolicy.Judges payload currentValue ↔
        pricePolicy.Judgeable belowThirty payload currentValue) ∧
      (supplierPolicy.Judges payload currentValue ↔
        supplierPolicy.Judgeable belowFifty payload currentValue) :=
  ⟨pricePolicy.judges_iff belowThirty binary64_le_thirty
      binary64_le_thirty decimal_le_thirty payload currentValue,
    supplierPolicy.judges_iff belowFifty binary64_le_fifty
      binary64_le_fifty decimal_le_fifty payload currentValue⟩

/-- A price of 10.5, which payloads have as a float, beside `Decimal("10.00")` makes the critic
raise. -/
theorem critic_verdict_mixed :
    ¬pricePolicy.Judges [(.str "new_price", .float (.finite (.ofDigits false 105 (-1))))]
      (.decimal (.finite false 1000 (-2))) := by
  have hpos : ¬decimalRat false 1000 (-2) ≤ 0 := by decide +kernel
  have hread : ¬BeyondFloats (.decimal (.finite false 1000 (-2))) := by
    rintro ⟨n, hn, -⟩
    cases hn
  refine not_judges_error (e := mixedKinds "-" (.float (binary64 (decimalRat false 105 (-1))))
    (.decimal (decimalRat false 1000 (-2)))) ?_
  rw [ChangePolicy.critique, pricePolicy.baseline_ok (c := .decimal (decimalRat false 1000 (-2)))
    hread rfl (not_le.mp hpos), ok_bind]
  rfl

end OpsCopilot
