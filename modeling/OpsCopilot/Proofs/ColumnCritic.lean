import OpsCopilot.Proofs.NumericVerdicts
import OpsCopilot.Model.ToolFramework
import OpsCopilot.Proofs.ProjectionRows

/-!
# The critic on stored prices

The critic compares the double of a stored price with the double of the new one. What it lets pass
lies within its limit up to the rounding of three operations; what lies well within the limit also
passes with exact numbers.
-/

namespace OpsCopilot

open Python Sql Fallible

/-! ### Doubles of prices -/

section Doubles

variable {p q : ℚ}

lemma pos_of_binary64_pos (h : 0 < binary64 q) : 0 < q := by
  by_contra hq
  rw [binary64_eq_gridRound] at h
  exact absurd h (not_lt.mpr (gridRound_nonpos one_lt_two (not_lt.mp hq)))

/-- A share that the critic lets pass, before its three roundings. -/
lemma price_near_of_share (hp : 1 / 100 ≤ p)
    (h : binary64 (|binary64 (binary64 q - binary64 p)| / binary64 p) ≤ binary64 maxPriceChangePct)
    (hpos : 0 < binary64 p) : |q - p| ≤ (3 / 10 + 1 / 2 ^ 51) * p := by
  rw [binary64_le_thirty, div_lt_iff₀ hpos] at h
  have hold := binary64_near p
  have hnew := binary64_near q
  have hdifference := binary64_near (binary64 q - binary64 p)
  have htiny : (2 : ℚ) ^ (-1075 : ℤ) ≤ 1 / 2 ^ 60 * p := by
    have hsmall : (2 : ℚ) ^ (-1075 : ℤ) ≤ 2 ^ (-67 : ℤ) :=
      zpow_le_zpow_right₀ one_le_two (by norm_num)
    refine hsmall.trans ?_
    rw [show (2 : ℚ) ^ (-67 : ℤ) = 1 / 2 ^ 67 by norm_num]
    linarith
  have hunit : (2 : ℚ) ^ (-53 : ℤ) = 1 / 2 ^ 53 := by norm_num
  rw [hunit, abs_of_pos (by linarith : 0 < p)] at hold
  rw [hunit] at hnew hdifference
  generalize (2 : ℚ) ^ (-1075 : ℤ) = tiny at hold hnew hdifference htiny
  generalize binary64 (binary64 q - binary64 p) = d at h hdifference
  generalize binary64 p = p' at h hold hdifference hpos
  generalize binary64 q = q' at hnew hdifference
  have hq : |q| ≤ |q - p| + p := by
    calc |q| = |q - p + p| := by rw [sub_add_cancel]
      _ ≤ |q - p| + |p| := abs_add_le _ _
      _ = |q - p| + p := by rw [abs_of_pos (by linarith : 0 < p)]
  have hsplit : |q - p| ≤ |q' - p'| + |q' - q| + |p' - p| := by
    calc |q - p| = |q' - p' - (q' - q) + (p' - p)| := by ring_nf
      _ ≤ |q' - p' - (q' - q)| + |p' - p| := abs_add_le _ _
      _ ≤ |q' - p'| + |q' - q| + |p' - p| := by
        have htriangle := abs_sub (q' - p') (q' - q)
        linarith
  have hrounded : |q' - p'| ≤ |d| + |d - (q' - p')| := by
    calc |q' - p'| = |d - (d - (q' - p'))| := by rw [sub_sub_cancel]
      _ ≤ |d| + |d - (q' - p')| := abs_sub _ _
  have hdouble : p' ≤ p + |p' - p| := by linarith [le_abs_self (p' - p)]
  norm_num at h hold hnew hdifference htiny ⊢
  linarith

end Doubles

/-! ### What the critic has read -/

section Read

variable {P : ChangePolicy} {payload : Dict} {currentValue : Value} {verdict : CriticVerdict}

/-- What is approved has passed both checks before the comparison. -/
structure ChangePolicy.Compared (P : ChangePolicy) (payload : Dict) (currentValue : Value)
    (verdict : CriticVerdict) (c n : Number) : Prop where
  current : finiteNumber currentValue = some c
  positive : 0 < c.value
  readable : ¬BeyondFloats (payload.get P.field)
  new : finiteNumber (payload.get P.field) = some n
  judged : P.judge c n = .ok verdict

lemma ChangePolicy.compared_of_approved (hread : ¬BeyondFloats currentValue)
    (h : P.critique payload currentValue = .ok verdict) (happroved : verdict.approved = true) :
    ∃ c n, P.Compared payload currentValue verdict c n := by
  by_cases hpositive : ∃ c, finiteNumber currentValue = some c ∧ 0 < c.value
  · obtain ⟨c, hc, hpos⟩ := hpositive
    rw [ChangePolicy.critique, P.baseline_ok hread hc hpos, ok_bind] at h
    dsimp only at h
    by_cases hpayload : BeyondFloats (payload.get P.field)
    · rw [P.payloadNumber_beyond hpayload, error_bind] at h
      cases h
    cases hn : finiteNumber (payload.get P.field) with
    | none =>
      obtain ⟨reason, hblocked⟩ := P.payloadNumber_blocked hpayload hn
      rw [hblocked, ok_bind] at h
      rw [← pure_ok.mp h] at happroved
      cases happroved
    | some n =>
      rw [P.payloadNumber_ok hpayload hn, ok_bind] at h
      exact ⟨c, n, hc, hpos, hpayload, hn, h⟩
  · obtain ⟨reason, hblocked⟩ :=
      P.baseline_blocked hread (fun c hc hpos => hpositive ⟨c, hc, hpos⟩)
    rw [ChangePolicy.critique, hblocked, ok_bind] at h
    rw [← pure_ok.mp h] at happroved
    cases happroved

end Read

/-! ### Price changes -/

lemma floatOperand_exact {x : Value} {q : ℚ} (h : floatOperand x = .ok q) :
    toExactDecimal x = some q := by
  unfold floatOperand at h
  split at h
  · rename_i n
    obtain rfl := Except.ok.inj h
    have habs : (if n < 0 then -1 else 1) * (n.natAbs : ℚ) = n := by
      rw [Nat.cast_natAbs]
      split_ifs with hn
      · rw [abs_of_neg hn]
        push_cast
        ring
      · rw [abs_of_nonneg (not_lt.mp hn), one_mul]
    simp only [toExactDecimal, Value.toDecimal, Option.bind_some, PyDecimal.toRat?, decimalRat,
      zpow_zero, mul_one, decide_eq_true_eq, habs]
  · obtain rfl := Except.ok.inj h
    rfl
  · exact absurd h (by simp)

section Prices

variable {O : Outside} {payload : Dict} {column : Option (Column 10 2)} {verdict : CriticVerdict}

lemma not_beyondFloats_columnFloat : ¬BeyondFloats (columnFloat column) := by
  rintro ⟨n, hn, -⟩
  cases column with
  | none => cases hn
  | some column =>
    cases column with
    | number x => cases hn
    | nan => cases hn

/-- What an approved price change has brought before the critic: a stored price above zero and a
number that is no `Decimal`, the double of which is near enough. -/
structure PriceCompared (payload : Dict) (column : Option (Column 10 2)) (x : Numeric 10 2) (q : ℚ) :
    Prop where
  column_eq : column = some (.number x)
  positive : 0 < binary64 x.toRat
  valid : isValidNumeric (payload.get "new_price") = .ok true
  operand : floatOperand (payload.get "new_price") = .ok q
  within : binary64 (|binary64 (binary64 q - binary64 x.toRat)| / binary64 x.toRat) ≤
    binary64 maxPriceChangePct

lemma priceCompared_of_approved (h : critiqueColumn O .priceChange payload column = .ok verdict)
    (happroved : verdict.approved = true) : ∃ x q, PriceCompared payload column x q := by
  obtain ⟨c, n, hcompared⟩ :=
    ChangePolicy.compared_of_approved not_beyondFloats_columnFloat h happroved
  obtain ⟨x, rfl⟩ : ∃ x, column = some (.number x) := by
    have hcurrent := hcompared.current
    cases column with
    | none => cases hcurrent
    | some column =>
      cases column with
      | number x => exact ⟨x, rfl⟩
      | nan => cases hcurrent
  obtain rfl : Number.float (binary64 x.toRat) = c := by
    have hcurrent := Option.some.inj hcompared.current
    rw [FiniteFloat.toRat_ofDigits, Option.some.inj (numericDecimal_toRat? x)] at hcurrent
    exact hcurrent
  have hfield : finiteNumber (payload.get "new_price") = some n := hcompared.new
  have hreadable : ¬BeyondFloats (payload.get "new_price") := hcompared.readable
  have hwithin : regime n (.float (binary64 x.toRat)) = some .doubles → ∀ q,
      Regime.doubles.operand n = binary64 q →
        binary64 (|binary64 (binary64 q - binary64 x.toRat)| / binary64 x.toRat) ≤
          binary64 maxPriceChangePct := by
    intro hregime q hq
    have hjudged := hcompared.judged
    rw [pricePolicy.judge_doubles hregime rfl (toFloat_of_read hreadable hfield)] at hjudged
    rw [← Except.ok.inj hjudged, ChangePolicy.verdict_approved] at happroved
    rw [← hq]
    exact happroved
  cases hv : payload.get "new_price" with
  | int k =>
    rw [hv] at hfield hreadable
    obtain rfl := Option.some.inj hfield
    have hvalid : isValidNumeric (.int k) = .ok true := if_neg (fun hover => hreadable ⟨k, rfl, hover⟩)
    exact ⟨x, k, rfl, hcompared.positive, hv ▸ hvalid, hv ▸ rfl, hwithin rfl k rfl⟩
  | float y =>
    cases y with
    | nan | inf _ =>
      rw [hv] at hfield
      cases hfield
    | finite y =>
      rw [hv] at hfield
      obtain rfl := Option.some.inj hfield
      exact ⟨x, y.toRat, rfl, hcompared.positive, hv ▸ rfl, hv ▸ rfl, hwithin rfl y.toRat rfl⟩
  | decimal d =>
    cases d with
    | nan | inf _ =>
      rw [hv] at hfield
      cases hfield
    | finite neg coeff exp =>
      rw [hv] at hfield
      obtain rfl := Option.some.inj hfield
      have hjudged := hcompared.judged
      rw [pricePolicy.judge_mixed rfl] at hjudged
      cases hjudged
  | none | bool _ | str _ | list _ | dict _ =>
    rw [hv] at hfield
    cases hfield

variable {x : Numeric 10 2} {q : ℚ}

lemma PriceCompared.new_price (h : PriceCompared payload column x q) :
    toExactDecimal (payload.get "new_price") = some q :=
  floatOperand_exact h.operand

/-- A stored price above zero is a cent at least. -/
lemma cent_le (hpos : 0 < x.toRat) : 1 / 100 ≤ x.toRat := by
  have hcoeff : (0 : ℚ) < x.coeff := by
    rw [Numeric.toRat] at hpos
    exact (div_pos_iff_of_pos_right (by norm_num)).mp hpos
  have hone : (1 : ℚ) ≤ x.coeff := by exact_mod_cast (by exact_mod_cast hcoeff : 0 < x.coeff)
  rw [Numeric.toRat]
  norm_num at hone ⊢
  linarith

lemma PriceCompared.near (h : PriceCompared payload column x q) :
    |q - x.toRat| ≤ (3 / 10 + 1 / 2 ^ 51) * x.toRat :=
  price_near_of_share (cent_le (pos_of_binary64_pos h.positive)) h.within h.positive

/-- What lies within the limit passes with exact numbers, too. -/
lemma PriceCompared.critique_exact (O : Outside) (h : PriceCompared payload column x q)
    (hnear : |q - x.toRat| ≤ maxPriceChangePct * x.toRat) :
    ∃ verdict, critique O .priceChange payload (some x.toRat) = .ok verdict ∧
      verdict.approved = true := by
  have hpos := pos_of_binary64_pos h.positive
  have hbaseline : validatePositiveBaseline (some x.toRat) "price change" = .ok x.toRat :=
    if_neg (not_le.mpr hpos)
  have hfound : payload.find? "new_price" = some (payload.get "new_price") := by
    cases hfind : payload.find? "new_price" with
    | some v => rw [Dict.get, hfind, Option.getD_some]
    | none =>
      have hvalid := h.valid
      rw [Dict.get, hfind, Option.getD_none] at hvalid
      cases hvalid
  have hread : validatePayloadNumber payload "new_price" = .ok (.ok (payload.get "new_price")) := by
    rw [validatePayloadNumber, hfound]
    dsimp only
    rw [h.valid, ok_bind]
    rfl
  refine ⟨judgePriceChange x.toRat q, ?_, ?_⟩
  · simp only [critique, critiquePrice]
    rw [hbaseline]
    dsimp only
    rw [hread, ok_bind]
    dsimp only
    rw [h.operand, ok_bind]
    rfl
  · rw [judgePriceChange, if_neg (not_lt.mpr ((div_le_iff₀ hpos).mpr hnear))]
    rfl

end Prices

end OpsCopilot
