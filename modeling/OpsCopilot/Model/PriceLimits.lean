import OpsCopilot.Model.Policy
import OpsCopilot.Model.Reasoning

/-!
# The price limits over any arithmetic

The three functions that restate the limit on price changes, with what they do to numbers as a
parameter. With the arithmetic of Python they are the functions of the policy gates and of the
validation of proposals; with exact numbers nothing overflows, rounds or refuses to mix.
-/

namespace OpsCopilot

open Python Fallible

/-- What the price policies do to the numbers that they meet. -/
structure Arithmetic where
  /-- `_is_valid_numeric`. -/
  isValid : Value → Except PyException Bool
  /-- The number of an operand beside the current price. -/
  operand : Value → Except PyException ℚ
  /-- `_to_exact_decimal`; `none` where it raises. -/
  toExact : Value → Option ℚ
  /-- `_strict_decimal`. -/
  strict : Value → Except PyException (Option ℚ)
  /-- The result of an operation on `Decimal`s. -/
  rounded : ℚ → Except PyException ℚ

def Arithmetic.python : Arithmetic :=
  ⟨isValidNumeric, floatOperand, toExactDecimal, strictDecimal, inContext⟩

/-- The number of a value of any kind; a boolean or a text is none. -/
def exactNumber : Value → Option ℚ
  | .int n => some n
  | .float (.finite x) => some x.toRat
  | .decimal d => d.toRat?
  | _ => none

def Arithmetic.exact : Arithmetic where
  isValid v := .ok (exactNumber v).isSome
  operand v := (exactNumber v).elim (.error (.ofStd .typeError)) .ok
  toExact := exactNumber
  strict v := .ok (exactNumber v)
  rounded := .ok

section Limits

variable (A : Arithmetic)

/-- `critique` of a price change. -/
def critiquePriceChange (payload : Dict) (currentValue : Option ℚ) :
    Except PyException CriticVerdict :=
  match validatePositiveBaseline currentValue "price change" with
  | .error verdict => .ok verdict
  | .ok current =>
    match payload.find? "new_price" with
    | none => .ok (blocked "Missing required payload field: new_price.")
    | some value => do
      if ← A.isValid value then return judgePriceChange current (← A.operand value)
      else return blocked "Payload field new_price must be a finite number."

/-- `_classify_price_change`. -/
def classifyChange (payload : Dict) (currentValue : Option ℚ) :
    Except PyException RiskClassification :=
  match currentValue with
  | none => .ok (cannotClassify "price-change"
      "current value must be a finite number greater than zero.")
  | some current =>
    if current ≤ 0 then
      .ok (cannotClassify "price-change" "current value must be greater than zero.")
    else
      match payload.find? "new_price" with
      | none => .ok (cannotClassify "price-change" "new_price is missing.")
      | some value => do
        if ← A.isValid value then
          return (A.toExact value).elim (cannotClassify "price-change"
            "numeric values could not be represented exactly.") (judgePriceRisk current)
        else return cannotClassify "price-change" "new_price must be a finite number."

/-- `classify_risk` of a price change. -/
def classifyChangeRisk (payload : Dict) (confidence : ℚ) (currentValue : Option ℚ) :
    Except PyException RiskClassification :=
  if confidence < 0 ∨ 1 < confidence then
    .ok (highRisk
      "Prediction confidence is missing, invalid, or outside the valid range [0, 1].")
  else if confidence < minConfidenceForAutonomousAction then
    .ok (highRisk ("Prediction confidence " ++ fixedText 3 confidence ++ " is below the " ++
      fixedText 2 minConfidenceForAutonomousAction ++
      " risk threshold; human review is required.") true)
  else classifyChange A payload currentValue

/-- `_validate_price_change_against_opportunity`. -/
def validateProposedPrice (payload : Dict) (o : Opportunity) : Except PyException Bool :=
  if hasPriceChangeKeys payload then
    match payload.get "menu_item_id" with
    | .str menuItemId =>
      if menuItemId = "" ∨ menuItemId ∉ o.affectedEntityIds then .ok false
      else do
        let newPrice ← A.strict (payload.get "new_price")
        let currentPrice ← A.strict (o.evidence.get "current_price")
        match newPrice, currentPrice with
        | some newPrice, some currentPrice =>
          if newPrice ≤ 0 ∨ currentPrice ≤ 0 then return false
          else
            let change ← A.rounded (newPrice - currentPrice)
            let ratio ← A.rounded (|change| / currentPrice)
            return ratio ≤ maxPriceChangePct
        | _, _ => return false
    | _ => .ok false
  else .ok false

/-- `validate_candidate_against_opportunity`. -/
def validateProposal (c : CandidateAction) (o : Opportunity) : Except PyException Bool :=
  if c.opportunityId ≠ o.id then .ok false
  else
    match c.actionType with
    | .priceChange => validateProposedPrice A c.payload o
    | _ => .ok false

end Limits

/-! ### The functions themselves -/

section Python

variable (O : Outside) (payload : Dict) (currentValue : Option ℚ)

theorem critique_python : critique O .priceChange payload currentValue =
    critiquePriceChange .python payload currentValue := by
  simp only [critique, critiquePrice, critiquePriceChange, validatePayloadNumber]
  cases validatePositiveBaseline currentValue "price change" with
  | error verdict => rfl
  | ok current =>
    cases payload.find? "new_price" with
    | none => rfl
    | some value =>
      change (isValidNumeric value >>= _) >>= _ = isValidNumeric value >>= _
      cases isValidNumeric value with
      | error e => rfl
      | ok valid =>
        cases valid with
        | false => rfl
        | true => rfl

theorem classifyRisk_python (confidence : ℚ) :
    classifyRisk O .priceChange payload confidence currentValue =
      classifyChangeRisk .python payload confidence currentValue :=
  rfl

theorem validateCandidate_python (c : CandidateAction) (o : Opportunity) :
    validateCandidateAgainstOpportunity c o = validateProposal .python c o := by
  unfold validateCandidateAgainstOpportunity validateProposal
  split_ifs
  · rfl
  · cases c.actionType with
    | priceChange =>
      dsimp only
      unfold validatePriceChangeAgainstOpportunity validateProposedPrice
      split_ifs
      · cases c.payload.get "menu_item_id" with
        | str menuItemId =>
          dsimp only
          split_ifs
          · rfl
          · refine congrArg _ (funext fun newPrice => congrArg _ (funext fun currentPrice => ?_))
            cases newPrice with
            | none => rfl
            | some newPrice =>
              cases currentPrice with
              | none => rfl
              | some currentPrice => rfl
        | none | bool _ | int _ | float _ | decimal _ | list _ | dict _ => rfl
      · rfl
    | supplierSwitch | menuSwap | staffingChange => rfl

end Python

end OpsCopilot
