import OpsCopilot.Lib.PyRound
import OpsCopilot.Model.Projections

/-!
# The policy gates

The critic of Component 4 and the risk classifier of Component 6. Both judge an action against the
current price; they read the payload on their own, and neither uses the database.
-/

namespace OpsCopilot

open Python Sql Fallible

/-! ### Numbers that a policy accepts -/

/-- `math.isfinite` of an integer that no float holds raises. -/
def isValidNumeric : Value → Except PyException Bool
  | .int n => if overflowsFloat n then .error (.ofStd .overflowError) else .ok true
  | .float (.finite _) | .decimal (.finite ..) => .ok true
  | _ => .ok false

/-- The number of an operand beside a float; a `Decimal` and a float do not mix. -/
def floatOperand : Value → Except PyException ℚ
  | .int n => .ok n
  | .float (.finite x) => .ok x.toRat
  | _ => .error (.ofStd .typeError)

/-- `_to_exact_decimal`; `none` where it raises. -/
def toExactDecimal (v : Value) : Option ℚ := v.toDecimal.bind PyDecimal.toRat?

/-! ### The critic -/

structure CriticVerdict where
  approved : Bool
  reason : String
deriving DecidableEq

def maxPriceChangePct : ℚ := 3 / 10

def maxSupplierPriceIncreasePct : ℚ := 1 / 2

def maxHeadcountDelta : ℕ := 5

def blocked (reason : String) : CriticVerdict := ⟨false, reason⟩

def approved (reason : String) : CriticVerdict := ⟨true, reason⟩

/-- `_validate_positive_baseline`. -/
def validatePositiveBaseline (currentValue : Option ℚ) (fieldName : String) :
    Except CriticVerdict ℚ :=
  match currentValue with
  | none => .error (blocked ("Cannot evaluate " ++ fieldName ++ ": current value is missing."))
  | some current =>
    if current ≤ 0 then
      .error (blocked ("Cannot evaluate " ++ fieldName ++
        ": current value must be greater than zero."))
    else .ok current

/-- `_validate_payload_number`: the field, or the verdict that blocks the action. -/
def validatePayloadNumber (payload : Dict) (fieldName : String) :
    Except PyException (Except CriticVerdict Value) :=
  match payload.find? fieldName with
  | none => .ok (.error (blocked ("Missing required payload field: " ++ fieldName ++ ".")))
  | some v => do
    if ← isValidNumeric v then return .ok v
    else return .error (blocked ("Payload field " ++ fieldName ++ " must be a finite number."))

/-- A check of a new price against the current one; `judge` compares the two. -/
def critiquePrice (payload : Dict) (currentValue : Option ℚ) (subject field : String)
    (judge : ℚ → ℚ → CriticVerdict) : Except PyException CriticVerdict :=
  match validatePositiveBaseline currentValue subject with
  | .error verdict => .ok verdict
  | .ok current => do
    match ← validatePayloadNumber payload field with
    | .error verdict => return verdict
    | .ok value => return judge current (← floatOperand value)

def judgePriceChange (current newPrice : ℚ) : CriticVerdict :=
  let pctChange := |newPrice - current| / current
  if maxPriceChangePct < pctChange then
    blocked ("Price change of " ++ percentText 0 pctChange ++ " exceeds the " ++
      percentText 0 maxPriceChangePct ++ " hard limit, regardless of simulator confidence.")
  else approved "Within price-change bounds."

def judgeSupplierSwitch (current newPrice : ℚ) : CriticVerdict :=
  let pctChange := (newPrice - current) / current
  if maxSupplierPriceIncreasePct < pctChange then
    blocked ("New supplier cost is " ++ signedPercentText 0 pctChange ++
      " vs. current — exceeds the " ++ percentText 0 maxSupplierPriceIncreasePct ++
      " increase limit.")
  else approved "Within supplier cost-change bounds."

/-- Whether a number is an integer. -/
def isIntegral : Value → Bool
  | .float (.finite x) => x.toRat.den = 1
  | .decimal (.finite neg coeff exp) => (decimalRat neg coeff exp).den = 1
  | _ => true

/-- `f"{n:+d}"`. -/
def signedIntText (n : ℤ) : String :=
  (if n < 0 then "" else "+") ++ String.ofList (intText n)

def critiqueStaffing (O : Outside) (payload : Dict) : Except PyException CriticVerdict :=
  match payload.find? "headcount_delta" with
  | none => .ok (blocked "Missing required payload field: headcount_delta.")
  | some delta => do
    if ← isValidNumeric delta then
      if isIntegral delta then
        let integerDelta ← liftStd delta.toInt
        if maxHeadcountDelta < integerDelta.natAbs then
          return blocked ("Headcount change of " ++ signedIntText integerDelta ++
            " exceeds the +/-5 hard limit.")
        else return approved "Within staffing-change bounds."
      else
        return blocked ("Headcount change of " ++ pyStr O delta ++ " must be an integer.")
    else return blocked "Payload field headcount_delta must be a finite number."

def critique (O : Outside) (actionType : ActionType) (payload : Dict) (currentValue : Option ℚ) :
    Except PyException CriticVerdict :=
  match actionType with
  | .priceChange => critiquePrice payload currentValue "price change" "new_price" judgePriceChange
  | .supplierSwitch =>
    critiquePrice payload currentValue "supplier cost change" "new_supplier_price"
      judgeSupplierSwitch
  | .staffingChange => critiqueStaffing O payload
  | .menuSwap =>
    .ok (approved "Menu changes are not currently bounded by the critic — see limitations.")

/-! ### The risk classifier -/

inductive RiskLevel where
  | low
  | medium
  | high
deriving DecidableEq

def RiskLevel.value : RiskLevel → String
  | .low => "LOW"
  | .medium => "MEDIUM"
  | .high => "HIGH"

structure RiskClassification where
  riskLevel : RiskLevel
  reversible : Bool
  requiresApproval : Bool
  reason : String
deriving DecidableEq

def minConfidenceForAutonomousAction : ℚ := 4 / 5

def smallPriceChangePct : ℚ := 1 / 10

def highRisk (reason : String) (reversible : Bool := false) : RiskClassification :=
  ⟨.high, reversible, true, reason⟩

def mediumRisk (reason : String) : RiskClassification := ⟨.medium, true, true, reason⟩

def lowRisk (reason : String) : RiskClassification := ⟨.low, true, false, reason⟩

/-- The start of the reasons for which a change cannot be classified. -/
def cannotClassify (subject problem : String) : RiskClassification :=
  highRisk ("Cannot classify " ++ subject ++ " risk: " ++ problem)

def judgePriceRisk (current newPrice : ℚ) : RiskClassification :=
  if newPrice < 0 then cannotClassify "price-change" "new_price cannot be negative."
  else
    let pctChange := |newPrice - current| / current
    if maxPriceChangePct < pctChange then
      highRisk ("Price change of " ++ percentText 2 pctChange ++ " exceeds the critic's " ++
        percentText 2 maxPriceChangePct ++ " hard limit.")
    else if pctChange ≤ smallPriceChangePct then
      lowRisk ("Small price change of " ++ percentText 2 pctChange ++
        "; reversible and eligible for autonomous execution.")
    else
      mediumRisk ("Price change of " ++ percentText 2 pctChange ++ " is larger than the " ++
        percentText 2 smallPriceChangePct ++
        " autonomous threshold and requires human approval.")

def judgeSupplierRisk (newPrice : ℚ) : RiskClassification :=
  if newPrice < 0 then
    cannotClassify "supplier-switch" "new_supplier_price cannot be negative."
  else
    mediumRisk "Supplier switches affect procurement relationships and require human approval."

/-- The part that the two price classifiers share; `inexact` is reported for a number without an
exact value. -/
def classifyPrice (payload : Dict) (currentValue : Option ℚ) (subject field inexact : String)
    (judge : ℚ → ℚ → RiskClassification) : Except PyException RiskClassification :=
  match currentValue with
  | none => .ok (cannotClassify subject
      "current value must be a finite number greater than zero.")
  | some current =>
    if current ≤ 0 then .ok (cannotClassify subject "current value must be greater than zero.")
    else
      match payload.find? field with
      | none => .ok (cannotClassify subject (field ++ " is missing."))
      | some value => do
        if ← isValidNumeric value then
          return (toExactDecimal value).elim (cannotClassify subject inexact) (judge current)
        else return cannotClassify subject (field ++ " must be a finite number.")

def classifyPriceChange (payload : Dict) (currentValue : Option ℚ) :
    Except PyException RiskClassification :=
  classifyPrice payload currentValue "price-change" "new_price"
    "numeric values could not be represented exactly." judgePriceRisk

def classifySupplierSwitch (payload : Dict) (currentValue : Option ℚ) :
    Except PyException RiskClassification :=
  classifyPrice payload currentValue "supplier-switch" "new_supplier_price"
    "new_supplier_price must be numeric." (fun _ => judgeSupplierRisk)

def classifyMenuSwap (O : Outside) (payload : Dict) : RiskClassification :=
  match payload.find? "action" with
  | some (.str "remove") =>
    highRisk "Menu-item removal is a high-impact action and requires human review before execution."
  | action =>
    highRisk ("Unsupported MENU_SWAP action: " ++ O.containerText (action.getD Value.none) ++
      ". Manual review is required.")

def classifyStaffingChange (payload : Dict) : Except PyException RiskClassification :=
  match payload.find? "headcount_delta" with
  | none => .ok (cannotClassify "staffing-change" "headcount_delta is missing.")
  | some (.bool _) => .ok (cannotClassify "staffing-change" "headcount_delta cannot be boolean.")
  | some delta => do
    if ← isValidNumeric delta then
      if isIntegral delta then
        return mediumRisk "Staffing changes affect scheduled labor and require human approval."
      else
        return highRisk ("Headcount change of " ++
          (delta.toDecimal.elim "" (fun d => String.ofList d.text)) ++ " must be an integer.")
    else return cannotClassify "staffing-change" "headcount_delta must be a finite number."

/-- `classify_risk`, with the confidence of the persisted decision. -/
def classifyRisk (O : Outside) (actionType : ActionType) (payload : Dict) (confidence : ℚ)
    (currentValue : Option ℚ) : Except PyException RiskClassification :=
  if confidence < 0 ∨ 1 < confidence then
    .ok (highRisk
      "Prediction confidence is missing, invalid, or outside the valid range [0, 1].")
  else if confidence < minConfidenceForAutonomousAction then
    .ok (highRisk ("Prediction confidence " ++ fixedText 3 confidence ++ " is below the " ++
      fixedText 2 minConfidenceForAutonomousAction ++
      " risk threshold; human review is required.") true)
  else
    match actionType with
    | .priceChange => classifyPriceChange payload currentValue
    | .supplierSwitch => classifySupplierSwitch payload currentValue
    | .menuSwap => .ok (classifyMenuSwap O payload)
    | .staffingChange => classifyStaffingChange payload

end OpsCopilot
