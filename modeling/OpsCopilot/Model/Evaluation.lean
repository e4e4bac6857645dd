import OpsCopilot.Model.NumericCritic

/-!
# Evaluation records and their metrics

The constructor of `EvaluationRecord` and `evaluate` of `Component_7`. A numeric field of a record
keeps the object that it was given, which may be a number of any kind or a text. Sums are exact
here; every other operation is rounded as Python rounds it.
-/

namespace OpsCopilot

open Python Fallible

/-! ### Records -/

/-- How the standard library reads texts. -/
structure TextReaders where
  /-- `str(UUID(s))`; `none` for a `ValueError`. -/
  uuid : String → Option String
  /-- `float(s)`; `none` for a `ValueError`. -/
  number : String → Option PyFloat

/-- The arguments of the constructor. -/
structure RecordFields where
  tenantId : Value
  recordId : Value
  decisionId : Value := .none
  actionType : Value := .none
  opportunityWasCorrect : Value := .none
  candidateWasValid : Value := .none
  decisionSucceeded : Value := .none
  humanOverrode : Value := .none
  policyViolation : Value := .none
  isolationBreach : Value := .none
  executionFailed : Value := .none
  retryCount : Value := .none
  autonomous : Value := .none
  latencyMs : Value := .none
  costUsd : Value := .none
  predictedEconomicImpact : Value := .none
  actualEconomicImpact : Value := .none

/-- A record that passed the checks; `none` is an unknown signal. -/
structure EvaluationRecord where
  tenantId : String
  recordId : String
  decisionId : Option String
  actionType : Option String
  opportunityWasCorrect : Option Bool
  candidateWasValid : Option Bool
  decisionSucceeded : Option Bool
  humanOverrode : Option Bool
  policyViolation : Option Bool
  isolationBreach : Option Bool
  executionFailed : Option Bool
  retryCount : Option ℕ
  autonomous : Option Bool
  latencyMs : Option Value
  costUsd : Option Value
  predictedEconomicImpact : Option Value
  actualEconomicImpact : Option Value

section Constructor

variable (R : TextReaders)

def canonicalTenantId (tenantId : Value) : Except PyException String :=
  match tenantId with
  | .str s =>
    if strip s = "" ∨ '\x00' ∈ s.toList then
      .error ⟨.valueError, "tenant_id must be a non-empty UUID string"⟩
    else (R.uuid (strip s)).elim (.error ⟨.valueError, "tenant_id must be a valid UUID string"⟩) .ok
  | _ => .error ⟨.valueError, "tenant_id must be a non-empty UUID string"⟩

/-- `math.isfinite` of the float that was read from a value. -/
def finiteOnly (fieldName : String) : PyFloat → Except PyException (Option ℚ)
  | .finite x => .ok (some x.toRat)
  | _ => .error ⟨.valueError, fieldName ++ " must be finite"⟩

/-- `_optional_finite`. -/
def optionalFinite (v : Value) (fieldName : String) : Except PyException (Option ℚ) :=
  match v with
  | .none => .ok none
  | .bool _ => .error ⟨.typeError, fieldName ++ " must be numeric, not bool"⟩
  | .int n => if overflowsFloat n then .error (.ofStd .overflowError) else .ok (some (binary64 n))
  | .float x => finiteOnly fieldName x
  | .decimal (.finite neg coeff exp) =>
    if overflowsFloat (decimalRat neg coeff exp) then
      .error ⟨.valueError, fieldName ++ " must be finite"⟩
    else .ok (some (binary64 (decimalRat neg coeff exp)))
  | .decimal _ => .error ⟨.valueError, fieldName ++ " must be finite"⟩
  | .str s => (R.number s).elim (.error ⟨.typeError, fieldName ++ " must be numeric"⟩)
      (finiteOnly fieldName)
  | .list _ | .dict _ => .error ⟨.typeError, fieldName ++ " must be numeric"⟩

/-- A numeric field: it is read for the check, and kept as it is. -/
def numericField (nonnegative : Bool) (v : Value) (fieldName : String) :
    Except PyException (Option Value) := do
  let number ← optionalFinite R v fieldName
  match number with
  | none => return none
  | some number =>
    raiseIf (nonnegative = true ∧ number < 0)
      ⟨.valueError, fieldName ++ " must be non-negative"⟩
    return some v

def requiredTextField (v : Value) (fieldName : String) : Except PyException String :=
  match v with
  | .str s =>
    if strip s = "" then .error ⟨.valueError, fieldName ++ " must be a non-empty string"⟩
    else .ok s
  | _ => .error ⟨.valueError, fieldName ++ " must be a non-empty string"⟩

def optionalTextField (v : Value) (fieldName : String) : Except PyException (Option String) :=
  match v with
  | .none => .ok none
  | .str s =>
    if strip s = "" then
      .error ⟨.valueError, fieldName ++ " must be a non-empty string when supplied"⟩
    else .ok (some s)
  | _ => .error ⟨.valueError, fieldName ++ " must be a non-empty string when supplied"⟩

def optionalBoolField (v : Value) (fieldName : String) : Except PyException (Option Bool) :=
  match v with
  | .none => .ok none
  | .bool b => .ok (some b)
  | _ => .error ⟨.typeError, fieldName ++ " must be bool or None"⟩

/-- The check of `retry_count`. -/
def optionalCountField (v : Value) : Except PyException (Option ℕ) :=
  match v with
  | .none => .ok none
  | .int n =>
    if n < 0 then .error ⟨.valueError, "retry_count must be a non-negative integer or None"⟩
    else .ok (some n.toNat)
  | _ => .error ⟨.valueError, "retry_count must be a non-negative integer or None"⟩

/-- The constructor with its `__post_init__`. -/
def EvaluationRecord.construct (f : RecordFields) : Except PyException EvaluationRecord := do
  let tenantId ← canonicalTenantId R f.tenantId
  let recordId ← requiredTextField f.recordId "record_id"
  let decisionId ← optionalTextField f.decisionId "decision_id"
  let actionType ← optionalTextField f.actionType "action_type"
  let opportunityWasCorrect ← optionalBoolField f.opportunityWasCorrect "opportunity_was_correct"
  let candidateWasValid ← optionalBoolField f.candidateWasValid "candidate_was_valid"
  let decisionSucceeded ← optionalBoolField f.decisionSucceeded "decision_succeeded"
  let humanOverrode ← optionalBoolField f.humanOverrode "human_overrode"
  let policyViolation ← optionalBoolField f.policyViolation "policy_violation"
  let isolationBreach ← optionalBoolField f.isolationBreach "isolation_breach"
  let executionFailed ← optionalBoolField f.executionFailed "execution_failed"
  let autonomous ← optionalBoolField f.autonomous "autonomous"
  let retryCount ← optionalCountField f.retryCount
  let latencyMs ← numericField R true f.latencyMs "latency_ms"
  let costUsd ← numericField R true f.costUsd "cost_usd"
  let predictedEconomicImpact ←
    numericField R false f.predictedEconomicImpact "predicted_economic_impact"
  let actualEconomicImpact ← numericField R false f.actualEconomicImpact "actual_economic_impact"
  return { tenantId, recordId, decisionId, actionType, opportunityWasCorrect, candidateWasValid,
           decisionSucceeded, humanOverrode, policyViolation, isolationBreach, executionFailed,
           retryCount, autonomous, latencyMs, costUsd, predictedEconomicImpact,
           actualEconomicImpact }

end Constructor

/-! ### Metrics -/

structure EvaluationMetrics where
  recordCount : ℕ
  opportunityDetectionAccuracy : Option ℚ
  candidateActionValidity : Option ℚ
  decisionSuccessRate : Option ℚ
  autonomousActionRate : Option ℚ
  humanOverrideRate : Option ℚ
  policyViolationRate : Option ℚ
  isolationBreachCount : ℕ
  executionFailureRate : Option ℚ
  retryRate : Option ℚ
  meanDecisionLatencyMs : Option Number
  meanCostPerDecisionUsd : Option Number
  meanAbsolutePredictionError : Option Number
  meanRelativePredictionError : Option Number

/-- `round(matches / len(known), 4)`. -/
def roundedShare (found known : ℕ) : ℚ := binary64 (pyRound 4 (binary64 (found / known)))

/-- `_rate`, for the values that are known. -/
def rate {α : Type} (counts : α → Bool) (known : List α) : Option ℚ :=
  if known.isEmpty then none else some (roundedShare (known.countP counts) known.length)

/-- A value as an operand; a text is none. -/
def operand (v : Value) : Except PyException Number :=
  (finiteNumber v).elim (.error (.ofStd .typeError)) .ok

/-- `x + y` in a sum, which is taken exactly. -/
def Number.add : Number → Number → Except PyException Number
  | .int m, .int n => .ok (.int (m + n))
  | .float p, .float q => .ok (.float (p + q))
  | .decimal p, .decimal q => .ok (.decimal (p + q))
  | .decimal p, .int n | .int n, .decimal p => .ok (.decimal (p + n))
  | .float p, .int n | .int n, .float p =>
    -- The integer is converted first.
    if overflowsFloat n then .error (.ofStd .overflowError) else .ok (.float (p + n))
  | .float _, .decimal _ | .decimal _, .float _ => .error (.ofStd .typeError)

/-- `abs(x)` of a number that is no result of the context. -/
def Number.absolute : Number → Except PyException Number
  | .decimal q => decimalResult |q|
  | x => .ok x.abs

/-- `x / y`, where the context may have rounded `y` to zero. -/
def Number.divide (x y : Number) : Except PyException Number :=
  if y.value = 0 then .error ⟨.divisionByZero, "[<class 'decimal.DivisionByZero'>]"⟩ else x.div y

/-- `x / len(values)`; no list is longer than a float can count. -/
def Number.overLength (length : ℕ) : Number → Except PyException Number
  | .int n =>
    if overflowsFloat ((n : ℚ) / length) then .error (.ofStd .overflowError)
    else .ok (.float (binary64 ((n : ℚ) / length)))
  | .float q => .ok (.float (binary64 (q / length)))
  | .decimal q => decimalResult (q / length)

/-- `round(x, 4)`; a `Decimal` is quantized, which needs 28 digits to suffice. -/
def Number.roundFour : Number → Except PyException Number
  | .int n => .ok (.int n)
  | .float q => .ok (.float (binary64 (pyRound 4 q)))
  | .decimal q =>
    if 10 ^ 28 ≤ roundHalfEven (|q| * 10 ^ 4) then .error (.ofStd .invalidOperation)
    else .ok (.decimal (pyRound 4 q))

/-- `sum(values)`. -/
def sumNumbers {α : Type} (read : α → Except PyException Number) (values : List α) :
    Except PyException Number :=
  values.foldlM (fun acc v => do acc.add (← read v)) (.int 0)

/-- `average` of `evaluate`. -/
def average {α : Type} (read : α → Except PyException Number) (values : List α) :
    Except PyException (Option Number) :=
  if values.isEmpty then .ok none
  else do return some (← (← (← sumNumbers read values).overLength values.length).roundFour)

/-- `abs(predicted - actual)`. -/
def absoluteError (pair : Value × Value) : Except PyException Number := do
  return (← (← operand pair.1).sub (← operand pair.2)).abs

/-- `abs(predicted - actual) / abs(actual)`. -/
def relativeError (pair : Value × Value) : Except PyException Number := do
  (← absoluteError pair).divide (← (← operand pair.2).absolute)

/-- `actual != 0`. -/
def hasBaseline (pair : Value × Value) : Bool :=
  (finiteNumber pair.2).elim true (fun x => x.value ≠ 0)

/-- The prediction and the outcome of a record that has both. -/
def EvaluationRecord.impacts (r : EvaluationRecord) : Option (Value × Value) := do
  return (← r.predictedEconomicImpact, ← r.actualEconomicImpact)

/-- The metrics around the four averages. -/
def EvaluationMetrics.ofRecords (records : List EvaluationRecord)
    (latency cost absoluteError relativeError : Option Number) : EvaluationMetrics where
  recordCount := records.length
  opportunityDetectionAccuracy := rate id (records.filterMap (·.opportunityWasCorrect))
  candidateActionValidity := rate id (records.filterMap (·.candidateWasValid))
  decisionSuccessRate := rate id (records.filterMap (·.decisionSucceeded))
  autonomousActionRate := rate id (records.filterMap (·.autonomous))
  humanOverrideRate := rate id (records.filterMap (·.humanOverrode))
  policyViolationRate := rate id (records.filterMap (·.policyViolation))
  isolationBreachCount := (records.filterMap (·.isolationBreach)).countP id
  executionFailureRate := rate id (records.filterMap (·.executionFailed))
  retryRate := rate (0 < ·) (records.filterMap (·.retryCount))
  meanDecisionLatencyMs := latency
  meanCostPerDecisionUsd := cost
  meanAbsolutePredictionError := absoluteError
  meanRelativePredictionError := relativeError

def evaluate (R : TextReaders) (tenantId : Value) (records : List EvaluationRecord) :
    Except PyException EvaluationMetrics := do
  let tenantId ← canonicalTenantId R tenantId
  raiseIf (∃ r ∈ records, r.tenantId ≠ tenantId)
    ⟨.valueError, "records must all belong to tenant_id"⟩
  let paired := records.filterMap (·.impacts)
  let absoluteErrors ← paired.mapM absoluteError
  let relativeErrors ← (paired.filter hasBaseline).mapM relativeError
  let latency ← average operand (records.filterMap (·.latencyMs))
  let cost ← average operand (records.filterMap (·.costUsd))
  let meanAbsoluteError ← average .ok absoluteErrors
  let meanRelativeError ← average .ok relativeErrors
  return EvaluationMetrics.ofRecords records latency cost meanAbsoluteError meanRelativeError

end OpsCopilot
