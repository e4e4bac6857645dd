import OpsCopilot.Model.Simulator
import OpsCopilot.Model.Policy

/-!
# Decisions, approvals and the execution log

The transactions of the decision engine, of the approval workflow and of the tool framework on
their tables. Each is a function on the database that fails or commits as a whole.
-/

namespace OpsCopilot

open Python Sql Fallible

def foreignKeyViolation : PyException := ⟨.integrityError, "violates foreign key constraint"⟩

/-- A number written into a fixed-point column. -/
def storeRat (precision scale : ℕ) (q : ℚ) : Except PyException (Numeric precision scale) :=
  (Numeric.store? precision scale q).elim (.error ⟨.dataError, "numeric field overflow"⟩) .ok

/-- The float that a four-digit number is reported as. -/
def fourDigits (q : ℚ) : Value :=
  .float (.finite (.ofDigits (q < 0) (roundHalfEven (q * 10 ^ 4)).natAbs (-4)))

def ActualOutcome.toDict (a : ActualOutcome) : Dict :=
  [(.str "margin_change_pct", fourDigits a.marginChangePct),
    (.str "demand_change_pct", fourDigits a.demandChangePct),
    (.str "stockout_occurred", .bool a.stockoutOccurred)]

/-! ### Decisions -/

def confidenceThreshold : ℚ := 1 / 2

def DecisionStatus.value : DecisionStatus → String
  | .proposed => "proposed"
  | .simulated => "simulated"
  | .heldLowConfidence => "held_low_confidence"
  | .executed => "executed"
  | .evaluated => "evaluated"

def Db.decision? (db : Db) (tenantId id : String) : Option Decision :=
  db.decisions.find? (fun r => r.id = id ∧ r.tenantId = tenantId)

def Db.changeDecision (db : Db) (tenantId id : String) (f : Decision → Decision) : Db :=
  { db with
    decisions := db.decisions.map (fun r => if r.id = id ∧ r.tenantId = tenantId then f r else r) }

/-- The insert of `propose_and_simulate`, and the row as it is read back. -/
def persistDecision (tenantId : String) (actionType : ActionType) (payload : Dict)
    (predicted : PredictedOutcome) (id : String) (db : Db) : Except PyException (Db × Decision) := do
  let stored ← storeJson (.dict payload)
  let confidence ← storeRat 5 4 predicted.confidence
  raiseIf (tenantId ∉ db.tenants) foreignKeyViolation
  raiseIf (db.decisions.any (fun r => r.id = id)) duplicateKey
  let cleared := decide (confidenceThreshold ≤ predicted.confidence)
  let decision : Decision :=
    ⟨id, tenantId, actionType, stored, predicted, confidence, cleared, none, none,
      if cleared then .simulated else .heldLowConfidence, none⟩
  return ({ db with decisions := db.decisions ++ [decision] }, decision)

def decisionState (message : String) : PyException := ⟨.decisionStateError, message⟩

def validateDecisionId (decisionId : String) : Except PyException String :=
  if strip decisionId = "" then .error ⟨.valueError, "decision_id must not be empty"⟩
  else if '\x00' ∈ (strip decisionId).toList then
    .error ⟨.valueError, "decision_id contains invalid null bytes"⟩
  else .ok (strip decisionId)

/-- Phase 1 of `execute_and_observe`: the claim under the row lock. -/
def claimDecision (tenantId decisionId : String) (db : Db) : Except PyException (Db × Decision) :=
  match db.decision? tenantId decisionId with
  | none => .error ⟨.decisionNotFoundError, "decision not found"⟩
  | some decision => do
    raiseIf (decision.confidenceThresholdCleared = false)
      (decisionState ("cannot auto-execute a decision that did not clear the confidence threshold; "
        ++ "requires human override (Component 6)"))
    raiseIf (decision.status ≠ .simulated)
      (decisionState ("decision cannot be executed from state " ++ decision.status.value))
    return (db.changeDecision tenantId decisionId (fun r => { r with status := .executed }),
      decision)

/-! ### Observation -/

def baseMarginNoiseStddev : ℚ := 3 / 100

def baseDemandNoiseStddev : ℚ := 1 / 25

def surpriseProbability : ℚ := 3 / 20

def surpriseStockoutBonus : ℚ := 1 / 20

def maxStockoutProbability : ℚ := 19 / 20

/-- What an observation draws. A Gaussian draw counts standard deviations; the generator's
uniform draws have 53 bits, which keeps it below nine of them. -/
structure Randomness where
  marginGauss : ℚ
  demandGauss : ℚ
  surpriseRoll : ℚ
  surpriseMagnitude : ℚ
  surpriseDown : Bool
  stockoutRoll : ℚ
  margin_bounded : |marginGauss| ≤ 9
  demand_bounded : |demandGauss| ≤ 9
  magnitude_in_range : 2 / 25 ≤ surpriseMagnitude ∧ surpriseMagnitude ≤ 1 / 5

def observeActualOutcome (predicted : PredictedOutcome) (r : Randomness) : ActualOutcome :=
  let surprise := decide (r.surpriseRoll < surpriseProbability)
  let magnitude :=
    if surprise then r.surpriseMagnitude * (if r.surpriseDown then -1 else 1) else 0
  let bonus := if surprise then surpriseStockoutBonus else 0
  let probability := max 0 (min (predicted.stockoutRisk + bonus) maxStockoutProbability)
  ⟨pyRound 4 (predicted.marginChangePct + r.marginGauss * baseMarginNoiseStddev + magnitude),
    pyRound 4 (predicted.demandChangePct + r.demandGauss * baseDemandNoiseStddev +
      magnitude * (1 / 2)),
    r.stockoutRoll < probability⟩

/-- `_calibration_error`. -/
def calibrationErrorOf (predicted : PredictedOutcome) (actual : ActualOutcome) : ℚ :=
  pyRound 4 ((|predicted.marginChangePct - actual.marginChangePct| +
    |predicted.demandChangePct - actual.demandChangePct|) / 2)

/-- What `execute_and_observe` reports of an evaluated decision. -/
structure Evaluation where
  actual : ActualOutcome
  error : Numeric 8 4
deriving DecidableEq

/-- Phase 3: the observation is written to a decision that is still executed. -/
def evaluateDecision (tenantId decisionId : String) (predicted : PredictedOutcome) (r : Randomness)
    (now : Timestamp) (db : Db) : Except PyException (Db × Evaluation) := do
  let actual := observeActualOutcome predicted r
  raiseIf (¬(db.decision? tenantId decisionId).any (fun d => d.status = .executed))
    (decisionState "decision is no longer available for evaluation")
  let error ← storeRat 8 4 (calibrationErrorOf predicted actual)
  return (db.changeDecision tenantId decisionId (fun d => { d with
    actualOutcome := some actual
    calibrationError := some error
    status := .evaluated
    evaluatedAt := some now }), ⟨actual, error⟩)

/-! ### Approval requests -/

/-- The arguments of `ApprovalWorkflow.resolve` that a reviewer decides. -/
structure Review where
  approved : Bool
  reviewerId : String
  overrideReason : Option String

def Review.status (v : Review) : ApprovalStatus := if v.approved then .approved else .rejected

def Db.approvalOf? (db : Db) (tenantId decisionId : String) : Option ApprovalRequestRecord :=
  db.approvalRequests.find? (fun r => r.tenantId = tenantId ∧ r.decisionId = decisionId)

def Db.approval? (db : Db) (tenantId requestId : String) : Option ApprovalRequestRecord :=
  db.approvalRequests.find? (fun r => r.tenantId = tenantId ∧ r.id = requestId)

def approvalNotFound : PyException := ⟨.keyError, "approval request not found for tenant"⟩

def alreadyResolved : PyException :=
  ⟨.valueError, "approval request has already been resolved"⟩

/-- `ApprovalWorkflow.request`: the insert does nothing when the decision has a request. -/
def requestApproval (tenantId decisionId reason id : String) (db : Db) :
    Except PyException (Db × ApprovalRequestRecord) := do
  let decisionId ← bindText decisionId
  let reason ← bindText reason
  match db.approvalOf? tenantId decisionId with
  | some row => return (db, row)
  | none =>
    raiseIf (db.decision? tenantId decisionId = none) foreignKeyViolation
    raiseIf (db.approvalRequests.any (fun r => r.id = id)) duplicateKey
    let row : ApprovalRequestRecord :=
      ⟨id, tenantId, decisionId, reason, .pending, none, none⟩
    return ({ db with approvalRequests := db.approvalRequests ++ [row] }, row)

/-- `ApprovalWorkflow.get`. -/
def getApproval (tenantId requestId : String) (db : Db) :
    Except PyException ApprovalRequestRecord := do
  let requestId ← bindText requestId
  (db.approval? tenantId requestId).elim (.error approvalNotFound) .ok

/-- `ApprovalWorkflow.resolve`: the update is conditional on the status `pending`. -/
def resolveRequest (tenantId requestId : String) (v : Review) (db : Db) :
    Except PyException (Db × ApprovalRequestRecord) := do
  raiseIf (strip v.reviewerId = "") ⟨.valueError, "reviewer_id is required"⟩
  let requestId ← bindText requestId
  let reviewerId ← bindText v.reviewerId
  let overrideReason ← v.overrideReason.mapM bindText
  match db.approval? tenantId requestId with
  | none => throw approvalNotFound
  | some row =>
    raiseIf (row.status ≠ .pending) alreadyResolved
    let resolve := fun (r : ApprovalRequestRecord) => { r with
      status := v.status
      reviewerId := some reviewerId
      overrideReason := overrideReason }
    return ({ db with
      approvalRequests := db.approvalRequests.map (fun r =>
        if r.tenantId = tenantId ∧ r.id = requestId then resolve r else r) }, resolve row)

/-! ### The execution log -/

def toolCategory : ActionType → String
  | .supplierSwitch => "procurement"
  | .priceChange => "pricing"
  | .staffingChange => "staffing"
  | .menuSwap => "menu"

/-- The arguments of `_log`. The table's constraint: only what has passed both gates is logged as
executed. -/
structure LogEntry where
  tenantId : String
  decisionId : Option String
  actionType : ActionType
  confidenceGatePassed : Bool
  criticApproved : Option Bool
  criticReason : Option String
  executed : Bool
  payload : Dict
  gates_passed : executed = true → confidenceGatePassed = true ∧ criticApproved = some true

/-- `_log`. -/
def writeLog (entry : LogEntry) (now : Timestamp) (db : Db) : Except PyException Db := do
  let stored ← storeJson (.dict entry.payload)
  raiseIf (entry.tenantId ∉ db.tenants) foreignKeyViolation
  raiseIf (entry.decisionId.any (fun id => (db.decision? entry.tenantId id).isNone))
    foreignKeyViolation
  return { db with
    toolExecutionLog := db.toolExecutionLog ++
      [⟨entry.tenantId, entry.decisionId, toolCategory entry.actionType, entry.actionType,
        entry.confidenceGatePassed, entry.criticApproved, entry.criticReason, entry.executed,
        stored, now⟩] }

end OpsCopilot
