import OpsCopilot.Lib.Interleaving
import OpsCopilot.Model.Decisions
import OpsCopilot.Model.NumericCritic
import OpsCopilot.Model.StateChange

/-!
# The tool framework

`execute_tool_call`, `execute_approved_tool_call`, the decision engine, the approval workflow and
`resolve_approval`, one process for each call. The atomic steps are the transactions; identifiers,
clock readings and random draws are part of the action. The guard session of
`_serialized_state_change` is a lock that a process holds from one step to a later one.
-/

namespace OpsCopilot

open Python Sql Interleaving

/-! ### Calls -/

inductive ToolCall where
  | execute (tenantId : String) (actionType : ActionType) (payload : Dict)
  | executeApproved (tenantId requestId : String)
  | propose (tenantId : String) (actionType : ActionType) (payload : Dict)
  | observe (tenantId decisionId : String)
  | request (tenantId decisionId reason : String)
  | resolve (tenantId requestId : String) (review : Review)
  | resolveApproval (tenantId requestId : String) (review : Review)

def ToolCall.tenantId : ToolCall → String
  | .execute t _ _ | .executeApproved t _ | .propose t _ _ | .observe t _ | .request t _ _
  | .resolve t _ _ | .resolveApproval t _ _ => t

/-- On whose authority an action is carried out: the gates', which have judged `currentValue`, or
a reviewer's. -/
inductive Authority where
  | policy (currentValue : Option ℚ) (criticReason : String)
  | reviewer (requestId : String)
deriving DecidableEq

/-- An action under way on a decision. -/
structure Work where
  tenantId : String
  decisionId : String
  actionType : ActionType
  payload : Dict
  authority : Authority

/-- Where a call stands. -/
inductive Stage where
  | idle
  | simulated (predicted : PredictedOutcome)
  /-- The decision is persisted and has passed the confidence gate. -/
  | proposed (decision : Decision)
  /-- The lock is held; the current value is not read yet. -/
  | entered (decision : Decision)
  | requesting (decision : Decision) (risk : RiskClassification)
  | auditing (entry : LogEntry) (answer : Dict)
  /-- `resolve_approval` has read the request as pending. -/
  | pendingSeen (decisionId : String)
  | rechecking (decisionId : String) (actionType : ActionType) (payload : Dict)
  | resolving
  /-- `resolve_approval` has approved the request and enters `execute_approved_tool_call`. -/
  | approving
  /-- The request was read as approved. -/
  | approvalSeen (decisionId : String)
  | ready (work : Work)
  | claiming (work : Work)
  | observing (work : Work) (predicted : PredictedOutcome)
  /-- The same in a call of `execute_and_observe` by itself. -/
  | observingAlone (tenantId decisionId : String) (predicted : PredictedOutcome)
  /-- The decision is evaluated; the state change is still to come. -/
  | changing (work : Work) (evaluation : Evaluation)
  | appending (work : Work) (evaluation : Evaluation) (eventType : EventType) (event : Dict)
  | appended (work : Work) (evaluation : Evaluation)
  /-- The result is known and the lock still held. -/
  | leaving (result : Except PyException Dict)
  | finished (result : Except PyException Dict)
  | crashed

/-- A call with the key of the lock that its guard session holds. -/
structure Process where
  guard : Option String
  stage : Stage

def Process.idle : Process := ⟨none, .idle⟩

/-- The call has its result, which it returns once the guard session has ended. -/
def Process.conclude (p : Process) (result : Except PyException Dict) : Process :=
  ⟨p.guard, if p.guard = none then .finished result else .leaving result⟩

def Stage.ended : Stage → Bool
  | .finished _ | .crashed => true
  | _ => false

inductive ToolAction where
  /-- `simulate`, in its own transaction. -/
  | simulate
  | persist (decisionId : String)
  | acquire
  /-- The lock timeout has passed. -/
  | timeout
  /-- The read of the current value, the critic and the risk classifier. -/
  | judge
  | request (requestId : String)
  | log (now : Timestamp)
  | claim
  | observe (draws : Randomness) (now : Timestamp)
  /-- The lookup that completes the payload of the event. -/
  | complete
  | append (draw : Draw)
  /-- The commit of the guard session. -/
  | release
  | get
  | readDecision
  /-- The critic against the current state, in `resolve_approval`. -/
  | recheck
  | resolve
  /-- The database, the network or the code around the transactions raises. -/
  | fault (error : PyException)
  | crash

/-! ### History -/

/-- What has happened, kept for the statements about it; no step reads it. -/
inductive Note where
  /-- A price or cost was read under the lock and passed both gates. -/
  | judged (decisionId : String) (currentValue : Option ℚ)
  /-- The critic approved the decision again for `resolve_approval`, at this current value. -/
  | rechecked (decisionId : String) (currentValue : Option ℚ)
  /-- The event with this identifier was appended for the decision. -/
  | applied (decisionId eventId : String)
deriving DecidableEq

/-- What the calls share. -/
structure ToolStore where
  db : Db
  locks : List String
  history : List Note

def ToolStore.note (s : ToolStore) (n : Note) : ToolStore := { s with history := n :: s.history }

/-! ### Results -/

def unsupportedReason : String :=
  "MENU_SWAP add is unsupported: provide a dedicated menu-create contract " ++
    "with name and initial price before enabling execution"

/-- A result with `executed` false. -/
def refusal (reason : String) (rest : Dict) : Dict :=
  (.str "executed", .bool false) :: (.str "reason", .str reason) :: rest

def numericFloat {precision scale : ℕ} (x : Numeric precision scale) : Value :=
  .float (.finite (.ofDigits (x.coeff < 0) x.coeff.natAbs (-scale)))

def executedAnswer (decisionId : String) (e : Evaluation) : Dict :=
  [(.str "executed", .bool true), (.str "decision_id", .str decisionId),
    (.str "calibration_error", numericFloat e.error),
    (.str "actual_outcome", .dict e.actual.toDict)]

/-- The result of a `Decision` or an approval request, of which only the identifier matters. -/
def rowAnswer (id : String) : Dict := [(.str "id", .str id)]

/-! ### Steps -/

/-- `str(payload.get(field))`. -/
def resourceText (O : Outside) (payload : Dict) (field : String) : String :=
  pyStr O (payload.get field)

def serializationKey (O : Outside) (tenantId : String) (actionType : ActionType) (payload : Dict) :
    String :=
  let resource :=
    match actionType with
    | .priceChange | .menuSwap => resourceText O payload "menu_item_id"
    | .supplierSwitch => resourceText O payload "ingredient_id"
    | .staffingChange => "*"
  "tool_framework:" ++ tenantId ++ ":" ++ actionType.value ++ ":" ++ resource

/-- The price column that `_current_value_for_critic` reads. -/
def currentColumnForCritic (T : Tables) (tenantId : String) (actionType : ActionType)
    (payload : Dict) : Except PyException (Option (Column 10 2)) := do
  match actionType with
  | .priceChange =>
    let key ← filterText (payload.get "menu_item_id")
    return (key.bind (T.menuItem? tenantId)).map MenuItem.currentPrice
  | .supplierSwitch =>
    let key ← filterText (payload.get "ingredient_id")
    return (key.bind (T.ingredient? tenantId)).map Ingredient.currentPrice
  | _ => return none

/-- `_current_value_for_critic`, as a number: the float of a price is written with the digits of the
column. -/
def currentValueForCritic (T : Tables) (tenantId : String) (actionType : ActionType)
    (payload : Dict) : Except PyException (Option ℚ) :=
  (currentColumnForCritic T tenantId actionType payload).map (Option.map Column.toRat)

/-- `float(current_price)`, or `None` without a row. -/
def columnFloat : Option (Column 10 2) → Value
  | none => .none
  | some (.number x) => numericFloat x
  | some .nan => .float .nan

/-- `critique` with the value of the column that was read. -/
def critiqueColumn (O : Outside) (actionType : ActionType) (payload : Dict)
    (column : Option (Column 10 2)) : Except PyException CriticVerdict :=
  match actionType with
  | .priceChange => pricePolicy.critique payload (columnFloat column)
  | .supplierSwitch => supplierPolicy.critique payload (columnFloat column)
  | a => critique O a payload none

/-- What the gates under the lock decide. -/
inductive Ruling where
  | block (reason : String)
  | review (risk : RiskClassification)
  | proceed (currentValue : Option ℚ) (criticReason : String)

def judge (O : Outside) (T : Tables) (tenantId : String) (actionType : ActionType) (payload : Dict)
    (confidence : ℚ) : Except PyException Ruling := do
  let column ← currentColumnForCritic T tenantId actionType payload
  let verdict ← critiqueColumn O actionType payload column
  let currentValue := column.map Column.toRat
  if verdict.approved then
    let risk ← classifyRisk O actionType payload confidence currentValue
    if risk.requiresApproval then return .review risk
    else return .proceed currentValue verdict.reason
  else return .block verdict.reason

/-- An entry about an action that was not executed. -/
def refusedEntry (tenantId : String) (decisionId : Option String) (actionType : ActionType)
    (payload : Dict) (gatePassed : Bool) (criticApproved : Option Bool)
    (criticReason : Option String) : LogEntry :=
  ⟨tenantId, decisionId, actionType, gatePassed, criticApproved, criticReason, false, payload,
    Bool.noConfusion⟩

/-- The entry about an executed action. -/
def executedEntry (work : Work) (reason : String) : LogEntry :=
  ⟨work.tenantId, some work.decisionId, work.actionType, true, some true, some reason, true,
    work.payload, fun _ => ⟨rfl, rfl⟩⟩

/-- Runs a transaction; what it raises, the call raises. -/
def transact {α : Type} (s : ToolStore) (p : Process) (r : Except PyException (Db × α))
    (next : α → Process) : ToolStore × Process :=
  match r with
  | .ok (db, a) => ({ s with db := db }, next a)
  | .error e => (s, p.conclude (.error e))

/-- Goes on with a value read from the database. -/
def inspect {α : Type} (s : ToolStore) (p : Process) (r : Except PyException α)
    (next : α → ToolStore × Process) : ToolStore × Process :=
  match r with
  | .ok a => next a
  | .error e => (s, p.conclude (.error e))

/-- `SimulatorInputError` leaves `execute_tool_call` as a `ToolFrameworkError`. -/
def invalidActionInput (e : PyException) : PyException :=
  if e.cls = .simulatorInputError then toolFrameworkError ("Invalid action input: " ++ e.message)
  else e

/-- After the insert: the confidence gate. -/
def gateDecision (actionType : ActionType) (payload : Dict) (decision : Decision) : Stage :=
  if decision.confidenceThresholdCleared then .proposed decision
  else
    .auditing
      (refusedEntry decision.tenantId (some decision.id) actionType payload false none none)
      (refusal "held_low_confidence" [(.str "decision_id", .str decision.id),
        (.str "confidence", .decimal (numericDecimal decision.confidence))])

def busyReason : String := "timed out waiting for a concurrent change to the same resource"

section Step

variable (O : Outside)

/-- The steps of `execute_tool_call` up to the ruling of the gates. -/
def executeStep (tenantId : String) (actionType : ActionType) (payload : Dict) :
    ToolAction → ToolStore → Process → Option (ToolStore × Process)
  | .simulate, s, ⟨none, .idle⟩ =>
    if actionType = .menuSwap ∧ payload.find? "action" matches some (.str "add") then
      some (s, ⟨none, .auditing
        (refusedEntry tenantId none actionType payload false none (some unsupportedReason))
        (refusal "unsupported_action" [(.str "critic_reason", .str unsupportedReason)])⟩)
    else
      some (inspect s .idle ((simulate s.db.tables tenantId actionType payload).mapError
        invalidActionInput) (fun predicted => (s, ⟨none, .simulated predicted⟩)))
  | .persist id, s, ⟨none, .simulated predicted⟩ =>
    some (transact s .idle (persistDecision tenantId actionType payload predicted id s.db)
      (fun decision => ⟨none, gateDecision actionType payload decision⟩))
  | .acquire, s, ⟨none, .proposed decision⟩ =>
    let key := serializationKey O tenantId actionType payload
    if key ∈ s.locks then none
    else some ({ s with locks := key :: s.locks }, ⟨some key, .entered decision⟩)
  | .timeout, s, ⟨none, .proposed decision⟩ =>
    some (s, ⟨none, .auditing
      (refusedEntry tenantId (some decision.id) actionType payload true none (some busyReason))
      (refusal "concurrent_change_in_progress" [(.str "decision_id", .str decision.id)])⟩)
  | .judge, s, ⟨guard, .entered decision⟩ =>
    some (inspect s ⟨guard, .entered decision⟩
      (judge O s.db.tables tenantId actionType payload decision.confidence.toRat) (fun
        | .block reason => (s, ⟨guard, .auditing
            (refusedEntry tenantId (some decision.id) actionType payload true (some false)
              (some reason))
            (refusal "blocked_by_critic" [(.str "decision_id", .str decision.id),
              (.str "critic_reason", .str reason)])⟩)
        | .review risk => (s, ⟨guard, .requesting decision risk⟩)
        | .proceed currentValue reason => (s.note (.judged decision.id currentValue),
            ⟨guard, .claiming
              ⟨tenantId, decision.id, actionType, payload, .policy currentValue reason⟩⟩)))
  | .request id, s, ⟨guard, .requesting decision risk⟩ =>
    some (transact s ⟨guard, .requesting decision risk⟩
      (requestApproval tenantId decision.id risk.reason id s.db) (fun row =>
        ⟨guard, .auditing
          (refusedEntry tenantId (some decision.id) actionType payload true (some true)
            (some risk.reason))
          (refusal "pending_human_approval" [(.str "decision_id", .str decision.id),
            (.str "approval_request_id", .str row.id),
            (.str "risk_level", .str risk.riskLevel.value)])⟩))
  | _, _, _ => none

/-- `propose_and_simulate` called by itself. -/
def proposeStep (tenantId : String) (actionType : ActionType) (payload : Dict) :
    ToolAction → ToolStore → Process → Option (ToolStore × Process)
  | .simulate, s, ⟨none, .idle⟩ =>
    some (inspect s .idle (simulate s.db.tables tenantId actionType payload)
      (fun predicted => (s, ⟨none, .simulated predicted⟩)))
  | .persist id, s, ⟨none, .simulated predicted⟩ =>
    some (transact s .idle (persistDecision tenantId actionType payload predicted id s.db)
      (fun decision => ⟨none, .finished (.ok (rowAnswer decision.id))⟩))
  | _, _, _ => none

/-- `execute_approved_tool_call` reads the request. -/
def getApproved (tenantId requestId : String) (s : ToolStore) : ToolStore × Process :=
  inspect s .idle (getApproval tenantId requestId s.db) (fun row =>
    if row.status = .approved then (s, ⟨none, .approvalSeen row.decisionId⟩)
    else (s, ⟨none, .finished (.error
      (toolFrameworkError "approval request has not been approved"))⟩))

/-- The steps of `execute_approved_tool_call` between that and the claim. -/
def executeApprovedStep (tenantId requestId : String) :
    ToolAction → ToolStore → Process → Option (ToolStore × Process)
  | .readDecision, s, ⟨none, .approvalSeen decisionId⟩ =>
    match s.db.decision? tenantId decisionId with
    | none => some (s, ⟨none, .finished (.error
        (toolFrameworkError "approved decision not found for tenant"))⟩)
    | some decision =>
      match decision.actionPayload with
      | .dict payload => some (s, ⟨none, .ready
          ⟨tenantId, decision.id, decision.actionType, payload, .reviewer requestId⟩⟩)
      | _ => some (s, ⟨none, .finished (.error (.ofStd .typeError))⟩)
  | .acquire, s, ⟨none, .ready work⟩ =>
    let key := serializationKey O work.tenantId work.actionType work.payload
    if key ∈ s.locks then none
    else some ({ s with locks := key :: s.locks }, ⟨some key, .claiming work⟩)
  | .timeout, s, ⟨none, .ready _⟩ =>
    some (s, ⟨none, .finished (.error ⟨.toolBusyError, busyReason⟩)⟩)
  | _, _, _ => none

def staleAnswer (requestId reason : String) : Dict :=
  refusal "stale_approval" [(.str "critic_reason", .str reason),
    (.str "approval_request_id", .str requestId)]

/-- The steps of `resolve_approval` up to the execution of an approved request. -/
def resolveApprovalStep (tenantId requestId : String) (review : Review) :
    ToolAction → ToolStore → Process → Option (ToolStore × Process)
  | .get, s, ⟨none, .idle⟩ =>
    some (inspect s .idle (getApproval tenantId requestId s.db) (fun row =>
      if row.status = .pending then
        (s, ⟨none, if review.approved then .pendingSeen row.decisionId else .resolving⟩)
      else (s, ⟨none, .finished (.error alreadyResolved)⟩)))
  | .readDecision, s, ⟨none, .pendingSeen decisionId⟩ =>
    match s.db.decision? tenantId decisionId with
    | none => some (s, ⟨none, .finished (.ok
        (staleAnswer requestId "approved decision not found for tenant"))⟩)
    | some decision =>
      match decision.actionPayload with
      | .dict payload => some (s, ⟨none, .rechecking decisionId decision.actionType payload⟩)
      | _ => some (s, ⟨none, .finished (.error (.ofStd .typeError))⟩)
  | .recheck, s, ⟨none, .rechecking decisionId actionType payload⟩ =>
    some (inspect s .idle (currentColumnForCritic s.db.tables tenantId actionType payload)
      (fun column => inspect s .idle (critiqueColumn O actionType payload column)
        (fun verdict =>
          if verdict.approved then
            (s.note (.rechecked decisionId (column.map Column.toRat)), ⟨none, .resolving⟩)
          else (s, ⟨none, .finished (.ok (staleAnswer requestId verdict.reason))⟩))))
  | .resolve, s, ⟨none, .resolving⟩ =>
    some (transact s .idle (resolveRequest tenantId requestId review s.db) (fun _ =>
      if review.approved then ⟨none, .approving⟩
      else ⟨none, .finished (.ok
        (refusal "rejected" [(.str "approval_request_id", .str requestId)]))⟩))
  | _, _, _ => none

/-- The first steps of a call, as its kind has them. -/
def entryStep : ToolCall → ToolAction → ToolStore → Process → Option (ToolStore × Process)
  | .execute t a payload, x, s, p => executeStep O t a payload x s p
  | .propose t a payload, x, s, p => proposeStep t a payload x s p
  | .executeApproved t r, .get, s, ⟨none, .idle⟩ => some (getApproved t r s)
  | .executeApproved t r, x, s, p => executeApprovedStep O t r x s p
  | .resolveApproval t r _, .get, s, ⟨none, .approving⟩ => some (getApproved t r s)
  | .resolveApproval t r review, x, s, p =>
    (resolveApprovalStep O t r review x s p).or (executeApprovedStep O t r x s p)
  | .observe t d, .claim, s, ⟨none, .idle⟩ =>
    some (inspect s .idle (validateDecisionId d) (fun id =>
      transact s .idle (claimDecision t id s.db)
        (fun decision => ⟨none, .observingAlone t id decision.predictedOutcome⟩)))
  | .observe _ _, .observe draws now, s, ⟨none, .observingAlone t d predicted⟩ =>
    some (transact s .idle (evaluateDecision t d predicted draws now s.db)
      (fun _ => ⟨none, .finished (.ok (rowAnswer d))⟩))
  | .request t d reason, .request id, s, ⟨none, .idle⟩ =>
    some (transact s .idle (requestApproval t d reason id s.db)
      (fun row => ⟨none, .finished (.ok (rowAnswer row.id))⟩))
  | .resolve t r review, .resolve, s, ⟨none, .idle⟩ =>
    some (transact s .idle (resolveRequest t r review s.db)
      (fun row => ⟨none, .finished (.ok (rowAnswer row.id))⟩))
  | _, _, _, _ => none

def approvalRecorded : String := "human approval recorded"

/-- The steps under the lock that carry an action out. -/
def workStep : ToolAction → ToolStore → Process → Option (ToolStore × Process)
  | .claim, s, ⟨guard, .claiming work⟩ =>
    some (transact s ⟨guard, .claiming work⟩ (claimDecision work.tenantId work.decisionId s.db)
      (fun decision => ⟨guard, .observing work decision.predictedOutcome⟩))
  | .observe draws now, s, ⟨guard, .observing work predicted⟩ =>
    some (transact s ⟨guard, .observing work predicted⟩
      (evaluateDecision work.tenantId work.decisionId predicted draws now s.db)
      (fun evaluation => ⟨guard, .changing work evaluation⟩))
  | .complete, s, ⟨guard, .changing work evaluation⟩ =>
    some (inspect s ⟨guard, .changing work evaluation⟩
      (stateChangeEvent O s.db.tables work.tenantId work.payload work.actionType)
      (fun event => (s, ⟨guard, .appending work evaluation event.1 event.2⟩)))
  | .append draw, s, ⟨guard, .appending work evaluation eventType event⟩ =>
    some (inspect s ⟨guard, .appending work evaluation eventType event⟩
      (appendEvent O work.tenantId (.member eventType) event agentSource draw s.db)
      (fun db => (({ s with db := db } : ToolStore).note (.applied work.decisionId draw.eventId),
        ⟨guard, .appended work evaluation⟩)))
  | .log now, s, ⟨guard, .appended work evaluation⟩ =>
    match work.authority, guard with
    | .policy _ reason, guard =>
      some (inspect s ⟨guard, .appended work evaluation⟩
        (writeLog (executedEntry work reason) now s.db)
        (fun db => ({ s with db := db },
          (⟨guard, .idle⟩ : Process).conclude (.ok (executedAnswer work.decisionId evaluation)))))
    -- An approved call logs after the guard session has ended.
    | .reviewer _, none =>
      some (inspect s .idle (writeLog (executedEntry work approvalRecorded) now s.db)
        (fun db => ({ s with db := db },
          ⟨none, .finished (.ok (executedAnswer work.decisionId evaluation))⟩)))
    | .reviewer _, some _ => none
  | .release, s, ⟨some key, .appended work evaluation⟩ =>
    match work.authority with
    | .policy _ _ => none
    | .reviewer _ =>
      some ({ s with locks := s.locks.erase key }, ⟨none, .appended work evaluation⟩)
  | _, _, _ => none

/-- The steps that every call may take. -/
def commonStep : ToolAction → ToolStore → Process → Option (ToolStore × Process)
  | .log now, s, ⟨guard, .auditing entry answer⟩ =>
    some (inspect s ⟨guard, .auditing entry answer⟩ (writeLog entry now s.db)
      (fun db => ({ s with db := db }, (⟨guard, .idle⟩ : Process).conclude (.ok answer))))
  | .release, s, ⟨some key, .leaving result⟩ =>
    some ({ s with locks := s.locks.erase key }, ⟨none, .finished result⟩)
  | .fault e, s, p => if p.stage.ended then none else some (s, p.conclude (.error e))
  | .crash, s, p =>
    if p.stage.ended then none
    else some ({ s with locks := p.guard.elim s.locks s.locks.erase }, ⟨none, .crashed⟩)
  | _, _, _ => none

def toolStep (call : ToolCall) (x : ToolAction) (s : ToolStore) (p : Process) :
    Option (ToolStore × Process) :=
  (entryStep O call x s p).or ((workStep O x s p).or (commonStep x s p))

/-- Any number of calls, each with its own arguments. -/
def toolCalls {ι : Type*} (call : ι → ToolCall) : Program ι ToolStore Process ToolAction :=
  ⟨fun i => toolStep O (call i)⟩

end Step

/-- No call has started. -/
def Db.start {ι : Type*} (db : Db) : Config ι ToolStore Process := ⟨⟨db, [], []⟩, fun _ => .idle⟩

end OpsCopilot
