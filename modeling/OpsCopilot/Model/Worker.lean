import OpsCopilot.Model.Idempotency

/-!
# The queue worker

`process_message` and the poll loop around it, one process for each delivery of a message.
The atomic steps are the transactions on `work_requests`, the steps of the idempotent call,
and the deletion of the message.
-/

namespace OpsCopilot

open Python Interleaving

inductive RequestStatus where
  | pending
  | processing
  | completed
  | failed
deriving DecidableEq

/-- A row of `work_requests`, as far as the worker reads and writes it. -/
structure WorkRequest where
  idempotencyKey : String
  actionType : String
  payload : Dict
  status : RequestStatus
  result : Option Value
  error : Option Value

def RequestStatus.terminal : RequestStatus → Bool
  | .completed | .failed => true
  | _ => false

/-- A delivery of a message; `message` names it in the queue, and a message that is delivered
again keeps its name. -/
structure QueueMessage where
  message : ℕ
  tenantId : String
  workRequestId : String

/-- What the workers share: the two tables and the messages deleted from the queue. -/
structure Backend where
  requests : String → String → Option WorkRequest
  registry : Registry
  deleted : List ℕ

def Backend.request (b : Backend) (m : QueueMessage) : Option WorkRequest :=
  b.requests m.tenantId m.workRequestId

/-- An update of the row that a message names. -/
def Backend.update (b : Backend) (m : QueueMessage) (f : WorkRequest → WorkRequest) : Backend :=
  { b with
    requests := fun t w => if t = m.tenantId ∧ w = m.workRequestId then (b.requests t w).map f
      else b.requests t w }

/-- The arguments of `_mark_work_request`, which only ever gets a final status. -/
structure Mark where
  status : RequestStatus
  result : Option Value
  error : Option Value
  final : status.terminal = true

def WorkRequest.mark (m : Mark) (row : WorkRequest) : WorkRequest :=
  { row with status := m.status, result := m.result, error := m.error }

/-! ### What the handler decides -/

def forbiddenKeys : List String := ["external_connector", "vendor_credential_id", "webhook_url"]

/-- `str(list)` of plain strings. -/
def listRepr (keys : List String) : String :=
  "[" ++ ", ".intercalate (keys.map (fun k => "'" ++ k ++ "'")) ++ "]"

def assertSyntheticSafe (syntheticOnly : Bool) (payload : Dict) : Except PyException Unit :=
  let present := forbiddenKeys.filter (fun k => payload.any (fun m => m.1 = .str k))
  if syntheticOnly ∧ present ≠ [] then
    .error ⟨.syntheticGuardError,
      "payload contains fields forbidden under SYNTHETIC_EXECUTION_ONLY: " ++ listRepr present⟩
  else .ok ()

def failedMark (error : Dict) : Mark := ⟨.failed, none, some (.dict error), rfl⟩

def invalidActionMark (actionType : String) : Mark :=
  failedMark [(.str "error", .str "invalid_action_type"), (.str "action_type", .str actionType)]

def guardMark (e : PyException) : Mark :=
  failedMark [(.str "error", .str "synthetic_guard_violation"), (.str "detail", .str e.message)]

def rejectedMark (e : PyException) : Mark :=
  failedMark [(.str "error", .str "tool_framework_error"), (.str "detail", .str e.message)]

def outcomeMark (result : Dict) : Mark :=
  if (Dict.get result "executed").truthy then ⟨.completed, some (.dict result), none, rfl⟩
  else failedMark (Dict.merge [(.str "reason", Dict.get result "reason")] result)

/-! ### One delivery -/

inductive Delivery where
  | idle
  | received
  /-- The row was read as pending, inside the first transaction. -/
  | pendingSeen (row : WorkRequest)
  | calling (request : Request) (call : Phase)
  | marking (mark : Mark)
  /-- `process_message` has returned `handled`, or raised and so counts as not handled. -/
  | decided (handled : Bool)
  | finished (handled : Bool)
  | crashed

inductive WorkerAction where
  | receive
  | read
  /-- The update to `processing`, the commit, and the checks of steps 2 and 3. -/
  | start
  | call (a : CallAction)
  /-- The idempotent call has returned or raised. -/
  | outcome
  | mark
  /-- Delete the message or leave it. -/
  | conclude
  /-- The database or the network fails in this delivery. -/
  | fault
  | crash

/-- Whether the delivery is past the switch to `processing` and not yet decided. -/
def Delivery.working : Delivery → Bool
  | .calling _ _ | .marking _ => true
  | _ => false

def Delivery.ended : Delivery → Bool
  | .finished _ | .crashed => true
  | _ => false

/-- Where a call that has come to its end leads. -/
def afterCall : Except PyException Value → Delivery
  | .ok (.dict result) => .marking (outcomeMark result)
  | .ok _ => .decided false
  | .error e => if e.cls.isToolFrameworkError then .marking (rejectedMark e) else .decided false

/-- Steps 2 and 3: the action type and the synthetic-only guard. -/
def validated (syntheticOnly : Bool) (m : QueueMessage) (row : WorkRequest) : Delivery :=
  match ActionType.ofValue row.actionType with
  | none => .marking (invalidActionMark row.actionType)
  | some actionType =>
    match assertSyntheticSafe syntheticOnly row.payload with
    | .error e => .marking (guardMark e)
    | .ok () => .calling ⟨m.tenantId, row.idempotencyKey, actionType, row.payload⟩ .idle

section Deliver

variable (O : Outside) (syntheticOnly : Bool)

def deliverStep (m : QueueMessage) : WorkerAction → Backend → Delivery → Option (Backend × Delivery)
  | .receive, b, .idle => if m.message ∈ b.deleted then none else some (b, .received)
  | .read, b, .received =>
    match b.request m with
    | none => some (b, .decided true)
    | some row =>
      if row.status ≠ .pending then some (b, .decided true) else some (b, .pendingSeen row)
  | .start, b, .pendingSeen row =>
    some (b.update m (fun r => { r with status := .processing }), validated syntheticOnly m row)
  | .call .crash, _, _ => none
  | .call a, b, .calling request call =>
    (callStep O request a b.registry call).map
      (fun s => ({ b with registry := s.1 }, .calling request s.2))
  | .outcome, b, .calling _ (.done _ outcome) => some (b, afterCall outcome)
  | .mark, b, .marking mark => some (b.update m (WorkRequest.mark mark), .decided true)
  | .conclude, b, .decided handled =>
    some (if handled then { b with deleted := m.message :: b.deleted } else b, .finished handled)
  | .fault, b, p =>
    match p with
    | .received | .pendingSeen _ | .calling _ _ | .marking _ => some (b, .decided false)
    | _ => none
  | .crash, b, p => if p.ended then none else some (b, .crashed)
  | _, _, _ => none

/-- Any number of deliveries to any number of workers. -/
def workers {ι : Type*} (msg : ι → QueueMessage) : Program ι Backend Delivery WorkerAction :=
  ⟨fun i => deliverStep O syntheticOnly (msg i)⟩

end Deliver

/-- No delivery has started. -/
def Backend.start {ι : Type*} (b : Backend) : Config ι Backend Delivery := ⟨b, fun _ => .idle⟩

end OpsCopilot
