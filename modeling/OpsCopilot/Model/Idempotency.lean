import OpsCopilot.Lib.Interleaving
import OpsCopilot.Model.Basic

/-!
# Idempotency keys

`execute_tool_call_idempotent` as a machine whose atomic steps are the transactions on
`idempotency_keys`. The clock readings and the outcome of `execute_tool_call` are part of the
action, and a call may stop at any step.
-/

namespace OpsCopilot

open Python Interleaving

/-! ### Rows and requests -/

inductive KeyStatus where
  | inProgress
  | completed
  | failed
deriving DecidableEq

/-- A row of `idempotency_keys`. -/
structure IdempotencyKey where
  requestFingerprint : String
  status : KeyStatus
  result : Option Value
  createdAt : Timestamp
  completedAt : Option Timestamp

/-- The arguments of `execute_tool_call_idempotent`. -/
structure Request where
  tenantId : String
  idempotencyKey : String
  actionType : ActionType
  payload : Dict

/-- A claim that never completed counts as abandoned after five minutes. -/
def staleAfter : Timestamp := 5 * 60 * 1000000

def jsonDefault (O : Outside) (d : PyDecimal) : Except StdError Json :=
  .ok (.atom (.float (O.floatOfDecimal d)))

def jsonSafe (O : Outside) (v : Value) : Except StdError Value :=
  (prepare ⟨false, jsonDefault O⟩ v).map Json.load

def requestFingerprint (O : Outside) (actionType : String) (payload : Dict) :
    Except StdError String :=
  (prepare ⟨true, jsonDefault O⟩
      (.dict [(.str "action_type", .str actionType), (.str "payload", .dict payload)])).map
    (fun j => O.sha256 (String.ofList (j.text escapeAscii)))

def Request.fingerprint (O : Outside) (r : Request) : Except StdError String :=
  requestFingerprint O r.actionType.value r.payload

def validateKey (key : String) : Except PyException String :=
  if strip key = "" then .error ⟨.valueError, "idempotency key must be a non-empty string"⟩
  else if 255 < key.length then
    .error ⟨.valueError, "idempotency key must be at most 255 characters"⟩
  else .ok key

def keyReuse : PyException :=
  ⟨.idempotencyKeyReuseError, "idempotency key was already used with a different request"⟩

def notExecuted (reason : String) : Value :=
  .dict [(.str "executed", .bool false), (.str "reason", .str reason)]

def errorResult (text : String) : Value := .dict [(.str "error", .str text)]

/-! ### The table -/

/-- The table `idempotency_keys` by tenant and key, and the calls of `execute_tool_call` that
have been entered. -/
structure Registry where
  keys : String → String → Option IdempotencyKey
  entered : List Request

def Registry.empty : Registry := ⟨fun _ _ => none, []⟩

def Registry.row (g : Registry) (r : Request) : Option IdempotencyKey :=
  g.keys r.tenantId r.idempotencyKey

/-- Writes the row under the key of `r`. -/
def Registry.put (g : Registry) (r : Request) (row : Option IdempotencyKey) : Registry :=
  { g with keys := fun t k => if t = r.tenantId ∧ k = r.idempotencyKey then row else g.keys t k }

/-- The calls of `execute_tool_call` entered under a key. -/
def Registry.entries (g : Registry) (tenantId key : String) : List Request :=
  g.entered.filter (fun r => r.tenantId = tenantId ∧ r.idempotencyKey = key)

/-- `_finish`: the update of a row that is still in progress. -/
def IdempotencyKey.finish (row : IdempotencyKey) (status : KeyStatus) (result : Value)
    (now : Timestamp) : IdempotencyKey :=
  if row.status = .inProgress then
    { row with status := status, result := some result, completedAt := some now }
  else row

/-- The update of `claim` on a stale row. -/
def IdempotencyKey.abandon (row : IdempotencyKey) : IdempotencyKey :=
  { row with status := .failed, result := some (errorResult "abandoned") }

def IdempotencyKey.isStale (row : IdempotencyKey) (now : Timestamp) : Bool :=
  row.status = .inProgress ∧ staleAfter < now - row.createdAt

/-- The end of `claim` for a caller that does not own the key. -/
def IdempotencyKey.answer (row : IdempotencyKey) (stale : Bool) (fingerprint : String) :
    Except PyException Value :=
  if row.requestFingerprint ≠ fingerprint then .error keyReuse
  else
    match (if stale then KeyStatus.failed else row.status) with
    | .completed =>
      match row.result with
      | some (.dict d) => .ok (.dict d)
      | _ => .error ⟨.typeError, "'NoneType' object is not iterable"⟩
    | .inProgress => .ok (notExecuted "request_in_progress")
    | .failed => .ok (notExecuted "previous_attempt_incomplete")

/-! ### One call -/

/-- Where a call stands. `own` is the flag of its `Claim`. -/
inductive Phase where
  | idle
  | conflicted (fingerprint : String)
  | seen (fingerprint : String) (row : IdempotencyKey) (stale : Bool)
  | owned
  | executing
  | executed (outcome : Except PyException Dict)
  | done (own : Bool) (outcome : Except PyException Value)
  | crashed (own : Bool)

/-- Whether the call's claim inserted the row. -/
def Phase.owns : Phase → Bool
  | .owned | .executing | .executed _ => true
  | .done own _ | .crashed own => own
  | _ => false

/-- Whether the call has ended, by itself or by a crash. -/
def Phase.ended : Phase → Bool
  | .done _ _ | .crashed _ => true
  | _ => false

inductive CallAction where
  /-- The insert that does nothing on a conflict. -/
  | claim (now : Timestamp)
  /-- After a conflict, the query for the row. -/
  | read (now : Timestamp)
  /-- The commit of the claim's transaction and the answer. -/
  | settle
  | enter
  | executes (outcome : Except PyException Dict)
  /-- `complete` or `fail`. -/
  | finish (now : Timestamp)
  | crash

section Call

variable (O : Outside)

/-- One step of the call with arguments `r`. -/
def callStep (r : Request) : CallAction → Registry → Phase → Option (Registry × Phase)
  | .claim now, g, .idle =>
    match r.fingerprint O with
    | .error e => some (g, .done false (.error (.ofStd e)))
    | .ok fingerprint =>
      match validateKey r.idempotencyKey with
      | .error e => some (g, .done false (.error e))
      | .ok _ =>
        match g.row r with
        | none => some (g.put r (some ⟨fingerprint, .inProgress, none, now, none⟩), .owned)
        | some _ => some (g, .conflicted fingerprint)
  | .read now, g, .conflicted fingerprint =>
    match g.row r with
    | none => some (g, .done false (.error ⟨.noResultFound, "No row was found"⟩))
    | some row => some (g, .seen fingerprint row (row.isStale now))
  | .settle, g, .seen fingerprint row stale =>
    some (if stale then g.put r ((g.row r).map IdempotencyKey.abandon) else g,
      .done false (row.answer stale fingerprint))
  | .enter, g, .owned => some ({ g with entered := r :: g.entered }, .executing)
  | .executes outcome, g, .executing => some (g, .executed outcome)
  | .finish now, g, .executed (.ok result) =>
    match jsonSafe O (.dict result) with
    | .error e => some (g, .done true (.error (.ofStd e)))
    | .ok safe =>
      match loadsDumps safe with
      | .error e => some (g, .done true (.error (.ofStd e)))
      | .ok stored =>
        some (g.put r ((g.row r).map (fun row => row.finish .completed stored now)),
          .done true (.ok safe))
  | .finish now, g, .executed (.error e) =>
    some (g.put r ((g.row r).map (fun row => row.finish .failed (errorResult e.cls.name) now)),
      .done true (.error e))
  | .crash, g, p => if p.ended then none else some (g, .crashed p.owns)
  | _, _, _ => none

/-- Any number of calls, each with its own arguments. -/
def idempotentCalls {ι : Type*} (req : ι → Request) : Program ι Registry Phase CallAction :=
  ⟨fun i => callStep O (req i)⟩

end Call

/-- No key is claimed and no call has started. -/
def Registry.start {ι : Type*} : Config ι Registry Phase := ⟨Registry.empty, fun _ => .idle⟩

end OpsCopilot
