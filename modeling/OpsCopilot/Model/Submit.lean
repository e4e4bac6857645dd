import OpsCopilot.Model.Worker

/-!
# Submitting an action

`submit_action` as a machine over the committed and the flushed rows of `work_requests` and
the published messages. A query sees the rows that the tenant policy lets through; the unique
constraint looks at all rows.
-/

namespace OpsCopilot

open Python Interleaving

/-- The arguments of `submit_action`, with the authenticated tenant. -/
structure Submission where
  tenantId : String
  idempotencyKey : String
  actionType : String
  payload : Dict

/-- A row of `work_requests`, as far as `submit_action` reads and writes it. -/
structure RequestRow where
  id : String
  tenantId : String
  idempotencyKey : String
  actionType : String
  payload : Dict
  status : RequestStatus

structure ActionAcceptedResponse where
  requestId : String
  status : RequestStatus
  idempotencyKey : String

/-- `flushed` holds the inserts of transactions that are still open; `published` holds the
tenant and the request id of each message. -/
structure Intake where
  rows : List RequestRow
  flushed : List RequestRow
  published : List (String × String)

def Intake.empty : Intake := ⟨[], [], []⟩

def Submission.names (s : Submission) (row : RequestRow) : Bool :=
  row.tenantId = s.tenantId ∧ row.idempotencyKey = s.idempotencyKey

/-- The rows that the unique constraint on tenant and key allows one of. -/
def Intake.rowsFor (g : Intake) (s : Submission) : List RequestRow := g.rows.filter s.names

/-- The policy `tenant_isolation`, when it is enforced for the role of the session. -/
def visible (enforced : Bool) (currentTenant : Option String) (row : RequestRow) : Bool :=
  !enforced || currentTenant = some row.tenantId

def Intake.query (g : Intake) (enforced : Bool) (currentTenant : Option String)
    (s : Submission) : List RequestRow :=
  (g.rowsFor s).filter (visible enforced currentTenant)

def RequestRow.response (row : RequestRow) : ActionAcceptedResponse :=
  ⟨row.id, row.status, row.idempotencyKey⟩

def Submission.row (s : Submission) (id : String) : RequestRow :=
  ⟨id, s.tenantId, s.idempotencyKey, s.actionType, s.payload, .pending⟩

/-- Where a call stands; `created` is the id of the row it has committed. -/
inductive SubmitPhase where
  | idle
  | absent
  | inserted (row : RequestRow)
  | conflicted
  /-- After `session.rollback()`, which also undoes the `SET LOCAL` of the tenant. -/
  | rolledBack
  | committed (id : String)
  | returned (response : ActionAcceptedResponse)
  | failed (created : Option String)

def SubmitPhase.ended : SubmitPhase → Bool
  | .returned _ | .failed _ => true
  | _ => false

def SubmitPhase.started : SubmitPhase → Bool
  | .idle => false
  | _ => true

inductive SubmitAction where
  | lookup
  /-- The flush of a new row under a drawn id. -/
  | insert (id : String)
  | commit
  | rollback
  | requery
  | publish
  /-- `publish_work_request` raises; the message may have been sent all the same. -/
  | publishFails (sent : Bool)
  /-- The database fails or the process dies. -/
  | fault

def SubmitAction.faultless : SubmitAction → Bool
  | .publishFails _ | .fault => false
  | _ => true

section Submit

variable (enforced : Bool)

/-- One step of `submit_action`. An insert waits for an open transaction that has flushed the
same tenant and key, and a drawn id is one that no row has. -/
def submitStep (s : Submission) : SubmitAction → Intake → SubmitPhase →
    Option (Intake × SubmitPhase)
  | .lookup, g, .idle =>
    if ActionType.ofValue s.actionType = none then some (g, .failed none)
    else
      match g.query enforced (some s.tenantId) s with
      | [] => some (g, .absent)
      | [row] => some (g, .returned row.response)
      | _ => some (g, .failed none)
  | .insert id, g, .absent =>
    if (g.rows ++ g.flushed).any (fun row => row.id = id) then none
    else if g.flushed.any s.names then none
    else if g.rows.any s.names then some (g, .conflicted)
    else some ({ g with flushed := s.row id :: g.flushed }, .inserted (s.row id))
  | .commit, g, .inserted row =>
    some ({ g with rows := row :: g.rows, flushed := g.flushed.filter (fun r => r.id ≠ row.id) },
      .committed row.id)
  | .rollback, g, .conflicted => some (g, .rolledBack)
  | .requery, g, .rolledBack =>
    match g.query enforced none s with
    | [row] => some (g, .returned row.response)
    | _ => some (g, .failed none)
  | .publish, g, .committed id =>
    some ({ g with published := (s.tenantId, id) :: g.published },
      .returned ⟨id, .pending, s.idempotencyKey⟩)
  | .publishFails sent, g, .committed id =>
    some (if sent then { g with published := (s.tenantId, id) :: g.published } else g,
      .failed (some id))
  | .fault, g, p =>
    match p with
    | .absent | .conflicted | .rolledBack => some (g, .failed none)
    | .inserted row =>
      some ({ g with flushed := g.flushed.filter (fun r => r.id ≠ row.id) }, .failed none)
    | .committed id => some (g, .failed (some id))
    | _ => none
  | _, _, _ => none

/-- Any number of calls, each with its own arguments. -/
def submitCalls {ι : Type*} (sub : ι → Submission) : Program ι Intake SubmitPhase SubmitAction :=
  ⟨fun i => submitStep enforced (sub i)⟩

end Submit

/-- No row, no message, and no call has started. -/
def Intake.start {ι : Type*} : Config ι Intake SubmitPhase := ⟨Intake.empty, fun _ => .idle⟩

end OpsCopilot
