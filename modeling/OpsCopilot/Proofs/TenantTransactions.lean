import OpsCopilot.Proofs.DecisionRows
import OpsCopilot.Proofs.TenantReads

/-!
# The transactions of one tenant

Each transaction of a tenant treats alike two databases in which the tenant has the same rows, as
long as the identifier that it draws is taken in both or in neither, and it leaves the rows of the
other tenants alone.
-/

namespace OpsCopilot

open Python Sql Fallible Noninterference

/-- What a tenant sees of the result of a transaction. -/
def resultView {α : Type} (t : String) (y : Db × α) : Db × α := (y.1.rowsOf t, y.2)

/-- Two results are the same to the tenant. -/
abbrev SameResult {α : Type} (t : String) (r r' : Except PyException (Db × α)) : Prop :=
  SameBy (resultView t) r r'

lemma sameResult_ok {α : Type} {t : String} {db db' : Db} (h : db.rowsOf t = db'.rowsOf t) (a : α) :
    SameResult t (.ok (db, a)) (.ok (db', a)) := .ok (Prod.ext h rfl)

/-! ### The rows that a transaction writes -/

section Writes

variable {α : Type} {tenant : α → String} {db db' : Db} {t o id : String}

/-- The rows of a tenant after one row of the tenant, or of another, has been added. -/
lemma filter_add (rows : List α) (row : α) :
    (rows ++ [row]).filter (fun r => tenant r = o) =
      rows.filter (fun r => tenant r = o) ++ if tenant row = o then [row] else [] := by
  rw [List.filter_append, List.filter_singleton]
  by_cases h : tenant row = o <;> simp [h]

lemma filter_add_same {rows rows' : List α} (row : α)
    (h : rows.filter (fun r => tenant r = t) = rows'.filter (fun r => tenant r = t)) :
    (rows ++ [row]).filter (fun r => tenant r = t) =
      (rows' ++ [row]).filter (fun r => tenant r = t) := by
  rw [filter_add, filter_add, h]

lemma filter_add_other {row : α} (rows : List α) (h : tenant row ≠ o) :
    (rows ++ [row]).filter (fun r => tenant r = o) = rows.filter (fun r => tenant r = o) := by
  rw [filter_add, if_neg h, List.append_nil]

lemma filter_change_same {rows rows' : List α} {g : α → α} (hg : ∀ r, tenant (g r) = tenant r)
    (h : rows.filter (fun r => tenant r = t) = rows'.filter (fun r => tenant r = t)) :
    (rows.map g).filter (fun r => tenant r = t) = (rows'.map g).filter (fun r => tenant r = t) := by
  rw [filter_change hg, filter_change hg, h]

section Same

variable (h : db.rowsOf t = db'.rowsOf t)
include h

lemma decisions_same {rows rows' : List Decision}
    (hrows : rows.filter (fun r => r.tenantId = t) = rows'.filter (fun r => r.tenantId = t)) :
    ({ db with decisions := rows } : Db).rowsOf t =
      ({ db' with decisions := rows' } : Db).rowsOf t := by
  change { db.rowsOf t with decisions := rows.filter (fun r => r.tenantId = t) } =
    { db'.rowsOf t with decisions := rows'.filter (fun r => r.tenantId = t) }
  rw [h, hrows]

lemma requests_same {rows rows' : List ApprovalRequestRecord}
    (hrows : rows.filter (fun r => r.tenantId = t) = rows'.filter (fun r => r.tenantId = t)) :
    ({ db with approvalRequests := rows } : Db).rowsOf t =
      ({ db' with approvalRequests := rows' } : Db).rowsOf t := by
  change { db.rowsOf t with approvalRequests := rows.filter (fun r => r.tenantId = t) } =
    { db'.rowsOf t with approvalRequests := rows'.filter (fun r => r.tenantId = t) }
  rw [h, hrows]

lemma log_same {rows rows' : List ToolExecutionLog}
    (hrows : rows.filter (fun r => r.tenantId = t) = rows'.filter (fun r => r.tenantId = t)) :
    ({ db with toolExecutionLog := rows } : Db).rowsOf t =
      ({ db' with toolExecutionLog := rows' } : Db).rowsOf t := by
  change { db.rowsOf t with toolExecutionLog := rows.filter (fun r => r.tenantId = t) } =
    { db'.rowsOf t with toolExecutionLog := rows'.filter (fun r => r.tenantId = t) }
  rw [h, hrows]

lemma event_same {T T' : Tables} (hT : T.rowsOf t = T'.rowsOf t) (row : Event) :
    ({ db with tables := T, events := db.events ++ [row] } : Db).rowsOf t =
      ({ db' with tables := T', events := db'.events ++ [row] } : Db).rowsOf t := by
  have hevents : db.events.filter (fun e => e.tenantId = t) =
      db'.events.filter (fun e => e.tenantId = t) := congrArg Db.events h
  change { db.rowsOf t with
      tables := T.rowsOf t, events := (db.events ++ [row]).filter (fun e => e.tenantId = t) } =
    { db'.rowsOf t with
      tables := T'.rowsOf t, events := (db'.events ++ [row]).filter (fun e => e.tenantId = t) }
  rw [h, hT, filter_add_same row hevents]

end Same

lemma decisions_other {rows : List Decision}
    (h : rows.filter (fun r => r.tenantId = o) = db.decisions.filter (fun r => r.tenantId = o)) :
    ({ db with decisions := rows } : Db).rowsOf o = db.rowsOf o := by
  change { db.rowsOf o with decisions := rows.filter (fun r => r.tenantId = o) } = db.rowsOf o
  rw [h]
  rfl

lemma requests_other {rows : List ApprovalRequestRecord}
    (h : rows.filter (fun r => r.tenantId = o) =
      db.approvalRequests.filter (fun r => r.tenantId = o)) :
    ({ db with approvalRequests := rows } : Db).rowsOf o = db.rowsOf o := by
  change { db.rowsOf o with approvalRequests := rows.filter (fun r => r.tenantId = o) } =
    db.rowsOf o
  rw [h]
  rfl

lemma log_other {rows : List ToolExecutionLog}
    (h : rows.filter (fun r => r.tenantId = o) =
      db.toolExecutionLog.filter (fun r => r.tenantId = o)) :
    ({ db with toolExecutionLog := rows } : Db).rowsOf o = db.rowsOf o := by
  change { db.rowsOf o with toolExecutionLog := rows.filter (fun r => r.tenantId = o) } =
    db.rowsOf o
  rw [h]
  rfl

lemma changeDecision_same (h : db.rowsOf t = db'.rowsOf t) {f : Decision → Decision}
    (hf : ∀ r, (f r).tenantId = r.tenantId) :
    (db.changeDecision t id f).rowsOf t = (db'.changeDecision t id f).rowsOf t :=
  decisions_same h (filter_change_same (change_tenant hf) (congrArg Db.decisions h))

lemma changeDecision_other (ho : o ≠ t) {f : Decision → Decision}
    (hf : ∀ r, (f r).tenantId = r.tenantId) :
    (db.changeDecision t id f).rowsOf o = db.rowsOf o :=
  decisions_other (filter_change_other (change_tenant hf) (change_other (fun _ h => h.2) ho))

end Writes

/-! ### Alike -/

section Alike

variable {O : Outside} {t : String} {db db' : Db} (h : db.rowsOf t = db'.rowsOf t)
include h

lemma persistDecision_same {a : ActionType} {payload : Dict} {predicted : PredictedOutcome}
    {id : String} (hid : db.decisions.any (fun r => r.id = id) =
      db'.decisions.any (fun r => r.id = id)) :
    SameResult t (persistDecision t a payload predicted id db)
      (persistDecision t a payload predicted id db') := by
  unfold persistDecision
  refine .bind rfl fun stored => .bind rfl fun confidence =>
    .raise (tenant_mem_same h) (.raise (by rw [hid]) (sameResult_ok ?_ _))
  exact decisions_same h (filter_add_same _ (congrArg Db.decisions h))

lemma claimDecision_same (id : String) :
    SameResult t (claimDecision t id db) (claimDecision t id db') := by
  unfold claimDecision
  rw [decision?_same h]
  cases db'.decision? t id with
  | none => exact .error _
  | some decision =>
    refine .bind rfl fun _ => .bind rfl fun _ => sameResult_ok ?_ _
    exact changeDecision_same h (by exact fun _ => rfl)

lemma evaluateDecision_same (id : String) (predicted : PredictedOutcome) (draws : Randomness)
    (now : Timestamp) :
    SameResult t (evaluateDecision t id predicted draws now db)
      (evaluateDecision t id predicted draws now db') := by
  unfold evaluateDecision
  refine .raise (by rw [decision?_same h]) (.bind rfl fun error => sameResult_ok ?_ _)
  exact changeDecision_same h (by exact fun _ => rfl)

lemma requestApproval_same {d reason id : String}
    (hid : db.approvalRequests.any (fun r => r.id = id) =
      db'.approvalRequests.any (fun r => r.id = id)) :
    SameResult t (requestApproval t d reason id db) (requestApproval t d reason id db') := by
  unfold requestApproval
  refine .bind rfl fun d => .bind rfl fun reason => ?_
  rw [approvalOf?_same h]
  cases db'.approvalOf? t d with
  | some row => exact sameResult_ok h row
  | none =>
    refine .raise (by rw [decision?_same h]) (.raise (by rw [hid]) (sameResult_ok ?_ _))
    exact requests_same h (filter_add_same _ (congrArg Db.approvalRequests h))

lemma resolveRequest_same (r : String) (v : Review) :
    SameResult t (resolveRequest t r v db) (resolveRequest t r v db') := by
  unfold resolveRequest
  refine .bind rfl fun _ => .bind rfl fun r => .bind rfl fun reviewer => .bind rfl fun reason => ?_
  rw [approval?_same h]
  cases db'.approval? t r with
  | none => exact .error _
  | some row =>
    refine .bind rfl fun _ => sameResult_ok ?_ _
    exact requests_same h (filter_change_same (change_tenant (fun _ => rfl))
      (congrArg Db.approvalRequests h))

lemma writeLog_same {entry : LogEntry} (ht : entry.tenantId = t) (now : Timestamp) :
    SameBy (fun d => d.rowsOf t) (writeLog entry now db) (writeLog entry now db') := by
  subst ht
  unfold writeLog
  refine .bind rfl fun stored => .raise (tenant_mem_same h) (.raise ?_ (.ok ?_))
  · rw [funext (decision?_same h)]
  · exact log_same h (filter_add_same _ (congrArg Db.toolExecutionLog h))

/-- The append of an event that agrees on the identifiers of new rows. -/
lemma appendEvent_same {eventType : EventType} {payload : Dict} {source : String} {draw : Draw}
    (hagree : AgreeFor O ⟨t, payload, draw.now, draw.rowId⟩ db.tables db'.tables eventType)
    (hid : db.events.any (fun e => e.id = draw.eventId) =
      db'.events.any (fun e => e.id = draw.eventId)) :
    SameBy (fun d => d.rowsOf t) (appendEvent O t (.member eventType) payload source draw db)
      (appendEvent O t (.member eventType) payload source draw db') := by
  have happly : SameBy (rowsView t) _ _ :=
    (confined_apply O ⟨t, payload, draw.now, draw.rowId⟩ eventType).alike _ _ hagree
  unfold appendEvent
  simp only [normalizeEventType, ok_bind]
  refine .bind rfl fun _ => .mapError _ ?_
  unfold writeEvent
  refine .raise (tenant_mem_same h) ?_
  rw [latestEvent_same h]
  refine .bind rfl fun hash => .andThen happly fun T T' hT => .bind rfl fun stored =>
    .bind rfl fun storedSource => .raise (by rw [hid]) (.ok ?_)
  exact event_same h hT _

end Alike

end OpsCopilot
