import OpsCopilot.Proofs.ToolSteps
import OpsCopilot.Proofs.EventAppend

/-!
# What the transactions do to their rows

One specification for each transaction of the decision engine, the approval workflow and the
execution log.
-/

namespace OpsCopilot

open Python Sql Fallible

/-! ### Rows with unique identifiers -/

lemma find?_of_unique {α : Type*} {p : α → Bool} {rows : List α} {a : α} (ha : a ∈ rows)
    (hp : p a = true) (hunique : ∀ b ∈ rows, p b = true → b = a) : rows.find? p = some a := by
  cases hfind : rows.find? p with
  | none => exact absurd hp (List.find?_eq_none.mp hfind a ha)
  | some b =>
    rw [hunique b (List.mem_of_find?_eq_some hfind) (List.find?_some hfind)]

/-- Identifiers are primary keys. -/
def Db.DecisionIds (db : Db) : Prop := (db.decisions.map Decision.id).Nodup

lemma Db.DecisionIds.eq {db : Db} (h : db.DecisionIds) {r r' : Decision} (hr : r ∈ db.decisions)
    (hr' : r' ∈ db.decisions) (hid : r.id = r'.id) : r = r' :=
  List.inj_on_of_nodup_map h hr hr' hid

lemma Db.decision?_spec {db : Db} {t id : String} {r : Decision} (h : db.decision? t id = some r) :
    r ∈ db.decisions ∧ r.id = id ∧ r.tenantId = t := by
  have hmem := List.mem_of_find?_eq_some h
  have hp := List.find?_some h
  simp only [decide_eq_true_eq] at hp
  exact ⟨hmem, hp.1, hp.2⟩

/-! ### Decisions -/

section Decisions

variable {t id : String} {a : ActionType} {payload : Dict} {predicted : PredictedOutcome}
  {db db' : Db} {decision : Decision} {draws : Randomness} {now : Timestamp}
  {evaluation : Evaluation}

lemma storeRat_eq {precision scale : ℕ} {q : ℚ} {x : Numeric precision scale}
    (h : storeRat precision scale q = .ok x) : Numeric.store? precision scale q = some x := by
  unfold storeRat at h
  cases hstore : Numeric.store? precision scale q with
  | none =>
    rw [hstore] at h
    exact absurd h (by simp)
  | some y =>
    rw [hstore] at h
    exact congrArg some (Except.ok.inj h)

/-- A row as `propose_and_simulate` writes it. -/
structure Created (t id : String) (a : ActionType) (payload : Dict) (predicted : PredictedOutcome)
    (r : Decision) : Prop where
  id_eq : r.id = id
  tenantId_eq : r.tenantId = t
  actionType_eq : r.actionType = a
  payload_eq : storeJson (.dict payload) = .ok r.actionPayload
  predicted_eq : r.predictedOutcome = predicted
  confidence_eq : Numeric.store? 5 4 predicted.confidence = some r.confidence
  cleared_eq : r.confidenceThresholdCleared = decide (confidenceThreshold ≤ predicted.confidence)
  status_eq : r.status = if r.confidenceThresholdCleared then .simulated else .heldLowConfidence
  unevaluated : r.actualOutcome = none ∧ r.calibrationError = none ∧ r.evaluatedAt = none

lemma persistDecision_spec (h : persistDecision t a payload predicted id db = .ok (db', decision)) :
    Created t id a payload predicted decision ∧ t ∈ db.tenants ∧ (∀ r ∈ db.decisions, r.id ≠ id) ∧
      db' = { db with decisions := db.decisions ++ [decision] } := by
  obtain ⟨stored, hstored, h⟩ := bind_ok.mp h
  obtain ⟨confidence, hconfidence, h⟩ := bind_ok.mp h
  obtain ⟨_, htenant, h⟩ := bind_ok.mp h
  obtain ⟨_, hfresh, h⟩ := bind_ok.mp h
  obtain ⟨rfl, rfl⟩ := Prod.mk.inj (pure_ok.mp h)
  refine ⟨⟨rfl, rfl, rfl, hstored, rfl, storeRat_eq hconfidence, rfl, rfl, rfl, rfl, rfl⟩,
    not_not.mp (raiseIf_ok.mp htenant), fun r hr hid => ?_, rfl⟩
  exact raiseIf_ok.mp hfresh (List.any_eq_true.mpr ⟨r, hr, decide_eq_true hid⟩)

lemma claimDecision_spec (h : claimDecision t id db = .ok (db', decision)) :
    db.decision? t id = some decision ∧ decision.confidenceThresholdCleared = true ∧
      decision.status = .simulated ∧
      db' = db.changeDecision t id (fun r => { r with status := .executed }) := by
  unfold claimDecision at h
  split at h
  · exact absurd h (by simp)
  · rename_i found hfound
    obtain ⟨_, hcleared, h⟩ := bind_ok.mp h
    obtain ⟨_, hstatus, h⟩ := bind_ok.mp h
    obtain ⟨rfl, rfl⟩ := Prod.mk.inj (pure_ok.mp h)
    exact ⟨hfound, Bool.eq_true_of_not_eq_false (raiseIf_ok.mp hcleared),
      not_not.mp (raiseIf_ok.mp hstatus), rfl⟩

/-- A row with its evaluation. -/
def Decision.evaluated (r : Decision) (evaluation : Evaluation) (now : Timestamp) : Decision :=
  { r with
    actualOutcome := some evaluation.actual
    calibrationError := some evaluation.error
    status := .evaluated
    evaluatedAt := some now }

lemma evaluateDecision_spec
    (h : evaluateDecision t id predicted draws now db = .ok (db', evaluation)) :
    (∃ r, db.decision? t id = some r ∧ r.status = .executed) ∧
      db' = db.changeDecision t id (fun r => r.evaluated evaluation now) := by
  obtain ⟨_, hexecuted, h⟩ := bind_ok.mp h
  obtain ⟨error, herror, h⟩ := bind_ok.mp h
  obtain ⟨rfl, rfl⟩ := Prod.mk.inj (pure_ok.mp h)
  have hany := not_not.mp (raiseIf_ok.mp hexecuted)
  rw [Option.any_eq_true] at hany
  obtain ⟨r, hr, hstatus⟩ := hany
  exact ⟨⟨r, hr, of_decide_eq_true hstatus⟩, rfl⟩

/-! ### How a row moves on -/

/-- What one transaction can make of a row. -/
inductive Decision.Moves (r : Decision) : Decision → Prop
  | stays : r.Moves r
  | claimed : r.status = .simulated → r.confidenceThresholdCleared = true →
      r.Moves { r with status := .executed }
  | evaluated (evaluation : Evaluation) (now : Timestamp) : r.status = .executed →
      r.Moves (r.evaluated evaluation now)

lemma Decision.Moves.id_eq {r r' : Decision} (h : r.Moves r') : r'.id = r.id := by
  cases h with
  | stays | claimed _ _ | evaluated _ _ _ => rfl

/-- What no transaction changes of a row. -/
structure Decision.Same (r r' : Decision) : Prop where
  id_eq : r'.id = r.id
  tenantId_eq : r'.tenantId = r.tenantId
  actionType_eq : r'.actionType = r.actionType
  actionPayload_eq : r'.actionPayload = r.actionPayload
  predicted_eq : r'.predictedOutcome = r.predictedOutcome
  confidence_eq : r'.confidence = r.confidence

lemma Decision.Same.refl (r : Decision) : r.Same r := ⟨rfl, rfl, rfl, rfl, rfl, rfl⟩

lemma Decision.Same.trans {r r' r'' : Decision} (h : r.Same r') (h' : r'.Same r'') : r.Same r'' :=
  ⟨h'.id_eq.trans h.id_eq, h'.tenantId_eq.trans h.tenantId_eq,
    h'.actionType_eq.trans h.actionType_eq, h'.actionPayload_eq.trans h.actionPayload_eq,
    h'.predicted_eq.trans h.predicted_eq, h'.confidence_eq.trans h.confidence_eq⟩

lemma Decision.Moves.same {r r' : Decision} (h : r.Moves r') : r.Same r' := by
  cases h with
  | stays | claimed _ _ | evaluated _ _ _ => exact ⟨rfl, rfl, rfl, rfl, rfl, rfl⟩

/-- What one transaction can make of the table: each row moves on, and one may be created. -/
inductive DecisionsMove (db db' : Db) : Prop
  | moves (f : Decision → Decision) (hmoves : ∀ r ∈ db.decisions, r.Moves (f r))
      (heq : db'.decisions = db.decisions.map f)
  | creates (t id : String) (a : ActionType) (payload : Dict) (predicted : PredictedOutcome)
      (decision : Decision) (hcreated : Created t id a payload predicted decision)
      (hfresh : ∀ r ∈ db.decisions, r.id ≠ id) (heq : db'.decisions = db.decisions ++ [decision])

lemma DecisionsMove.of_eq (h : db'.decisions = db.decisions) : DecisionsMove db db' :=
  .moves id (fun _ _ => .stays) (by rw [h, List.map_id])

lemma DecisionsMove.of_change (hids : db.DecisionIds) {g : Decision → Decision} {r : Decision}
    (hr : db.decision? t id = some r) (hmoves : r.Moves (g r)) :
    DecisionsMove db (db.changeDecision t id g) := by
  obtain ⟨hmem, hid, -⟩ := Db.decision?_spec hr
  refine .moves _ (fun b hb => ?_) rfl
  split_ifs with hb'
  · obtain rfl := hids.eq hb hmem (hb'.1.trans hid.symm)
    exact hmoves
  · exact .stays

lemma DecisionsMove.ids (h : DecisionsMove db db') (hids : db.DecisionIds) : db'.DecisionIds := by
  cases h with
  | moves f hf heq =>
    have hmap : (db.decisions.map f).map Decision.id = db.decisions.map Decision.id := by
      rw [List.map_map]
      exact List.map_congr_left (fun r hr => (hf r hr).id_eq)
    rw [Db.DecisionIds, heq, hmap]
    exact hids
  | creates _ _ _ _ _ _ hcreated hfresh heq =>
    rw [Db.DecisionIds, heq, List.map_append, List.map_singleton, List.nodup_append']
    refine ⟨hids, List.nodup_singleton _, ?_⟩
    rw [List.disjoint_singleton]
    intro hmem
    obtain ⟨r, hr, hid⟩ := List.mem_map.mp hmem
    exact hfresh r hr (hid.trans hcreated.id_eq)

/-- Every row is still there, moved on. -/
lemma DecisionsMove.mem (h : DecisionsMove db db') {r : Decision} (hr : r ∈ db.decisions) :
    ∃ r' ∈ db'.decisions, r.Moves r' := by
  cases h with
  | moves f hf heq => exact ⟨f r, heq ▸ List.mem_map_of_mem hr, hf r hr⟩
  | creates _ _ _ _ _ _ _ _ heq => exact ⟨r, heq ▸ List.mem_append_left _ hr, .stays⟩

/-- Every row comes from an earlier one or is new. -/
lemma DecisionsMove.of_mem (h : DecisionsMove db db') {r' : Decision} (hr' : r' ∈ db'.decisions) :
    (∃ r ∈ db.decisions, r.Moves r') ∨
      ∃ t id a payload predicted, Created t id a payload predicted r' := by
  cases h with
  | moves f hf heq =>
    rw [heq] at hr'
    obtain ⟨r, hr, rfl⟩ := List.mem_map.mp hr'
    exact .inl ⟨r, hr, hf r hr⟩
  | creates _ _ _ _ _ _ hcreated _ heq =>
    rw [heq, List.mem_append, List.mem_singleton] at hr'
    rcases hr' with hr' | rfl
    · exact .inl ⟨r', hr', .stays⟩
    · exact .inr ⟨_, _, _, _, _, hcreated⟩

end Decisions

/-! ### Approval requests -/

section Approvals

variable {t d r reason id : String} {db db' : Db} {row : ApprovalRequestRecord} {v : Review}

lemma Db.approvalOf?_spec (h : db.approvalOf? t d = some row) :
    row ∈ db.approvalRequests ∧ row.tenantId = t ∧ row.decisionId = d := by
  have hmem := List.mem_of_find?_eq_some h
  have hp := List.find?_some h
  simp only [decide_eq_true_eq] at hp
  exact ⟨hmem, hp.1, hp.2⟩

lemma Db.approval?_spec (h : db.approval? t r = some row) :
    row ∈ db.approvalRequests ∧ row.tenantId = t ∧ row.id = r := by
  have hmem := List.mem_of_find?_eq_some h
  have hp := List.find?_some h
  simp only [decide_eq_true_eq] at hp
  exact ⟨hmem, hp.1, hp.2⟩

lemma requestApproval_spec (h : requestApproval t d reason id db = .ok (db', row)) :
    row.tenantId = t ∧ row.decisionId = d ∧
      (db' = db ∧ row ∈ db.approvalRequests ∨
        row = ⟨id, t, d, reason, .pending, none, none⟩ ∧ (∃ r, db.decision? t d = some r) ∧
        (∀ b ∈ db.approvalRequests, ¬(b.tenantId = t ∧ b.decisionId = d)) ∧
        (∀ b ∈ db.approvalRequests, b.id ≠ id) ∧
        db' = { db with approvalRequests := db.approvalRequests ++ [row] }) := by
  obtain ⟨d', hd, hrest⟩ := bind_ok.mp h
  obtain ⟨reason', hreason, hrest⟩ := bind_ok.mp hrest
  rw [bindText_ok hd, bindText_ok hreason] at hrest
  split at hrest
  · rename_i found hfound
    obtain ⟨rfl, rfl⟩ := Prod.mk.inj (pure_ok.mp hrest)
    obtain ⟨hmem, ht, hd⟩ := Db.approvalOf?_spec hfound
    exact ⟨ht, hd, .inl ⟨rfl, hmem⟩⟩
  · rename_i hnone
    obtain ⟨_, hdecision, hrest⟩ := bind_ok.mp hrest
    obtain ⟨_, hfresh, hrest⟩ := bind_ok.mp hrest
    obtain ⟨rfl, rfl⟩ := Prod.mk.inj (pure_ok.mp hrest)
    refine ⟨rfl, rfl, .inr ⟨rfl, Option.ne_none_iff_exists'.mp (raiseIf_ok.mp hdecision),
      fun b hb hbd => ?_, fun b hb hid => ?_, rfl⟩⟩
    · exact absurd (decide_eq_true hbd) (List.find?_eq_none.mp hnone b hb)
    · exact raiseIf_ok.mp hfresh (List.any_eq_true.mpr ⟨b, hb, decide_eq_true hid⟩)

lemma getApproval_spec (h : getApproval t r db = .ok row) : db.approval? t r = some row := by
  obtain ⟨r', hr, hrest⟩ := bind_ok.mp h
  rw [bindText_ok hr] at hrest
  cases hfind : db.approval? t r with
  | none =>
    rw [hfind] at hrest
    exact absurd hrest (by simp)
  | some found =>
    rw [hfind] at hrest
    exact congrArg some (Except.ok.inj hrest)

/-- A request with the reviewer's word. -/
def ApprovalRequestRecord.resolved (row : ApprovalRequestRecord) (v : Review) :
    ApprovalRequestRecord :=
  { row with status := v.status, reviewerId := some v.reviewerId, overrideReason := v.overrideReason }

lemma bindText_mapM {o o' : Option String} (h : o.mapM bindText = .ok o') : o' = o := by
  cases o with
  | none => exact (Except.ok.inj h).symm
  | some text =>
    obtain ⟨text', htext, hrest⟩ := bind_ok.mp h
    rw [bindText_ok htext] at hrest
    exact (pure_ok.mp hrest).symm

lemma resolveRequest_spec (h : resolveRequest t r v db = .ok (db', row)) :
    ∃ old, db.approval? t r = some old ∧ old.status = .pending ∧ row = old.resolved v ∧
      db' = { db with approvalRequests := db.approvalRequests.map (fun b =>
        if b.tenantId = t ∧ b.id = r then b.resolved v else b) } := by
  obtain ⟨_, -, hrest⟩ := bind_ok.mp h
  obtain ⟨r', hr, hrest⟩ := bind_ok.mp hrest
  obtain ⟨reviewer, hreviewer, hrest⟩ := bind_ok.mp hrest
  obtain ⟨override, hoverride, hrest⟩ := bind_ok.mp hrest
  rw [bindText_ok hr, bindText_ok hreviewer, bindText_mapM hoverride] at hrest
  split at hrest
  · exact absurd hrest (by simp [throw, throwThe, MonadExceptOf.throw])
  · rename_i old hold
    obtain ⟨_, hstatus, hrest⟩ := bind_ok.mp hrest
    obtain ⟨rfl, rfl⟩ := Prod.mk.inj (pure_ok.mp hrest)
    exact ⟨old, hold, not_not.mp (raiseIf_ok.mp hstatus), rfl, rfl⟩

end Approvals

/-! ### The execution log -/

lemma writeLog_spec {entry : LogEntry} {now : Timestamp} {db db' : Db}
    (h : writeLog entry now db = .ok db') :
    ∃ stored, storeJson (.dict entry.payload) = .ok stored ∧
      db' = { db with toolExecutionLog := db.toolExecutionLog ++
        [⟨entry.tenantId, entry.decisionId, toolCategory entry.actionType, entry.actionType,
          entry.confidenceGatePassed, entry.criticApproved, entry.criticReason, entry.executed,
          stored, now⟩] } := by
  obtain ⟨stored, hstored, h⟩ := bind_ok.mp h
  obtain ⟨_, -, h⟩ := bind_ok.mp h
  obtain ⟨_, -, h⟩ := bind_ok.mp h
  exact ⟨stored, hstored, (pure_ok.mp h).symm⟩

end OpsCopilot
