import OpsCopilot.Proofs.DecisionLifecycle

/-!
# The approval protocol

The insert that does nothing on a conflict, the conditional update and the claim of the decision:
what the three keep together, for any number of workers and reviewers.
-/

namespace OpsCopilot

open Python Sql Fallible Interleaving

/-! ### The table of requests -/

/-- The primary key and the unique constraint. -/
structure ApprovalTable (db : Db) : Prop where
  ids : (db.approvalRequests.map ApprovalRequestRecord.id).Nodup
  decisions : (db.approvalRequests.map (fun r => (r.tenantId, r.decisionId))).Nodup

/-- What one transaction can make of a request. -/
inductive ApprovalRequestRecord.Moves (row : ApprovalRequestRecord) : ApprovalRequestRecord → Prop
  | stays : row.Moves row
  | resolved (v : Review) : row.status = .pending → row.Moves (row.resolved v)

inductive ApprovalsMove (db db' : Db) : Prop
  | moves (f : ApprovalRequestRecord → ApprovalRequestRecord)
      (hmoves : ∀ row ∈ db.approvalRequests, row.Moves (f row))
      (heq : db'.approvalRequests = db.approvalRequests.map f)
  | creates (row : ApprovalRequestRecord)
      (hdecision : ∀ b ∈ db.approvalRequests,
        ¬(b.tenantId = row.tenantId ∧ b.decisionId = row.decisionId))
      (hid : ∀ b ∈ db.approvalRequests, b.id ≠ row.id)
      (heq : db'.approvalRequests = db.approvalRequests ++ [row])

section Table

variable {db db' : Db} {row row' : ApprovalRequestRecord}

lemma Review.status_ne_pending (v : Review) : v.status ≠ .pending := by
  unfold Review.status
  split_ifs <;> simp

lemma ApprovalTable.eq (h : ApprovalTable db) (hrow : row ∈ db.approvalRequests)
    (hrow' : row' ∈ db.approvalRequests) (hid : row.id = row'.id) : row = row' :=
  List.inj_on_of_nodup_map h.ids hrow hrow' hid

lemma ApprovalRequestRecord.Moves.key_eq (h : row.Moves row') :
    row'.id = row.id ∧ row'.tenantId = row.tenantId ∧ row'.decisionId = row.decisionId := by
  cases h with
  | stays | resolved _ _ => exact ⟨rfl, rfl, rfl⟩

lemma ApprovalRequestRecord.Moves.eq_of_resolved (h : row.Moves row')
    (hstatus : row.status ≠ .pending) : row' = row := by
  cases h with
  | stays => rfl
  | resolved _ hpending => exact absurd hpending hstatus

lemma ApprovalsMove.of_eq (h : db'.approvalRequests = db.approvalRequests) : ApprovalsMove db db' :=
  .moves id (fun _ _ => .stays) (by rw [h, List.map_id])

lemma ApprovalsMove.table (h : ApprovalsMove db db') (htable : ApprovalTable db) :
    ApprovalTable db' := by
  cases h with
  | moves f hf heq =>
    have hids : db'.approvalRequests.map ApprovalRequestRecord.id =
        db.approvalRequests.map ApprovalRequestRecord.id := by
      rw [heq, List.map_map]
      exact List.map_congr_left (fun r hr => (hf r hr).key_eq.1)
    have hdecisions : db'.approvalRequests.map (fun r => (r.tenantId, r.decisionId)) =
        db.approvalRequests.map (fun r => (r.tenantId, r.decisionId)) := by
      rw [heq, List.map_map]
      refine List.map_congr_left (fun r hr => ?_)
      obtain ⟨-, htenant, hdecision⟩ := (hf r hr).key_eq
      exact Prod.ext htenant hdecision
    exact ⟨hids ▸ htable.ids, hdecisions ▸ htable.decisions⟩
  | creates row hdecision hid heq =>
    constructor
    · rw [heq, List.map_append, List.map_singleton, List.nodup_append']
      refine ⟨htable.ids, List.nodup_singleton _, ?_⟩
      rw [List.disjoint_singleton]
      intro hmem
      obtain ⟨b, hb, heq⟩ := List.mem_map.mp hmem
      exact hid b hb heq
    · rw [heq, List.map_append, List.map_singleton, List.nodup_append']
      refine ⟨htable.decisions, List.nodup_singleton _, ?_⟩
      rw [List.disjoint_singleton]
      intro hmem
      obtain ⟨b, hb, heq⟩ := List.mem_map.mp hmem
      exact hdecision b hb (Prod.mk.inj heq)

/-- A resolved request stays as it is. -/
lemma ApprovalsMove.keeps (h : ApprovalsMove db db') (hrow : row ∈ db.approvalRequests)
    (hstatus : row.status ≠ .pending) : row ∈ db'.approvalRequests := by
  cases h with
  | moves f hf heq =>
    rw [heq]
    exact List.mem_map.mpr ⟨row, hrow, (hf row hrow).eq_of_resolved hstatus⟩
  | creates _ _ _ heq => exact heq ▸ List.mem_append_left _ hrow

lemma ApprovalTable.approval?_of_mem (h : ApprovalTable db) (hrow : row ∈ db.approvalRequests) :
    db.approval? row.tenantId row.id = some row := by
  refine find?_of_unique hrow (decide_eq_true ⟨rfl, rfl⟩) (fun b hb hp => ?_)
  simp only [decide_eq_true_eq] at hp
  exact h.eq hb hrow hp.2

/-- What a reviewer may send. -/
structure Review.WellFormed (v : Review) : Prop where
  reviewer : strip v.reviewerId ≠ ""
  reviewerText : bindText v.reviewerId = .ok v.reviewerId
  overrideText : v.overrideReason.mapM bindText = .ok v.overrideReason

lemma ApprovalTable.resolveRequest_pending (h : ApprovalTable db) (hrow : row ∈ db.approvalRequests)
    (hpending : row.status = .pending) (hid : bindText row.id = .ok row.id) {v : Review}
    (hv : v.WellFormed) :
    ∃ db', resolveRequest row.tenantId row.id v db = .ok (db', row.resolved v) := by
  have hreviewer : raiseIf (strip v.reviewerId = "")
      (⟨.valueError, "reviewer_id is required"⟩ : PyException) = .ok () :=
    raiseIf_ok.mpr hv.reviewer
  have hstatus : raiseIf (row.status ≠ .pending) alreadyResolved = .ok () :=
    raiseIf_ok.mpr (not_not.mpr hpending)
  refine ⟨{ db with approvalRequests := db.approvalRequests.map (fun b =>
    if b.tenantId = row.tenantId ∧ b.id = row.id then b.resolved v else b) }, ?_⟩
  unfold resolveRequest
  rw [hreviewer, hid, hv.reviewerText, hv.overrideText]
  simp only [Except.bind, bind, h.approval?_of_mem hrow, hstatus]
  rfl

end Table

/-! ### The table in one step -/

section Step

variable {O : Outside} {call : ToolCall} {x : ToolAction} {s s' : ToolStore} {p p' : Process}

lemma ApprovalsMove.of_request {t d reason id : String} {db db' : Db} {row : ApprovalRequestRecord}
    (h : requestApproval t d reason id db = .ok (db', row)) : ApprovalsMove db db' := by
  obtain ⟨-, -, ⟨rfl, -⟩ | ⟨rfl, -, hdecision, hid, rfl⟩⟩ := requestApproval_spec h
  · exact .of_eq rfl
  · exact .creates _ hdecision hid rfl

lemma ApprovalsMove.of_resolve {t r : String} {v : Review} {db db' : Db}
    {row : ApprovalRequestRecord} (htable : ApprovalTable db)
    (h : resolveRequest t r v db = .ok (db', row)) : ApprovalsMove db db' := by
  obtain ⟨old, hold, hpending, -, rfl⟩ := resolveRequest_spec h
  obtain ⟨hmem, -, hid⟩ := Db.approval?_spec hold
  refine .moves _ (fun b hb => ?_) rfl
  split_ifs with hb'
  · obtain rfl := htable.eq hb hmem (hb'.2.trans hid.symm)
    exact .resolved v hpending
  · exact .stays

theorem ToolMove.approvalsMove (h : ToolMove O call x s p s' p') (htable : ApprovalTable s.db) :
    ApprovalsMove s.db s'.db := by
  cases h with
  | raise _ _ | crash _ | unsupported _ _ | simulate _ _ | acquire _ _ | timeout _ | block _ _
  | review _ _ | proceed _ _ | getPending _ _ _ | readPending _ _ _ | recheck _ _ _ _
  | stale _ _ _ | getApproved _ _ _ _ | readApproved _ _ _ | acquireApproved _ | complete _
  | releaseWork _ | leave => exact .of_eq rfl
  | persist _ hpersist | persistAlone _ hpersist =>
    obtain ⟨-, -, -, rfl⟩ := persistDecision_spec hpersist
    exact .of_eq rfl
  | request _ hrequest | requestAlone _ hrequest => exact .of_request hrequest
  | resolve _ hresolve | resolveAlone _ hresolve => exact .of_resolve htable hresolve
  | claim hclaim | claimAlone _ hclaim =>
    obtain ⟨-, -, -, rfl⟩ := claimDecision_spec hclaim
    exact .of_eq rfl
  | observe hevaluate | evaluateAlone hevaluate =>
    obtain ⟨-, rfl⟩ := evaluateDecision_spec hevaluate
    exact .of_eq rfl
  | append happend =>
    obtain ⟨_, -, -, happended⟩ := appendEvent_spec happend
    exact .of_eq happended.approvalRequests_eq
  | logPolicy _ hlog | logReviewer _ hlog | audit hlog =>
    obtain ⟨_, -, rfl⟩ := writeLog_spec hlog
    exact .of_eq rfl

/-- Only the read of an approved request leads to its execution. -/
lemma ToolMove.approvalSeen {d : String} (h : ToolMove O call x s p s' p')
    (hp' : p'.stage = .approvalSeen d) : ∃ t r row, call.ExecutesApproved t r ∧
      s.db.approval? t r = some row ∧ row.status = .approved ∧ row.decisionId = d := by
  cases h with
  | raise _ _ | logPolicy _ _ | audit _ =>
    unfold Process.conclude at hp'
    split_ifs at hp'
  | persist _ _ =>
    unfold gateDecision at hp'
    split_ifs at hp'
  | getPending _ _ _ | resolve _ _ =>
    split_ifs at hp'
  | crash _ | unsupported _ _ | simulate _ _ | persistAlone _ _ | acquire _ _ | timeout _
  | block _ _ | review _ _ | proceed _ _ | request _ _ | requestAlone _ _ | resolveAlone _ _
  | readPending _ _ _ | recheck _ _ _ _ | stale _ _ _ | readApproved _ _ _ | acquireApproved _
  | claimAlone _ _ | evaluateAlone _ | claim _ | observe _ | complete _ | append _
  | logReviewer _ _ | releaseWork _ | leave => exact absurd hp' (by simp)
  | getApproved hcall _ hget hstatus =>
    simp only [Stage.approvalSeen.injEq] at hp'
    exact ⟨_, _, _, hcall, getApproval_spec hget, hstatus, hp'⟩

/-- A call that is one transaction has not begun or is over. -/
def Process.atEnds (p : Process) : Prop :=
  p.guard = none ∧ (p.stage = .idle ∨ p.stage.ended = true)

/-- A call of `ApprovalWorkflow.resolve` is one transaction. -/
lemma ToolMove.of_resolve {t r : String} {v : Review}
    (h : ToolMove O (.resolve t r v) x s p s' p') (hp : p.atEnds) :
    p'.atEnds ∧ ∀ answer, p'.stage = .finished (.ok answer) →
      ∃ row, resolveRequest t r v s.db = .ok (s'.db, row) := by
  obtain ⟨hguard, hstage⟩ := hp
  cases h with
  | raise e _ =>
    rw [Process.atEnds, Process.conclude, if_pos hguard]
    exact ⟨⟨hguard, .inr rfl⟩, fun _ hanswer => absurd hanswer (by simp)⟩
  | crash _ => exact ⟨⟨rfl, .inr rfl⟩, fun _ hanswer => absurd hanswer (by simp)⟩
  | resolveAlone hcall hresolve =>
    obtain ⟨rfl, rfl, rfl⟩ := ToolCall.resolve.inj hcall
    exact ⟨⟨rfl, .inr rfl⟩, fun _ _ => ⟨_, hresolve⟩⟩
  | unsupported hcall _ | persist hcall _ | persistAlone hcall _ | acquire hcall _
  | timeout hcall | block hcall _ | review hcall _ | proceed hcall _ | request hcall _
  | requestAlone hcall _ | getPending hcall _ _ | readPending hcall _ _ | recheck hcall _ _ _
  | stale _ hcall _ | resolve hcall _ | claimAlone hcall _ => exact absurd hcall (by simp)
  | simulate hcall _ | getApproved hcall _ _ _ | readApproved hcall _ _ =>
    exact absurd hcall (by simp [ToolCall.ExecutesApproved])
  | acquireApproved _ | evaluateAlone _ | claim _ | observe _ | complete _ | append _
  | logPolicy _ _ | logReviewer _ _ | releaseWork _ | audit _ | leave =>
    exact absurd hstage (by simp [Stage.ended])

end Step

/-! ### Runs -/

/-- The request is approved, and is about this decision. -/
def ApprovedFor (db : Db) (t r d : String) : Prop :=
  ∃ row ∈ db.approvalRequests, row.tenantId = t ∧ row.id = r ∧ row.decisionId = d ∧
    row.status = .approved

/-- The request carries the word of this review. -/
def ResolvedBy (db : Db) (t r : String) (v : Review) : Prop :=
  ∃ row ∈ db.approvalRequests, row.tenantId = t ∧ row.id = r ∧ row.status = v.status ∧
    row.reviewerId = some v.reviewerId ∧ row.overrideReason = v.overrideReason

lemma ApprovalsMove.approvedFor {db db' : Db} {t r d : String} (h : ApprovalsMove db db')
    (happroved : ApprovedFor db t r d) : ApprovedFor db' t r d := by
  obtain ⟨row, hrow, ht, hr, hd, hstatus⟩ := happroved
  exact ⟨row, h.keeps hrow (by simp [hstatus]), ht, hr, hd, hstatus⟩

lemma ApprovalsMove.resolvedBy {db db' : Db} {t r : String} {v : Review} (h : ApprovalsMove db db')
    (hresolved : ResolvedBy db t r v) : ResolvedBy db' t r v := by
  obtain ⟨row, hrow, ht, hr, hstatus, hword⟩ := hresolved
  exact ⟨row, h.keeps hrow (hstatus ▸ v.status_ne_pending), ht, hr, hstatus, hword⟩

lemma resolvedBy_of_resolve {db db' : Db} {t r : String} {v : Review}
    {row : ApprovalRequestRecord} (h : resolveRequest t r v db = .ok (db', row)) :
    ResolvedBy db' t r v := by
  obtain ⟨old, hold, -, -, rfl⟩ := resolveRequest_spec h
  obtain ⟨hmem, ht, hid⟩ := Db.approval?_spec hold
  refine ⟨old.resolved v, List.mem_map.mpr ⟨old, hmem, if_pos ⟨ht, hid⟩⟩, ht, hid, rfl, rfl, rfl⟩

/-- A resolved request cannot be resolved again. -/
lemma ResolvedBy.not_resolve {db db' : Db} {t r : String} {v w : Review}
    {row : ApprovalRequestRecord} (htable : ApprovalTable db) (h : ResolvedBy db t r v) :
    resolveRequest t r w db ≠ .ok (db', row) := by
  intro hresolve
  obtain ⟨old, hold, hpending, -, -⟩ := resolveRequest_spec hresolve
  obtain ⟨hmem, -, hid⟩ := Db.approval?_spec hold
  obtain ⟨row, hrow, -, hr, hstatus, -⟩ := h
  obtain rfl := htable.eq hmem hrow (hid.trans hr.symm)
  exact v.status_ne_pending (hstatus.symm.trans hpending)

lemma ToolCall.ExecutesApproved.unique {call : ToolCall} {t t' r r' : String}
    (h : call.ExecutesApproved t r) (h' : call.ExecutesApproved t' r') : t' = t ∧ r' = r := by
  rcases h with rfl | ⟨v, rfl⟩
  · rcases h' with h' | ⟨_, h'⟩
    · obtain ⟨rfl, rfl⟩ := ToolCall.executeApproved.inj h'
      exact ⟨rfl, rfl⟩
    · exact absurd h' (by simp)
  · rcases h' with h' | ⟨_, h'⟩
    · exact absurd h' (by simp)
    · obtain ⟨rfl, rfl, -⟩ := ToolCall.resolveApproval.inj h'
      exact ⟨rfl, rfl⟩

section Runs

variable {ι : Type*} [DecidableEq ι] {O : Outside} {call : ι → ToolCall}
  {c d e : Config ι ToolStore Process} {i j : ι} {x : ToolAction}

/-- The call of `ApprovalWorkflow.resolve` has returned. -/
def Wins (call : ι → ToolCall) (c : Config ι ToolStore Process) (i : ι) (t r : String)
    (v : Review) : Prop :=
  call i = .resolve t r v ∧ ∃ answer, (c.proc i).stage = .finished (.ok answer)

/-- What holds of the requests, and of the calls that read them, in every state of a run. -/
structure ApprovalsKept (call : ι → ToolCall) (c : Config ι ToolStore Process) : Prop where
  table : ApprovalTable c.shared.db
  ends : ∀ i t r v, call i = .resolve t r v → (c.proc i).atEnds
  won : ∀ i t r v, Wins call c i t r v → ResolvedBy c.shared.db t r v
  one : ∀ i j t r v w, Wins call c i t r v → Wins call c j t r w → i = j
  seen : ∀ i t r d, (call i).ExecutesApproved t r → (c.proc i).stage = .approvalSeen d →
    ApprovedFor c.shared.db t r d
  working : ∀ i w r, (c.proc i).stage.work? = some w → w.authority = .reviewer r →
    ApprovedFor c.shared.db w.tenantId r w.decisionId

lemma ApprovalsKept.fire (hc : ApprovalsKept call c)
    (h : (toolCalls O call).fire c i x = some d) : ApprovalsKept call d := by
  have hmove := toolCalls_move h
  have hother : ∀ j, j ≠ i → d.proc j = c.proc j := fun j => (toolCalls O call).proc_of_fire h
  have hrequests := hmove.approvalsMove hc.table
  -- A call that has just won has resolved the request in this step, or had won before.
  have hwins : ∀ j t r v, Wins call d j t r v →
      Wins call c j t r v ∨
        j = i ∧ ∃ row, resolveRequest t r v c.shared.db = .ok (d.shared.db, row) := by
    rintro j t r v ⟨hcall, answer, hanswer⟩
    by_cases hj : j = i
    · subst hj
      rw [hcall] at hmove
      exact .inr ⟨rfl, (hmove.of_resolve (hc.ends j t r v hcall)).2 answer hanswer⟩
    · rw [hother j hj] at hanswer
      exact .inl ⟨hcall, answer, hanswer⟩
  refine ⟨hrequests.table hc.table, ?_, ?_, ?_, ?_, ?_⟩
  · intro j t r v hcall
    by_cases hj : j = i
    · subst hj
      rw [hcall] at hmove
      exact (hmove.of_resolve (hc.ends j t r v hcall)).1
    · rw [hother j hj]
      exact hc.ends j t r v hcall
  · intro j t r v hj
    rcases hwins j t r v hj with hj | ⟨-, row, hresolve⟩
    · exact hrequests.resolvedBy (hc.won j t r v hj)
    · exact resolvedBy_of_resolve hresolve
  · intro j k t r v w hj hk
    rcases hwins j t r v hj with hj | ⟨rfl, row, hresolve⟩
    · rcases hwins k t r w hk with hk | ⟨rfl, row, hresolve⟩
      · exact hc.one j k t r v w hj hk
      · exact absurd hresolve ((hc.won j t r v hj).not_resolve hc.table)
    · rcases hwins k t r w hk with hk | ⟨rfl, -⟩
      · exact absurd hresolve ((hc.won k t r w hk).not_resolve hc.table)
      · rfl
  · intro j t r d hcall hstage
    by_cases hj : j = i
    · subst hj
      obtain ⟨t', r', row, hcall', hrow, hstatus, hdecision⟩ := hmove.approvalSeen hstage
      obtain ⟨rfl, rfl⟩ := hcall.unique hcall'
      obtain ⟨hmem, htenant, hid⟩ := Db.approval?_spec hrow
      exact hrequests.approvedFor ⟨row, hmem, htenant, hid, hdecision, hstatus⟩
    · rw [hother j hj] at hstage
      exact hrequests.approvedFor (hc.seen j t r d hcall hstage)
  · intro j w r hw hauthority
    by_cases hj : j = i
    · subst hj
      rcases hmove.work_cases hw with hw | ⟨_, _, _, _, _, _, _, -, -, -, rfl⟩ |
          ⟨t, r', d, decision, payload, hcall, hp, hdecision, -, rfl⟩
      · exact hrequests.approvedFor (hc.working j w r hw hauthority)
      · exact absurd hauthority (by simp)
      · obtain rfl := Authority.reviewer.inj hauthority
        obtain ⟨-, hid, -⟩ := Db.decision?_spec hdecision
        have hseen := hc.seen j t r' d hcall (by rw [hp])
        exact hrequests.approvedFor (hid ▸ hseen)
    · rw [hother j hj] at hw
      exact hrequests.approvedFor (hc.working j w r hw hauthority)

lemma approvalsKept_run {db : Db} {schedule : List (ι × ToolAction)} (hdb : ApprovalTable db)
    (h : (toolCalls O call).run db.start schedule = some c) : ApprovalsKept call c := by
  have hstart : ApprovalsKept call (db.start : Config ι ToolStore Process) := by
    refine ⟨hdb, fun _ _ _ _ _ => ⟨rfl, .inl rfl⟩, ?_, ?_, ?_, ?_⟩
    · rintro i t r v ⟨-, answer, hanswer⟩
      exact absurd hanswer (by simp [Db.start, Process.idle])
    · rintro i j t r v w ⟨-, answer, hanswer⟩
      exact absurd hanswer (by simp [Db.start, Process.idle])
    · intro i t r d _ hstage
      exact absurd hstage (by simp [Db.start, Process.idle])
    · intro i w r hw
      exact absurd hw (by simp [Db.start, Process.idle, Stage.work?])
  exact (toolCalls O call).run_invariant' (fun _ _ _ _ hc hd => hc.fire hd) hstart h

/-- The call claims the decision of an approved request. -/
def ClaimsApproved (id : String) (c : Config ι ToolStore Process) (i : ι)
    (d : Config ι ToolStore Process) : Prop :=
  ∃ w r predicted, (c.proc i).stage = .claiming w ∧ w.authority = .reviewer r ∧ w.decisionId = id ∧
    (d.proc i).stage = .observing w predicted

lemma claimDecision_leaves {t id : String} {db db' : Db} {decision : Decision}
    (h : claimDecision t id db = .ok (db', decision)) : Leaves id .simulated db db' := by
  obtain ⟨hfound, -, hstatus, rfl⟩ := claimDecision_spec h
  obtain ⟨hmem, hid, htenant⟩ := Db.decision?_spec hfound
  refine ⟨decision, hmem, { decision with status := .executed },
    List.mem_map.mpr ⟨decision, hmem, if_pos ⟨hid, htenant⟩⟩, hid, hid, hstatus, by simp⟩

lemma ToolMove.claim_leaves {O : Outside} {call : ToolCall} {s s' : ToolStore} {p p' : Process}
    {w : Work} {predicted : PredictedOutcome} (h : ToolMove O call x s p s' p')
    (hp : p.stage = .claiming w) (hp' : p'.stage = .observing w predicted) :
    Leaves w.decisionId .simulated s.db s'.db := by
  cases h with
  | claim hclaim =>
    obtain rfl := Stage.claiming.inj hp
    exact claimDecision_leaves hclaim
  | raise _ _ =>
    unfold Process.conclude at hp'
    split_ifs at hp'
  | crash _ | stale _ _ _ => exact absurd hp' (by simp)
  | getApproved _ hstage _ _ => exact absurd hp' (by simp)
  | unsupported _ _ | simulate _ _ | persist _ _ | persistAlone _ _ | acquire _ _ | timeout _
  | block _ _ | review _ _ | proceed _ _ | request _ _ | requestAlone _ _ | resolveAlone _ _
  | getPending _ _ _ | readPending _ _ _ | recheck _ _ _ _ | resolve _ _ | readApproved _ _ _
  | acquireApproved _ | claimAlone _ _ | evaluateAlone _ | observe _ | complete _ | append _
  | logPolicy _ _ | logReviewer _ _ | releaseWork _ | audit _ | leave =>
    exact absurd hp (by simp [Process.idle])

/-- What holds of the approval requests in a state and in everything that follows it. -/
structure ApprovalLaws (O : Outside) (call : ι → ToolCall) (c : Config ι ToolStore Process) :
    Prop where
  /-- A decision has one request at most. -/
  unique : ∀ row ∈ c.shared.db.approvalRequests, ∀ row' ∈ c.shared.db.approvalRequests,
    row.tenantId = row'.tenantId → row.decisionId = row'.decisionId → row = row'
  /-- As long as a request is pending, the next reviewer resolves it. -/
  resolvable : ∀ row ∈ c.shared.db.approvalRequests, row.status = .pending →
    bindText row.id = .ok row.id → ∀ v : Review, v.WellFormed →
    ∃ db', resolveRequest row.tenantId row.id v c.shared.db = .ok (db', row.resolved v)
  one_winner : ∀ i j t r v w, Wins call c i t r v → Wins call c j t r w → i = j
  /-- What is stored is the word of the winner. -/
  word : ∀ i t r v, Wins call c i t r v → ResolvedBy c.shared.db t r v
  /-- A resolved request never changes. -/
  settled : ∀ later d, (toolCalls O call).run c later = some d →
    ∀ row ∈ c.shared.db.approvalRequests, row.status ≠ .pending → row ∈ d.shared.db.approvalRequests
  /-- Before a decision is executed for a request, that request is approved. -/
  approved_first : ∀ i w r, (c.proc i).stage = .claiming w → w.authority = .reviewer r →
    ApprovedFor c.shared.db w.tenantId r w.decisionId
  never_rejected : ∀ i w r, (c.proc i).stage = .claiming w → w.authority = .reviewer r →
    ∀ row ∈ c.shared.db.approvalRequests, row.tenantId = w.tenantId →
      row.decisionId = w.decisionId → row.status ≠ .rejected
  /-- A decision is executed for a request at most once. -/
  once : ∀ i x d later e j y f id, (toolCalls O call).fire c i x = some d →
    ClaimsApproved id c i d → (toolCalls O call).run d later = some e →
    (toolCalls O call).fire e j y = some f → ¬ClaimsApproved id e j f

lemma ClaimsApproved.leaves {id : String} (h : ClaimsApproved id c i d)
    (hfire : (toolCalls O call).fire c i x = some d) :
    Leaves id .simulated c.shared.db d.shared.db := by
  obtain ⟨w, r, predicted, hclaiming, -, rfl, hobserving⟩ := h
  exact (toolCalls_move hfire).claim_leaves hclaiming hobserving

theorem approval_protocol {db : Db} {schedule : List (ι × ToolAction)} (hids : db.DecisionIds)
    (htable : ApprovalTable db) (hc : (toolCalls O call).run db.start schedule = some c) :
    ApprovalLaws O call c := by
  have hkept := approvalsKept_run htable hc
  have hdecisions : c.shared.db.DecisionIds :=
    (toolCalls O call).run_invariant' (fun _ _ _ _ (h : Db.DecisionIds _) hd => (h.fire hd).2) hids hc
  have hunique : ∀ row ∈ c.shared.db.approvalRequests, ∀ row' ∈ c.shared.db.approvalRequests,
      row.tenantId = row'.tenantId → row.decisionId = row'.decisionId → row = row' :=
    fun row hrow row' hrow' htenant hdecision =>
      List.inj_on_of_nodup_map hkept.table.decisions hrow hrow' (Prod.ext htenant hdecision)
  have happroved : ∀ i w r, (c.proc i).stage = .claiming w → w.authority = .reviewer r →
      ApprovedFor c.shared.db w.tenantId r w.decisionId :=
    fun i w r hstage hauthority => hkept.working i w r (by rw [hstage]; rfl) hauthority
  refine ⟨hunique, fun row hrow hpending hid v hv =>
    hkept.table.resolveRequest_pending hrow hpending hid hv, hkept.one, hkept.won, ?_, happroved,
    ?_, ?_⟩
  · intro later d hlater row hrow hstatus
    have hstep : ∀ c i x d, (ApprovalsKept call c ∧ row ∈ c.shared.db.approvalRequests) →
        (toolCalls O call).fire c i x = some d →
        ApprovalsKept call d ∧ row ∈ d.shared.db.approvalRequests := by
      rintro c i x d ⟨hc, hrow⟩ hd
      refine ⟨hc.fire hd, ?_⟩
      exact ((toolCalls_move hd).approvalsMove hc.table).keeps hrow hstatus
    exact ((toolCalls O call).run_invariant' hstep ⟨hkept, hrow⟩ hlater).2
  · intro i w r hstage hauthority row hrow htenant hdecision
    obtain ⟨row', hrow', htenant', -, hdecision', hstatus⟩ := happroved i w r hstage hauthority
    have heq := hunique row hrow row' hrow' (htenant.trans htenant'.symm)
      (hdecision.trans hdecision'.symm)
    rw [heq, hstatus]
    exact ApprovalStatus.noConfusion
  · intro i x d later e j y f id hfire hclaims hlater hfire' hclaims'
    exact leaves_once hdecisions hfire (hclaims.leaves hfire) hlater f.shared.db
      (hclaims'.leaves hfire')

end Runs

/-! ### A concrete run -/

def reviewerSays (approved : Bool) : Review := ⟨approved, "chef", none⟩

/-- A proposal, its request, two reviewers of different minds, and two workers that execute it. -/
def contestedSoup : ℕ → ToolCall
  | 0 => .propose "t" .priceChange (soupPrice 1200)
  | 1 => .request "t" "d" "above the autonomous limit"
  | 2 => .resolve "t" "q" (reviewerSays true)
  | 3 => .resolve "t" "q" (reviewerSays false)
  | _ => .executeApproved "t" "q"

def contestedSchedule : List (ℕ × ToolAction) :=
  [(0, .simulate), (0, .persist "d"), (1, .request "q"), (2, .resolve), (3, .resolve), (4, .get),
    (5, .get), (4, .readDecision), (5, .readDecision), (4, .acquire), (4, .claim)]

theorem contested_approval_protocol : ∃ c,
    (toolCalls (.prescribed []) contestedSoup).run bistro.start contestedSchedule = some c ∧
      ApprovalLaws (.prescribed []) contestedSoup c := by
  have hrun : ((toolCalls (.prescribed []) contestedSoup).run bistro.start
      contestedSchedule).isSome = true := by decide +kernel
  have hids : bistro.DecisionIds := List.nodup_nil
  have htable : ApprovalTable bistro := ⟨List.nodup_nil, List.nodup_nil⟩
  obtain ⟨c, hc⟩ := Option.isSome_iff_exists.mp hrun
  exact ⟨c, hc, approval_protocol hids htable hc⟩

end OpsCopilot
