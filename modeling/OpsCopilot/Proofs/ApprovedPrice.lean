import OpsCopilot.Proofs.ApprovalProtocol
import OpsCopilot.Proofs.StoredPrice
import OpsCopilot.Proofs.ColumnCritic

/-!
# Price changes that a reviewer has approved

`resolve_approval` runs the critic again before it approves a request. The change is executed
later, so the price that the critic has seen is one that was stored at an earlier moment.
-/

namespace OpsCopilot

open Python Sql Fallible Interleaving

/-! ### Steps -/

section Step

variable {O : Outside} {call : ToolCall} {x : ToolAction} {s s' : ToolStore} {p p' : Process}

lemma ToolMove.pendingSeen_cases (h : ToolMove O call x s p s' p') {d : String}
    (hp' : p'.stage = .pendingSeen d) : ∃ t r v row, call = .resolveApproval t r v ∧
      s.db.approval? t r = some row ∧ row.decisionId = d := by
  cases h with
  | getPending hcall hget _ =>
    split_ifs at hp'
    obtain rfl := Stage.pendingSeen.inj hp'
    exact ⟨_, _, _, _, hcall, getApproval_spec hget, rfl⟩
  | raise _ _ | logPolicy _ _ | audit _ =>
    unfold Process.conclude at hp'
    split_ifs at hp'
  | persist _ _ =>
    unfold gateDecision at hp'
    split_ifs at hp'
  | resolve _ _ => split_ifs at hp'
  | crash _ | unsupported _ _ | simulate _ _ | persistAlone _ _ | acquire _ _ | timeout _
  | block _ _ | review _ _ | proceed _ _ | request _ _ | requestAlone _ _ | resolveAlone _ _
  | readPending _ _ _ | recheck _ _ _ _ | stale _ _ _ | getApproved _ _ _ _ | readApproved _ _ _
  | acquireApproved _ | claimAlone _ _ | evaluateAlone _ | claim _ | observe _ | complete _
  | append _ | logReviewer _ _ | releaseWork _ | leave => exact absurd hp' (by simp)

lemma ToolMove.rechecking_cases (h : ToolMove O call x s p s' p') {d : String} {a : ActionType}
    {payload : Dict} (hp' : p'.stage = .rechecking d a payload) :
    ∃ t r v decision, call = .resolveApproval t r v ∧ p.stage = .pendingSeen d ∧
      s.db.decision? t d = some decision ∧ decision.actionType = a ∧
      decision.actionPayload = .dict payload := by
  cases h with
  | readPending hcall hdecision hpayload =>
    obtain ⟨rfl, rfl, rfl⟩ := Stage.rechecking.inj hp'
    exact ⟨_, _, _, _, hcall, rfl, hdecision, rfl, hpayload⟩
  | raise _ _ | logPolicy _ _ | audit _ =>
    unfold Process.conclude at hp'
    split_ifs at hp'
  | persist _ _ =>
    unfold gateDecision at hp'
    split_ifs at hp'
  | getPending _ _ _ | resolve _ _ => split_ifs at hp'
  | crash _ | unsupported _ _ | simulate _ _ | persistAlone _ _ | acquire _ _ | timeout _
  | block _ _ | review _ _ | proceed _ _ | request _ _ | requestAlone _ _ | resolveAlone _ _
  | recheck _ _ _ _ | stale _ _ _ | getApproved _ _ _ _ | readApproved _ _ _
  | acquireApproved _ | claimAlone _ _ | evaluateAlone _ | claim _ | observe _ | complete _
  | append _ | logReviewer _ _ | releaseWork _ | leave => exact absurd hp' (by simp)

/-- An approval is resolved after the critic has approved the decision again. -/
lemma ToolMove.resolving_cases (h : ToolMove O call x s p s' p') (hp' : p'.stage = .resolving) :
    ∃ t r v, call = .resolveApproval t r v ∧ (v.approved = true → ∃ d a payload value,
      p.stage = .rechecking d a payload ∧ .rechecked d value ∈ s'.history) := by
  cases h with
  | getPending hcall _ _ =>
    split_ifs at hp' with hv
    exact ⟨_, _, _, hcall, fun happroved => absurd happroved hv⟩
  | recheck hcall _ _ _ =>
    exact ⟨_, _, _, hcall, fun _ => ⟨_, _, _, _, rfl, List.mem_cons_self⟩⟩
  | raise _ _ | logPolicy _ _ | audit _ =>
    unfold Process.conclude at hp'
    split_ifs at hp'
  | persist _ _ =>
    unfold gateDecision at hp'
    split_ifs at hp'
  | resolve _ _ => split_ifs at hp'
  | crash _ | unsupported _ _ | simulate _ _ | persistAlone _ _ | acquire _ _ | timeout _
  | block _ _ | review _ _ | proceed _ _ | request _ _ | requestAlone _ _ | resolveAlone _ _
  | readPending _ _ _ | stale _ _ _ | getApproved _ _ _ _ | readApproved _ _ _
  | acquireApproved _ | claimAlone _ _ | evaluateAlone _ | claim _ | observe _ | complete _
  | append _ | logReviewer _ _ | releaseWork _ | leave => exact absurd hp' (by simp)

/-- The history only grows, and what the critic has approved again is noted as it does so. -/
lemma ToolMove.history_cases (h : ToolMove O call x s p s' p') :
    (∀ n ∈ s.history, n ∈ s'.history) ∧
    ∀ d value, .rechecked d value ∈ s'.history → .rechecked d value ∈ s.history ∨
      ∃ t r v a payload column verdict, call = .resolveApproval t r v ∧ x = .recheck ∧
        p.stage = .rechecking d a payload ∧
        currentColumnForCritic s.db.tables t a payload = .ok column ∧
        critiqueColumn O a payload column = .ok verdict ∧ verdict.approved = true := by
  cases h with
  | recheck hcall hcolumn hverdict happroved =>
    refine ⟨fun n hn => List.mem_cons_of_mem _ hn, fun d value hn => ?_⟩
    rcases List.mem_cons.mp hn with hn | hn
    · obtain ⟨rfl, -⟩ := Note.rechecked.inj hn
      exact .inr ⟨_, _, _, _, _, _, _, hcall, rfl, rfl, hcolumn, hverdict, happroved⟩
    · exact .inl hn
  | proceed _ _ | append _ =>
    refine ⟨fun n hn => List.mem_cons_of_mem _ hn, fun d value hn => ?_⟩
    rcases List.mem_cons.mp hn with hn | hn
    · exact absurd hn (by simp)
    · exact .inl hn
  | raise _ _ | crash _ | unsupported _ _ | simulate _ _ | persist _ _ | persistAlone _ _
  | acquire _ _ | timeout _ | block _ _ | review _ _ | request _ _ | requestAlone _ _
  | resolveAlone _ _ | getPending _ _ _ | readPending _ _ _ | stale _ _ _ | resolve _ _
  | getApproved _ _ _ _ | readApproved _ _ _ | acquireApproved _ | claimAlone _ _
  | evaluateAlone _ | claim _ | observe _ | complete _ | logPolicy _ _ | logReviewer _ _
  | releaseWork _ | audit _ | leave => exact ⟨fun n hn => hn, fun d value hn => .inl hn⟩

lemma resolveRequest_approved {t r : String} {v : Review} {db db' : Db}
    {row row' : ApprovalRequestRecord} (h : resolveRequest t r v db = .ok (db', row))
    (hrow' : row' ∈ db'.approvalRequests) (hstatus : row'.status = .approved) :
    row' ∈ db.approvalRequests ∨ v.approved = true ∧ ∃ old ∈ db.approvalRequests,
      old.tenantId = t ∧ old.id = r ∧ row'.decisionId = old.decisionId := by
  obtain ⟨_, -, -, -, rfl⟩ := resolveRequest_spec h
  obtain ⟨old, hold, rfl⟩ := List.mem_map.mp hrow'
  split_ifs at hstatus ⊢ with hkey
  · refine .inr ⟨?_, old, hold, hkey.1, hkey.2, rfl⟩
    simp only [ApprovalRequestRecord.resolved, Review.status] at hstatus
    split_ifs at hstatus with hv
    exact hv
  · exact .inl hold

/-- A request becomes approved through a review that says so. -/
lemma ToolMove.approved_cases (h : ToolMove O call x s p s' p') {row : ApprovalRequestRecord}
    (hrow : row ∈ s'.db.approvalRequests) (hstatus : row.status = .approved) :
    row ∈ s.db.approvalRequests ∨ ∃ t r v, (call = .resolve t r v ∨
        call = .resolveApproval t r v ∧ p.stage = .resolving) ∧ v.approved = true ∧
      ∃ old ∈ s.db.approvalRequests, old.tenantId = t ∧ old.id = r ∧
        row.decisionId = old.decisionId := by
  cases h with
  | request _ hrequest | requestAlone _ hrequest =>
    obtain ⟨-, -, ⟨rfl, -⟩ | ⟨hnew, -, -, -, rfl⟩⟩ := requestApproval_spec hrequest
    · exact .inl hrow
    · rcases List.mem_append.mp hrow with hrow | hrow
      · exact .inl hrow
      · rw [List.mem_singleton.mp hrow, hnew] at hstatus
        exact absurd hstatus (by simp)
  | resolve hcall hresolve =>
    rcases resolveRequest_approved hresolve hrow hstatus with hrow | ⟨hv, hold⟩
    · exact .inl hrow
    · exact .inr ⟨_, _, _, .inr ⟨hcall, rfl⟩, hv, hold⟩
  | resolveAlone hcall hresolve =>
    rcases resolveRequest_approved hresolve hrow hstatus with hrow | ⟨hv, hold⟩
    · exact .inl hrow
    · exact .inr ⟨_, _, _, .inl hcall, hv, hold⟩
  | persist _ hpersist | persistAlone _ hpersist =>
    obtain ⟨-, -, -, rfl⟩ := persistDecision_spec hpersist
    exact .inl hrow
  | claim hclaim | claimAlone _ hclaim =>
    obtain ⟨-, -, -, rfl⟩ := claimDecision_spec hclaim
    exact .inl hrow
  | observe hevaluate | evaluateAlone hevaluate =>
    obtain ⟨-, rfl⟩ := evaluateDecision_spec hevaluate
    exact .inl hrow
  | append happend =>
    obtain ⟨_, -, -, happended⟩ := appendEvent_spec happend
    exact .inl (happended.approvalRequests_eq ▸ hrow)
  | logPolicy _ hlog | logReviewer _ hlog | audit hlog =>
    obtain ⟨_, -, rfl⟩ := writeLog_spec hlog
    exact .inl hrow
  | raise _ _ | crash _ | unsupported _ _ | simulate _ _ | acquire _ _ | timeout _ | block _ _
  | review _ _ | proceed _ _ | getPending _ _ _ | readPending _ _ _ | recheck _ _ _ _
  | stale _ _ _ | getApproved _ _ _ _ | readApproved _ _ _ | acquireApproved _ | complete _
  | releaseWork _ | leave => exact .inl hrow

end Step

/-! ### Runs -/

/-- The calls that carry actions out, with the approvals that lead to them. -/
def ToolCall.isExecution : ToolCall → Bool
  | .execute _ _ _ | .executeApproved _ _ | .resolveApproval _ _ _ => true
  | _ => false

/-- The request with this identifier is about this decision. -/
def RequestFor (db : Db) (t r d : String) : Prop :=
  ∃ row ∈ db.approvalRequests, row.tenantId = t ∧ row.id = r ∧ row.decisionId = d

/-- The decision is stored with this action. -/
def StoredAction (db : Db) (t d : String) (a : ActionType) (payload : Dict) : Prop :=
  ∃ row ∈ db.decisions, row.id = d ∧ row.tenantId = t ∧ row.actionType = a ∧
    row.actionPayload = .dict payload

/-- The critic has approved the decision for `resolve_approval`. -/
def Rechecked (s : ToolStore) (d : String) : Prop := ∃ value, .rechecked d value ∈ s.history

lemma ApprovalsMove.requestFor {db db' : Db} {t r d : String} (h : ApprovalsMove db db')
    (hrequest : RequestFor db t r d) : RequestFor db' t r d := by
  obtain ⟨row, hrow, ht, hr, hd⟩ := hrequest
  cases h with
  | moves f hf heq =>
    obtain ⟨hid, htenant, hdecision⟩ := (hf row hrow).key_eq
    exact ⟨f row, heq ▸ List.mem_map_of_mem hrow, htenant.trans ht, hid.trans hr,
      hdecision.trans hd⟩
  | creates _ _ _ heq => exact ⟨row, heq ▸ List.mem_append_left _ hrow, ht, hr, hd⟩

lemma DecisionsMove.storedAction {db db' : Db} {t d : String} {a : ActionType} {payload : Dict}
    (h : DecisionsMove db db') (hstored : StoredAction db t d a payload) :
    StoredAction db' t d a payload := by
  obtain ⟨row, hrow, hid, ht, ha, hpayload⟩ := hstored
  obtain ⟨row', hrow', hmoves⟩ := h.mem hrow
  have hsame := hmoves.same
  exact ⟨row', hrow', hsame.id_eq.trans hid, hsame.tenantId_eq.trans ht,
    hsame.actionType_eq.trans ha, hsame.actionPayload_eq.trans hpayload⟩

lemma StoredAction.unique {db : Db} {t t' d : String} {a a' : ActionType} {payload payload' : Dict}
    (hids : db.DecisionIds) (h : StoredAction db t d a payload)
    (h' : StoredAction db t' d a' payload') : t = t' ∧ a = a' ∧ payload = payload' := by
  obtain ⟨row, hrow, hid, rfl, rfl, hpayload⟩ := h
  obtain ⟨row', hrow', hid', rfl, rfl, hpayload'⟩ := h'
  obtain rfl := hids.eq hrow hrow' (hid.trans hid'.symm)
  exact ⟨rfl, rfl, Value.dict.inj (hpayload.symm.trans hpayload')⟩

section Runs

variable {ι : Type*} [DecidableEq ι] {O : Outside} {call : ι → ToolCall}
  {c d : Config ι ToolStore Process} {i : ι} {x : ToolAction}

/-- What holds of approvals in every state of a run of executions. -/
structure RechecksKept (call : ι → ToolCall) (c : Config ι ToolStore Process) : Prop where
  approvals : ApprovalsKept call c
  ids : c.shared.db.DecisionIds
  pendingSeen : ∀ i t r v id, call i = .resolveApproval t r v →
    (c.proc i).stage = .pendingSeen id → RequestFor c.shared.db t r id
  rechecking : ∀ i t r v id a payload, call i = .resolveApproval t r v →
    (c.proc i).stage = .rechecking id a payload →
    RequestFor c.shared.db t r id ∧ StoredAction c.shared.db t id a payload
  resolving : ∀ i t r v, call i = .resolveApproval t r v → (c.proc i).stage = .resolving →
    v.approved = true → ∃ id, RequestFor c.shared.db t r id ∧ Rechecked c.shared id
  approved : ∀ row ∈ c.shared.db.approvalRequests, row.status = .approved →
    Rechecked c.shared row.decisionId
  working : ∀ i w r, (c.proc i).stage.work? = some w → w.authority = .reviewer r →
    StoredAction c.shared.db w.tenantId w.decisionId w.actionType w.payload

lemma RechecksKept.fire (hcalls : ∀ i, (call i).isExecution = true) (hc : RechecksKept call c)
    (h : (toolCalls O call).fire c i x = some d) : RechecksKept call d := by
  have hmove := toolCalls_move h
  have hother : ∀ j, j ≠ i → d.proc j = c.proc j := fun j => (toolCalls O call).proc_of_fire h
  have hrequests := hmove.approvalsMove hc.approvals.table
  have hdecisions := hmove.decisionsMove hc.ids
  have hhistory : ∀ id, Rechecked c.shared id → Rechecked d.shared id :=
    fun id ⟨value, hn⟩ => ⟨value, hmove.history_cases.1 _ hn⟩
  refine ⟨hc.approvals.fire h, hdecisions.ids hc.ids, ?_, ?_, ?_, ?_, ?_⟩
  · intro j t r v id hcall hj
    by_cases hji : j = i
    · subst hji
      obtain ⟨t', r', v', row, hcall', hrow, rfl⟩ := hmove.pendingSeen_cases hj
      obtain ⟨rfl, rfl, -⟩ := ToolCall.resolveApproval.inj (hcall.symm.trans hcall')
      obtain ⟨hmem, ht, hid⟩ := Db.approval?_spec hrow
      exact hrequests.requestFor ⟨row, hmem, ht, hid, rfl⟩
    · rw [hother j hji] at hj
      exact hrequests.requestFor (hc.pendingSeen j t r v id hcall hj)
  · intro j t r v id a payload hcall hj
    by_cases hji : j = i
    · subst hji
      obtain ⟨t', r', v', decision, hcall', hseen, hdecision, ha, hpayload⟩ :=
        hmove.rechecking_cases hj
      obtain ⟨rfl, rfl, rfl⟩ := ToolCall.resolveApproval.inj (hcall.symm.trans hcall')
      obtain ⟨hmem, hid, ht⟩ := Db.decision?_spec hdecision
      exact ⟨hrequests.requestFor (hc.pendingSeen j t r v id hcall hseen),
        hdecisions.storedAction ⟨decision, hmem, hid, ht, ha, hpayload⟩⟩
    · rw [hother j hji] at hj
      obtain ⟨hrequest, hstored⟩ := hc.rechecking j t r v id a payload hcall hj
      exact ⟨hrequests.requestFor hrequest, hdecisions.storedAction hstored⟩
  · intro j t r v hcall hj happroved
    by_cases hji : j = i
    · subst hji
      obtain ⟨t', r', v', hcall', hrecheck⟩ := hmove.resolving_cases hj
      obtain ⟨rfl, rfl, rfl⟩ := ToolCall.resolveApproval.inj (hcall.symm.trans hcall')
      obtain ⟨id, a, payload, value, hrechecking, hnote⟩ := hrecheck happroved
      have hrequest := (hc.rechecking j t r v id a payload hcall hrechecking).1
      exact ⟨id, hrequests.requestFor hrequest, value, hnote⟩
    · rw [hother j hji] at hj
      obtain ⟨id, hrequest, hrechecked⟩ := hc.resolving j t r v hcall hj happroved
      exact ⟨id, hrequests.requestFor hrequest, hhistory id hrechecked⟩
  · intro row hrow hstatus
    rcases hmove.approved_cases hrow hstatus with hearlier |
        ⟨t, r, v, hcall, happroved, old, hold, ht, hr, hdecision⟩
    · exact hhistory _ (hc.approved row hearlier hstatus)
    · rcases hcall with hcall | ⟨hcall, hresolving⟩
      · have hexecution := hcalls i
        rw [hcall] at hexecution
        exact absurd hexecution (by simp [ToolCall.isExecution])
      · obtain ⟨id, ⟨row', hrow', ht', hr', hdecision'⟩, hrechecked⟩ :=
          hc.resolving i t r v hcall hresolving happroved
        obtain rfl := hc.approvals.table.eq hold hrow' (hr.trans hr'.symm)
        rw [hdecision, hdecision']
        exact hhistory _ hrechecked
  · intro j w r hw hauthority
    by_cases hji : j = i
    · subst hji
      rcases hmove.work_cases hw with hw | ⟨_, _, _, _, _, _, _, -, -, -, rfl⟩ |
          ⟨t, r', id, decision, payload, -, -, hdecision, hpayload, rfl⟩
      · exact hdecisions.storedAction (hc.working j w r hw hauthority)
      · exact absurd hauthority (by simp)
      · obtain ⟨hmem, -, ht⟩ := Db.decision?_spec hdecision
        exact hdecisions.storedAction ⟨decision, hmem, rfl, ht, rfl, hpayload⟩
    · rw [hother j hji] at hw
      exact hdecisions.storedAction (hc.working j w r hw hauthority)

lemma rechecksKept_run {db : Db} {schedule : List (ι × ToolAction)}
    (hcalls : ∀ i, (call i).isExecution = true) (hids : db.DecisionIds) (htable : ApprovalTable db)
    (hnone : ∀ row ∈ db.approvalRequests, row.status ≠ .approved)
    (h : (toolCalls O call).run db.start schedule = some c) : RechecksKept call c := by
  have hstart : RechecksKept call (db.start : Config ι ToolStore Process) := by
    refine ⟨approvalsKept_run htable (Program.run_nil (toolCalls O call) db.start), hids, ?_, ?_, ?_, ?_, ?_⟩
    · intro i t r v id _ hi
      exact absurd hi (by simp [Db.start, Process.idle])
    · intro i t r v id a payload _ hi
      exact absurd hi (by simp [Db.start, Process.idle])
    · intro i t r v _ hi
      exact absurd hi (by simp [Db.start, Process.idle])
    · intro row hrow hstatus
      exact absurd hstatus (hnone row hrow)
    · intro i w r hi
      exact absurd hi (by simp [Db.start, Process.idle, Stage.work?])
  have hstep : ∀ c i x d, RechecksKept call c → (toolCalls O call).fire c i x = some d →
      RechecksKept call d := fun _ _ _ _ hc hd => hc.fire hcalls hd
  exact (toolCalls O call).run_invariant' hstep hstart h

/-- The critic has seen the dish at a price within its limit of the new one. The limit is kept up
to the rounding of the quotient of doubles that the critic compares. -/
structure SeenWithinLimit (T : Tables) (t : String) (payload : Dict) : Prop where
  seen : ∃ id price newPrice, payload.get "menu_item_id" = .str id ∧ T.price? t id = some price ∧
    toExactDecimal (payload.get "new_price") = some newPrice ∧
    |newPrice - price| ≤ (3 / 10 + 1 / 2 ^ 51) * price

/-- A price change for an approved request is within the limit of a price that was stored earlier,
when `resolve_approval` ran the critic again. -/
theorem approved_change_rechecked {db : Db} {schedule : List (ι × ToolAction)} {draw : Draw}
    {w : Work} {evaluation : Evaluation} {r : String}
    (hcalls : ∀ i, (call i).isExecution = true) (hids : db.DecisionIds) (htable : ApprovalTable db)
    (hnone : ∀ row ∈ db.approvalRequests, row.status ≠ .approved)
    (hc : (toolCalls O call).run db.start schedule = some c)
    (hfire : (toolCalls O call).fire c i (.append draw) = some d)
    (hdone : (d.proc i).stage = .appended w evaluation) (hreviewer : w.authority = .reviewer r)
    (haction : w.actionType = .priceChange) :
    ∃ before j after e, schedule = before ++ (j, .recheck) :: after ∧
      (toolCalls O call).run db.start before = some e ∧
      (e.proc j).stage = .rechecking w.decisionId .priceChange w.payload ∧
      SeenWithinLimit e.shared.db.tables w.tenantId w.payload := by
  obtain ⟨eventType, event, happend⟩ := (toolCalls_move hfire).append_done hdone
  have hwork : (c.proc i).stage.work? = some w := by rw [happend.before]; rfl
  have hkept := rechecksKept_run hcalls hids htable hnone hc
  obtain ⟨row, hrow, -, -, hdecision, hstatus⟩ := hkept.approvals.working i w r hwork hreviewer
  obtain ⟨value, hnote⟩ := hkept.approved row hrow hstatus
  rw [hdecision] at hnote
  -- The note was made in an earlier step, which ran the critic.
  obtain ⟨before, j, x, after, e, f, hschedule, hbefore, hstep, hafter, he, hf⟩ :=
    (toolCalls O call).exists_step (G := fun c => .rechecked w.decisionId value ∈ c.shared.history)
      hc (by simp [Db.start]) hnote
  have hearlier := rechecksKept_run hcalls hids htable hnone hbefore
  rcases (toolCalls_move hstep).history_cases.2 _ _ hf with hold |
      ⟨t, r', v, a, payload, column, verdict, hcall, rfl, hrechecking, hcolumn, hverdict,
        happroved⟩
  · exact absurd hold he
  · have hstored := (hearlier.rechecking j t r' v _ a payload hcall hrechecking).2
    have hrest : (toolCalls O call).run e ((j, .recheck) :: after) = some c :=
      (toolCalls O call).run_cons_eq_some.mpr ⟨f, hstep, hafter⟩
    have hlasts : ∀ c i x d, (c.shared.db.DecisionIds ∧
          StoredAction c.shared.db t w.decisionId a payload) →
        (toolCalls O call).fire c i x = some d →
        d.shared.db.DecisionIds ∧ StoredAction d.shared.db t w.decisionId a payload :=
      fun _ _ _ _ hc hd => ⟨(hc.1.fire hd).2, (hc.1.fire hd).1.storedAction hc.2⟩
    have hstored' := ((toolCalls O call).run_invariant' hlasts ⟨hearlier.ids, hstored⟩ hrest).2
    obtain ⟨rfl, rfl, rfl⟩ := hstored'.unique hkept.ids (hkept.working i w r hwork hreviewer)
    rw [haction] at hrechecking hcolumn hverdict
    obtain ⟨price, newPrice, hcompared⟩ := priceCompared_of_approved hverdict happroved
    obtain rfl := hcompared.column_eq
    obtain ⟨key, hkey, hprice⟩ := currentValueForCritic_price (map_ok.mpr ⟨_, hcolumn, rfl⟩)
    obtain ⟨id, rfl, hid⟩ := Option.bind_eq_some_iff.mp hprice.symm
    exact ⟨before, j, after, e, hschedule, hbefore, hrechecking, id, price.toRat, newPrice,
      filterText_some hkey, hid, hcompared.new_price, hcompared.near⟩

end Runs

/-! ### A concrete run -/

/-- A raise that needs a reviewer, his approval, and a small cut of the same price meanwhile. -/
def overtakenSoup : ℕ → ToolCall
  | 0 => .execute "t" .priceChange (soupPrice 1300)
  | 1 => .resolveApproval "t" "q" (reviewerSays true)
  | _ => .execute "t" .priceChange (soupPrice 900)

lemma overtakenSoup_isExecution : ∀ i, (overtakenSoup i).isExecution = true
  | 0 | 1 => rfl
  | _ + 2 => rfl

/-- The cut is executed between the second look of the critic and the execution of the raise. -/
def overtakenSchedule : List (ℕ × ToolAction) :=
  [(0, .simulate), (0, .persist "d"), (0, .acquire), (0, .judge), (0, .request "q"), (0, .log 5),
    (0, .release), (1, .get), (1, .readDecision), (1, .recheck),
    (2, .simulate), (2, .persist "d2"), (2, .acquire), (2, .judge), (2, .claim),
    (2, .observe calmDraws 7), (2, .complete), (2, .append ⟨8, "e2", "r2"⟩), (2, .log 9),
    (2, .release), (1, .resolve), (1, .get), (1, .readDecision), (1, .acquire), (1, .claim),
    (1, .observe calmDraws 11), (1, .complete)]

/-- The event of a price change to this price for an approved request is appended. -/
def Stage.hasRaised (r : String) (newPrice : ℚ) : Stage → Bool
  | .appended w _ => w.authority = .reviewer r ∧ w.actionType = .priceChange ∧
      toExactDecimal (w.payload.get "new_price") = some newPrice
  | _ => false

lemma Stage.hasRaised_eq {stage : Stage} {r : String} {newPrice : ℚ}
    (h : stage.hasRaised r newPrice = true) : ∃ w evaluation, stage = .appended w evaluation ∧
      w.authority = .reviewer r ∧ w.actionType = .priceChange ∧
      toExactDecimal (w.payload.get "new_price") = some newPrice := by
  unfold Stage.hasRaised at h
  split at h
  · exact ⟨_, _, rfl, of_decide_eq_true h⟩
  · exact absurd h (by simp)

lemma overtaken_run : (((toolCalls (.prescribed []) overtakenSoup).run bistro.start
    overtakenSchedule).bind (fun c =>
      if c.shared.db.tables.price? "t" "soup" = some 9 then
        (toolCalls (.prescribed []) overtakenSoup).fire c 1 (.append ⟨12, "e1", "r1"⟩)
      else none)).any (fun d => (d.proc 1).stage.hasRaised "q" 13) = true := by
  decide +kernel

/-- The raise to 13.00 was approved at 10.00 and is applied at 9.00. -/
theorem overtaken_approval : ∃ c d w evaluation,
    (toolCalls (.prescribed []) overtakenSoup).run bistro.start overtakenSchedule = some c ∧
    (toolCalls (.prescribed []) overtakenSoup).fire c 1 (.append ⟨12, "e1", "r1"⟩) = some d ∧
    (d.proc 1).stage = .appended w evaluation ∧ w.authority = .reviewer "q" ∧
    w.actionType = .priceChange ∧ toExactDecimal (w.payload.get "new_price") = some 13 ∧
    c.shared.db.tables.price? "t" "soup" = some 9 ∧ ¬|(13 : ℚ) - 9| ≤ 3 / 10 * 9 := by
  obtain ⟨c, d, hc, hd, hraised⟩ := exists_of_any_bind overtaken_run
  split_ifs at hd with hprice
  obtain ⟨w, evaluation, hdone, hauthority, haction, hnew⟩ := Stage.hasRaised_eq hraised
  exact ⟨c, d, w, evaluation, hc, hd, hdone, hauthority, haction, hnew, hprice,
    by norm_num [abs_of_pos]⟩

theorem overtaken_change_rechecked : ∃ c d w evaluation,
    (toolCalls (.prescribed []) overtakenSoup).run bistro.start overtakenSchedule = some c ∧
    (toolCalls (.prescribed []) overtakenSoup).fire c 1 (.append ⟨12, "e1", "r1"⟩) = some d ∧
    (d.proc 1).stage = .appended w evaluation ∧
    ∃ before j after e, overtakenSchedule = before ++ (j, .recheck) :: after ∧
      (toolCalls (.prescribed []) overtakenSoup).run bistro.start before = some e ∧
      (e.proc j).stage = .rechecking w.decisionId .priceChange w.payload ∧
      SeenWithinLimit e.shared.db.tables w.tenantId w.payload := by
  obtain ⟨c, d, hc, hd, hraised⟩ := exists_of_any_bind overtaken_run
  split_ifs at hd
  obtain ⟨w, evaluation, hdone, hauthority, haction, -⟩ := Stage.hasRaised_eq hraised
  have hids : bistro.DecisionIds := List.nodup_nil
  have htable : ApprovalTable bistro := ⟨List.nodup_nil, List.nodup_nil⟩
  have hnone : ∀ row ∈ bistro.approvalRequests, row.status ≠ .approved :=
    fun row hrow => absurd hrow List.not_mem_nil
  exact ⟨c, d, w, evaluation, hc, hd, hdone, approved_change_rechecked overtakenSoup_isExecution
    hids htable hnone hc hd hdone hauthority haction⟩

end OpsCopilot
