import OpsCopilot.Proofs.AutonomyGate

/-!
# Claimed work

A call claims a decision, evaluates it, appends an event for it and logs it. What the steps between
the claim and the log do, and what every run keeps of the decisions that calls are at work on.
-/

namespace OpsCopilot

open Python Sql Fallible Interleaving

/-! ### Stages after the claim -/

/-- The action that a call has claimed and not logged. -/
def Stage.claimed? : Stage → Option Work
  | .observing w _ | .changing w _ | .appending w _ _ _ | .appended w _ => some w
  | _ => none

/-- The action whose decision a call has evaluated. -/
def Stage.evaluated? : Stage → Option Work
  | .changing w _ | .appending w _ _ _ | .appended w _ => some w
  | _ => none

/-- The action whose event a call has appended and not logged. -/
def Stage.appended? : Stage → Option Work
  | .appended w _ => some w
  | _ => none

/-- The call has failed, or stopped. -/
def Stage.failed : Stage → Bool
  | .leaving (.error _) | .finished (.error _) | .crashed => true
  | _ => false

section Stages

variable {p : Process} {stage : Stage} {w : Work}

@[simp] lemma Process.conclude_claimed? (result : Except PyException Dict) :
    (p.conclude result).stage.claimed? = none := by
  unfold Process.conclude
  split_ifs <;> rfl

@[simp] lemma Process.conclude_error_failed (e : PyException) :
    (p.conclude (.error e)).stage.failed = true := by
  unfold Process.conclude
  split_ifs <;> rfl

@[simp] lemma gateDecision_claimed? (a : ActionType) (payload : Dict) (decision : Decision) :
    (gateDecision a payload decision).claimed? = none := by
  unfold gateDecision
  split_ifs <;> rfl

lemma Stage.claimed?_of_evaluated? (h : stage.evaluated? = some w) : stage.claimed? = some w := by
  unfold Stage.evaluated? at h
  split at h
  · exact h
  · exact h
  · exact h
  · exact absurd h (by simp)

lemma Stage.evaluated?_of_appended? (h : stage.appended? = some w) :
    stage.evaluated? = some w := by
  unfold Stage.appended? at h
  split at h
  · exact h
  · exact absurd h (by simp)

end Stages

/-! ### Steps -/

section Step

variable {O : Outside} {call : ToolCall} {x : ToolAction} {s s' : ToolStore} {p p' : Process}
  {w : Work}

/-- A call claims a decision that nobody has claimed before. -/
lemma ToolMove.claimed_cases (h : ToolMove O call x s p s' p') (hp' : p'.stage.claimed? = some w) :
    p.stage.claimed? = some w ∨ p.stage = .claiming w ∧
      ∃ decision, claimDecision w.tenantId w.decisionId s.db = .ok (s'.db, decision) := by
  cases h with
  | claim hclaim =>
    obtain rfl := Option.some.inj hp'
    exact .inr ⟨rfl, _, hclaim⟩
  | observe _ | complete _ | append _ | releaseWork _ => exact .inl hp'
  | raise _ _ | persist _ _ | logPolicy _ _ | audit _ => exact absurd hp' (by simp)
  | getPending _ _ _ | resolve _ _ =>
    split_ifs at hp' <;> exact absurd hp' (by simp [Stage.claimed?])
  | crash _ | unsupported _ _ | simulate _ _ | persistAlone _ _ | acquire _ _ | timeout _
  | block _ _ | review _ _ | proceed _ _ | request _ _ | requestAlone _ _ | resolveAlone _ _
  | readPending _ _ _ | recheck _ _ _ _ | stale _ _ _ | getApproved _ _ _ _ | readApproved _ _ _
  | acquireApproved _ | claimAlone _ _ | evaluateAlone _ | logReviewer _ _ | leave =>
    exact absurd hp' (by simp [Stage.claimed?])

lemma ToolMove.evaluated_cases (h : ToolMove O call x s p s' p')
    (hp' : p'.stage.evaluated? = some w) :
    p.stage.evaluated? = some w ∨ p.stage.claimed? = some w ∧ ∃ predicted draws now evaluation,
      evaluateDecision w.tenantId w.decisionId predicted draws now s.db =
        .ok (s'.db, evaluation) := by
  have hclaimed := Stage.claimed?_of_evaluated? hp'
  cases h with
  | observe hevaluate =>
    obtain rfl := Option.some.inj hp'
    exact .inr ⟨rfl, _, _, _, _, hevaluate⟩
  | complete _ | append _ | releaseWork _ => exact .inl hp'
  | claim _ => exact absurd hp' (by simp [Stage.evaluated?])
  | raise _ _ | persist _ _ | logPolicy _ _ | audit _ => exact absurd hclaimed (by simp)
  | getPending _ _ _ | resolve _ _ =>
    split_ifs at hp' <;> exact absurd hp' (by simp [Stage.evaluated?])
  | crash _ | unsupported _ _ | simulate _ _ | persistAlone _ _ | acquire _ _ | timeout _
  | block _ _ | review _ _ | proceed _ _ | request _ _ | requestAlone _ _ | resolveAlone _ _
  | readPending _ _ _ | recheck _ _ _ _ | stale _ _ _ | getApproved _ _ _ _ | readApproved _ _ _
  | acquireApproved _ | claimAlone _ _ | evaluateAlone _ | logReviewer _ _ | leave =>
    exact absurd hp' (by simp [Stage.evaluated?])

lemma ToolMove.appended_cases (h : ToolMove O call x s p s' p')
    (hp' : p'.stage.appended? = some w) :
    p.stage.appended? = some w ∨ ∃ evaluation eventType event draw,
      AppendStep O s p s' p' w evaluation eventType event draw := by
  have hclaimed := Stage.claimed?_of_evaluated? (Stage.evaluated?_of_appended? hp')
  cases h with
  | append happend =>
    obtain rfl := Option.some.inj hp'
    obtain ⟨member, hmember, -, happended⟩ := appendEvent_spec happend
    obtain rfl := Except.ok.inj hmember
    exact .inr ⟨_, _, _, _, rfl, happended, rfl, rfl⟩
  | releaseWork _ => exact .inl hp'
  | raise _ _ | persist _ _ | logPolicy _ _ | audit _ => exact absurd hclaimed (by simp)
  | getPending _ _ _ | resolve _ _ =>
    split_ifs at hp' <;> exact absurd hp' (by simp [Stage.appended?])
  | crash _ | unsupported _ _ | simulate _ _ | persistAlone _ _ | acquire _ _ | timeout _
  | block _ _ | review _ _ | proceed _ _ | request _ _ | requestAlone _ _ | resolveAlone _ _
  | readPending _ _ _ | recheck _ _ _ _ | stale _ _ _ | getApproved _ _ _ _ | readApproved _ _ _
  | acquireApproved _ | claimAlone _ _ | evaluateAlone _ | claim _ | observe _ | complete _
  | logReviewer _ _ | leave => exact absurd hp' (by simp [Stage.appended?])

/-- The entry of a refusal. -/
lemma ToolMove.auditing_entry (h : ToolMove O call x s p s' p') {entry : LogEntry} {answer : Dict}
    (hp' : p'.stage = .auditing entry answer) : entry.executed = false := by
  cases h with
  | unsupported _ _ | timeout _ | block _ _ | request _ _ =>
    obtain ⟨rfl, -⟩ := Stage.auditing.inj hp'
    rfl
  | persist _ _ =>
    unfold gateDecision at hp'
    split_ifs at hp'
    obtain ⟨rfl, -⟩ := Stage.auditing.inj hp'
    rfl
  | raise _ _ | logPolicy _ _ | audit _ =>
    unfold Process.conclude at hp'
    split_ifs at hp'
  | getPending _ _ _ | resolve _ _ => split_ifs at hp'
  | crash _ | simulate _ _ | persistAlone _ _ | acquire _ _ | review _ _ | proceed _ _
  | requestAlone _ _ | resolveAlone _ _ | readPending _ _ _ | recheck _ _ _ _ | stale _ _ _
  | getApproved _ _ _ _ | readApproved _ _ _ | acquireApproved _ | claimAlone _ _
  | evaluateAlone _ | claim _ | observe _ | complete _ | append _ | logReviewer _ _
  | releaseWork _ | leave => exact absurd hp' (by simp)

/-- The step that logs an execution. -/
structure LogStep (s : ToolStore) (p : Process) (s' : ToolStore) (p' : Process) (w : Work)
    (row : ToolExecutionLog) : Prop where
  before : p.stage.appended? = some w
  log_eq : s'.db.toolExecutionLog = s.db.toolExecutionLog ++ [row]
  executed : row.executed = true
  decisionId_eq : row.decisionId = some w.decisionId
  tenantId_eq : row.tenantId = w.tenantId
  after : ∃ evaluation, p'.stage.answer? = some (executedAnswer w.decisionId evaluation)

section LogStep

variable {now : Timestamp} {db : Db} {guard : Option String} {evaluation : Evaluation}

lemma exists_logStep {reason : String} (h : writeLog (executedEntry w reason) now s.db = .ok db)
    (hp' : p'.stage.answer? = some (executedAnswer w.decisionId evaluation)) :
    ∃ row, LogStep s ⟨guard, .appended w evaluation⟩ { s with db := db } p' w row := by
  obtain ⟨stored, -, rfl⟩ := writeLog_spec h
  exact ⟨_, rfl, rfl, rfl, rfl, rfl, evaluation, hp'⟩

end LogStep

/-- What a step does to the execution log. -/
inductive LogMove (s : ToolStore) (p : Process) (s' : ToolStore) (p' : Process) : Prop
  | quiet : s'.db.toolExecutionLog = s.db.toolExecutionLog → LogMove s p s' p'
  | refuses (entry : LogEntry) (answer : Dict) (row : ToolExecutionLog) :
      p.stage = .auditing entry answer → row.executed = entry.executed →
      s'.db.toolExecutionLog = s.db.toolExecutionLog ++ [row] → LogMove s p s' p'
  | logs (w : Work) : (∃ row, LogStep s p s' p' w row) → LogMove s p s' p'

lemma ToolMove.logMove (h : ToolMove O call x s p s' p') : LogMove s p s' p' := by
  cases h with
  | raise _ _ | crash _ | unsupported _ _ | simulate _ _ | acquire _ _ | timeout _ | block _ _
  | review _ _ | proceed _ _ | getPending _ _ _ | readPending _ _ _ | recheck _ _ _ _
  | stale _ _ _ | getApproved _ _ _ _ | readApproved _ _ _ | acquireApproved _ | complete _
  | releaseWork _ | leave => exact .quiet rfl
  | persist _ hpersist | persistAlone _ hpersist =>
    obtain ⟨-, -, -, rfl⟩ := persistDecision_spec hpersist
    exact .quiet rfl
  | request _ hrequest | requestAlone _ hrequest =>
    obtain ⟨-, -, ⟨rfl, -⟩ | ⟨-, -, -, -, rfl⟩⟩ := requestApproval_spec hrequest
    · exact .quiet rfl
    · exact .quiet rfl
  | resolve _ hresolve | resolveAlone _ hresolve =>
    obtain ⟨_, -, -, -, rfl⟩ := resolveRequest_spec hresolve
    exact .quiet rfl
  | claim hclaim | claimAlone _ hclaim =>
    obtain ⟨-, -, -, rfl⟩ := claimDecision_spec hclaim
    exact .quiet rfl
  | observe hevaluate | evaluateAlone hevaluate =>
    obtain ⟨-, rfl⟩ := evaluateDecision_spec hevaluate
    exact .quiet rfl
  | append happend =>
    obtain ⟨_, -, -, happended⟩ := appendEvent_spec happend
    exact .quiet happended.toolExecutionLog_eq
  | audit hlog =>
    obtain ⟨stored, -, rfl⟩ := writeLog_spec hlog
    exact .refuses _ _ _ rfl rfl rfl
  | logPolicy _ hlog => exact .logs _ (exists_logStep hlog Process.conclude_ok_answer?)
  | logReviewer _ hlog => exact .logs _ (exists_logStep hlog rfl)

/-- An execution is reported by the step that logs it. -/
lemma ToolMove.reported_cases (h : ToolMove O call x s p s' p') {answer : Dict}
    (hp' : p'.stage.answer? = some answer) (hreports : reportsExecution answer = true) :
    p.stage.answer? = some answer ∨ (∃ entry, p.stage = .auditing entry answer) ∨
      ∃ w row, LogStep s p s' p' w row := by
  cases h with
  | @leave _ _ result =>
    cases result with
    | ok answer => exact .inl hp'
    | error e => exact .inl hp'
  | audit _ =>
    simp only [Process.conclude_ok_answer?, Option.some.injEq] at hp'
    exact .inr (.inl ⟨_, by rw [hp']⟩)
  | logPolicy _ hlog => exact .inr (.inr ⟨_, exists_logStep hlog Process.conclude_ok_answer?⟩)
  | logReviewer _ hlog => exact .inr (.inr ⟨_, exists_logStep hlog rfl⟩)
  | raise _ _ => exact absurd hp' (by simp)
  | persistAlone _ _ | requestAlone _ _ | resolveAlone _ _ | evaluateAlone _ =>
    obtain rfl := Option.some.inj hp'
    exact absurd hreports (by simp)
  | stale reason _ _ =>
    obtain rfl := Option.some.inj hp'
    exact absurd hreports (by simp [staleAnswer])
  | resolve _ _ =>
    split_ifs at hp'
    · exact absurd hp' (by simp [Stage.answer?])
    · obtain rfl := Option.some.inj hp'
      exact absurd hreports (by simp)
  | persist _ _ =>
    unfold gateDecision at hp'
    split_ifs at hp' <;> exact absurd hp' (by simp [Stage.answer?])
  | getPending _ _ _ =>
    split_ifs at hp' <;> exact absurd hp' (by simp [Stage.answer?])
  | crash _ | unsupported _ _ | simulate _ _ | acquire _ _ | timeout _ | block _ _ | review _ _
  | proceed _ _ | request _ _ | readPending _ _ _ | recheck _ _ _ _ | getApproved _ _ _ _
  | readApproved _ _ _ | acquireApproved _ | claimAlone _ _ | claim _ | observe _ | complete _
  | append _ | releaseWork _ => exact absurd hp' (by simp [Stage.answer?])

/-- A call that has failed stays so. -/
lemma failed_lasts (h : toolStep O call x s p = some (s', p')) (hp : p.stage.failed = true) :
    p'.stage.failed = true := by
  obtain ⟨guard, stage⟩ := p
  unfold Stage.failed at hp
  split at hp
  · rename_i e hstage
    obtain rfl : stage = .leaving (.error e) := hstage
    have hentry : entryStep O call x s ⟨guard, .leaving (.error e)⟩ = none := by
      cases call <;> cases x <;> cases guard <;> rfl
    have hwork : workStep O x s ⟨guard, .leaving (.error e)⟩ = none := by
      cases x <;> cases guard <;> rfl
    rw [toolStep, hentry, hwork] at h
    cases guard with
    | none =>
      cases x with
      | fault e' =>
        obtain ⟨-, rfl⟩ := Prod.mk.inj (Option.some.inj h)
        rfl
      | crash =>
        obtain ⟨-, rfl⟩ := Prod.mk.inj (Option.some.inj h)
        rfl
      | _ => exact absurd h (by simp [commonStep])
    | some key =>
      cases x with
      | release =>
        obtain ⟨-, rfl⟩ := Prod.mk.inj (Option.some.inj h)
        rfl
      | fault e' =>
        obtain ⟨-, rfl⟩ := Prod.mk.inj (Option.some.inj h)
        rfl
      | crash =>
        obtain ⟨-, rfl⟩ := Prod.mk.inj (Option.some.inj h)
        rfl
      | _ => exact absurd h (by simp [commonStep])
  · rename_i e hstage
    obtain rfl : stage = .finished (.error e) := hstage
    have hnone : toolStep O call x s ⟨guard, .finished (.error e)⟩ = none := by
      cases call <;> cases x <;> cases guard <;> rfl
    exact absurd h (by simp [hnone])
  · rename_i hstage
    obtain rfl : stage = .crashed := hstage
    have hnone : toolStep O call x s ⟨guard, .crashed⟩ = none := by
      cases call <;> cases x <;> cases guard <;> rfl
    exact absurd h (by simp [hnone])
  · exact absurd hp (by simp)

/-- A call that has appended its event logs it next, unless it fails. -/
lemma appended_next (h : toolStep O call x s p = some (s', p')) (hp : p.stage.appended? = some w) :
    p'.stage.appended? = some w ∨ p'.stage.failed = true ∨ ∃ row, LogStep s p s' p' w row := by
  obtain ⟨guard, stage⟩ := p
  unfold Stage.appended? at hp
  split at hp
  · rename_i v evaluation hstage
    obtain rfl := Option.some.inj hp
    obtain rfl : stage = .appended v evaluation := hstage
    have hentry : entryStep O call x s ⟨guard, .appended v evaluation⟩ = none := by
      cases call <;> cases x <;> cases guard <;> rfl
    rw [toolStep, hentry, Option.none_or] at h
    rcases Option.or_eq_some_iff.mp h with h | ⟨-, h⟩
    · cases x with
      | log now =>
        unfold workStep at h
        simp only at h
        split at h
        · rcases inspect_eq (Option.some.inj h) with ⟨db, hlog, hnext⟩ | ⟨e, rfl, rfl⟩
          · obtain ⟨rfl, rfl⟩ := Prod.mk.inj hnext
            exact .inr (.inr (exists_logStep hlog Process.conclude_ok_answer?))
          · exact .inr (.inl (by simp))
        · rcases inspect_eq (Option.some.inj h) with ⟨db, hlog, hnext⟩ | ⟨e, rfl, rfl⟩
          · obtain ⟨rfl, rfl⟩ := Prod.mk.inj hnext
            exact .inr (.inr (exists_logStep hlog rfl))
          · exact .inr (.inl (by simp))
        · exact absurd h (by simp)
      | release =>
        unfold workStep at h
        cases guard with
        | none => exact absurd h (by simp)
        | some key =>
          simp only at h
          split at h
          · exact absurd h (by simp)
          · obtain ⟨-, rfl⟩ := Prod.mk.inj (Option.some.inj h)
            exact .inl rfl
      | _ => exact absurd h (by cases guard <;> simp [workStep])
    · cases x with
      | fault e =>
        obtain ⟨-, rfl⟩ := Prod.mk.inj (Option.some.inj h)
        exact .inr (.inl (by simp))
      | crash =>
        obtain ⟨-, rfl⟩ := Prod.mk.inj (Option.some.inj h)
        exact .inr (.inl rfl)
      | _ => exact absurd h (by cases guard <;> simp [commonStep])
  · exact absurd hp (by simp)

lemma Stage.claimed?_of_failed {stage : Stage} (h : stage.failed = true) :
    stage.claimed? = none := by
  unfold Stage.failed at h
  split at h
  · rfl
  · rfl
  · rfl
  · exact absurd h (by simp)

lemma Stage.claimed?_of_answer? {stage : Stage} {answer : Dict} (h : stage.answer? = some answer) :
    stage.claimed? = none := by
  unfold Stage.answer? at h
  split at h
  · rfl
  · rfl
  · exact absurd h (by simp)

/-- A call that has appended its event and is still at work has it appended. -/
lemma unappended_before (h : toolStep O call x s p = some (s', p'))
    (hp' : p'.stage.claimed? = some w) (hnone : p'.stage.appended? = none) :
    p.stage.appended? = none := by
  cases hp : p.stage.appended? with
  | none => rfl
  | some v =>
    rcases appended_next h hp with happended | hfailed | ⟨row, hlog⟩
    · exact absurd (hnone.symm.trans happended) (by simp)
    · exact absurd ((Stage.claimed?_of_failed hfailed).symm.trans hp') (by simp)
    · obtain ⟨evaluation, hanswer⟩ := hlog.after
      exact absurd ((Stage.claimed?_of_answer? hanswer).symm.trans hp') (by simp)

end Step

/-! ### Decisions at work -/

/-- The tenant has a decision with this identifier, of which `ok` holds. -/
def Db.HasDecision (db : Db) (t id : String) (ok : Decision → Prop) : Prop :=
  ∃ r ∈ db.decisions, r.id = id ∧ r.tenantId = t ∧ ok r

section Decisions

variable {db db' : Db} {t t' id : String} {ok ok' : Decision → Prop}

lemma DecisionsMove.hasDecision (h : DecisionsMove db db')
    (hok : ∀ r r' : Decision, r.Moves r' → ok r → ok r') (hdb : db.HasDecision t id ok) :
    db'.HasDecision t id ok := by
  obtain ⟨r, hr, hid, ht, hr'⟩ := hdb
  obtain ⟨r', hmem, hmoves⟩ := h.mem hr
  exact ⟨r', hmem, hmoves.id_eq.trans hid, hmoves.same.tenantId_eq.trans ht, hok r r' hmoves hr'⟩

lemma Decision.Moves.evaluated_lasts {r r' : Decision} (h : r.Moves r')
    (hr : r.status = .evaluated) : r'.status = .evaluated := by
  rw [h.eq_of_final (by rw [hr]; rfl)]
  exact hr

lemma Db.HasDecision.and (hids : db.DecisionIds) (h : db.HasDecision t id ok)
    (h' : db.HasDecision t' id ok') : db.HasDecision t id (fun r => ok r ∧ ok' r) ∧ t = t' := by
  obtain ⟨r, hr, hid, ht, hok⟩ := h
  obtain ⟨r', hr', hid', ht', hok'⟩ := h'
  obtain rfl := hids.eq hr hr' (hid.trans hid'.symm)
  exact ⟨⟨r, hr, hid, ht, hok, hok'⟩, ht.symm.trans ht'⟩

lemma claimDecision_has {decision : Decision} (h : claimDecision t id db = .ok (db', decision)) :
    db.HasDecision t id (fun r => r.status = .simulated) ∧
      db'.HasDecision t id (fun r => 1 ≤ r.status.rank) := by
  obtain ⟨hfound, -, hstatus, rfl⟩ := claimDecision_spec h
  obtain ⟨hmem, hid, ht⟩ := Db.decision?_spec hfound
  refine ⟨⟨decision, hmem, hid, ht, hstatus⟩, { decision with status := .executed },
    List.mem_map.mpr ⟨decision, hmem, if_pos ⟨hid, ht⟩⟩, hid, ht, le_rfl⟩

lemma evaluateDecision_has {predicted : PredictedOutcome} {draws : Randomness} {now : Timestamp}
    {evaluation : Evaluation}
    (h : evaluateDecision t id predicted draws now db = .ok (db', evaluation)) :
    db'.HasDecision t id (fun r => r.status = .evaluated) := by
  obtain ⟨⟨r, hfound, -⟩, rfl⟩ := evaluateDecision_spec h
  obtain ⟨hmem, hid, ht⟩ := Db.decision?_spec hfound
  exact ⟨r.evaluated evaluation now, List.mem_map.mpr ⟨r, hmem, if_pos ⟨hid, ht⟩⟩, hid, ht, rfl⟩

end Decisions

section Runs

variable {ι : Type*} [DecidableEq ι] {O : Outside} {call : ι → ToolCall}
  {c d : Config ι ToolStore Process} {i : ι} {x : ToolAction}

/-- What holds of the actions under way in every state of a run. -/
structure WorkKept (O : Outside) (call : ι → ToolCall) (c : Config ι ToolStore Process) :
    Prop where
  locks : LocksKept O call c
  answers : AnswersKept call c
  action : ∀ i w, (c.proc i).stage.work? = some w →
    c.shared.db.HasDecision w.tenantId w.decisionId (fun r => r.actionType = w.actionType)
  claimed : ∀ i w, (c.proc i).stage.claimed? = some w →
    c.shared.db.HasDecision w.tenantId w.decisionId (fun r => 1 ≤ r.status.rank)
  evaluated : ∀ i w, (c.proc i).stage.evaluated? = some w →
    c.shared.db.HasDecision w.tenantId w.decisionId (fun r => r.status = .evaluated)
  apart : ∀ i j w w', (c.proc i).stage.claimed? = some w → (c.proc j).stage.claimed? = some w' →
    w.decisionId = w'.decisionId → i = j

omit [DecidableEq ι] in
/-- No call is at work on a decision that is still simulated. -/
lemma WorkKept.claimed_alone (hc : WorkKept O call c) {t id : String}
    (hfree : c.shared.db.HasDecision t id (fun r => r.status = .simulated)) (j : ι) (w : Work)
    (hw : (c.proc j).stage.claimed? = some w) : w.decisionId ≠ id := by
  rintro rfl
  obtain ⟨⟨r, -, -, -, hrank, hstatus⟩, -⟩ := (hc.claimed j w hw).and hc.answers.ids hfree
  simp [hstatus, DecisionStatus.rank] at hrank

lemma WorkKept.fire (hc : WorkKept O call c) (h : (toolCalls O call).fire c i x = some d) :
    WorkKept O call d := by
  have hmove := toolCalls_move h
  have hdecisions := (hc.answers.ids.fire h).1
  have hother : ∀ j, j ≠ i → d.proc j = c.proc j := fun j => (toolCalls O call).proc_of_fire h
  refine ⟨hc.locks.fire h, hc.answers.fire h, ?_, ?_, ?_, ?_⟩
  · intro j w hj
    have hkeep : c.shared.db.HasDecision w.tenantId w.decisionId
        (fun r => r.actionType = w.actionType) →
        d.shared.db.HasDecision w.tenantId w.decisionId (fun r => r.actionType = w.actionType) :=
      hdecisions.hasDecision (fun r r' hr => (hr.same.actionType_eq.trans ·))
    by_cases hji : j = i
    · subst hji
      rcases hmove.work_cases hj with hw |
          ⟨guard, t, a, payload, decision, v, reason, hcall, hp, -, rfl⟩ |
          ⟨t, r, id, decision, payload, -, -, hfound, -, rfl⟩
      · exact hkeep (hc.action j w hw)
      · have hpersisted := hc.answers.persisted j decision (by rw [hp]; rfl)
        obtain ⟨t', a', payload', _, _, hcall', hcreated⟩ := hpersisted.created
        obtain ⟨rfl, rfl, rfl⟩ := ToolCall.execute.inj (hcall.symm.trans hcall')
        obtain ⟨row, hrow, hsame⟩ := hpersisted.row
        exact hkeep ⟨row, hrow, hsame.id_eq, hsame.tenantId_eq.trans hcreated.tenantId_eq,
          hsame.actionType_eq.trans hcreated.actionType_eq⟩
      · obtain ⟨hmem, -, ht⟩ := Db.decision?_spec hfound
        exact hkeep ⟨decision, hmem, rfl, ht, rfl⟩
    · rw [hother j hji] at hj
      exact hkeep (hc.action j w hj)
  · intro j w hj
    have hkeep : c.shared.db.HasDecision w.tenantId w.decisionId (fun r => 1 ≤ r.status.rank) →
        d.shared.db.HasDecision w.tenantId w.decisionId (fun r => 1 ≤ r.status.rank) :=
      hdecisions.hasDecision (fun r r' hr h1 => h1.trans hr.rank_le)
    by_cases hji : j = i
    · subst hji
      rcases hmove.claimed_cases hj with hw | ⟨-, decision, hclaim⟩
      · exact hkeep (hc.claimed j w hw)
      · exact (claimDecision_has hclaim).2
    · rw [hother j hji] at hj
      exact hkeep (hc.claimed j w hj)
  · intro j w hj
    have hkeep : c.shared.db.HasDecision w.tenantId w.decisionId
        (fun r => r.status = .evaluated) →
        d.shared.db.HasDecision w.tenantId w.decisionId (fun r => r.status = .evaluated) :=
      hdecisions.hasDecision (fun r r' hr => hr.evaluated_lasts)
    by_cases hji : j = i
    · subst hji
      rcases hmove.evaluated_cases hj with hw | ⟨-, predicted, draws, now, evaluation, hevaluate⟩
      · exact hkeep (hc.evaluated j w hw)
      · exact evaluateDecision_has hevaluate
    · rw [hother j hji] at hj
      exact hkeep (hc.evaluated j w hj)
  · -- Only the call that has taken the step can have claimed something new.
    have hnew : ∀ k w w', k ≠ i → (d.proc i).stage.claimed? = some w →
        (d.proc k).stage.claimed? = some w' → w.decisionId ≠ w'.decisionId := by
      intro k w w' hk hi hk' heq
      rw [hother k hk] at hk'
      rcases hmove.claimed_cases hi with hw | ⟨-, decision, hclaim⟩
      · exact hk (hc.apart k i w' w hk' hw heq.symm)
      · exact hc.claimed_alone (claimDecision_has hclaim).1 k w' hk' heq.symm
    intro j k w w' hj hk heq
    by_cases hji : j = i
    · by_cases hki : k = i
      · rw [hji, hki]
      · exact absurd heq (hnew k w w' hki (hji ▸ hj) hk)
    · by_cases hki : k = i
      · exact absurd heq.symm (hnew j w' w hji (hki ▸ hk) hj)
      · rw [hother j hji] at hj
        rw [hother k hki] at hk
        exact hc.apart j k w w' hj hk heq

end Runs

end OpsCopilot
