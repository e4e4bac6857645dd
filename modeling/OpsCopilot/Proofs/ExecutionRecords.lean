import OpsCopilot.Proofs.ClaimedWork

/-!
# What the three records say of one execution

An execution leaves an evaluated decision, an event, and a row of the execution log that says
`executed`. They are written by three transactions of one call, and any call may stop in between.
What the records say of each other nevertheless, in every state of every run.
-/

namespace OpsCopilot

open Python Sql Fallible Interleaving

section Runs

variable {ι : Type*} [DecidableEq ι] {O : Outside} {call : ι → ToolCall}
  {c d : Config ι ToolStore Process} {i : ι} {x : ToolAction}

/-! ### Events -/

/-- An event that a run has appended, and the decision it was appended for. -/
structure TrailEntry where
  decisionId : String
  event : Event

/-- The event carries out an evaluated decision of its tenant. -/
def TrailEntry.Traced (db : Db) (e : TrailEntry) : Prop :=
  e.event.source = agentSource ∧ db.HasDecision e.event.tenantId e.decisionId
    (fun r => r.status = .evaluated ∧ r.actionType.eventType = e.event.eventType)

/-- What holds of the appended events in every state of a run. -/
structure TrailKept (start : Db) (c : Config ι ToolStore Process) (trail : List TrailEntry) :
    Prop where
  events_eq : c.shared.db.events = start.events ++ trail.map TrailEntry.event
  once : (trail.map TrailEntry.decisionId).Nodup
  traced : ∀ e ∈ trail, e.Traced c.shared.db
  unapplied : ∀ i w, (c.proc i).stage.claimed? = some w → (c.proc i).stage.appended? = none →
    ∀ e ∈ trail, e.decisionId ≠ w.decisionId
  applied : ∀ i w, (c.proc i).stage.appended? = some w →
    ∃ e ∈ trail, e.decisionId = w.decisionId ∧ e.event.tenantId = w.tenantId

lemma TrailEntry.Traced.move {db db' : Db} {e : TrailEntry} (h : DecisionsMove db db')
    (he : e.Traced db) : e.Traced db' :=
  ⟨he.1, h.hasDecision (fun _ _ hr ⟨hstatus, htype⟩ => ⟨hr.evaluated_lasts hstatus,
    (congrArg ActionType.eventType hr.same.actionType_eq).trans htype⟩) he.2⟩

omit [DecidableEq ι] in
/-- A decision that nobody has claimed has no event. -/
lemma TrailKept.unclaimed {start : Db} {trail : List TrailEntry} (ht : TrailKept start c trail)
    (hids : c.shared.db.DecisionIds) {t id : String}
    (hfree : c.shared.db.HasDecision t id (fun r => r.status = .simulated)) :
    ∀ e ∈ trail, e.decisionId ≠ id := by
  rintro e he rfl
  obtain ⟨⟨r, -, -, -, ⟨hevaluated, -⟩, hstatus⟩, -⟩ := (ht.traced e he).2.and hids hfree
  exact absurd (hevaluated.symm.trans hstatus) (by simp)

lemma TrailKept.fire {start : Db} {trail : List TrailEntry} (hc : WorkKept O call c)
    (ht : TrailKept start c trail) (h : (toolCalls O call).fire c i x = some d) :
    ∃ trail', TrailKept start d trail' ∧ (∀ e ∈ trail, e ∈ trail') ∧ ∀ e ∈ trail', e ∈ trail ∨
      ∃ w, (d.proc i).stage.appended? = some w ∧ w.decisionId = e.decisionId := by
  have hmove := toolCalls_move h
  have hd := hc.fire h
  have hdecisions := (hc.answers.ids.fire h).1
  have hother : ∀ j, j ≠ i → d.proc j = c.proc j := fun j => (toolCalls O call).proc_of_fire h
  by_cases happend : ∃ w evaluation eventType event draw, AppendStep O c.shared (c.proc i) d.shared
      (d.proc i) w evaluation eventType event draw
  · obtain ⟨w, evaluation, eventType, event, draw, happend⟩ := happend
    obtain ⟨row, hrow, hevents⟩ := happend.appended.row
    obtain ⟨rfl, -⟩ := hc.locks.event i w evaluation eventType event happend.before
    have hstage : (d.proc i).stage = .appended w evaluation := by rw [happend.after]
    have hclaimed : (c.proc i).stage.claimed? = some w := by rw [happend.before]; rfl
    have hnew := ht.unapplied i w hclaimed (by rw [happend.before]; rfl)
    refine ⟨trail ++ [⟨w.decisionId, row⟩], ⟨?_, ?_, ?_, ?_, ?_⟩,
      fun e he => List.mem_append_left _ he, ?_⟩
    · rw [hevents, ht.events_eq, List.map_append, List.append_assoc]
      rfl
    · rw [List.map_append, List.map_singleton, List.nodup_append']
      refine ⟨ht.once, List.nodup_singleton _, List.disjoint_singleton.mpr ?_⟩
      intro hmem
      obtain ⟨e, he, heq⟩ := List.mem_map.mp hmem
      exact hnew e he heq
    · intro e he
      rcases List.mem_append.mp he with he | he
      · exact (ht.traced e he).move hdecisions
      · obtain rfl := List.mem_singleton.mp he
        have hevaluated := hd.evaluated i w (by rw [hstage]; rfl)
        have haction := hd.action i w (by rw [hstage]; rfl)
        refine ⟨hrow.source_eq.trans (by decide), ?_⟩
        obtain ⟨r, hr, hid, htenant, hstatus, htype⟩ := (hevaluated.and hd.answers.ids haction).1
        exact ⟨r, hr, hid, htenant.trans hrow.tenantId_eq.symm, hstatus,
          (congrArg ActionType.eventType htype).trans hrow.eventType_eq.symm⟩
    · intro j v hv happended e he
      have hji : j ≠ i := by
        rintro rfl
        rw [hstage] at happended
        exact absurd happended (by simp [Stage.appended?])
      have hv' := hv
      rw [hother j hji] at hv happended
      rcases List.mem_append.mp he with he | he
      · exact ht.unapplied j v hv happended e he
      · obtain rfl := List.mem_singleton.mp he
        intro heq
        exact hji (hc.apart j i v w hv hclaimed heq.symm)
    · intro j v hv
      by_cases hji : j = i
      · subst hji
        rw [hstage] at hv
        obtain rfl := Option.some.inj hv
        exact ⟨_, List.mem_append_right _ List.mem_cons_self, rfl, hrow.tenantId_eq⟩
      · rw [hother j hji] at hv
        obtain ⟨e, he, heq⟩ := ht.applied j v hv
        exact ⟨e, List.mem_append_left _ he, heq⟩
    · intro e he
      rcases List.mem_append.mp he with he | he
      · exact .inl he
      · obtain rfl := List.mem_singleton.mp he
        exact .inr ⟨w, by rw [hstage]; rfl, rfl⟩
  · have hevents : d.shared.db.events = c.shared.db.events := by
      rcases hmove.append_cases with huntouched | hstep
      · exact huntouched.events_eq
      · exact absurd hstep happend
    refine ⟨trail, ⟨hevents.trans ht.events_eq, ht.once,
      fun e he => (ht.traced e he).move hdecisions, ?_, ?_⟩, fun _ => id, fun e he => .inl he⟩
    · intro j v hv happended
      by_cases hji : j = i
      · subst hji
        rcases hmove.claimed_cases hv with hw | ⟨-, decision, hclaim⟩
        · exact ht.unapplied j v hw (unappended_before ((toolCalls O call).step_of_fire h) hv happended)
        · exact ht.unclaimed hc.answers.ids (claimDecision_has hclaim).1
      · rw [hother j hji] at hv happended
        exact ht.unapplied j v hv happended
    · intro j v hv
      by_cases hji : j = i
      · subst hji
        rcases hmove.appended_cases hv with hw | hstep
        · exact ht.applied j v hw
        · exact absurd ⟨v, hstep⟩ happend
      · rw [hother j hji] at hv
        exact ht.applied j v hv

/-! ### Rows of the log -/

/-- The decisions that rows of the log report as executed. -/
def executedIds (rows : List ToolExecutionLog) : List (Option String) :=
  (rows.filter (fun row => row.executed)).map ToolExecutionLog.decisionId

/-- A row reports the execution of this decision. -/
def Reports (rows : List ToolExecutionLog) (id : String) : Prop :=
  ∃ row ∈ rows, row.executed = true ∧ row.decisionId = some id

lemma mem_executedIds {rows : List ToolExecutionLog} {id : String} :
    some id ∈ executedIds rows ↔ Reports rows id := by
  unfold executedIds Reports
  simp only [List.mem_map, List.mem_filter, and_assoc]

lemma executedIds_append (rows rows' : List ToolExecutionLog) :
    executedIds (rows ++ rows') = executedIds rows ++ executedIds rows' := by
  unfold executedIds
  rw [List.filter_append, List.map_append]

lemma Reports.append {rows : List ToolExecutionLog} {id : String} (h : Reports rows id)
    (row : ToolExecutionLog) : Reports (rows ++ [row]) id := by
  obtain ⟨b, hb, hrow⟩ := h
  exact ⟨b, List.mem_append_left _ hb, hrow⟩

/-- What holds of the rows of the log in every state of a run. -/
structure RowsKept (start : Db) (c : Config ι ToolStore Process) (trail : List TrailEntry)
    (rows : List ToolExecutionLog) : Prop where
  log_eq : c.shared.db.toolExecutionLog = start.toolExecutionLog ++ rows
  once : (executedIds rows).Nodup
  traced : ∀ row ∈ rows, row.executed = true → ∃ e ∈ trail,
    row.decisionId = some e.decisionId ∧ row.tenantId = e.event.tenantId
  unlogged : ∀ i w, (c.proc i).stage.claimed? = some w → ¬Reports rows w.decisionId
  audit : ∀ i entry answer, (c.proc i).stage = .auditing entry answer → entry.executed = false
  answered : ∀ i answer, (c.proc i).stage.answer? = some answer → reportsExecution answer = true →
    ∃ id, reportedDecision answer = some id ∧ Reports rows id
  explained : ∀ e ∈ trail, Reports rows e.decisionId ∨ ∃ i, (c.proc i).stage.failed = true ∨
    ∃ w, (c.proc i).stage.appended? = some w ∧ w.decisionId = e.decisionId

omit [DecidableEq ι] in
/-- A decision that nobody has claimed is not reported. -/
lemma RowsKept.unclaimed {start : Db} {trail : List TrailEntry} {rows : List ToolExecutionLog}
    (hr : RowsKept start c trail rows) {id : String} (hfree : ∀ e ∈ trail, e.decisionId ≠ id) :
    ¬Reports rows id := by
  rintro ⟨row, hrow, hexecuted, hid⟩
  obtain ⟨e, he, hid', -⟩ := hr.traced row hrow hexecuted
  exact hfree e he (Option.some.inj (hid'.symm.trans hid))

/-- The event of the decision is logged, or its call is about to log it, or some call has failed. -/
def Explained (c : Config ι ToolStore Process) (rows : List ToolExecutionLog) (id : String) : Prop :=
  Reports rows id ∨ ∃ i, (c.proc i).stage.failed = true ∨
    ∃ w, (c.proc i).stage.appended? = some w ∧ w.decisionId = id

lemma Explained.fire {rows : List ToolExecutionLog} {id : String} (he : Explained c rows id)
    (h : (toolCalls O call).fire c i x = some d) :
    Explained d rows id ∨
      ∃ w row, LogStep c.shared (c.proc i) d.shared (d.proc i) w row ∧ w.decisionId = id := by
  have hstep := (toolCalls O call).step_of_fire h
  rcases he with hreports | ⟨j, hj⟩
  · exact .inl (.inl hreports)
  · by_cases hji : j = i
    · subst hji
      rcases hj with hfailed | ⟨w, hw, hid⟩
      · exact .inl (.inr ⟨j, .inl (failed_lasts hstep hfailed)⟩)
      · rcases appended_next hstep hw with hw' | hfailed | ⟨row, hlog⟩
        · exact .inl (.inr ⟨j, .inr ⟨w, hw', hid⟩⟩)
        · exact .inl (.inr ⟨j, .inl hfailed⟩)
        · exact .inr ⟨w, row, hlog, hid⟩
    · rw [← (toolCalls O call).proc_of_fire h hji] at hj
      exact .inl (.inr ⟨j, hj⟩)

section Fire

variable {start : Db} {trail trail' : List TrailEntry} {rows added : List ToolExecutionLog}

/-- A step that adds no row, or the row of a refusal. -/
lemma RowsKept.fire_refused (hc : WorkKept O call c) (ht : TrailKept start c trail)
    (hr : RowsKept start c trail rows) (h : (toolCalls O call).fire c i x = some d)
    (hgrows : ∀ e ∈ trail, e ∈ trail')
    (hnew : ∀ e ∈ trail', e ∈ trail ∨
      ∃ w, (d.proc i).stage.appended? = some w ∧ w.decisionId = e.decisionId)
    (hlog : d.shared.db.toolExecutionLog = c.shared.db.toolExecutionLog ++ added)
    (hadded : ∀ row ∈ added, row.executed = false) :
    RowsKept start d trail' (rows ++ added) := by
  have hmove := toolCalls_move h
  have hother : ∀ j, j ≠ i → d.proc j = c.proc j := fun j => (toolCalls O call).proc_of_fire h
  have hrows : ∀ row ∈ rows ++ added, row.executed = true → row ∈ rows := by
    intro row hrow hexecuted
    rcases List.mem_append.mp hrow with hrow | hrow
    · exact hrow
    · exact absurd (hexecuted.symm.trans (hadded row hrow)) (by simp)
  have hreports : ∀ id, Reports (rows ++ added) id ↔ Reports rows id := by
    intro id
    constructor
    · rintro ⟨row, hrow, hexecuted, hid⟩
      exact ⟨row, hrows row hrow hexecuted, hexecuted, hid⟩
    · rintro ⟨row, hrow, hexecuted, hid⟩
      exact ⟨row, List.mem_append_left _ hrow, hexecuted, hid⟩
  have hnolog : ∀ w row, ¬LogStep c.shared (c.proc i) d.shared (d.proc i) w row := by
    intro w row hstep
    have hsame := List.append_cancel_left (hlog.symm.trans hstep.log_eq)
    have hfalse := hadded row (hsame ▸ List.mem_cons_self)
    exact absurd (hfalse.symm.trans hstep.executed) (by simp)
  refine ⟨by rw [hlog, hr.log_eq, List.append_assoc], ?_, ?_, ?_, ?_, ?_, ?_⟩
  · have hnone : executedIds added = [] := by
      unfold executedIds
      rw [List.map_eq_nil_iff, List.filter_eq_nil_iff]
      intro row hrow
      simp [hadded row hrow]
    rw [executedIds_append, hnone, List.append_nil]
    exact hr.once
  · intro row hrow hexecuted
    obtain ⟨e, he, heq⟩ := hr.traced row (hrows row hrow hexecuted) hexecuted
    exact ⟨e, hgrows e he, heq⟩
  · intro j w hj
    rw [hreports]
    by_cases hji : j = i
    · subst hji
      rcases hmove.claimed_cases hj with hw | ⟨-, decision, hclaim⟩
      · exact hr.unlogged j w hw
      · exact hr.unclaimed (ht.unclaimed hc.answers.ids (claimDecision_has hclaim).1)
    · rw [hother j hji] at hj
      exact hr.unlogged j w hj
  · intro j entry answer hj
    by_cases hji : j = i
    · subst hji
      exact hmove.auditing_entry hj
    · rw [hother j hji] at hj
      exact hr.audit j entry answer hj
  · intro j answer hj hexecution
    simp only [hreports]
    by_cases hji : j = i
    · subst hji
      rcases hmove.reported_cases hj hexecution with hj | ⟨entry, hj⟩ | ⟨w, row, hstep⟩
      · exact hr.answered j answer hj hexecution
      · exact absurd hexecution (by simp [hc.answers.audit j entry answer hj])
      · exact absurd hstep (hnolog w row)
    · rw [hother j hji] at hj
      exact hr.answered j answer hj hexecution
  · intro e he
    rw [hreports]
    rcases hnew e he with he | hpending
    · rcases Explained.fire (hr.explained e he) h with hexplained | ⟨w, row, hstep, -⟩
      · exact hexplained
      · exact absurd hstep (hnolog w row)
    · exact .inr ⟨i, .inr hpending⟩

/-- The step that logs an execution. -/
lemma RowsKept.fire_logged (hc : WorkKept O call c) (ht : TrailKept start c trail)
    (hr : RowsKept start c trail rows) (h : (toolCalls O call).fire c i x = some d)
    (hgrows : ∀ e ∈ trail, e ∈ trail')
    (hnew : ∀ e ∈ trail', e ∈ trail ∨
      ∃ w, (d.proc i).stage.appended? = some w ∧ w.decisionId = e.decisionId)
    {w : Work} {row : ToolExecutionLog}
    (hlog : LogStep c.shared (c.proc i) d.shared (d.proc i) w row) :
    RowsKept start d trail' (rows ++ [row]) := by
  have hmove := toolCalls_move h
  have hother : ∀ j, j ≠ i → d.proc j = c.proc j := fun j => (toolCalls O call).proc_of_fire h
  have hclaimed := Stage.claimed?_of_evaluated? (Stage.evaluated?_of_appended? hlog.before)
  obtain ⟨evaluation, hanswer⟩ := hlog.after
  have hreported : Reports (rows ++ [row]) w.decisionId :=
    ⟨row, List.mem_append_right _ List.mem_cons_self, hlog.executed, hlog.decisionId_eq⟩
  have hreports : ∀ id, Reports (rows ++ [row]) id → Reports rows id ∨ id = w.decisionId := by
    rintro id ⟨b, hb, hexecuted, hid⟩
    rcases List.mem_append.mp hb with hb | hb
    · exact .inl ⟨b, hb, hexecuted, hid⟩
    · obtain rfl := List.mem_singleton.mp hb
      exact .inr (Option.some.inj (hid.symm.trans hlog.decisionId_eq))
  refine ⟨by rw [hlog.log_eq, hr.log_eq, List.append_assoc], ?_, ?_, ?_, ?_, ?_, ?_⟩
  · have hone : executedIds [row] = [some w.decisionId] := by
      simp [executedIds, hlog.executed, hlog.decisionId_eq]
    rw [executedIds_append, hone, List.nodup_append']
    refine ⟨hr.once, List.nodup_singleton _, List.disjoint_singleton.mpr ?_⟩
    rw [mem_executedIds]
    exact hr.unlogged i w hclaimed
  · intro b hb hexecuted
    rcases List.mem_append.mp hb with hb | hb
    · obtain ⟨e, he, heq⟩ := hr.traced b hb hexecuted
      exact ⟨e, hgrows e he, heq⟩
    · obtain rfl := List.mem_singleton.mp hb
      obtain ⟨e, he, hid, htenant⟩ := ht.applied i w hlog.before
      exact ⟨e, hgrows e he, by rw [hlog.decisionId_eq, hid], by rw [hlog.tenantId_eq, htenant]⟩
  · intro j v hj hlogged
    by_cases hji : j = i
    · subst hji
      exact absurd ((Stage.claimed?_of_answer? hanswer).symm.trans hj) (by simp)
    · rw [hother j hji] at hj
      rcases hreports v.decisionId hlogged with hlogged | heq
      · exact hr.unlogged j v hj hlogged
      · exact hji (hc.apart j i v w hj hclaimed heq)
  · intro j entry answer hj
    by_cases hji : j = i
    · subst hji
      exact hmove.auditing_entry hj
    · rw [hother j hji] at hj
      exact hr.audit j entry answer hj
  · intro j answer hj hexecution
    by_cases hji : j = i
    · subst hji
      obtain rfl := Option.some.inj (hanswer.symm.trans hj)
      exact ⟨w.decisionId, reportedDecision_executedAnswer _ _, hreported⟩
    · rw [hother j hji] at hj
      obtain ⟨id, hid, hlogged⟩ := hr.answered j answer hj hexecution
      exact ⟨id, hid, hlogged.append row⟩
  · intro e he
    rcases hnew e he with he | hpending
    · rcases Explained.fire (hr.explained e he) h with (hlogged | hlater) | ⟨v, b, hstep, hid⟩
      · exact .inl (hlogged.append row)
      · exact .inr hlater
      · obtain rfl := Option.some.inj (hlog.before.symm.trans hstep.before)
        exact .inl (hid ▸ hreported)
    · exact .inr ⟨i, .inr hpending⟩

lemma RowsKept.fire (hc : WorkKept O call c) (ht : TrailKept start c trail)
    (hr : RowsKept start c trail rows) (h : (toolCalls O call).fire c i x = some d)
    (hgrows : ∀ e ∈ trail, e ∈ trail')
    (hnew : ∀ e ∈ trail', e ∈ trail ∨
      ∃ w, (d.proc i).stage.appended? = some w ∧ w.decisionId = e.decisionId) :
    ∃ rows', RowsKept start d trail' rows' := by
  rcases (toolCalls_move h).logMove with hquiet | ⟨entry, answer, row, hbefore, hexecuted, hlog⟩ |
      ⟨w, row, hlog⟩
  · exact ⟨_, hr.fire_refused hc ht h hgrows hnew (hquiet.trans (List.append_nil _).symm)
      (List.forall_mem_nil _)⟩
  · refine ⟨_, hr.fire_refused hc ht h hgrows hnew hlog (List.forall_mem_singleton.mpr ?_)⟩
    exact hexecuted.trans (hr.audit i entry answer hbefore)
  · exact ⟨_, hr.fire_logged hc ht h hgrows hnew hlog⟩

end Fire

/-! ### Runs -/

/-- What decisions, events and log say of the executions of a run from `start`. -/
structure ExecutionRecords (start : Db) (c : Config ι ToolStore Process) (trail : List TrailEntry)
    (rows : List ToolExecutionLog) : Prop where
  /-- Nothing is ever taken out of the two logs, and every new event belongs to a decision. -/
  events_eq : c.shared.db.events = start.events ++ trail.map TrailEntry.event
  log_eq : c.shared.db.toolExecutionLog = start.toolExecutionLog ++ rows
  one_event : (trail.map TrailEntry.decisionId).Nodup
  /-- What has an event is evaluated, and the event is of the kind of the decision's action. -/
  evaluated : ∀ e ∈ trail, e.Traced c.shared.db
  one_row : (executedIds rows).Nodup
  /-- What is logged as executed has an event. -/
  logged : ∀ row ∈ rows, row.executed = true → ∃ e ∈ trail,
    row.decisionId = some e.decisionId ∧ row.tenantId = e.event.tenantId
  /-- What a call returns as executed is logged. -/
  returned : ∀ i answer, (c.proc i).stage = .finished (.ok answer) →
    reportsExecution answer = true → ∃ id, reportedDecision answer = some id ∧ Reports rows id
  /-- Where no call has failed, and none still has to log, each event is logged. -/
  complete : (∀ i, (c.proc i).stage.failed = false ∧ (c.proc i).stage.appended? = none) →
    ∀ e ∈ trail, Reports rows e.decisionId

theorem execution_records {db : Db} {schedule : List (ι × ToolAction)} (hids : db.DecisionIds)
    (hc : (toolCalls O call).run db.start schedule = some c) :
    ∃ trail rows, ExecutionRecords db c trail rows := by
  have hidle : ∀ i, ((db.start : Config ι ToolStore Process).proc i).stage = .idle := fun _ => rfl
  have hwork : WorkKept O call (db.start : Config ι ToolStore Process) := by
    have hstart : (toolCalls O call).run db.start [] = some db.start := rfl
    refine ⟨(baselinesKept_run hstart).locks, answersKept_run hids hstart, ?_, ?_, ?_, ?_⟩
    · intro i w hw
      exact absurd hw (by simp [hidle, Stage.work?])
    · intro i w hw
      exact absurd hw (by simp [hidle, Stage.claimed?])
    · intro i w hw
      exact absurd hw (by simp [hidle, Stage.evaluated?])
    · intro i j w w' hw
      exact absurd hw (by simp [hidle, Stage.claimed?])
  have htrail : TrailKept db (db.start : Config ι ToolStore Process) [] := by
    refine ⟨(List.append_nil _).symm, List.nodup_nil, List.forall_mem_nil _, ?_, ?_⟩
    · exact fun i w _ _ => List.forall_mem_nil _
    · intro i w hw
      exact absurd hw (by simp [hidle, Stage.appended?])
  have hrows : RowsKept db (db.start : Config ι ToolStore Process) [] [] := by
    refine ⟨(List.append_nil _).symm, List.nodup_nil, List.forall_mem_nil _, ?_, ?_, ?_,
      List.forall_mem_nil _⟩
    · rintro i w - ⟨row, hrow, -⟩
      exact absurd hrow List.not_mem_nil
    · intro i entry answer hi
      exact absurd hi (by simp [hidle])
    · intro i answer hi
      exact absurd hi (by simp [hidle, Stage.answer?])
  have hstep : ∀ c i x d, (WorkKept O call c ∧ ∃ trail rows, TrailKept db c trail ∧
      RowsKept db c trail rows) → (toolCalls O call).fire c i x = some d →
      WorkKept O call d ∧ ∃ trail rows, TrailKept db d trail ∧ RowsKept db d trail rows := by
    rintro c i x d ⟨hc, trail, rows, ht, hr⟩ hd
    obtain ⟨trail', ht', hgrows, hnew⟩ := ht.fire hc hd
    obtain ⟨rows', hr'⟩ := hr.fire hc ht hd hgrows hnew
    exact ⟨hc.fire hd, trail', rows', ht', hr'⟩
  obtain ⟨-, trail, rows, ht, hr⟩ :=
    (toolCalls O call).run_invariant' hstep ⟨hwork, [], [], htrail, hrows⟩ hc
  refine ⟨trail, rows, ht.events_eq, hr.log_eq, ht.once, ht.traced, hr.once, hr.traced, ?_, ?_⟩
  · intro i answer hi
    exact hr.answered i answer (by rw [hi]; rfl)
  · intro hquiet e he
    rcases hr.explained e he with hlogged | ⟨i, hfailed | ⟨w, hw, -⟩⟩
    · exact hlogged
    · exact absurd (hfailed.symm.trans (hquiet i).1) (by simp)
    · exact absurd (hw.symm.trans (hquiet i).2) (by simp)

end Runs

/-! ### A concrete run -/

theorem soup_execution_records : ∃ c trail rows id,
    (toolCalls (.prescribed []) soupRaise).run bistro.start wholeRaise = some c ∧
      ExecutionRecords bistro c trail rows ∧ Reports rows id := by
  have hrun : ((toolCalls (.prescribed []) soupRaise).run bistro.start wholeRaise).any
      (fun c => (c.proc true).stage.hasExecuted) = true := by decide +kernel
  obtain ⟨c, hc, hexecuted⟩ := (Option.any_eq_true _ _).mp hrun
  obtain ⟨answer, hdone, hreports⟩ := Stage.hasExecuted_eq hexecuted
  have hids : bistro.DecisionIds := List.nodup_nil
  obtain ⟨trail, rows, hrecords⟩ := execution_records hids hc
  obtain ⟨id, -, hlogged⟩ := hrecords.returned true answer hdone hreports
  exact ⟨c, trail, rows, id, hc, hrecords, hlogged⟩

end OpsCopilot
