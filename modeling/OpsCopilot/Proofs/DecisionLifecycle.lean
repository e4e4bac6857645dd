import OpsCopilot.Proofs.DecisionRows

/-!
# The lifecycle of a decision

Every step moves every row by one transaction of the decision engine at most. What follows for
whole runs: the order of the states, and when the outcome of a decision is set.
-/

namespace OpsCopilot

open Python Sql Fallible Interleaving

/-! ### The table in one step -/

section Step

variable {O : Outside} {call : ToolCall} {x : ToolAction} {s s' : ToolStore} {p p' : Process}

lemma requestApproval_decisions {t d reason id : String} {db db' : Db}
    {row : ApprovalRequestRecord} (h : requestApproval t d reason id db = .ok (db', row)) :
    db'.decisions = db.decisions := by
  rcases (requestApproval_spec h).2.2 with ⟨rfl, -⟩ | ⟨-, -, -, -, rfl⟩
  · rfl
  · rfl

lemma resolveRequest_decisions {t r : String} {v : Review} {db db' : Db}
    {row : ApprovalRequestRecord} (h : resolveRequest t r v db = .ok (db', row)) :
    db'.decisions = db.decisions := by
  obtain ⟨old, -, -, -, rfl⟩ := resolveRequest_spec h
  rfl

lemma writeLog_decisions {entry : LogEntry} {now : Timestamp} {db db' : Db}
    (h : writeLog entry now db = .ok db') : db'.decisions = db.decisions := by
  obtain ⟨stored, -, rfl⟩ := writeLog_spec h
  rfl

theorem ToolMove.decisionsMove (h : ToolMove O call x s p s' p') (hids : s.db.DecisionIds) :
    DecisionsMove s.db s'.db := by
  cases h with
  | raise _ _ | crash _ | unsupported _ _ | simulate _ _ | acquire _ _ | timeout _ | block _ _
  | review _ _ | proceed _ _ | getPending _ _ _ | readPending _ _ _ | recheck _ _ _ _
  | stale _ _ _ | getApproved _ _ _ _ | readApproved _ _ _ | acquireApproved _ | complete _
  | releaseWork _ | leave => exact .of_eq rfl
  | persist _ hpersist | persistAlone _ hpersist =>
    obtain ⟨hcreated, -, hfresh, rfl⟩ := persistDecision_spec hpersist
    exact .creates _ _ _ _ _ _ hcreated hfresh rfl
  | request _ hrequest | requestAlone _ hrequest => exact .of_eq (requestApproval_decisions hrequest)
  | resolve _ hresolve | resolveAlone _ hresolve => exact .of_eq (resolveRequest_decisions hresolve)
  | claim hclaim | claimAlone _ hclaim =>
    obtain ⟨hfound, hcleared, hstatus, rfl⟩ := claimDecision_spec hclaim
    exact .of_change hids hfound (.claimed hstatus hcleared)
  | observe hevaluate | evaluateAlone hevaluate =>
    obtain ⟨⟨r, hfound, hstatus⟩, rfl⟩ := evaluateDecision_spec hevaluate
    exact .of_change hids hfound (.evaluated _ _ hstatus)
  | append happend =>
    obtain ⟨_, -, -, happended⟩ := appendEvent_spec happend
    exact .of_eq happended.decisions_eq
  | logPolicy _ hlog | logReviewer _ hlog | audit hlog => exact .of_eq (writeLog_decisions hlog)

end Step

/-! ### What a row records -/

/-- The outcome of a decision is recorded exactly when it is evaluated, and one that has not
cleared the threshold is held. -/
structure Decision.Recorded (r : Decision) : Prop where
  actualOutcome : r.actualOutcome.isSome = true ↔ r.status = .evaluated
  calibrationError : r.calibrationError.isSome = true ↔ r.status = .evaluated
  evaluatedAt : r.evaluatedAt.isSome = true ↔ r.status = .evaluated
  held : r.predictedOutcome.confidence < confidenceThreshold → r.status = .heldLowConfidence

/-- The states that a decision never leaves. -/
def DecisionStatus.final : DecisionStatus → Bool
  | .heldLowConfidence | .evaluated => true
  | _ => false

/-- How far a decision has come. -/
def DecisionStatus.rank : DecisionStatus → ℕ
  | .executed => 1
  | .evaluated => 2
  | _ => 0

/-- A decision leaves the state `status` between two databases. -/
def Leaves (id : String) (status : DecisionStatus) (db db' : Db) : Prop :=
  ∃ r ∈ db.decisions, ∃ r' ∈ db'.decisions, r.id = id ∧ r'.id = id ∧ r.status = status ∧
    r'.status ≠ status

section Rows

variable {r r' : Decision}

lemma Created.recorded {t id : String} {a : ActionType} {payload : Dict}
    {predicted : PredictedOutcome} (h : Created t id a payload predicted r) : r.Recorded := by
  have hstatus : r.status ≠ .evaluated := by
    rw [h.status_eq]
    split_ifs <;> simp
  obtain ⟨hactual, herror, hat⟩ := h.unevaluated
  refine ⟨by simp [hactual, hstatus], by simp [herror, hstatus], by simp [hat, hstatus], ?_⟩
  intro hlow
  rw [h.status_eq, h.cleared_eq, ← h.predicted_eq, if_neg]
  simpa using hlow

lemma Decision.Moves.recorded (h : r.Moves r') (hr : r.Recorded) : r'.Recorded := by
  cases h with
  | stays => exact hr
  | claimed hstatus hcleared =>
    refine ⟨?_, ?_, ?_, fun hlow => ?_⟩
    · have := hr.actualOutcome
      simp_all
    · have := hr.calibrationError
      simp_all
    · have := hr.evaluatedAt
      simp_all
    · exact absurd (hr.held hlow) (by simp [hstatus])
  | evaluated evaluation now hstatus =>
    refine ⟨by simp [Decision.evaluated], by simp [Decision.evaluated],
      by simp [Decision.evaluated], fun hlow => ?_⟩
    exact absurd (hr.held hlow) (by simp [hstatus])

/-- A row in a final state stays as it is. -/
lemma Decision.Moves.eq_of_final (h : r.Moves r') (hr : r.status.final = true) : r' = r := by
  cases h with
  | stays => rfl
  | claimed hstatus _ | evaluated _ _ hstatus => exact absurd hr (by simp [hstatus, DecisionStatus.final])

lemma Decision.Moves.rank_le (h : r.Moves r') : r.status.rank ≤ r'.status.rank := by
  cases h with
  | stays => rfl
  | claimed hstatus _ | evaluated _ _ hstatus =>
    simp [hstatus, DecisionStatus.rank, Decision.evaluated]

lemma Decision.Moves.rank_lt (h : r.Moves r') (hne : r'.status ≠ r.status) :
    r.status.rank < r'.status.rank := by
  cases h with
  | stays => exact absurd rfl hne
  | claimed hstatus _ | evaluated _ _ hstatus =>
    simp [hstatus, DecisionStatus.rank, Decision.evaluated]

end Rows

/-! ### Runs -/

section Runs

variable {ι : Type*} [DecidableEq ι] {O : Outside} {call : ι → ToolCall}
  {c d e : Config ι ToolStore Process} {i : ι} {x : ToolAction}

lemma toolCalls_move (h : (toolCalls O call).fire c i x = some d) :
    ToolMove O (call i) x c.shared (c.proc i) d.shared (d.proc i) :=
  toolMove_of_step ((toolCalls O call).step_of_fire h)

lemma Db.DecisionIds.fire (hc : c.shared.db.DecisionIds)
    (h : (toolCalls O call).fire c i x = some d) :
    DecisionsMove c.shared.db d.shared.db ∧ d.shared.db.DecisionIds := by
  have hdecisions := (toolCalls_move h).decisionsMove hc
  exact ⟨hdecisions, hdecisions.ids hc⟩

/-- The decision has come at least as far as the row. -/
structure Reached (r : Decision) (db : Db) : Prop where
  ids : db.DecisionIds
  later : ∃ r' ∈ db.decisions, r'.id = r.id ∧ r.status.rank ≤ r'.status.rank

/-- A decision never falls back. -/
lemma rank_run {later : List (ι × ToolAction)} {r : Decision} (hc : c.shared.db.DecisionIds)
    (hr : r ∈ c.shared.db.decisions) (h : (toolCalls O call).run c later = some d) :
    Reached r d.shared.db := by
  have hstep : ∀ c i x d, Reached r c.shared.db → (toolCalls O call).fire c i x = some d →
      Reached r d.shared.db := by
    intro c i x d hc hd
    obtain ⟨r₁, hr₁, hid, hrank⟩ := hc.later
    obtain ⟨hmove, hids⟩ := hc.ids.fire hd
    obtain ⟨r₂, hr₂, hmoves⟩ := hmove.mem hr₁
    exact ⟨hids, r₂, hr₂, hmoves.id_eq.trans hid, hrank.trans hmoves.rank_le⟩
  exact (toolCalls O call).run_invariant' hstep ⟨hc, r, hr, rfl, le_rfl⟩ h

lemma leaves_once {later : List (ι × ToolAction)} {id : String} {status : DecisionStatus}
    (hc : c.shared.db.DecisionIds) (hfire : (toolCalls O call).fire c i x = some d)
    (hleaves : Leaves id status c.shared.db d.shared.db)
    (hrun : (toolCalls O call).run d later = some e) (db' : Db) :
    ¬Leaves id status e.shared.db db' := by
  rintro ⟨r₂, hr₂, -, -, hid₂, -, hstatus₂, -⟩
  obtain ⟨r, hr, r', hr', hid, hid', hstatus, hstatus'⟩ := hleaves
  obtain ⟨hmove, hd⟩ := hc.fire hfire
  obtain ⟨r₁, hr₁, hmoves⟩ := hmove.mem hr
  obtain rfl := hd.eq hr' hr₁ (hid'.trans (hmoves.id_eq.trans hid).symm)
  have hlt := hmoves.rank_lt (by rwa [hstatus])
  have he := rank_run hd hr' hrun
  obtain ⟨r₃, hr₃, hid₃, hle⟩ := he.later
  obtain rfl := he.ids.eq hr₂ hr₃ (hid₂.trans (hid₃.trans hid').symm)
  rw [hstatus₂, ← hstatus] at hle
  exact absurd hlt hle.not_gt

/-- What holds of the table of decisions in every state of a run. -/
structure DecisionsRecorded (db : Db) : Prop where
  ids : db.DecisionIds
  recorded : ∀ r ∈ db.decisions, r.Recorded

lemma DecisionsRecorded.fire (hc : DecisionsRecorded c.shared.db)
    (h : (toolCalls O call).fire c i x = some d) :
    DecisionsMove c.shared.db d.shared.db ∧ DecisionsRecorded d.shared.db := by
  obtain ⟨hdecisions, hids⟩ := hc.ids.fire h
  refine ⟨hdecisions, hids, fun r' hr' => ?_⟩
  rcases hdecisions.of_mem hr' with ⟨r, hr, hmoves⟩ | ⟨_, _, _, _, _, hcreated⟩
  · exact hmoves.recorded (hc.recorded r hr)
  · exact hcreated.recorded

lemma decisionsRecorded_run {db : Db} {schedule : List (ι × ToolAction)}
    (hdb : DecisionsRecorded db) (h : (toolCalls O call).run db.start schedule = some c) :
    DecisionsRecorded c.shared.db := by
  have hstep : ∀ c i x d, DecisionsRecorded c.shared.db →
      (toolCalls O call).fire c i x = some d → DecisionsRecorded d.shared.db :=
    fun _ _ _ _ hc hd => (hc.fire hd).2
  exact (toolCalls O call).run_invariant' hstep hdb h

/-- A row in a final state is there for ever. -/
lemma final_run {later : List (ι × ToolAction)} {r : Decision} (hc : DecisionsRecorded c.shared.db)
    (hr : r ∈ c.shared.db.decisions) (hfinal : r.status.final = true)
    (h : (toolCalls O call).run c later = some d) : r ∈ d.shared.db.decisions := by
  have hstep : ∀ c i x d, (DecisionsRecorded c.shared.db ∧ r ∈ c.shared.db.decisions) →
      (toolCalls O call).fire c i x = some d →
      DecisionsRecorded d.shared.db ∧ r ∈ d.shared.db.decisions := by
    intro c i x d hc hd
    obtain ⟨hmove, hrecorded⟩ := hc.1.fire hd
    obtain ⟨r', hr', hmoves⟩ := hmove.mem hc.2
    rw [hmoves.eq_of_final hfinal] at hr'
    exact ⟨hrecorded, hr'⟩
  exact ((toolCalls O call).run_invariant' hstep ⟨hc, hr⟩ h).2

/-- What holds of the decisions in a state and in everything that follows it. -/
structure DecisionLaws (O : Outside) (call : ι → ToolCall) (c : Config ι ToolStore Process) :
    Prop where
  /-- A step takes a decision from one state to the next one at most. -/
  steps : ∀ i x d, (toolCalls O call).fire c i x = some d →
    ∀ r ∈ c.shared.db.decisions, ∃ r' ∈ d.shared.db.decisions, r.Moves r'
  /-- No state of a decision is left twice. -/
  once : ∀ i x d later e j y f id status, (toolCalls O call).fire c i x = some d →
    Leaves id status c.shared.db d.shared.db → (toolCalls O call).run d later = some e →
    (toolCalls O call).fire e j y = some f → ¬Leaves id status e.shared.db f.shared.db
  recorded : ∀ r ∈ c.shared.db.decisions, r.Recorded
  /-- A held or evaluated row never changes. -/
  settled : ∀ later d, (toolCalls O call).run c later = some d →
    ∀ r ∈ c.shared.db.decisions, r.status.final = true → r ∈ d.shared.db.decisions

theorem decision_lifecycle {db : Db} {schedule : List (ι × ToolAction)}
    (hdb : DecisionsRecorded db) (hc : (toolCalls O call).run db.start schedule = some c) :
    DecisionLaws O call c := by
  have hrecorded := decisionsRecorded_run hdb hc
  refine ⟨fun i x d hfire r hr => (hrecorded.fire hfire).1.mem hr, ?_, hrecorded.recorded,
    fun later d hrun r hr hfinal => final_run hrecorded hr hfinal hrun⟩
  intro i x d later e j y f id status hfire hleaves hrun _
  exact leaves_once hrecorded.ids hfire hleaves hrun f.shared.db

end Runs

/-! ### A concrete run -/

/-- A tenant with one dish, which sells for 10.00 and costs 2.00. -/
def bistro : Db where
  tenants := ["t"]
  tables := { Tables.empty with
    menuItems := [⟨"soup", "t", "Soup", .number ⟨1000, by decide⟩, true⟩]
    ingredients := [⟨"leek", "t", .number ⟨200, by decide⟩, none, .number ⟨0, by decide⟩⟩]
    recipes := [⟨"r", "t", "soup", true⟩]
    recipeIngredients := [⟨"t", "r", "leek", ⟨10000, by decide⟩⟩] }
  events := []
  decisions := []
  toolExecutionLog := []
  approvalRequests := []

/-- The payload of a price change for the dish of the bistro. -/
def soupPrice (cents : ℕ) : Dict :=
  [(.str "menu_item_id", .str "soup"), (.str "new_price", .float (.finite (.ofDigits false cents (-2))))]

def calmDraws : Randomness := ⟨0, 0, 1, 1 / 10, false, 1, by simp, by simp, by norm_num⟩

/-- One call proposes a price, and another one executes the decision. -/
def proposeThenObserve : Bool → ToolCall
  | true => .propose "t" .priceChange (soupPrice 1050)
  | false => .observe "t" "d"

theorem soup_decision_lifecycle : ∃ c,
    (toolCalls (.prescribed []) proposeThenObserve).run bistro.start
      [(true, .simulate), (true, .persist "d"), (false, .claim), (false, .observe calmDraws 7)] =
        some c ∧ DecisionLaws (.prescribed []) proposeThenObserve c := by
  have hrun : ((toolCalls (.prescribed []) proposeThenObserve).run bistro.start
      [(true, .simulate), (true, .persist "d"), (false, .claim),
        (false, .observe calmDraws 7)]).isSome = true := by decide +kernel
  have hbistro : DecisionsRecorded bistro :=
    ⟨List.nodup_nil, fun _ hr => absurd hr List.not_mem_nil⟩
  obtain ⟨c, hc⟩ := Option.isSome_iff_exists.mp hrun
  exact ⟨c, hc, decision_lifecycle hbistro hc⟩

end OpsCopilot
