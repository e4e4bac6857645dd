import OpsCopilot.Lib.KeyedLock
import OpsCopilot.Proofs.ProjectionRows
import OpsCopilot.Proofs.DecisionLifecycle

/-!
# Work under the lock

What every run keeps of the locks and of the actions under way: which lock a call holds, which
gates or which reviewer let it act, and what it may write.
-/

namespace OpsCopilot

open Python Sql Fallible Interleaving KeyedLock

/-! ### The gates -/

/-- Critic and classifier let the action pass without a reviewer. -/
structure GatesPassed (O : Outside) (a : ActionType) (payload : Dict) (confidence : ℚ)
    (currentValue : Option ℚ) : Prop where
  critic : ∃ column verdict, column.map Column.toRat = currentValue ∧
    critiqueColumn O a payload column = .ok verdict ∧ verdict.approved = true
  classifier : ∃ risk, classifyRisk O a payload confidence currentValue = .ok risk ∧
    risk.requiresApproval = false

lemma judge_proceed {O : Outside} {T : Tables} {t reason : String} {a : ActionType} {payload : Dict}
    {confidence : ℚ} {currentValue : Option ℚ}
    (h : judge O T t a payload confidence = .ok (.proceed currentValue reason)) :
    currentValueForCritic T t a payload = .ok currentValue ∧
      GatesPassed O a payload confidence currentValue := by
  obtain ⟨column, hcolumn, hrest⟩ := bind_ok.mp h
  obtain ⟨verdict, hverdict, hrest⟩ := bind_ok.mp hrest
  split_ifs at hrest with happroved
  · obtain ⟨risk, hrisk, hlast⟩ := bind_ok.mp hrest
    split_ifs at hlast with hrequires
    · exact absurd (pure_ok.mp hlast) (by simp)
    · obtain ⟨rfl, -⟩ := Ruling.proceed.inj (pure_ok.mp hlast)
      exact ⟨map_ok.mpr ⟨column, hcolumn, rfl⟩, ⟨column, verdict, rfl, hverdict, happroved⟩,
        ⟨risk, hrisk, Bool.eq_false_iff.mpr hrequires⟩⟩
  · exact absurd (pure_ok.mp hrest) (by simp)

/-! ### Stages under the lock -/

/-- The action that a call is carrying out under the lock, its event not yet appended. -/
def Stage.applying? : Stage → Option Work
  | .claiming w | .observing w _ | .changing w _ | .appending w _ _ _ => some w
  | _ => none

@[simp] lemma Process.conclude_applying? (p : Process) (result : Except PyException Dict) :
    (p.conclude result).stage.applying? = none := by
  unfold Process.conclude
  split_ifs <;> rfl

@[simp] lemma gateDecision_applying? (a : ActionType) (payload : Dict) (decision : Decision) :
    (gateDecision a payload decision).applying? = none := by
  unfold gateDecision
  split_ifs <;> rfl

lemma Stage.work?_of_applying? {stage : Stage} {w : Work} (h : stage.applying? = some w) :
    stage.work? = some w := by
  unfold Stage.applying? at h
  split at h
  · exact h
  · exact h
  · exact h
  · exact h
  · exact absurd h (by simp)

/-- The key that an action is serialized by. -/
def Work.key (O : Outside) (w : Work) : String :=
  serializationKey O w.tenantId w.actionType w.payload

section Step

variable {O : Outside} {call : ToolCall} {x : ToolAction} {s s' : ToolStore} {p p' : Process}

/-- Every step takes, keeps or gives back a lock. -/
theorem ToolMove.lockMove (h : ToolMove O call x s p s' p') :
    Move p.guard s.locks p'.guard s'.locks := by
  cases h with
  | acquire _ hfree | acquireApproved hfree => exact .takes _ rfl hfree
  | crash _ => exact .gives
  | releaseWork _ | leave => exact .gives
  | raise _ _ | unsupported _ _ | simulate _ _ | persist _ _ | persistAlone _ _ | timeout _
  | block _ _ | review _ _ | proceed _ _ | request _ _ | requestAlone _ _ | resolveAlone _ _
  | getPending _ _ _ | readPending _ _ _ | recheck _ _ _ _ | stale _ _ _ | resolve _ _
  | getApproved _ _ _ _ | readApproved _ _ _ | claimAlone _ _ | evaluateAlone _ | claim _
  | observe _ | complete _ | append _ | logPolicy _ _ | logReviewer _ _ | audit _ => exact .keeps

/-- Actions start under the lock. -/
lemma ToolMove.applying_cases (h : ToolMove O call x s p s' p') {w : Work}
    (hw : p'.stage.applying? = some w) :
    p.stage.applying? = some w ∧ p'.guard = p.guard ∨
    (∃ decision, p.stage = .entered decision ∧ p'.guard = p.guard ∧
      ∃ currentValue reason, w.authority = .policy currentValue reason ∧
        call = .execute w.tenantId w.actionType w.payload ∧
        currentValueForCritic s.db.tables w.tenantId w.actionType w.payload = .ok currentValue ∧
        GatesPassed O w.actionType w.payload decision.confidence.toRat currentValue) ∨
    p.stage = .ready w ∧ p'.guard = some (w.key O) := by
  cases h with
  | raise _ _ | persist _ _ | logPolicy _ _ | audit _ => exact absurd hw (by simp)
  | crash _ | unsupported _ _ | simulate _ _ | persistAlone _ _ | acquire _ _ | timeout _
  | block _ _ | review _ _ | request _ _ | requestAlone _ _ | resolveAlone _ _ | readPending _ _ _
  | recheck _ _ _ _ | stale _ _ _ | getApproved _ _ _ _ | claimAlone _ _ | evaluateAlone _
  | logReviewer _ _ | leave | readApproved _ _ _ | append _ | releaseWork _ =>
    exact absurd hw (by simp [Stage.applying?])
  | getPending _ _ _ | resolve _ _ =>
    split_ifs at hw <;> exact absurd hw (by simp [Stage.applying?])
  | claim _ | observe _ | complete _ => exact .inl ⟨hw, rfl⟩
  | proceed hcall hjudge =>
    obtain rfl := Option.some.inj hw
    exact .inr (.inl ⟨_, rfl, rfl, _, _, rfl, hcall, judge_proceed hjudge⟩)
  | acquireApproved _ =>
    obtain rfl := Option.some.inj hw
    exact .inr (.inr ⟨rfl, rfl⟩)

/-- The gates are entered with the lock of the call's own resource. -/
lemma ToolMove.entered_cases (h : ToolMove O call x s p s' p') {decision : Decision}
    (hp' : p'.stage = .entered decision) :
    ∃ t a payload, call = .execute t a payload ∧
      p'.guard = some (serializationKey O t a payload) := by
  cases h with
  | acquire hcall _ => exact ⟨_, _, _, hcall, rfl⟩
  | raise _ _ | logPolicy _ _ | audit _ =>
    unfold Process.conclude at hp'
    split_ifs at hp'
  | persist _ _ =>
    unfold gateDecision at hp'
    split_ifs at hp'
  | getPending _ _ _ | resolve _ _ => split_ifs at hp'
  | crash _ | unsupported _ _ | simulate _ _ | persistAlone _ _ | timeout _ | block _ _
  | review _ _ | proceed _ _ | request _ _ | requestAlone _ _ | resolveAlone _ _
  | readPending _ _ _ | recheck _ _ _ _ | stale _ _ _ | getApproved _ _ _ _ | readApproved _ _ _
  | acquireApproved _ | claimAlone _ _ | evaluateAlone _ | claim _ | observe _ | complete _
  | append _ | logReviewer _ _ | releaseWork _ | leave => exact absurd hp' (by simp)

/-- The event is what `_apply_state_change` makes of the action. -/
lemma ToolMove.appending_cases (h : ToolMove O call x s p s' p') {w : Work}
    {evaluation : Evaluation} {eventType : EventType} {event : Dict}
    (hp' : p'.stage = .appending w evaluation eventType event) :
    stateChangeEvent O s.db.tables w.tenantId w.payload w.actionType = .ok (eventType, event) := by
  cases h with
  | complete hevent =>
    obtain ⟨rfl, -, rfl, rfl⟩ := Stage.appending.inj hp'
    exact hevent
  | raise _ _ | logPolicy _ _ | audit _ =>
    unfold Process.conclude at hp'
    split_ifs at hp'
  | persist _ _ =>
    unfold gateDecision at hp'
    split_ifs at hp'
  | getPending _ _ _ | resolve _ _ => split_ifs at hp'
  | crash _ | unsupported _ _ | simulate _ _ | persistAlone _ _ | acquire _ _ | timeout _
  | block _ _ | review _ _ | proceed _ _ | request _ _ | requestAlone _ _ | resolveAlone _ _
  | readPending _ _ _ | recheck _ _ _ _ | stale _ _ _ | getApproved _ _ _ _ | readApproved _ _ _
  | acquireApproved _ | claimAlone _ _ | evaluateAlone _ | claim _ | observe _
  | append _ | logReviewer _ _ | releaseWork _ | leave => exact absurd hp' (by simp)

/-- The step that appends the event of an action. -/
structure AppendStep (O : Outside) (s : ToolStore) (p : Process) (s' : ToolStore) (p' : Process)
    (w : Work) (evaluation : Evaluation) (eventType : EventType) (event : Dict) (draw : Draw) :
    Prop where
  before : p.stage = .appending w evaluation eventType event
  appended : Appended O w.tenantId eventType event agentSource draw s.db s'.db
  store : s' = ({ s with db := s'.db } : ToolStore).note (.applied w.decisionId draw.eventId)
  after : p' = ⟨p.guard, .appended w evaluation⟩

/-- A step that leaves the events and what they are projected to alone. -/
structure Untouched (db db' : Db) : Prop where
  events_eq : db'.events = db.events
  tables_eq : db'.tables = db.tables

lemma Untouched.refl (db : Db) : Untouched db db := ⟨rfl, rfl⟩

/-- Nothing but the append of its event carries an action over to the tables. -/
theorem ToolMove.append_cases (h : ToolMove O call x s p s' p') :
    Untouched s.db s'.db ∨
      ∃ w evaluation eventType event draw,
        AppendStep O s p s' p' w evaluation eventType event draw := by
  cases h with
  | append happend =>
    obtain ⟨member, hmember, -, happended⟩ := appendEvent_spec happend
    obtain rfl := Except.ok.inj hmember
    exact .inr ⟨_, _, _, _, _, rfl, happended, rfl, rfl⟩
  | raise _ _ | crash _ | unsupported _ _ | simulate _ _ | acquire _ _ | timeout _ | block _ _
  | review _ _ | proceed _ _ | getPending _ _ _ | readPending _ _ _ | recheck _ _ _ _
  | stale _ _ _ | getApproved _ _ _ _ | readApproved _ _ _ | acquireApproved _ | complete _
  | releaseWork _ | leave => exact .inl (.refl _)
  | persist _ hpersist | persistAlone _ hpersist =>
    obtain ⟨-, -, -, rfl⟩ := persistDecision_spec hpersist
    exact .inl ⟨rfl, rfl⟩
  | request _ hrequest | requestAlone _ hrequest =>
    obtain ⟨-, -, ⟨rfl, -⟩ | ⟨-, -, -, -, rfl⟩⟩ := requestApproval_spec hrequest
    · exact .inl ⟨rfl, rfl⟩
    · exact .inl ⟨rfl, rfl⟩
  | resolve _ hresolve | resolveAlone _ hresolve =>
    obtain ⟨_, -, -, -, rfl⟩ := resolveRequest_spec hresolve
    exact .inl ⟨rfl, rfl⟩
  | claim hclaim | claimAlone _ hclaim =>
    obtain ⟨-, -, -, rfl⟩ := claimDecision_spec hclaim
    exact .inl ⟨rfl, rfl⟩
  | observe hevaluate | evaluateAlone hevaluate =>
    obtain ⟨-, rfl⟩ := evaluateDecision_spec hevaluate
    exact .inl ⟨rfl, rfl⟩
  | logPolicy _ hlog | logReviewer _ hlog | audit hlog =>
    obtain ⟨_, -, rfl⟩ := writeLog_spec hlog
    exact .inl ⟨rfl, rfl⟩

lemma ToolMove.append_done {draw : Draw} (h : ToolMove O call (.append draw) s p s' p') {w : Work}
    {evaluation : Evaluation} (hp' : p'.stage = .appended w evaluation) :
    ∃ eventType event, AppendStep O s p s' p' w evaluation eventType event draw := by
  cases h with
  | append happend =>
    obtain ⟨member, hmember, -, happended⟩ := appendEvent_spec happend
    obtain rfl := Except.ok.inj hmember
    obtain ⟨rfl, rfl⟩ := Stage.appended.inj hp'
    exact ⟨_, _, rfl, happended, rfl, rfl⟩
  | raise _ _ =>
    unfold Process.conclude at hp'
    split_ifs at hp'
  | stale _ _ _ => exact absurd hp' (by simp)

end Step

end OpsCopilot
