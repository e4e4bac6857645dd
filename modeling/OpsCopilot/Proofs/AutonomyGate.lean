import OpsCopilot.Proofs.ColumnCritic
import OpsCopilot.Proofs.PriceBaseline

/-!
# The autonomy gate

What `execute_tool_call` has established when it reports an execution, and what it has left alone
when it reports none.
-/

namespace OpsCopilot

open Python Sql Fallible Interleaving

/-! ### What the gates let pass -/

section Gates

variable {O : Outside} {a : ActionType} {payload : Dict} {confidence : ℚ}
  {v : Option ℚ} {risk : RiskClassification}

lemma judgePriceRisk_low {current newPrice : ℚ} (hpos : 0 < current)
    (hlow : (judgePriceRisk current newPrice).requiresApproval = false) :
    0 ≤ newPrice ∧ |newPrice - current| ≤ smallPriceChangePct * current := by
  unfold judgePriceRisk at hlow
  dsimp only at hlow
  split_ifs at hlow with hnegative hlimit hsmall
  · exact absurd hlow (by simp [cannotClassify, highRisk])
  · exact absurd hlow (by simp [highRisk])
  · exact ⟨not_lt.mp hnegative, (div_le_iff₀ hpos).mp hsmall⟩
  · exact absurd hlow (by simp [mediumRisk])

/-- Only a small change of a positive price is low risk. -/
lemma classifyPriceChange_low (h : classifyPriceChange payload v = .ok risk)
    (hlow : risk.requiresApproval = false) :
    ∃ p newPrice, v = some p ∧ 0 < p ∧ toExactDecimal (payload.get "new_price") = some newPrice ∧
      0 ≤ newPrice ∧ |newPrice - p| ≤ smallPriceChangePct * p := by
  unfold classifyPriceChange classifyPrice at h
  split at h
  · obtain rfl := Except.ok.inj h
    exact absurd hlow (by simp [cannotClassify, highRisk])
  · rename_i current
    split_ifs at h with hpositive
    · obtain rfl := Except.ok.inj h
      exact absurd hlow (by simp [cannotClassify, highRisk])
    · rw [not_le] at hpositive
      split at h
      · obtain rfl := Except.ok.inj h
        exact absurd hlow (by simp [cannotClassify, highRisk])
      · rename_i value hvalue
        obtain ⟨valid, -, h⟩ := bind_ok.mp h
        split_ifs at h
        · obtain rfl := pure_ok.mp h
          cases hexact : toExactDecimal value with
          | none =>
            rw [hexact] at hlow
            exact absurd hlow (by simp [cannotClassify, highRisk])
          | some newPrice =>
            rw [hexact] at hlow
            refine ⟨current, newPrice, rfl, hpositive, ?_, judgePriceRisk_low hpositive hlow⟩
            rw [Dict.get, hvalue]
            exact hexact
        · obtain rfl := pure_ok.mp h
          exact absurd hlow (by simp [cannotClassify, highRisk])

lemma classifySupplierSwitch_high (h : classifySupplierSwitch payload v = .ok risk) :
    risk.requiresApproval = true := by
  have hjudge : ∀ q, (judgeSupplierRisk q).requiresApproval = true := by
    intro q
    unfold judgeSupplierRisk
    split_ifs <;> rfl
  unfold classifySupplierSwitch classifyPrice at h
  split at h
  · obtain rfl := Except.ok.inj h
    rfl
  · split_ifs at h
    · obtain rfl := Except.ok.inj h
      rfl
    · split at h
      · obtain rfl := Except.ok.inj h
        rfl
      · rename_i value _
        obtain ⟨valid, -, h⟩ := bind_ok.mp h
        split_ifs at h
        · obtain rfl := pure_ok.mp h
          cases toExactDecimal value with
          | none => rfl
          | some q => exact hjudge q
        · obtain rfl := pure_ok.mp h
          rfl

lemma classifyStaffingChange_high (h : classifyStaffingChange payload = .ok risk) :
    risk.requiresApproval = true := by
  unfold classifyStaffingChange at h
  split at h
  · obtain rfl := Except.ok.inj h
    rfl
  · obtain rfl := Except.ok.inj h
    rfl
  · obtain ⟨valid, -, h⟩ := bind_ok.mp h
    split_ifs at h
    · obtain rfl := pure_ok.mp h
      rfl
    · obtain rfl := pure_ok.mp h
      rfl
    · obtain rfl := pure_ok.mp h
      rfl

lemma classifyMenuSwap_high : (classifyMenuSwap O payload).requiresApproval = true := by
  unfold classifyMenuSwap
  split <;> rfl

lemma classifyRisk_low (h : classifyRisk O a payload confidence v = .ok risk)
    (hlow : risk.requiresApproval = false) :
    a = .priceChange ∧ minConfidenceForAutonomousAction ≤ confidence ∧
      classifyPriceChange payload v = .ok risk := by
  unfold classifyRisk at h
  split_ifs at h with hrange hconfidence
  · obtain rfl := Except.ok.inj h
    exact absurd hlow (by simp [highRisk])
  · obtain rfl := Except.ok.inj h
    exact absurd hlow (by simp [highRisk])
  · cases a with
    | priceChange => exact ⟨rfl, not_lt.mp hconfidence, h⟩
    | supplierSwitch => exact absurd (classifySupplierSwitch_high h) (by simp [hlow])
    | menuSwap =>
      obtain rfl := Except.ok.inj h
      exact absurd (hlow.symm.trans classifyMenuSwap_high) (by simp)
    | staffingChange => exact absurd (classifyStaffingChange_high h) (by simp [hlow])

/-- What gets past both gates without a reviewer. -/
theorem GatesPassed.priceChange (h : GatesPassed O a payload confidence v) :
    a = .priceChange ∧ minConfidenceForAutonomousAction ≤ confidence ∧
      ∃ p newPrice, v = some p ∧ 0 < p ∧ toExactDecimal (payload.get "new_price") = some newPrice ∧
        0 ≤ newPrice ∧ |newPrice - p| ≤ smallPriceChangePct * p := by
  obtain ⟨risk, hrisk, hlow⟩ := h.classifier
  obtain ⟨haction, hconfidence, hprice⟩ := classifyRisk_low hrisk hlow
  exact ⟨haction, hconfidence, classifyPriceChange_low hprice hlow⟩

end Gates

/-! ### Answers -/

/-- Whether `executed` is reported as true. -/
def reportsExecution (answer : Dict) : Bool :=
  match answer.find? "executed" with
  | some (.bool b) => b
  | _ => false

/-- The identifier under `decision_id`. -/
def reportedDecision (answer : Dict) : Option String :=
  match answer.find? "decision_id" with
  | some (.str id) => some id
  | _ => none

@[simp] lemma reportsExecution_refusal (reason : String) (rest : Dict) :
    reportsExecution (refusal reason rest) = false := by
  simp [reportsExecution, refusal, Dict.find?]

@[simp] lemma reportsExecution_executedAnswer (id : String) (e : Evaluation) :
    reportsExecution (executedAnswer id e) = true := by
  simp [reportsExecution, executedAnswer, Dict.find?]

@[simp] lemma reportsExecution_rowAnswer (id : String) :
    reportsExecution (rowAnswer id) = false := by
  simp [reportsExecution, rowAnswer, Dict.find?]

@[simp] lemma reportedDecision_executedAnswer (id : String) (e : Evaluation) :
    reportedDecision (executedAnswer id e) = some id := by
  simp [reportedDecision, executedAnswer, Dict.find?]

/-- The decision that has passed the gates, as long as the call may still report its execution. -/
def Stage.authorized? : Stage → Option String
  | .claiming w | .observing w _ | .changing w _ | .appending w _ _ _ | .appended w _ =>
    some w.decisionId
  | .leaving (.ok answer) | .finished (.ok answer) =>
    if reportsExecution answer then reportedDecision answer else none
  | _ => none

/-- The stages of a call after its event, those of a call that has failed among them. -/
def Stage.applied : Stage → Bool
  | .appended _ _ | .leaving (.error _) | .finished (.error _) | .crashed => true
  | .leaving (.ok answer) | .finished (.ok answer) => reportsExecution answer
  | _ => false

/-- The decision that a call has persisted, before the gates have ruled on it. -/
def Stage.decision? : Stage → Option Decision
  | .proposed decision | .entered decision | .requesting decision _ => some decision
  | _ => none

section Answers

variable {p : Process} {answer : Dict}

@[simp] lemma Process.conclude_decision? (result : Except PyException Dict) :
    (p.conclude result).stage.decision? = none := by
  unfold Process.conclude
  split_ifs <;> rfl

@[simp] lemma Process.conclude_error_authorized? (e : PyException) :
    (p.conclude (.error e)).stage.authorized? = none := by
  unfold Process.conclude
  split_ifs <;> rfl

@[simp] lemma Process.conclude_ok_authorized? :
    (p.conclude (.ok answer)).stage.authorized? =
      if reportsExecution answer then reportedDecision answer else none := by
  unfold Process.conclude
  split_ifs <;> simp_all [Stage.authorized?]

@[simp] lemma Process.conclude_error_applied (e : PyException) :
    (p.conclude (.error e)).stage.applied = true := by
  unfold Process.conclude
  split_ifs <;> rfl

@[simp] lemma Process.conclude_ok_applied :
    (p.conclude (.ok answer)).stage.applied = reportsExecution answer := by
  unfold Process.conclude
  split_ifs <;> rfl

lemma gateDecision_decision? {a : ActionType} {payload : Dict} {decision decision' : Decision}
    (h : (gateDecision a payload decision).decision? = some decision') : decision = decision' := by
  unfold gateDecision at h
  split_ifs at h
  · exact Option.some.inj h
  · exact absurd h (by simp [Stage.decision?])

/-- The answer of a call. -/
def Stage.answer? : Stage → Option Dict
  | .leaving (.ok answer) | .finished (.ok answer) => some answer
  | _ => none

@[simp] lemma Process.conclude_error_answer? (e : PyException) :
    (p.conclude (.error e)).stage.answer? = none := by
  unfold Process.conclude
  split_ifs <;> rfl

@[simp] lemma Process.conclude_ok_answer? : (p.conclude (.ok answer)).stage.answer? = some answer := by
  unfold Process.conclude
  split_ifs <;> rfl

end Answers

/-! ### Steps -/

section Step

variable {O : Outside} {call : ToolCall} {x : ToolAction} {s s' : ToolStore} {p p' : Process}

/-- What is answered before the event has been appended does not report an execution. -/
lemma ToolMove.auditing_cases (h : ToolMove O call x s p s' p') {entry : LogEntry} {answer : Dict}
    (hp' : p'.stage = .auditing entry answer) : reportsExecution answer = false := by
  cases h with
  | unsupported _ _ | timeout _ | block _ _ | request _ _ =>
    obtain ⟨-, rfl⟩ := Stage.auditing.inj hp'
    exact reportsExecution_refusal _ _
  | persist _ _ =>
    unfold gateDecision at hp'
    split_ifs at hp'
    obtain ⟨-, rfl⟩ := Stage.auditing.inj hp'
    exact reportsExecution_refusal _ _
  | raise _ _ | logPolicy _ _ | audit _ =>
    unfold Process.conclude at hp'
    split_ifs at hp'
  | getPending _ _ _ | resolve _ _ => split_ifs at hp'
  | crash _ | simulate _ _ | persistAlone _ _ | acquire _ _ | review _ _ | proceed _ _
  | requestAlone _ _ | resolveAlone _ _ | readPending _ _ _ | recheck _ _ _ _ | stale _ _ _
  | getApproved _ _ _ _ | readApproved _ _ _ | acquireApproved _ | claimAlone _ _
  | evaluateAlone _ | claim _ | observe _ | complete _ | append _ | logReviewer _ _
  | releaseWork _ | leave => exact absurd hp' (by simp)

/-- Only an executed action is reported as one. -/
lemma ToolMove.answer_cases (h : ToolMove O call x s p s' p') {answer : Dict}
    (hp' : p'.stage.answer? = some answer) (hreports : reportsExecution answer = true) :
    p.stage.answer? = some answer ∨ (∃ entry, p.stage = .auditing entry answer) ∨
      ∃ id, reportedDecision answer = some id := by
  cases h with
  | @leave _ _ result =>
    cases result with
    | ok answer => exact .inl hp'
    | error e => exact .inl hp'
  | audit _ =>
    simp only [Process.conclude_ok_answer?, Option.some.injEq] at hp'
    exact .inr (.inl ⟨_, by rw [hp']⟩)
  | logPolicy _ _ =>
    simp only [Process.conclude_ok_answer?, Option.some.injEq] at hp'
    exact .inr (.inr ⟨_, hp' ▸ reportedDecision_executedAnswer _ _⟩)
  | logReviewer _ _ =>
    obtain rfl := Option.some.inj hp'
    exact .inr (.inr ⟨_, reportedDecision_executedAnswer _ _⟩)
  | raise _ _ => exact absurd hp' (by simp)
  | persistAlone _ _ | requestAlone _ _ | resolveAlone _ _ | evaluateAlone _ =>
    obtain rfl := Option.some.inj hp'
    exact absurd hreports (by simp)
  | stale reason _ _ =>
    obtain rfl := Option.some.inj hp'
    exact absurd hreports (by simp [staleAnswer])
  | resolve _ _ =>
    split_ifs at hp'
    · exact absurd hp' (by simp [Stage.answer?])
    · obtain rfl := Option.some.inj hp'
      exact absurd hreports (by simp)
  | persist _ _ =>
    unfold gateDecision at hp'
    split_ifs at hp' <;> exact absurd hp' (by simp [Stage.answer?])
  | getPending _ _ _ =>
    split_ifs at hp' <;> exact absurd hp' (by simp [Stage.answer?])
  | crash _ | unsupported _ _ | simulate _ _ | acquire _ _ | timeout _ | block _ _ | review _ _
  | proceed _ _ | request _ _ | readPending _ _ _ | recheck _ _ _ _ | getApproved _ _ _ _
  | readApproved _ _ _ | acquireApproved _ | claimAlone _ _ | claim _ | observe _ | complete _
  | append _ | releaseWork _ => exact absurd hp' (by simp [Stage.answer?])

/-- A decision is authorized by the gates under the lock, or by a reviewer. -/
lemma ToolMove.authorized_cases (h : ToolMove O call x s p s' p') {t : String} {a : ActionType}
    {payload : Dict} (hcall : call = .execute t a payload)
    (haudit : ∀ entry answer, p.stage = .auditing entry answer → reportsExecution answer = false)
    {id : String} (hp' : p'.stage.authorized? = some id) :
    p.stage.authorized? = some id ∨ (∃ w, p.stage = .ready w) ∨
    ∃ decision v, x = .judge ∧ p.stage = .entered decision ∧ decision.id = id ∧
      currentValueForCritic s.db.tables t a payload = .ok v ∧
      GatesPassed O a payload decision.confidence.toRat v := by
  cases h with
  | proceed hcall' hjudge =>
    obtain ⟨rfl, rfl, rfl⟩ := ToolCall.execute.inj (hcall.symm.trans hcall')
    obtain rfl := Option.some.inj hp'
    obtain ⟨hv, hgates⟩ := judge_proceed hjudge
    exact .inr (.inr ⟨_, _, rfl, rfl, rfl, hv, hgates⟩)
  | acquireApproved _ => exact .inr (.inl ⟨_, rfl⟩)
  | claim _ | observe _ | complete _ | append _ | releaseWork _ => exact .inl hp'
  | @leave _ _ result =>
    cases result with
    | ok answer => exact .inl hp'
    | error e => exact .inl hp'
  | logPolicy _ _ =>
    simp only [Process.conclude_ok_authorized?, reportsExecution_executedAnswer,
      reportedDecision_executedAnswer, if_true] at hp'
    exact .inl hp'
  | logReviewer _ _ =>
    simp only [Stage.authorized?, reportsExecution_executedAnswer,
      reportedDecision_executedAnswer, if_true] at hp'
    exact .inl hp'
  | audit _ =>
    simp [haudit _ _ rfl] at hp'
  | raise _ _ => simp at hp'
  | persist _ _ =>
    unfold gateDecision at hp'
    split_ifs at hp' <;> simp [Stage.authorized?] at hp'
  | crash _ | unsupported _ _ | simulate _ _ | acquire _ _ | timeout _ | block _ _ | review _ _
  | request _ _ | evaluateAlone _ =>
    simp [Stage.authorized?] at hp'
  | persistAlone hcall' _ | requestAlone hcall' _ | resolveAlone hcall' _ | getPending hcall' _ _
  | readPending hcall' _ _ | recheck hcall' _ _ _ | stale _ hcall' _ | resolve hcall' _
  | claimAlone hcall' _ => exact absurd (hcall.symm.trans hcall') (by simp)
  | getApproved hcall' _ _ _ | readApproved hcall' _ _ =>
    exact absurd hcall' (by simp [hcall, ToolCall.ExecutesApproved])

lemma ToolMove.applied_lasts (h : ToolMove O call x s p s' p') {t : String} {a : ActionType}
    {payload : Dict} (hcall : call = .execute t a payload) (hp : p.stage.applied = true) :
    p'.stage.applied = true := by
  cases h with
  | raise _ _ => simp
  | crash _ => rfl
  | logPolicy _ _ => simp
  | @logReviewer _ work evaluation _ _ _ _ _ =>
    exact reportsExecution_executedAnswer work.decisionId evaluation
  | releaseWork _ => rfl
  | @leave _ _ result =>
    cases result with
    | ok answer => exact hp
    | error e => rfl
  | stale _ hcall' _ => exact absurd (hcall.symm.trans hcall') (by simp)
  | getApproved hcall' _ _ _ => exact absurd hcall' (by simp [hcall, ToolCall.ExecutesApproved])
  | unsupported _ _ | simulate _ _ | persist _ _ | persistAlone _ _ | acquire _ _ | timeout _
  | block _ _ | review _ _ | proceed _ _ | request _ _ | requestAlone _ _ | resolveAlone _ _
  | getPending _ _ _ | readPending _ _ _ | recheck _ _ _ _ | resolve _ _ | readApproved _ _ _
  | acquireApproved _ | claimAlone _ _ | evaluateAlone _ | claim _ | observe _ | complete _
  | append _ | audit _ => exact absurd hp (by simp [Stage.applied, Process.idle])

lemma ToolMove.decision_cases (h : ToolMove O call x s p s' p') {decision : Decision}
    (hp' : p'.stage.decision? = some decision) :
    p.stage.decision? = some decision ∨ ∃ t a payload predicted id,
      call = .execute t a payload ∧
      persistDecision t a payload predicted id s.db = .ok (s'.db, decision) := by
  cases h with
  | persist hcall hpersist =>
    obtain rfl := gateDecision_decision? hp'
    exact .inr ⟨_, _, _, _, _, hcall, hpersist⟩
  | acquire _ _ | review _ _ => exact .inl hp'
  | raise _ _ | logPolicy _ _ | audit _ => exact absurd hp' (by simp)
  | getPending _ _ _ | resolve _ _ =>
    split_ifs at hp' <;> exact absurd hp' (by simp [Stage.decision?])
  | crash _ | unsupported _ _ | simulate _ _ | persistAlone _ _ | timeout _ | block _ _
  | proceed _ _ | request _ _ | requestAlone _ _ | resolveAlone _ _ | readPending _ _ _
  | recheck _ _ _ _ | stale _ _ _ | getApproved _ _ _ _ | readApproved _ _ _ | acquireApproved _
  | claimAlone _ _ | evaluateAlone _ | claim _ | observe _ | complete _ | append _
  | logReviewer _ _ | releaseWork _ | leave => exact absurd hp' (by simp [Stage.decision?])

end Step

/-! ### Runs -/

section Runs

variable {ι : Type*} [DecidableEq ι] {O : Outside} {call : ι → ToolCall}
  {c d : Config ι ToolStore Process} {i : ι} {x : ToolAction}

/-- A decision that a call works with is the one it has persisted. -/
structure Persisted (call : ToolCall) (db : Db) (decision : Decision) : Prop where
  created : ∃ t a payload predicted id, call = .execute t a payload ∧
    Created t id a payload predicted decision
  row : ∃ row ∈ db.decisions, decision.Same row

/-- What holds of decisions and answers in every state of a run. -/
structure AnswersKept (call : ι → ToolCall) (c : Config ι ToolStore Process) : Prop where
  ids : c.shared.db.DecisionIds
  audit : ∀ i entry answer, (c.proc i).stage = .auditing entry answer →
    reportsExecution answer = false
  answer : ∀ i answer, (c.proc i).stage.answer? = some answer → reportsExecution answer = true →
    ∃ id, reportedDecision answer = some id
  persisted : ∀ i decision, (c.proc i).stage.decision? = some decision →
    Persisted (call i) c.shared.db decision

lemma same_of_mem (hids : c.shared.db.DecisionIds) (h : (toolCalls O call).fire c i x = some d)
    {decision : Decision} (hrow : ∃ row ∈ c.shared.db.decisions, decision.Same row) :
    ∃ row ∈ d.shared.db.decisions, decision.Same row := by
  obtain ⟨row, hrow, hsame⟩ := hrow
  obtain ⟨row', hrow', hmoves⟩ := (hids.fire h).1.mem hrow
  exact ⟨row', hrow', hsame.trans hmoves.same⟩

lemma AnswersKept.fire (hc : AnswersKept call c) (h : (toolCalls O call).fire c i x = some d) :
    AnswersKept call d := by
  have hmove := toolCalls_move h
  have hother : ∀ j, j ≠ i → d.proc j = c.proc j := fun j => (toolCalls O call).proc_of_fire h
  refine ⟨(hc.ids.fire h).2, ?_, ?_, ?_⟩
  · intro j entry answer hj
    by_cases hji : j = i
    · subst hji
      exact hmove.auditing_cases hj
    · rw [hother j hji] at hj
      exact hc.audit j entry answer hj
  · intro j answer hj hreports
    by_cases hji : j = i
    · subst hji
      rcases hmove.answer_cases hj hreports with hj | ⟨entry, hj⟩ | hid
      · exact hc.answer j answer hj hreports
      · exact absurd hreports (by simp [hc.audit j entry answer hj])
      · exact hid
    · rw [hother j hji] at hj
      exact hc.answer j answer hj hreports
  · intro j decision hj
    by_cases hji : j = i
    · subst hji
      rcases hmove.decision_cases hj with hj | ⟨t, a, payload, predicted, id, hcall, hpersist⟩
      · have hpersisted := hc.persisted j decision hj
        exact ⟨hpersisted.created, same_of_mem hc.ids h hpersisted.row⟩
      · obtain ⟨hcreated, -, -, hdb⟩ := persistDecision_spec hpersist
        refine ⟨⟨t, a, payload, predicted, id, hcall, hcreated⟩, decision, ?_, .refl decision⟩
        rw [hdb]
        exact List.mem_append_right _ List.mem_cons_self
    · rw [hother j hji] at hj
      have hpersisted := hc.persisted j decision hj
      exact ⟨hpersisted.created, same_of_mem hc.ids h hpersisted.row⟩

lemma answersKept_run {db : Db} {schedule : List (ι × ToolAction)} (hids : db.DecisionIds)
    (h : (toolCalls O call).run db.start schedule = some c) : AnswersKept call c := by
  have hstep : ∀ c i x d, AnswersKept call c → (toolCalls O call).fire c i x = some d →
      AnswersKept call d := fun _ _ _ _ hc hd => hc.fire hd
  refine (toolCalls O call).run_invariant' hstep ⟨hids, ?_, ?_, ?_⟩ h
  · intro i entry answer hi
    exact absurd hi (by simp [Db.start, Process.idle])
  · intro i answer hi
    exact absurd hi (by simp [Db.start, Process.idle, Stage.answer?])
  · intro i decision hi
    exact absurd hi (by simp [Db.start, Process.idle, Stage.decision?])

/-- What the gates have found at the stored price. -/
structure GatedAt (O : Outside) (T : Tables) (t : String) (payload : Dict) (row : Decision) :
    Prop where
  confident : 4 / 5 ≤ row.confidence.toRat
  critic : ∃ id column verdict, payload.get "menu_item_id" = .str id ∧
    T.price? t id = some column.toRat ∧
    critiqueColumn O .priceChange payload (some column) = .ok verdict ∧ verdict.approved = true
  small : ∃ id price newPrice verdict, payload.get "menu_item_id" = .str id ∧
    T.price? t id = some price ∧ critique O .priceChange payload (some price) = .ok verdict ∧
    verdict.approved = true ∧ toExactDecimal (payload.get "new_price") = some newPrice ∧
    |newPrice - price| ≤ 1 / 10 * price

lemma GatesPassed.gatedAt {T : Tables} {t : String} {a : ActionType} {payload : Dict} {v : Option ℚ}
    {decision row : Decision} (hv : currentValueForCritic T t a payload = .ok v)
    (h : GatesPassed O a payload decision.confidence.toRat v) (hsame : decision.Same row) :
    a = .priceChange ∧ GatedAt O T t payload row := by
  obtain ⟨rfl, hconfidence, price, newPrice, rfl, -, hnew, -, hsmall⟩ := h.priceChange
  obtain ⟨key, hkey, hprice⟩ := currentValueForCritic_price hv
  obtain ⟨id, rfl, hid⟩ := Option.bind_eq_some_iff.mp hprice.symm
  obtain ⟨column, verdict, hcolumn, hverdict, happroved⟩ := h.critic
  obtain ⟨x, q, hcompared⟩ := priceCompared_of_approved hverdict happroved
  obtain rfl := hcompared.column_eq
  obtain rfl := Option.some.inj hcolumn
  obtain rfl := Option.some.inj (hnew.symm.trans hcompared.new_price)
  rw [Column.toRat_number] at hid hsmall
  have hpos := pos_of_binary64_pos hcompared.positive
  obtain ⟨verdict', hexact, happroves⟩ := hcompared.critique_exact O
    (hsmall.trans (mul_le_mul_of_nonneg_right (by norm_num [smallPriceChangePct, maxPriceChangePct]) hpos.le))
  refine ⟨rfl, ?_, ⟨id, .number x, verdict, filterText_some hkey, hid, hverdict, happroved⟩,
    id, x.toRat, newPrice, verdict', filterText_some hkey, hid, hexact, happroves, hnew, hsmall⟩
  rw [hsame.confidence_eq]
  exact hconfidence

lemma same_run {later : List (ι × ToolAction)} (hids : c.shared.db.DecisionIds)
    (h : (toolCalls O call).run c later = some d) {decision : Decision}
    (hrow : ∃ row ∈ c.shared.db.decisions, decision.Same row) :
    ∃ row ∈ d.shared.db.decisions, decision.Same row := by
  have hstep : ∀ c i x d,
      (c.shared.db.DecisionIds ∧ ∃ row ∈ c.shared.db.decisions, decision.Same row) →
      (toolCalls O call).fire c i x = some d →
      d.shared.db.DecisionIds ∧ ∃ row ∈ d.shared.db.decisions, decision.Same row :=
    fun _ _ _ _ hc hd => ⟨(hc.1.fire hd).2, same_of_mem hc.1 hd hc.2⟩
  exact ((toolCalls O call).run_invariant' hstep ⟨hids, hrow⟩ h).2

/-- A decision that a call of `execute_tool_call` carries out has passed the gates in an earlier
step of the call. -/
lemma authorized_judged {db : Db} {schedule : List (ι × ToolAction)} {t id : String}
    {a : ActionType} {payload : Dict} (hids : db.DecisionIds)
    (hcall : call i = .execute t a payload)
    (hc : (toolCalls O call).run db.start schedule = some c)
    (hauthorized : (c.proc i).stage.authorized? = some id) :
    a = .priceChange ∧ ∃ row ∈ c.shared.db.decisions, row.id = id ∧ row.tenantId = t ∧
      ∃ before after e, schedule = before ++ (i, .judge) :: after ∧
        (toolCalls O call).run db.start before = some e ∧
        (e.proc i).guard = some (serializationKey O t a payload) ∧
        GatedAt O e.shared.db.tables t payload row := by
  obtain ⟨before, j, x, after, e, f, hschedule, hbefore, hfire, hafter, he, hf⟩ :=
    (toolCalls O call).exists_step (G := fun c => (c.proc i).stage.authorized? = some id) hc
      (by simp [Db.start, Process.idle, Stage.authorized?]) hauthorized
  have hlocks := (baselinesKept_run hbefore).locks
  have hanswers := answersKept_run hids hbefore
  by_cases hji : j = i
  · subst hji
    rcases (toolCalls_move hfire).authorized_cases hcall (hanswers.audit j) hf with hearlier |
        ⟨w, hready⟩ | ⟨decision, v, rfl, hentered, rfl, hv, hgates⟩
    · exact absurd hearlier he
    · -- Only the calls for an approved request get ready without the gates.
      obtain ⟨r, hr⟩ := hlocks.ready j w hready
      rcases hlocks.authority j w (by rw [hready]; rfl) with ⟨⟨v, reason, hpolicy⟩, -⟩ | ⟨r', -, hown⟩
      · exact absurd (hr.symm.trans hpolicy) (by simp)
      · exact absurd hown (by simp [hcall, ToolCall.ExecutesApproved])
    · have hpersisted := hanswers.persisted j decision (by rw [hentered]; rfl)
      obtain ⟨t', a', payload', predicted, id', hcall', hcreated⟩ := hpersisted.created
      obtain ⟨rfl, rfl, rfl⟩ := ToolCall.execute.inj (hcall.symm.trans hcall')
      have hrest : (toolCalls O call).run e ((j, .judge) :: after) = some c :=
        (toolCalls O call).run_cons_eq_some.mpr ⟨f, hfire, hafter⟩
      obtain ⟨row, hrow, hsame⟩ := same_run hanswers.ids hrest hpersisted.row
      obtain ⟨haction, hgated⟩ := hgates.gatedAt hv hsame
      obtain ⟨t', a', payload', hcall', hguard⟩ := hlocks.entered j decision hentered
      obtain ⟨rfl, rfl, rfl⟩ := ToolCall.execute.inj (hcall.symm.trans hcall')
      exact ⟨haction, row, hrow, hsame.id_eq, hsame.tenantId_eq.trans hcreated.tenantId_eq,
        before, after, e, hschedule, hbefore, hguard, hgated⟩
  · simp only [(toolCalls O call).proc_of_fire hfire (Ne.symm hji)] at hf
    exact absurd hf he

/-- As long as a call of `execute_tool_call` is not past its event, it has changed nothing. -/
lemma unapplied_untouched {db : Db} {schedule : List (ι × ToolAction)} {t : String}
    {a : ActionType} {payload : Dict} (hcall : call i = .execute t a payload)
    (hc : (toolCalls O call).run db.start schedule = some c)
    (happlied : (c.proc i).stage.applied = false) :
    (toolCalls O call).Along (fun c j x => j = i → ∀ d, (toolCalls O call).fire c j x = some d →
      Untouched c.shared.db d.shared.db) db.start schedule := by
  have hmark : ∀ c j x d, (j = i ∧ ∃ d, (toolCalls O call).fire c j x = some d ∧
      ¬Untouched c.shared.db d.shared.db) → (toolCalls O call).fire c j x = some d →
      (d.proc i).stage.applied = true := by
    rintro c j x d ⟨rfl, d', hd', htouched⟩ hd
    obtain rfl := Option.some.inj (hd'.symm.trans hd)
    rcases (toolCalls_move hd).append_cases with huntouched | ⟨_, _, _, _, _, happend⟩
    · exact absurd huntouched htouched
    · rw [happend.after]
      rfl
  have hlasts : ∀ c j x d, (c.proc i).stage.applied = true →
      (toolCalls O call).fire c j x = some d → (d.proc i).stage.applied = true := by
    intro c j x d happlied hd
    by_cases hji : i = j
    · subst hji
      exact (toolCalls_move hd).applied_lasts hcall happlied
    · rw [(toolCalls O call).proc_of_fire hd hji]
      exact happlied
  refine (toolCalls O call).along_mono ?_
    ((toolCalls O call).along_of_unmarked hmark hlasts hc (by simp [happlied]))
  intro c j x hgood hji d hd
  by_contra htouched
  exact hgood ⟨hji, d, hd, htouched⟩

/-- What is reported as executed has passed both gates under the lock, at the price stored then;
and a call that reports no execution has changed nothing. -/
theorem autonomy_gate {db : Db} {schedule : List (ι × ToolAction)} {t : String} {a : ActionType}
    {payload answer : Dict} (hids : db.DecisionIds) (hcall : call i = .execute t a payload)
    (hc : (toolCalls O call).run db.start schedule = some c)
    (hdone : (c.proc i).stage = .finished (.ok answer)) :
    (reportsExecution answer = true → a = .priceChange ∧
      ∃ row ∈ c.shared.db.decisions, reportedDecision answer = some row.id ∧ row.tenantId = t ∧
        ∃ before after e, schedule = before ++ (i, .judge) :: after ∧
          (toolCalls O call).run db.start before = some e ∧
          (e.proc i).guard = some (serializationKey O t a payload) ∧
          GatedAt O e.shared.db.tables t payload row) ∧
    (reportsExecution answer = false →
      (toolCalls O call).Along (fun c j x => j = i → ∀ d, (toolCalls O call).fire c j x = some d →
        Untouched c.shared.db d.shared.db) db.start schedule) := by
  constructor
  · intro hreports
    obtain ⟨id, hid⟩ := (answersKept_run hids hc).answer i answer (by rw [hdone]; rfl) hreports
    have hauthorized : (c.proc i).stage.authorized? = some id := by
      rw [hdone]
      simp [Stage.authorized?, hreports, hid]
    obtain ⟨haction, row, hrow, rfl, hgated⟩ := authorized_judged hids hcall hc hauthorized
    exact ⟨haction, row, hrow, hid, hgated⟩
  · intro hreports
    exact unapplied_untouched hcall hc (by rw [hdone]; exact hreports)

end Runs

/-! ### A concrete run -/

def wholeRaise : List (Bool × ToolAction) :=
  raiseSchedule ++ [(true, .append ⟨8, "e", "r"⟩), (true, .log 9), (true, .release)]

def Stage.hasExecuted : Stage → Bool
  | .finished (.ok answer) => reportsExecution answer
  | _ => false

lemma Stage.hasExecuted_eq {stage : Stage} (h : stage.hasExecuted = true) :
    ∃ answer, stage = .finished (.ok answer) ∧ reportsExecution answer = true := by
  unfold Stage.hasExecuted at h
  split at h
  · rename_i answer
    exact ⟨answer, rfl, h⟩
  · exact absurd h (by simp)

theorem soup_autonomy_gate : ∃ c answer,
    (toolCalls (.prescribed []) soupRaise).run bistro.start wholeRaise = some c ∧
    (c.proc true).stage = .finished (.ok answer) ∧
    ∃ row ∈ c.shared.db.decisions, reportedDecision answer = some row.id ∧ row.tenantId = "t" ∧
      ∃ before after e, wholeRaise = before ++ (true, .judge) :: after ∧
        (toolCalls (.prescribed []) soupRaise).run bistro.start before = some e ∧
        (e.proc true).guard =
          some (serializationKey (.prescribed []) "t" .priceChange (soupPrice 1050)) ∧
        GatedAt (.prescribed []) e.shared.db.tables "t" (soupPrice 1050) row := by
  have hrun : ((toolCalls (.prescribed []) soupRaise).run bistro.start wholeRaise).any
      (fun c => (c.proc true).stage.hasExecuted) = true := by decide +kernel
  obtain ⟨c, hc, hexecuted⟩ := (Option.any_eq_true _ _).mp hrun
  obtain ⟨answer, hdone, hreports⟩ := Stage.hasExecuted_eq hexecuted
  have hids : bistro.DecisionIds := List.nodup_nil
  have hcall : soupRaise true = .execute "t" .priceChange (soupPrice 1050) := rfl
  exact ⟨c, answer, hc, hdone, ((autonomy_gate hids hcall hc hdone).1 hreports).2⟩

end OpsCopilot
