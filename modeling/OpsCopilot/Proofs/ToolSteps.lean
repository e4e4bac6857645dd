import OpsCopilot.Model.ToolFramework

/-!
# What one step of a call can do

The inversion of `toolStep`, and from it what a step does to each part of the store.
-/

namespace OpsCopilot

open Python Sql Interleaving

/-! ### Transactions -/

lemma inspect_eq {α : Type} {s s' : ToolStore} {p p' : Process} {r : Except PyException α}
    {next : α → ToolStore × Process} (h : inspect s p r next = (s', p')) :
    (∃ a, r = .ok a ∧ next a = (s', p')) ∨ ∃ e, s' = s ∧ p' = p.conclude (.error e) := by
  cases r with
  | ok a => exact .inl ⟨a, rfl, h⟩
  | error e =>
    obtain ⟨rfl, rfl⟩ := Prod.mk.inj h
    exact .inr ⟨e, rfl, rfl⟩

lemma transact_eq {α : Type} {s s' : ToolStore} {p p' : Process} {r : Except PyException (Db × α)}
    {next : α → Process} (h : transact s p r next = (s', p')) :
    (∃ db a, r = .ok (db, a) ∧ s' = { s with db := db } ∧ p' = next a) ∨
      ∃ e, s' = s ∧ p' = p.conclude (.error e) := by
  cases r with
  | ok r =>
    obtain ⟨rfl, rfl⟩ := Prod.mk.inj h
    exact .inl ⟨r.1, r.2, rfl, rfl, rfl⟩
  | error e =>
    obtain ⟨rfl, rfl⟩ := Prod.mk.inj h
    exact .inr ⟨e, rfl, rfl⟩

/-! ### Moves -/

/-- The calls that reach `execute_approved_tool_call`, and with which request. -/
def ToolCall.ExecutesApproved (call : ToolCall) (tenantId requestId : String) : Prop :=
  call = .executeApproved tenantId requestId ∨
    ∃ review, call = .resolveApproval tenantId requestId review

/-- What one step of a call can do. A move to an error covers every exception of the call. -/
inductive ToolMove (O : Outside) (call : ToolCall) :
    ToolAction → ToolStore → Process → ToolStore → Process → Prop
  | raise {x s p} (e : PyException) : p.stage.ended = false →
      ToolMove O call x s p s (p.conclude (.error e))
  | crash {s p} : p.stage.ended = false →
      ToolMove O call .crash s p { s with locks := p.guard.elim s.locks s.locks.erase }
        ⟨none, .crashed⟩
  | unsupported {s t payload} : call = .execute t .menuSwap payload →
      payload.find? "action" = some (.str "add") →
      ToolMove O call .simulate s .idle s ⟨none, .auditing
        (refusedEntry t none .menuSwap payload false none (some unsupportedReason))
        (refusal "unsupported_action" [(.str "critic_reason", .str unsupportedReason)])⟩
  | simulate {s t a payload predicted} :
      call = .execute t a payload ∨ call = .propose t a payload →
      simulate s.db.tables t a payload = .ok predicted →
      ToolMove O call .simulate s .idle s ⟨none, .simulated predicted⟩
  | persist {s t a payload predicted id db decision} : call = .execute t a payload →
      persistDecision t a payload predicted id s.db = .ok (db, decision) →
      ToolMove O call (.persist id) s ⟨none, .simulated predicted⟩ { s with db := db }
        ⟨none, gateDecision a payload decision⟩
  | persistAlone {s t a payload predicted id db decision} : call = .propose t a payload →
      persistDecision t a payload predicted id s.db = .ok (db, decision) →
      ToolMove O call (.persist id) s ⟨none, .simulated predicted⟩ { s with db := db }
        ⟨none, .finished (.ok (rowAnswer decision.id))⟩
  | acquire {s t a payload decision} : call = .execute t a payload →
      serializationKey O t a payload ∉ s.locks →
      ToolMove O call .acquire s ⟨none, .proposed decision⟩
        { s with locks := serializationKey O t a payload :: s.locks }
        ⟨some (serializationKey O t a payload), .entered decision⟩
  | timeout {s t a payload decision} : call = .execute t a payload →
      ToolMove O call .timeout s ⟨none, .proposed decision⟩ s ⟨none, .auditing
        (refusedEntry t (some decision.id) a payload true none (some busyReason))
        (refusal "concurrent_change_in_progress" [(.str "decision_id", .str decision.id)])⟩
  | block {s t a payload guard decision reason} : call = .execute t a payload →
      judge O s.db.tables t a payload decision.confidence.toRat = .ok (.block reason) →
      ToolMove O call .judge s ⟨guard, .entered decision⟩ s ⟨guard, .auditing
        (refusedEntry t (some decision.id) a payload true (some false) (some reason))
        (refusal "blocked_by_critic" [(.str "decision_id", .str decision.id),
          (.str "critic_reason", .str reason)])⟩
  | review {s t a payload guard decision risk} : call = .execute t a payload →
      judge O s.db.tables t a payload decision.confidence.toRat = .ok (.review risk) →
      ToolMove O call .judge s ⟨guard, .entered decision⟩ s ⟨guard, .requesting decision risk⟩
  | proceed {s t a payload guard decision currentValue reason} : call = .execute t a payload →
      judge O s.db.tables t a payload decision.confidence.toRat =
        .ok (.proceed currentValue reason) →
      ToolMove O call .judge s ⟨guard, .entered decision⟩
        (s.note (.judged decision.id currentValue))
        ⟨guard, .claiming ⟨t, decision.id, a, payload, .policy currentValue reason⟩⟩
  | request {s t a payload guard decision risk id db row} : call = .execute t a payload →
      requestApproval t decision.id risk.reason id s.db = .ok (db, row) →
      ToolMove O call (.request id) s ⟨guard, .requesting decision risk⟩ { s with db := db }
        ⟨guard, .auditing
          (refusedEntry t (some decision.id) a payload true (some true) (some risk.reason))
          (refusal "pending_human_approval" [(.str "decision_id", .str decision.id),
            (.str "approval_request_id", .str row.id),
            (.str "risk_level", .str risk.riskLevel.value)])⟩
  | requestAlone {s t d reason id db row} : call = .request t d reason →
      requestApproval t d reason id s.db = .ok (db, row) →
      ToolMove O call (.request id) s .idle { s with db := db }
        ⟨none, .finished (.ok (rowAnswer row.id))⟩
  | resolveAlone {s t r v db row} : call = .resolve t r v →
      resolveRequest t r v s.db = .ok (db, row) →
      ToolMove O call .resolve s .idle { s with db := db }
        ⟨none, .finished (.ok (rowAnswer row.id))⟩
  | getPending {s t r v row} : call = .resolveApproval t r v →
      getApproval t r s.db = .ok row → row.status = .pending →
      ToolMove O call .get s .idle s
        ⟨none, if v.approved then .pendingSeen row.decisionId else .resolving⟩
  | readPending {s t r v d decision payload} : call = .resolveApproval t r v →
      s.db.decision? t d = some decision → decision.actionPayload = .dict payload →
      ToolMove O call .readDecision s ⟨none, .pendingSeen d⟩ s
        ⟨none, .rechecking d decision.actionType payload⟩
  | recheck {s t r v d a payload column verdict} : call = .resolveApproval t r v →
      currentColumnForCritic s.db.tables t a payload = .ok column →
      critiqueColumn O a payload column = .ok verdict → verdict.approved = true →
      ToolMove O call .recheck s ⟨none, .rechecking d a payload⟩
        (s.note (.rechecked d (column.map Column.toRat))) ⟨none, .resolving⟩
  | stale {x s t r v stage} (reason : String) : call = .resolveApproval t r v →
      stage.ended = false →
      ToolMove O call x s ⟨none, stage⟩ s ⟨none, .finished (.ok (staleAnswer r reason))⟩
  | resolve {s t r v db row} : call = .resolveApproval t r v →
      resolveRequest t r v s.db = .ok (db, row) →
      ToolMove O call .resolve s ⟨none, .resolving⟩ { s with db := db }
        ⟨none, if v.approved then .approving
          else .finished (.ok (refusal "rejected" [(.str "approval_request_id", .str r)]))⟩
  | getApproved {s t r stage row} : call.ExecutesApproved t r →
      stage = .idle ∨ stage = .approving → getApproval t r s.db = .ok row →
      row.status = .approved →
      ToolMove O call .get s ⟨none, stage⟩ s ⟨none, .approvalSeen row.decisionId⟩
  | readApproved {s t r d decision payload} : call.ExecutesApproved t r →
      s.db.decision? t d = some decision → decision.actionPayload = .dict payload →
      ToolMove O call .readDecision s ⟨none, .approvalSeen d⟩ s
        ⟨none, .ready ⟨t, decision.id, decision.actionType, payload, .reviewer r⟩⟩
  | acquireApproved {s work} :
      serializationKey O work.tenantId work.actionType work.payload ∉ s.locks →
      ToolMove O call .acquire s ⟨none, .ready work⟩
        { s with locks := serializationKey O work.tenantId work.actionType work.payload :: s.locks }
        ⟨some (serializationKey O work.tenantId work.actionType work.payload), .claiming work⟩
  | claimAlone {s t d id db decision} : call = .observe t d →
      claimDecision t id s.db = .ok (db, decision) →
      ToolMove O call .claim s .idle { s with db := db }
        ⟨none, .observingAlone t id decision.predictedOutcome⟩
  | evaluateAlone {s t d predicted draws now db evaluation} :
      evaluateDecision t d predicted draws now s.db = .ok (db, evaluation) →
      ToolMove O call (.observe draws now) s ⟨none, .observingAlone t d predicted⟩
        { s with db := db } ⟨none, .finished (.ok (rowAnswer d))⟩
  | claim {s guard work db decision} :
      claimDecision work.tenantId work.decisionId s.db = .ok (db, decision) →
      ToolMove O call .claim s ⟨guard, .claiming work⟩ { s with db := db }
        ⟨guard, .observing work decision.predictedOutcome⟩
  | observe {s guard work predicted draws now db evaluation} :
      evaluateDecision work.tenantId work.decisionId predicted draws now s.db =
        .ok (db, evaluation) →
      ToolMove O call (.observe draws now) s ⟨guard, .observing work predicted⟩
        { s with db := db } ⟨guard, .changing work evaluation⟩
  | complete {s guard work evaluation eventType event} :
      stateChangeEvent O s.db.tables work.tenantId work.payload work.actionType =
        .ok (eventType, event) →
      ToolMove O call .complete s ⟨guard, .changing work evaluation⟩ s
        ⟨guard, .appending work evaluation eventType event⟩
  | append {s guard work evaluation eventType event draw db} :
      appendEvent O work.tenantId (.member eventType) event agentSource draw s.db = .ok db →
      ToolMove O call (.append draw) s ⟨guard, .appending work evaluation eventType event⟩
        (({ s with db := db } : ToolStore).note (.applied work.decisionId draw.eventId))
        ⟨guard, .appended work evaluation⟩
  | logPolicy {s guard work evaluation currentValue reason now db} :
      work.authority = .policy currentValue reason →
      writeLog (executedEntry work reason) now s.db = .ok db →
      ToolMove O call (.log now) s ⟨guard, .appended work evaluation⟩ { s with db := db }
        ((⟨guard, .idle⟩ : Process).conclude (.ok (executedAnswer work.decisionId evaluation)))
  | logReviewer {s work evaluation r now db} : work.authority = .reviewer r →
      writeLog (executedEntry work approvalRecorded) now s.db = .ok db →
      ToolMove O call (.log now) s ⟨none, .appended work evaluation⟩ { s with db := db }
        ⟨none, .finished (.ok (executedAnswer work.decisionId evaluation))⟩
  | releaseWork {s key work evaluation r} : work.authority = .reviewer r →
      ToolMove O call .release s ⟨some key, .appended work evaluation⟩
        { s with locks := s.locks.erase key } ⟨none, .appended work evaluation⟩
  | audit {s guard entry answer now db} : writeLog entry now s.db = .ok db →
      ToolMove O call (.log now) s ⟨guard, .auditing entry answer⟩ { s with db := db }
        ((⟨guard, .idle⟩ : Process).conclude (.ok answer))
  | leave {s key result} :
      ToolMove O call .release s ⟨some key, .leaving result⟩
        { s with locks := s.locks.erase key } ⟨none, .finished result⟩

section Inversion

variable {O : Outside} {call : ToolCall} {x : ToolAction} {s s' : ToolStore} {p p' : Process}

/-- The error moves of a call without a lock. -/
lemma ToolMove.raise_unlocked {stage : Stage} (e : PyException) (h : stage.ended = false) :
    ToolMove O call x s ⟨none, stage⟩ s ⟨none, .finished (.error e)⟩ := .raise e h

lemma toolMove_of_executeStep {t : String} {a : ActionType} {payload : Dict}
    (h : executeStep O t a payload x s p = some (s', p')) :
    ToolMove O (.execute t a payload) x s p s' p' := by
  unfold executeStep at h
  split at h
  · split_ifs at h with hadd
    · obtain ⟨rfl, hadd⟩ := hadd
      simp only [Option.some.injEq, Prod.mk.injEq] at h
      obtain ⟨rfl, rfl⟩ := h
      refine .unsupported rfl ?_
      split at hadd
      · assumption
      · exact absurd hadd (by simp)
    · rcases inspect_eq (Option.some.inj h) with ⟨predicted, hok, hnext⟩ | ⟨e, rfl, rfl⟩
      · obtain ⟨rfl, rfl⟩ := Prod.mk.inj hnext
        exact .simulate (.inl rfl) (Fallible.mapError_ok.mp hok)
      · exact .raise_unlocked e rfl
  · rcases transact_eq (Option.some.inj h) with ⟨db, decision, hok, rfl, rfl⟩ | ⟨e, rfl, rfl⟩
    · exact .persist rfl hok
    · exact .raise_unlocked e rfl
  · simp only at h
    split_ifs at h with hkey
    simp only [Option.some.injEq, Prod.mk.injEq] at h
    obtain ⟨rfl, rfl⟩ := h
    exact .acquire rfl hkey
  · simp only [Option.some.injEq, Prod.mk.injEq] at h
    obtain ⟨rfl, rfl⟩ := h
    exact .timeout rfl
  · rcases inspect_eq (Option.some.inj h) with ⟨ruling, hok, hnext⟩ | ⟨e, rfl, rfl⟩
    · cases ruling with
      | block reason =>
        obtain ⟨rfl, rfl⟩ := Prod.mk.inj hnext
        exact .block rfl hok
      | review risk =>
        obtain ⟨rfl, rfl⟩ := Prod.mk.inj hnext
        exact .review rfl hok
      | proceed currentValue reason =>
        obtain ⟨rfl, rfl⟩ := Prod.mk.inj hnext
        exact .proceed rfl hok
    · exact .raise e rfl
  · rcases transact_eq (Option.some.inj h) with ⟨db, row, hok, rfl, rfl⟩ | ⟨e, rfl, rfl⟩
    · exact .request rfl hok
    · exact .raise e rfl
  · exact absurd h (by simp)

lemma toolMove_of_proposeStep {t : String} {a : ActionType} {payload : Dict}
    (h : proposeStep t a payload x s p = some (s', p')) :
    ToolMove O (.propose t a payload) x s p s' p' := by
  unfold proposeStep at h
  split at h
  · rcases inspect_eq (Option.some.inj h) with ⟨predicted, hok, hnext⟩ | ⟨e, rfl, rfl⟩
    · obtain ⟨rfl, rfl⟩ := Prod.mk.inj hnext
      exact .simulate (.inr rfl) hok
    · exact .raise_unlocked e rfl
  · rcases transact_eq (Option.some.inj h) with ⟨db, decision, hok, rfl, rfl⟩ | ⟨e, rfl, rfl⟩
    · exact .persistAlone rfl hok
    · exact .raise_unlocked e rfl
  · exact absurd h (by simp)

lemma toolMove_of_getApproved {t r : String} {stage : Stage} (hcall : call.ExecutesApproved t r)
    (hstage : stage = .idle ∨ stage = .approving) (h : getApproved t r s = (s', p')) :
    ToolMove O call .get s ⟨none, stage⟩ s' p' := by
  have hended : stage.ended = false := by
    rcases hstage with rfl | rfl <;> rfl
  rcases inspect_eq h with ⟨row, hok, hnext⟩ | ⟨e, rfl, rfl⟩
  · split_ifs at hnext with hstatus
    · obtain ⟨rfl, rfl⟩ := Prod.mk.inj hnext
      exact .getApproved hcall hstage hok hstatus
    · obtain ⟨rfl, rfl⟩ := Prod.mk.inj hnext
      exact .raise_unlocked _ hended
  · exact .raise_unlocked e hended

lemma toolMove_of_executeApprovedStep {t r : String} (hcall : call.ExecutesApproved t r)
    (h : executeApprovedStep O t r x s p = some (s', p')) : ToolMove O call x s p s' p' := by
  unfold executeApprovedStep at h
  split at h
  · split at h
    · simp only [Option.some.injEq, Prod.mk.injEq] at h
      obtain ⟨rfl, rfl⟩ := h
      exact .raise_unlocked _ rfl
    · rename_i decision hdecision
      split at h
      · rename_i payload hpayload
        simp only [Option.some.injEq, Prod.mk.injEq] at h
        obtain ⟨rfl, rfl⟩ := h
        exact .readApproved hcall hdecision hpayload
      · simp only [Option.some.injEq, Prod.mk.injEq] at h
        obtain ⟨rfl, rfl⟩ := h
        exact .raise_unlocked _ rfl
  · simp only at h
    split_ifs at h with hkey
    simp only [Option.some.injEq, Prod.mk.injEq] at h
    obtain ⟨rfl, rfl⟩ := h
    exact .acquireApproved hkey
  · simp only [Option.some.injEq, Prod.mk.injEq] at h
    obtain ⟨rfl, rfl⟩ := h
    exact .raise_unlocked _ rfl
  · exact absurd h (by simp)

lemma toolMove_of_resolveApprovalStep {t r : String} {v : Review}
    (h : resolveApprovalStep O t r v x s p = some (s', p')) :
    ToolMove O (.resolveApproval t r v) x s p s' p' := by
  unfold resolveApprovalStep at h
  split at h
  · rcases inspect_eq (Option.some.inj h) with ⟨row, hok, hnext⟩ | ⟨e, rfl, rfl⟩
    · split_ifs at hnext with hstatus hv
      · obtain ⟨rfl, rfl⟩ := Prod.mk.inj hnext
        have hmove := ToolMove.getPending (O := O) (v := v) rfl hok hstatus
        rwa [if_pos hv] at hmove
      · obtain ⟨rfl, rfl⟩ := Prod.mk.inj hnext
        have hmove := ToolMove.getPending (O := O) (v := v) rfl hok hstatus
        rwa [if_neg hv] at hmove
      · obtain ⟨rfl, rfl⟩ := Prod.mk.inj hnext
        exact .raise_unlocked _ rfl
    · exact .raise_unlocked e rfl
  · split at h
    · simp only [Option.some.injEq, Prod.mk.injEq] at h
      obtain ⟨rfl, rfl⟩ := h
      exact .stale _ rfl rfl
    · rename_i decision hdecision
      split at h
      · rename_i payload hpayload
        simp only [Option.some.injEq, Prod.mk.injEq] at h
        obtain ⟨rfl, rfl⟩ := h
        exact .readPending rfl hdecision hpayload
      · simp only [Option.some.injEq, Prod.mk.injEq] at h
        obtain ⟨rfl, rfl⟩ := h
        exact .raise_unlocked _ rfl
  · rcases inspect_eq (Option.some.inj h) with ⟨column, hvalue, hnext⟩ | ⟨e, rfl, rfl⟩
    · rcases inspect_eq hnext with ⟨verdict, hverdict, hnext⟩ | ⟨e, rfl, rfl⟩
      · split_ifs at hnext with happroved
        · obtain ⟨rfl, rfl⟩ := Prod.mk.inj hnext
          exact .recheck rfl hvalue hverdict happroved
        · obtain ⟨rfl, rfl⟩ := Prod.mk.inj hnext
          exact .stale _ rfl rfl
      · exact .raise_unlocked e rfl
    · exact .raise_unlocked e rfl
  · rcases transact_eq (Option.some.inj h) with ⟨db, row, hok, rfl, hnext⟩ | ⟨e, rfl, rfl⟩
    · have hmove := ToolMove.resolve (O := O) (v := v) rfl hok
      split_ifs at hnext hmove with hv
      · rwa [hnext]
      · rwa [hnext]
    · exact .raise_unlocked e rfl
  · exact absurd h (by simp)

lemma toolMove_of_entryStep (h : entryStep O call x s p = some (s', p')) :
    ToolMove O call x s p s' p' := by
  unfold entryStep at h
  split at h
  · exact toolMove_of_executeStep h
  · exact toolMove_of_proposeStep h
  · exact toolMove_of_getApproved (.inl rfl) (.inl rfl) (Option.some.inj h)
  · exact toolMove_of_executeApprovedStep (.inl rfl) h
  · exact toolMove_of_getApproved (.inr ⟨_, rfl⟩) (.inr rfl) (Option.some.inj h)
  · rcases Option.or_eq_some_iff.mp h with h | ⟨-, h⟩
    · exact toolMove_of_resolveApprovalStep h
    · exact toolMove_of_executeApprovedStep (.inr ⟨_, rfl⟩) h
  · rcases inspect_eq (Option.some.inj h) with ⟨id, -, hnext⟩ | ⟨e, rfl, rfl⟩
    · rcases transact_eq hnext with ⟨db, decision, hok, rfl, rfl⟩ | ⟨e, rfl, rfl⟩
      · exact .claimAlone rfl hok
      · exact .raise_unlocked e rfl
    · exact .raise_unlocked e rfl
  · rcases transact_eq (Option.some.inj h) with ⟨db, evaluation, hok, rfl, rfl⟩ | ⟨e, rfl, rfl⟩
    · exact .evaluateAlone hok
    · exact .raise_unlocked e rfl
  · rcases transact_eq (Option.some.inj h) with ⟨db, row, hok, rfl, rfl⟩ | ⟨e, rfl, rfl⟩
    · exact .requestAlone rfl hok
    · exact .raise_unlocked e rfl
  · rcases transact_eq (Option.some.inj h) with ⟨db, row, hok, rfl, rfl⟩ | ⟨e, rfl, rfl⟩
    · exact .resolveAlone rfl hok
    · exact .raise_unlocked e rfl
  · exact absurd h (by simp)

lemma toolMove_of_workStep (h : workStep O x s p = some (s', p')) :
    ToolMove O call x s p s' p' := by
  unfold workStep at h
  split at h
  · rcases transact_eq (Option.some.inj h) with ⟨db, decision, hok, rfl, rfl⟩ | ⟨e, rfl, rfl⟩
    · exact .claim hok
    · exact .raise e rfl
  · rcases transact_eq (Option.some.inj h) with ⟨db, evaluation, hok, rfl, rfl⟩ | ⟨e, rfl, rfl⟩
    · exact .observe hok
    · exact .raise e rfl
  · rcases inspect_eq (Option.some.inj h) with ⟨⟨eventType, event⟩, hok, hnext⟩ | ⟨e, rfl, rfl⟩
    · obtain ⟨rfl, rfl⟩ := Prod.mk.inj hnext
      exact .complete hok
    · exact .raise e rfl
  · rcases inspect_eq (Option.some.inj h) with ⟨db, hok, hnext⟩ | ⟨e, rfl, rfl⟩
    · obtain ⟨rfl, rfl⟩ := Prod.mk.inj hnext
      exact .append hok
    · exact .raise e rfl
  · split at h
    · rename_i hauthority
      rcases inspect_eq (Option.some.inj h) with ⟨db, hok, hnext⟩ | ⟨e, rfl, rfl⟩
      · obtain ⟨rfl, rfl⟩ := Prod.mk.inj hnext
        exact .logPolicy hauthority hok
      · exact .raise e rfl
    · rename_i hauthority
      rcases inspect_eq (Option.some.inj h) with ⟨db, hok, hnext⟩ | ⟨e, rfl, rfl⟩
      · obtain ⟨rfl, rfl⟩ := Prod.mk.inj hnext
        exact .logReviewer hauthority hok
      · exact .raise_unlocked e rfl
    · exact absurd h (by simp)
  · split at h
    · exact absurd h (by simp)
    · rename_i hauthority
      simp only [Option.some.injEq, Prod.mk.injEq] at h
      obtain ⟨rfl, rfl⟩ := h
      exact .releaseWork hauthority
  · exact absurd h (by simp)

lemma toolMove_of_commonStep (h : commonStep x s p = some (s', p')) :
    ToolMove O call x s p s' p' := by
  unfold commonStep at h
  split at h
  · rcases inspect_eq (Option.some.inj h) with ⟨db, hok, hnext⟩ | ⟨e, rfl, rfl⟩
    · obtain ⟨rfl, rfl⟩ := Prod.mk.inj hnext
      exact .audit hok
    · exact .raise e rfl
  · simp only [Option.some.injEq, Prod.mk.injEq] at h
    obtain ⟨rfl, rfl⟩ := h
    exact .leave
  · split_ifs at h with hended
    simp only [Option.some.injEq, Prod.mk.injEq] at h
    obtain ⟨rfl, rfl⟩ := h
    exact .raise _ (Bool.eq_false_iff.mpr hended)
  · split_ifs at h with hended
    simp only [Option.some.injEq, Prod.mk.injEq] at h
    obtain ⟨rfl, rfl⟩ := h
    exact .crash (Bool.eq_false_iff.mpr hended)
  · exact absurd h (by simp)

theorem toolMove_of_step (h : toolStep O call x s p = some (s', p')) :
    ToolMove O call x s p s' p' := by
  rcases Option.or_eq_some_iff.mp h with h | ⟨-, h⟩
  · exact toolMove_of_entryStep h
  · rcases Option.or_eq_some_iff.mp h with h | ⟨-, h⟩
    · exact toolMove_of_workStep h
    · exact toolMove_of_commonStep h

end Inversion

/-! ### Work in progress -/

/-- The action that a call is carrying out, from the moment it may until it has logged it. -/
def Stage.work? : Stage → Option Work
  | .ready w | .claiming w | .observing w _ | .changing w _ | .appending w _ _ _
  | .appended w _ => some w
  | _ => none

@[simp] lemma Process.conclude_work? (p : Process) (result : Except PyException Dict) :
    (p.conclude result).stage.work? = none := by
  unfold Process.conclude
  split_ifs <;> rfl

@[simp] lemma gateDecision_work? (a : ActionType) (payload : Dict) (decision : Decision) :
    (gateDecision a payload decision).work? = none := by
  unfold gateDecision
  split_ifs <;> rfl

section Work

variable {O : Outside} {call : ToolCall} {x : ToolAction} {s s' : ToolStore} {p p' : Process}

/-- Work starts when the gates let an action pass, or with the decision of an approved request. -/
theorem ToolMove.work_cases (h : ToolMove O call x s p s' p') {w : Work}
    (hw : p'.stage.work? = some w) :
    p.stage.work? = some w ∨
    (∃ guard t a payload decision currentValue reason, call = .execute t a payload ∧
      p = ⟨guard, .entered decision⟩ ∧
      judge O s.db.tables t a payload decision.confidence.toRat =
        .ok (.proceed currentValue reason) ∧
      w = ⟨t, decision.id, a, payload, .policy currentValue reason⟩) ∨
    (∃ t r d decision payload, call.ExecutesApproved t r ∧ p = ⟨none, .approvalSeen d⟩ ∧
      s.db.decision? t d = some decision ∧ decision.actionPayload = .dict payload ∧
      w = ⟨t, decision.id, decision.actionType, payload, .reviewer r⟩) := by
  cases h with
  | raise _ _ | persist _ _ | logPolicy _ _ | audit _ => exact absurd hw (by simp)
  | crash _ | unsupported _ _ | simulate _ _ | persistAlone _ _ | acquire _ _ | timeout _
  | block _ _ | review _ _ | request _ _ | requestAlone _ _ | resolveAlone _ _ | readPending _ _ _
  | recheck _ _ _ _ | stale _ _ _ | getApproved _ _ _ _ | claimAlone _ _ | evaluateAlone _
  | logReviewer _ _ | leave => exact absurd hw (by simp [Stage.work?])
  | getPending _ _ _ | resolve _ _ =>
    split_ifs at hw <;> exact absurd hw (by simp [Stage.work?])
  | acquireApproved _ | claim _ | observe _ | complete _ | append _ | releaseWork _ => exact .inl hw
  | proceed hcall hjudge =>
    obtain rfl := Option.some.inj hw
    exact .inr (.inl ⟨_, _, _, _, _, _, _, hcall, rfl, hjudge, rfl⟩)
  | readApproved hcall hdecision hpayload =>
    obtain rfl := Option.some.inj hw
    exact .inr (.inr ⟨_, _, _, _, _, hcall, rfl, hdecision, hpayload, rfl⟩)

end Work

end OpsCopilot
