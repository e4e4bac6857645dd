import OpsCopilot.Model.IdempotentExecution
import OpsCopilot.Proofs.IdempotencyReplay
import OpsCopilot.Proofs.LlmInfluence

/-!
# How many actions a cycle carries out

The action budget is charged for calls that return. A call that raises after it has appended its
event is not charged for.
-/

namespace OpsCopilot

open Python Fallible

def CallResult.raised (c : CallResult) : Bool := c.outcome matches some (.error _)

/-- The call has appended an event. -/
def CallResult.acted (c : CallResult) : Bool := c.appended ≠ []

/-- The number of calls that have appended an event. -/
def actedCount (calls : List (Request × CallResult)) : ℕ := calls.countP (fun c => c.2.acted)

lemma actedCount_append (calls : List (Request × CallResult)) (r : Request) (c : CallResult) :
    actedCount (calls ++ [(r, c)]) = actedCount calls + if c.acted then 1 else 0 := by
  rw [actedCount, List.countP_append, List.countP_singleton]
  rfl

/-! ### What a call returns -/

section Dictionaries

variable {O : Outside} {r : Request}

/-- A call that has returned has returned a dictionary. -/
def Phase.ReturnsDict (p : Phase) : Prop :=
  ∀ own v, p = .done own (.ok v) → ∃ d, v = .dict d

lemma answer_dict {row : IdempotencyKey} {stale : Bool} {fingerprint : String} {v : Value}
    (h : row.answer stale fingerprint = .ok v) : ∃ d, v = .dict d := by
  unfold IdempotencyKey.answer at h
  split at h
  · exact absurd h (by simp)
  · split at h
    · split at h
      · exact ⟨_, (Except.ok.inj h).symm⟩
      · exact absurd h (by simp)
    · exact ⟨_, (Except.ok.inj h).symm⟩
    · exact ⟨_, (Except.ok.inj h).symm⟩

lemma CallMove.returnsDict {a : CallAction} {g g' : Registry} {p p' : Phase}
    (h : CallMove O r a g p g' p') : p'.ReturnsDict := by
  intro own v hp
  cases h with
  | settle | abandon => exact answer_dict (Phase.done.inj hp).2
  | complete hsafe _ =>
    have hv := Except.ok.inj (Phase.done.inj hp).2
    exact hv ▸ (jsonSafe_dict hsafe).1
  | refuse _ | insert _ _ _ | conflict _ _ _ | lost _ | read _ | enter | execute | unserialisable _
  | fail | crash _ => exact absurd hp (by simp)

lemma executionStep_returnsDict (x : ExecutionStep) (w : ToolWorld) (e : Execution)
    (h : e.phase.ReturnsDict) : (executionStep O r x (w, e)).2.phase.ReturnsDict := by
  unfold executionStep
  split
  · exact h
  · exact h
  · rename_i x w₀ e₀ hx _ heq
    obtain ⟨rfl, rfl⟩ := Prod.mk.inj heq
    cases hstep : callStep O r x w.registry e.phase with
    | none => exact h
    | some c => exact (callMove_of_step hstep).returnsDict
  · exact h
  · rename_i x w₀ tool appended _ heq
    obtain ⟨rfl, rfl⟩ := Prod.mk.inj heq
    split <;> exact h
  · exact h
  · exact fun own v hp => absurd hp (by simp)
  · exact h
  · rename_i heq
    obtain ⟨rfl, rfl⟩ := Prod.mk.inj heq
    exact h
  · rename_i heq
    obtain ⟨rfl, rfl⟩ := Prod.mk.inj heq
    dsimp only
    split_ifs
    · exact h
    · exact fun own v hp => absurd hp (by simp)
  · rename_i heq
    obtain ⟨rfl, rfl⟩ := Prod.mk.inj heq
    dsimp only
    split_ifs
    · exact h
    · exact fun own v hp => absurd hp (by simp)
  · rename_i heq
    obtain ⟨rfl, rfl⟩ := Prod.mk.inj heq
    exact h

lemma executeScript_dict (script : List ExecutionStep) (w : ToolWorld) {v : Value}
    (h : (executeScript O r script w).2.outcome = some (.ok v)) : ∃ d, v = .dict d := by
  have hphase : ∀ (script : List ExecutionStep) (c : ToolWorld × Execution),
      c.2.phase.ReturnsDict →
        (script.foldl (fun c x => executionStep O r x c) c).2.phase.ReturnsDict := by
    intro script
    induction script with
    | nil => exact fun c hc => hc
    | cons x script ih =>
      intro c hc
      exact ih _ (executionStep_returnsDict x c.1 c.2 hc)
  have hdone := hphase script (w, .start) (fun own v hp => absurd hp (by simp [Execution.start]))
  unfold executeScript Execution.result at h
  dsimp only at h
  split at h
  · rename_i own outcome heq
    obtain rfl := Option.some.inj h
    exact hdone own v heq
  · exact absurd h (by simp)

end Dictionaries

/-! ### The budget -/

section Budget

variable {O : Outside} {σ : Type} {env : Surroundings σ} {args : CycleArgs}

/-- The world around a cycle in which calls that return, return dictionaries. -/
def Surroundings.ReturnsDict (env : Surroundings σ) : Prop :=
  ∀ r w v, (env.execute r w).2.outcome = some (.ok v) → ∃ d, v = .dict d

/-- An opportunity leads to a call only while there is budget. -/
lemma chooseBest_act {db : Db} {o : Opportunity} {n : ℤ} {scored scored' : List ScoredCandidate}
    {best best' : ScoredCandidate} {request : Request}
    (h : chooseBest O args db o n scored best = .ok (.act request scored' best')) :
    0 < n ∧ args.mode ≠ .simulate := by
  obtain ⟨cooling, -, h⟩ := bind_ok.mp h
  split_ifs at h with hcooling hmode hleft
  · exact absurd (Except.ok.inj h) (by simp [Choice.rest])
  · exact absurd (Except.ok.inj h) (by simp [Choice.rest])
  · exact absurd (Except.ok.inj h) (by simp [Choice.rest])
  · exact ⟨not_le.mp hleft, hmode⟩

lemma choose_act {db : Db} {o : Opportunity} {cs : List CandidateAction} {n : ℤ}
    {scored : List ScoredCandidate} {best : ScoredCandidate} {request : Request}
    (h : choose O args db o cs n = .ok (.act request scored best)) : 0 < n := by
  unfold choose at h
  split at h
  · exact absurd (Except.ok.inj h) (by simp [Choice.rest])
  · split_ifs at h
    · exact absurd (Except.ok.inj h) (by simp [Choice.rest])
    · obtain ⟨ranked, -, h⟩ := bind_ok.mp h
      unfold chooseAmong at h
      dsimp only at h
      split at h
      · exact absurd (Except.ok.inj h) (by simp [Choice.rest])
      · exact absurd (Except.ok.inj h) (by simp [Choice.rest])
      · exact (chooseBest_act h).1

/-- An opportunity makes no call, or one call within the budget. -/
lemma handle_calls (w : σ) (o : Opportunity) (cs : List CandidateAction) (n : ℤ) :
    (handle O env args w o cs n).calls = [] ∨
      0 < n ∧ ∃ request, (handle O env args w o cs n).calls =
        [(request, (env.execute request w).2)] ∧
        ((handle O env args w o cs n).outcome = none ∨
          (∃ e, (handle O env args w o cs n).outcome = some (.error e) ∧
            ((env.execute request w).2.raised = true ∨
              ∃ v, (env.execute request w).2.outcome = some (.ok v) ∧ ∀ d, v ≠ .dict d)) ∨
          ∃ out, (handle O env args w o cs n).outcome = some (.ok out) ∧ out.result.isSome) := by
  unfold handle
  cases hchoice : choose O args (env.db w) o cs n with
  | error e => exact .inl rfl
  | ok choice =>
    cases choice with
    | settle outcome => exact .inl rfl
    | act request scored best =>
      refine .inr ⟨choose_act hchoice, request, rfl, ?_⟩
      dsimp only
      cases hout : (env.execute request w).2.outcome with
      | none => exact .inl rfl
      | some r =>
        cases r with
        | error e =>
          have hraised : (env.execute request w).2.raised = true := by
            rw [CallResult.raised, hout]
          exact .inr (.inl ⟨e, rfl, .inl hraised⟩)
        | ok v =>
          cases v with
          | dict d => exact .inr (.inr ⟨_, rfl, rfl⟩)
          | none | bool _ | int _ | float _ | decimal _ | str _ | list _ =>
            exact .inr (.inl ⟨_, rfl, .inr ⟨_, rfl, fun d hd => by simp at hd⟩⟩)

/-- Every call that has appended an event is paid for. -/
def Progress.WithinBudget (cap : ℕ) (p : Progress σ) : Prop :=
  actedCount p.calls + p.actionsLeft.toNat ≤ cap

/-- No call raises after it has appended its event. -/
def NoneRaisedAfterAppend (calls : List (Request × CallResult)) : Prop :=
  ∀ c ∈ calls, c.2.acted = true → c.2.raised = false

lemma Progress.record_calls (p : Progress σ) (o : Opportunity) (h : Handled σ)
    (r : Except PyException OpportunityOutcome) : (p.record o h r).calls = p.calls ++ h.calls := by
  cases r <;> rfl

lemma Progress.record_actionsLeft_le (p : Progress σ) (o : Opportunity) (h : Handled σ)
    (r : Except PyException OpportunityOutcome) :
    (p.record o h r).actionsLeft ≤ p.actionsLeft := by
  cases r with
  | error e => exact le_rfl
  | ok out =>
    change p.actionsLeft - _ ≤ p.actionsLeft
    split_ifs <;> omega

/-- The calls of the loop only grow. -/
lemma cycleLoop_calls (proposals : Proposals) (opportunities : List Opportunity)
    (p : Progress σ) :
    ∃ more, (cycleLoop O env args proposals opportunities p).1.calls = p.calls ++ more := by
  induction opportunities generalizing p with
  | nil => exact ⟨[], (List.append_nil _).symm⟩
  | cons o rest ih =>
    rw [cycleLoop]
    split_ifs
    · exact ⟨[], (List.append_nil _).symm⟩
    · dsimp only
      generalize handle O env args p.world o (proposals o.id) p.actionsLeft = h
      cases h.outcome with
      | none => exact ⟨h.calls, rfl⟩
      | some r =>
        obtain ⟨more, hmore⟩ := ih (p.record o h r)
        refine ⟨h.calls ++ more, ?_⟩
        dsimp only
        rw [hmore, Progress.record_calls, List.append_assoc]

/-- One opportunity keeps within the budget. -/
lemma withinBudget_record (henv : env.ReturnsDict) {cap : ℕ} {p : Progress σ} {o : Opportunity}
    {cs : List CandidateAction} {r : Except PyException OpportunityOutcome}
    (hp : p.WithinBudget cap)
    (hr : (handle O env args p.world o cs p.actionsLeft).outcome = some r)
    (hraised : NoneRaisedAfterAppend (handle O env args p.world o cs p.actionsLeft).calls) :
    (p.record o (handle O env args p.world o cs p.actionsLeft) r).WithinBudget cap := by
  have hle := Progress.record_actionsLeft_le p o (handle O env args p.world o cs p.actionsLeft) r
  unfold Progress.WithinBudget at hp ⊢
  rw [Progress.record_calls]
  rcases handle_calls p.world o cs p.actionsLeft with hnone | ⟨hleft, request, hcall, hend⟩
  · rw [hnone, List.append_nil]
    omega
  · rw [hcall] at hraised ⊢
    rw [actedCount_append]
    rcases hend with hcut | ⟨e, -, hcause⟩ | ⟨out, hout, hresult⟩
    · exact absurd (hr.symm.trans hcut) (by simp)
    · rcases hcause with hcause | ⟨v, hv, hdict⟩
      · have hquiet : (env.execute request p.world).2.acted = false := by
          rw [Bool.eq_false_iff]
          intro hacted
          have hfine := hraised _ (List.mem_singleton_self _) hacted
          exact Bool.false_ne_true (hfine.symm.trans hcause)
        rw [if_neg (by simp [hquiet])]
        omega
      · obtain ⟨d, hd⟩ := henv request p.world v hv
        exact absurd hd (hdict d)
    · have hrout : r = .ok out := Option.some.inj (hr.symm.trans hout)
      have hpaid : (p.record o (handle O env args p.world o cs p.actionsLeft) r).actionsLeft =
          p.actionsLeft - 1 := by
        rw [hrout]
        change p.actionsLeft - _ = _
        rw [if_pos hresult]
      rw [hpaid]
      split_ifs <;> omega

theorem cycleLoop_withinBudget (henv : env.ReturnsDict) {cap : ℕ} (proposals : Proposals)
    (opportunities : List Opportunity) {p : Progress σ} (hp : p.WithinBudget cap)
    (hraised : NoneRaisedAfterAppend (cycleLoop O env args proposals opportunities p).1.calls) :
    actedCount (cycleLoop O env args proposals opportunities p).1.calls ≤ cap := by
  induction opportunities generalizing p with
  | nil => exact le_trans (Nat.le_add_right _ _) hp
  | cons o rest ih =>
    rw [cycleLoop] at hraised ⊢
    split_ifs at hraised ⊢ with herrors
    · exact le_trans (Nat.le_add_right _ _) hp
    · dsimp only at hraised ⊢
      cases hr : (handle O env args p.world o (proposals o.id) p.actionsLeft).outcome with
      | none =>
        -- The last call may have appended, and there was budget left for it.
        dsimp only
        rcases handle_calls p.world o (proposals o.id) p.actionsLeft with
          hnone | ⟨hleft, request, hcall, -⟩
        · rw [hnone, List.append_nil]
          exact le_trans (Nat.le_add_right _ _) hp
        · rw [hcall, actedCount_append]
          unfold Progress.WithinBudget at hp
          split_ifs <;> omega
      | some r =>
        rw [hr] at hraised
        dsimp only at hraised ⊢
        refine ih (withinBudget_record henv hp hr ?_) hraised
        obtain ⟨more, hmore⟩ : ∃ more, (cycleLoop O env args proposals rest (p.record o
            (handle O env args p.world o (proposals o.id) p.actionsLeft) r)).1.calls = _ ++ more :=
          cycleLoop_calls proposals rest _
        rw [hmore, Progress.record_calls] at hraised
        exact fun c hc => hraised c
          (List.mem_append_left more (List.mem_append_right p.calls hc))

/-- Without a budget no call is made. -/
lemma cycleLoop_no_budget (proposals : Proposals) (opportunities : List Opportunity)
    {p : Progress σ} (hp : p.actionsLeft ≤ 0) :
    (cycleLoop O env args proposals opportunities p).1.calls = p.calls := by
  induction opportunities generalizing p with
  | nil => rfl
  | cons o rest ih =>
    rw [cycleLoop]
    split_ifs
    · rfl
    · have hnone : (handle O env args p.world o (proposals o.id) p.actionsLeft).calls = [] := by
        rcases handle_calls p.world o (proposals o.id) p.actionsLeft with h | ⟨hleft, -⟩
        · exact h
        · exact absurd hp (not_le.mpr hleft)
      dsimp only
      cases (handle O env args p.world o (proposals o.id) p.actionsLeft).outcome with
      | none =>
        dsimp only
        rw [hnone, List.append_nil]
      | some r =>
        dsimp only
        rw [ih (le_trans (Progress.record_actionsLeft_le p o _ r) hp), Progress.record_calls, hnone,
          List.append_nil]

end Budget

/-! ### The cycle -/

section Cycles

variable {printable : Char → Bool} {O : Outside} {σ τ : Type} {env : Surroundings σ}
  {args : CycleArgs}

/-- A cycle makes no call, or those of its loop. -/
lemma runCycle_calls_cases (llm : Option (LlmReasoner τ)) (s : τ) (w : σ) :
    (runCycle printable O env args llm s w).calls = [] ∨
      ∃ opportunities proposals, (runCycle printable O env args llm s w).calls =
        (cycleLoop O env args proposals opportunities ⟨w, [], args.actions, 0, []⟩).1.calls := by
  by_cases hgo : preflight O env args w = .ok none
  · cases hreason : (detectAndReason printable O env args llm s w).2 with
    | error e => exact .inl (runCycle_calls_nil (.inr ⟨e, hreason⟩))
    | ok found => exact .inr ⟨found.1, found.2, runCycle_calls_loop hgo hreason⟩
  · exact .inl (runCycle_calls_nil (.inl hgo))

lemma runCycle_acted_le (henv : env.ReturnsDict) (llm : Option (LlmReasoner τ)) (s : τ) (w : σ)
    (hraised : NoneRaisedAfterAppend (runCycle printable O env args llm s w).calls) :
    actedCount (runCycle printable O env args llm s w).calls ≤ args.actions.toNat := by
  rcases runCycle_calls_cases llm s w with hnil | ⟨opportunities, proposals, hloop⟩
  · rw [hnil]
    exact Nat.zero_le _
  · rw [hloop] at hraised ⊢
    have hstart : (⟨w, [], args.actions, 0, []⟩ : Progress σ).WithinBudget args.actions.toNat :=
      (Nat.zero_add _).le
    exact cycleLoop_withinBudget henv proposals opportunities hstart hraised

lemma runCycle_calls_of_not_execute (hmode : args.mode ≠ .execute) (llm : Option (LlmReasoner τ))
    (s : τ) (w : σ) : (runCycle printable O env args llm s w).calls = [] := by
  rcases runCycle_calls_cases llm s w with hnil | ⟨opportunities, proposals, hloop⟩
  · exact hnil
  · have hzero : args.actions = 0 := if_neg hmode
    rw [hloop, cycleLoop_no_budget proposals opportunities hzero.le]

end Cycles

lemma scripted_returnsDict {O : Outside} {rls : ScriptedWorld → Except PyException Unit}
    {lock : ScriptedWorld → Except PyException Bool}
    {detect : String → Timestamp → Db → Except PyException (List Opportunity)} :
    (scripted O rls lock detect).ReturnsDict :=
  fun _ w _ h => executeScript_dict (w.scripts.headD []) w.tables h

/-- When no call raises after it has appended its event, at most `max_actions` calls append one;
without the mode `execute` no call is made. -/
theorem blast_radius (printable : Char → Bool) (O : Outside) {τ : Type}
    (rls : ScriptedWorld → Except PyException Unit) (lock : ScriptedWorld → Except PyException Bool)
    (detect : String → Timestamp → Db → Except PyException (List Opportunity)) (args : CycleArgs)
    (llm : Option (LlmReasoner τ)) (s : τ) (w : ScriptedWorld)
    (h : NoneRaisedAfterAppend
      (runCycle printable O (scripted O rls lock detect) args llm s w).calls) :
    actedCount (runCycle printable O (scripted O rls lock detect) args llm s w).calls ≤
        args.maxActions.toNat ∧
      (args.mode ≠ .execute →
        (runCycle printable O (scripted O rls lock detect) args llm s w).calls = []) := by
  refine ⟨?_, fun hmode => runCycle_calls_of_not_execute hmode llm s w⟩
  have hacted := runCycle_acted_le scripted_returnsDict llm s w h
  unfold CycleArgs.actions at hacted
  split_ifs at hacted
  · exact hacted
  · exact le_trans hacted (Nat.zero_le _)

/-! ### A cycle with two dishes -/

/-- A tenant with two dishes, which sell for 20.00 and 40.00. -/
def brasserie : Db where
  tenants := ["t"]
  tables := { Tables.empty with
    menuItems := [⟨"soup", "t", "Soup", .number ⟨2000, by decide⟩, true⟩,
      ⟨"stew", "t", "Stew", .number ⟨4000, by decide⟩, true⟩]
    ingredients := [⟨"leek", "t", .number ⟨300, by decide⟩, none, .number ⟨1, by decide⟩⟩]
    recipes := [⟨"r1", "t", "soup", true⟩, ⟨"r2", "t", "stew", true⟩]
    recipeIngredients := [⟨"t", "r1", "leek", ⟨20000, by decide⟩⟩,
      ⟨"t", "r2", "leek", ⟨20000, by decide⟩⟩] }
  events := []
  decisions := []
  toolExecutionLog := []
  approvalRequests := []

lemma demandConfidence_in_range : 0 ≤ (FiniteFloat.ofDigits false 75 (-2)).toRat ∧
    (FiniteFloat.ofDigits false 75 (-2)).toRat ≤ 1 := by decide +kernel

/-- The demand for the soup has declined. -/
def soupDemand : Opportunity where
  id := "demand_decline:soup"
  tenantId := "t"
  opportunityType := .demandDecline
  title := "Soup demand declined materially"
  cause := "Recent order volume is materially below the preceding equal-length baseline."
  affectedEntityIds := ["soup"]
  estimatedMonthlyImpact := .ofDigits true 200 0
  confidence := .ofDigits false 75 (-2)
  evidence := [(.str "menu_item_id", .str "soup"),
    (.str "current_price", .float (.finite (.ofDigits false 20 0)))]
  identified := by decide +kernel
  explained := by decide +kernel
  affects := affects_soup
  confidence_in_range := demandConfidence_in_range

/-- So has the demand for the stew. -/
def stewDemand : Opportunity where
  id := "demand_decline:stew"
  tenantId := "t"
  opportunityType := .demandDecline
  title := "Stew demand declined materially"
  cause := "Recent order volume is materially below the preceding equal-length baseline."
  affectedEntityIds := ["stew"]
  estimatedMonthlyImpact := .ofDigits true 100 0
  confidence := .ofDigits false 75 (-2)
  evidence := [(.str "menu_item_id", .str "stew"),
    (.str "current_price", .float (.finite (.ofDigits false 40 0)))]
  identified := by decide +kernel
  explained := by decide +kernel
  affects := by decide +kernel
  confidence_in_range := demandConfidence_in_range

/-- A call that executes its action, with what happens after the append. -/
def pricingScript (n : String) (now : Timestamp) (after : List ExecutionStep) :
    List ExecutionStep :=
  [.registry (.claim now), .registry .enter, .tool .simulate, .tool (.persist ("d" ++ n)),
    .tool .acquire, .tool .judge, .tool .claim, .tool (.observe calmDraws now), .tool .complete,
    .tool (.append ⟨now, "e" ++ n, "r" ++ n⟩)] ++ after ++
    [.tool .release, .handOver, .registry (.finish now)]

def losesConnection : ExecutionStep :=
  .tool (.fault ⟨.operationalError, "server closed the connection unexpectedly"⟩)

/-- The brasserie with the scripts of two calls. -/
def brasserieWorld (first second : List ExecutionStep) : ScriptedWorld :=
  ⟨⟨⟨brasserie, [], []⟩, .empty⟩,
    [pricingScript "1" 2000000 first, pricingScript "2" 3000000 second]⟩

/-- A cycle that finds both dishes and may act once. -/
def brasserieCycle : CycleArgs := { soupCycle with useLlm := false, maxActions := 1 }

def brasserieRun (first second : List ExecutionStep) : CycleRun ScriptedWorld Unit :=
  runCycle (fun _ => true) (.prescribed [])
    (scripted (.prescribed []) (fun _ => .ok ()) (fun _ => .ok true)
      (fun _ _ _ => .ok [soupDemand, stewDemand]))
    brasserieCycle none () (brasserieWorld first second)

/-- The first call loses its connection after the append, and the second one acts as well. -/
theorem unpaid_soup : ¬actedCount (brasserieRun [losesConnection] [.tool (.log 3000000)]).calls ≤
    brasserieCycle.maxActions.toNat := by
  decide +kernel

theorem paid_soup : actedCount (brasserieRun [.tool (.log 2000000)] []).calls = 1 ∧
    actedCount (brasserieRun [.tool (.log 2000000)] []).calls ≤
      brasserieCycle.maxActions.toNat := by
  refine ⟨by decide +kernel, ?_⟩
  exact (blast_radius (fun _ => true) (.prescribed []) (fun _ => .ok ()) (fun _ => .ok true)
    (fun _ _ _ => .ok [soupDemand, stewDemand]) brasserieCycle none ()
    (brasserieWorld [.tool (.log 2000000)] []) (by unfold NoneRaisedAfterAppend; decide +kernel)).1

end OpsCopilot
