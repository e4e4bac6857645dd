import Mathlib.Data.Prod.Lex
import Mathlib.Order.WithBot
import OpsCopilot.Model.Decisions
import OpsCopilot.Model.Idempotency
import OpsCopilot.Model.Reasoning

/-!
# The operating cycle

`run_cycle` of the top-level loop: detect, reason, simulate and rank, then act through
`execute_tool_call_idempotent`. The state of the world, what detection finds in it and what a call
does to it belong to the surroundings.
-/

namespace OpsCopilot

open Python Fallible

/-! ### Modes and reports -/

inductive CycleMode where
  | propose
  | simulate
  | execute
deriving DecidableEq

inductive OutcomeStatus where
  | executed
  | pendingHumanApproval
  | heldLowConfidence
  | blockedByCritic
  | unsupportedAction
  | proposed
  | simulatedOnly
  | noCandidates
  | noBeneficialAction
  | cooldownActive
  | actionLimitReached
  | needsReviewNotExecuted
  | error
deriving DecidableEq

def OutcomeStatus.value : OutcomeStatus → String
  | .executed => "executed"
  | .pendingHumanApproval => "pending_human_approval"
  | .heldLowConfidence => "held_low_confidence"
  | .blockedByCritic => "blocked_by_critic"
  | .unsupportedAction => "unsupported_action"
  | .proposed => "proposed"
  | .simulatedOnly => "simulated_only"
  | .noCandidates => "no_candidates"
  | .noBeneficialAction => "no_beneficial_action"
  | .cooldownActive => "cooldown_active"
  | .actionLimitReached => "action_limit_reached"
  | .needsReviewNotExecuted => "needs_review_not_executed"
  | .error => "error"

def OutcomeStatus.all : List OutcomeStatus :=
  [.executed, .pendingHumanApproval, .heldLowConfidence, .blockedByCritic, .unsupportedAction,
    .proposed, .simulatedOnly, .noCandidates, .noBeneficialAction, .cooldownActive,
    .actionLimitReached, .needsReviewNotExecuted, .error]

/-- `OutcomeStatus(reason)`. -/
def OutcomeStatus.ofValue : Value → Option OutcomeStatus
  | .str text => OutcomeStatus.all.find? (fun s => s.value = text)
  | _ => none

structure ScoredCandidate where
  candidate : CandidateAction
  predicted : Option PredictedOutcome
  score : Option FiniteFloat
  error : Option String

structure OpportunityOutcome where
  opportunityId : String
  opportunityType : OpportunityType
  estimatedMonthlyImpact : FiniteFloat
  status : OutcomeStatus
  candidates : List ScoredCandidate
  selected : Option ScoredCandidate
  result : Option Dict
  detail : Option String

inductive CycleStatus where
  | completed
  | skipped
  | failed
  | aborted
deriving DecidableEq

structure CycleReport where
  cycleId : String
  tenantId : String
  mode : CycleMode
  startedAt : Timestamp
  status : CycleStatus
  reason : Option String
  outcomes : List OpportunityOutcome

/-- The arguments of `run_cycle` apart from the reasoner. -/
structure CycleArgs where
  tenantId : String
  mode : CycleMode
  useLlm : Bool
  scorer : PredictedOutcome → Except PyException PyFloat
  minScore : PyFloat
  cycleId : String
  maxOpportunities : ℤ
  maxActions : ℤ
  maxErrors : ℤ
  /-- In microseconds. -/
  cooldown : ℤ
  verifyChain : Bool
  requireRls : Bool
  now : Timestamp

/-! ### Surroundings -/

/-- What came of a call of `execute_tool_call_idempotent`: the events it has appended, and what it
returned or raised; `none` when it never came back. -/
structure CallResult where
  appended : List String
  outcome : Option (Except PyException Value)

/-- The world around a cycle. Only `execute` changes it. -/
structure Surroundings (σ : Type) where
  db : σ → Db
  /-- `assert_rls_enforced`. -/
  rlsEnforced : σ → Except PyException Unit
  /-- Whether the advisory lock of the tenant is free. -/
  lockAcquired : σ → Except PyException Bool
  /-- `detect_opportunities`. -/
  detect : String → Timestamp → Db → Except PyException (List Opportunity)
  /-- `execute_tool_call_idempotent`. -/
  execute : Request → σ → σ × CallResult

/-! ### Cooldown -/

/-- `get_action_log`: the newest entries of the tenant. -/
def Db.actionLog (db : Db) (tenantId : String) (limit : ℕ) : List ToolExecutionLog :=
  ((db.toolExecutionLog.filter (fun e => e.tenantId = tenantId)).insertionSort
    (fun a b => b.createdAt ≤ a.createdAt)).take limit

def targetKeys : List String :=
  ["menu_item_id", "ingredient_id", "supplier_sku_id", "staff_shift_id"]

/-- `_target`. -/
def target (O : Outside) (payload : Dict) : List (String × String) :=
  targetKeys.filterMap (fun k =>
    match payload.get k with
    | .none => none
    | v => some (k, pyStr O v))

/-- `_target(entry["payload"] or {})`. -/
def loggedTarget (O : Outside) (payload : Value) : Except PyException (List (String × String)) :=
  match payload with
  | .dict payload => .ok (target O payload)
  | v =>
    if v.truthy then .error ⟨.attributeError, "object has no attribute 'get'"⟩
    else .ok (target O [])

/-- The loop of `_in_cooldown`. -/
def cooldownLoop (O : Outside) (since : Timestamp) (actionType : ActionType)
    (wanted : List (String × String)) : List ToolExecutionLog → Except PyException Bool
  | [] => .ok false
  | entry :: rest =>
    if entry.createdAt < since then .ok false
    else if entry.actionType ≠ actionType then cooldownLoop O since actionType wanted rest
    else
      match loggedTarget O entry.payload with
      | .error e => .error e
      | .ok found =>
        if found ≠ wanted then cooldownLoop O since actionType wanted rest
        else if entry.executed ∨ entry.criticApproved = some true ∧ ¬entry.executed then .ok true
        else cooldownLoop O since actionType wanted rest

def inCooldown (O : Outside) (db : Db) (tenantId : String) (c : CandidateAction) (cooldown : ℤ)
    (now : Timestamp) : Except PyException Bool :=
  if cooldown ≤ 0 then .ok false
  else
    cooldownLoop O (now - cooldown) c.actionType (target O c.payload) (db.actionLog tenantId 500)

/-! ### Keys and ranks -/

/-- `json.dumps(v, sort_keys=True, default=str)`. -/
def dumpsSorted (v : Value) : Except PyException String :=
  ((prepare ⟨true, strDefault⟩ v).mapError PyException.ofStd).map
    (fun j => String.ofList (j.spacedText escapeAscii))

/-- `_idempotency_key`. -/
def idempotencyKeyOf (O : Outside) (cycleId opportunityId : String) (c : CandidateAction) :
    Except PyException String :=
  (dumpsSorted (.dict [(.str "a", .str c.actionType.value), (.str "p", .dict c.payload)])).map
    (fun text => cycleId ++ ":" ++ opportunityId ++ ":" ++
      String.ofList ((O.sha256 text).toList.take 16))

/-- The tuple that candidates are sorted by: the negated score, whether the candidate is not a
deterministic one, and the text of its payload. -/
abbrev RankKey := WithTop ℚ ×ₗ Bool ×ₗ String

/-! ### Scores -/

def PyException.report (e : PyException) : String := e.cls.name ++ ": " ++ e.message

/-- `_score` of one candidate. -/
def scoreCandidate (T : Tables) (tenantId : String)
    (scorer : PredictedOutcome → Except PyException PyFloat) (c : CandidateAction) :
    ScoredCandidate :=
  match simulate T tenantId c.actionType c.payload with
  | .error e => ⟨c, none, none, some e.report⟩
  | .ok predicted =>
    match scorer predicted with
    | .error e => ⟨c, none, none, some e.report⟩
    | .ok (.finite score) => ⟨c, some predicted, some score, none⟩
    | .ok _ => ⟨c, none, none, some "ValueError: score is not finite"⟩

def rankKey (s : ScoredCandidate) : Except PyException RankKey :=
  (dumpsSorted (.dict s.candidate.payload)).map (fun text =>
    toLex (s.score.elim ⊤ (fun score => ((-score.toRat : ℚ) : WithTop ℚ)),
      toLex (decide (s.candidate.source ≠ .deterministic), text)))

/-- `sorted(scored, key=_rank_key)`. -/
def rank (scored : List ScoredCandidate) : Except PyException (List ScoredCandidate) :=
  (scored.mapM (fun s => (rankKey s).map (fun key => (key, s)))).map (fun keyed =>
    (keyed.insertionSort (fun a b => a.1 ≤ b.1)).map Prod.snd)

/-- `score > min_score`. -/
def exceeds (score : FiniteFloat) : PyFloat → Bool
  | .nan => false
  | .inf neg => neg
  | .finite minScore => minScore.toRat < score.toRat

def ScoredCandidate.isViable (minScore : PyFloat) (s : ScoredCandidate) : Bool :=
  s.score.any (fun score => exceeds score minScore)

/-! ### One opportunity -/

/-- `_forced_review_supported`: the tool framework takes no reason for a review. -/
def forcedReviewSupported : Bool := false

/-- What `_handle` comes to before it calls the tool framework. -/
inductive Choice where
  | settle (outcome : OpportunityOutcome)
  | act (request : Request) (scored : List ScoredCandidate) (best : ScoredCandidate)

/-- The outcome of an opportunity for which no action was attempted. -/
def Choice.rest (o : Opportunity) (status : OutcomeStatus) (scored : List ScoredCandidate)
    (selected : Option ScoredCandidate) (detail : Option String) : Choice :=
  .settle ⟨o.id, o.opportunityType, o.estimatedMonthlyImpact, status, scored, selected, none,
    detail⟩

def needsReviewDetail : String :=
  "every viable candidate requires human review and tool_framework has no " ++
    "require_approval_reason support; nothing executed"

/-- `"; ".join(failures) or None`. -/
def joinedFailures (scored : List ScoredCandidate) : Option String :=
  match scored.filterMap ScoredCandidate.error with
  | [] => none
  | failures => some ("; ".intercalate failures)

/-- The candidates that may be acted on. -/
def admitted (viable : List ScoredCandidate) : List ScoredCandidate :=
  if forcedReviewSupported then viable
  else viable.filter (fun s => s.candidate.requiresHumanReview = false)

section Cycle

variable (printable : Char → Bool) (O : Outside) {σ τ : Type} (env : Surroundings σ)
  (args : CycleArgs)

/-- `_handle` from the best candidate on. -/
def chooseBest (db : Db) (o : Opportunity) (actionsLeft : ℤ) (scored : List ScoredCandidate)
    (best : ScoredCandidate) : Except PyException Choice := do
  let cooling ← inCooldown O db args.tenantId best.candidate args.cooldown args.now
  if cooling then return .rest o .cooldownActive scored (some best) none
  else if args.mode = .simulate then return .rest o .simulatedOnly scored (some best) none
  else if actionsLeft ≤ 0 then return .rest o .actionLimitReached scored (some best) none
  else
    let key ← idempotencyKeyOf O args.cycleId o.id best.candidate
    return .act ⟨args.tenantId, key, best.candidate.actionType, best.candidate.payload⟩ scored best

/-- `_handle` from the ranked candidates on. -/
def chooseAmong (db : Db) (o : Opportunity) (actionsLeft : ℤ) (scored : List ScoredCandidate) :
    Except PyException Choice :=
  let viable := scored.filter (ScoredCandidate.isViable args.minScore)
  match viable, admitted viable with
  | [], _ => .ok (.rest o .noBeneficialAction scored none (joinedFailures scored))
  | flagged :: _, [] =>
    .ok (.rest o .needsReviewNotExecuted scored (some flagged) (some needsReviewDetail))
  | _ :: _, best :: _ => chooseBest O args db o actionsLeft scored best

/-- `_handle` up to the call of the tool framework. -/
def choose (db : Db) (o : Opportunity) (candidates : List CandidateAction) (actionsLeft : ℤ) :
    Except PyException Choice :=
  match candidates with
  | [] => .ok (.rest o .noCandidates [] none none)
  | _ :: _ =>
    if args.mode = .propose then
      .ok (.rest o .proposed (candidates.map (fun c => ⟨c, none, none, none⟩)) none none)
    else do
      let scored ← rank (candidates.map (scoreCandidate db.tables args.tenantId args.scorer))
      chooseAmong O args db o actionsLeft scored

/-- The status of a result that a call returned. -/
def resultStatus (result : Dict) : OutcomeStatus :=
  if (result.get "executed").truthy then .executed
  else (OutcomeStatus.ofValue (result.get "reason")).getD .error

/-- What came of one opportunity, with the calls that were made for it. -/
structure Handled (σ : Type) where
  world : σ
  calls : List (Request × CallResult)
  outcome : Option (Except PyException OpportunityOutcome)

/-- `_handle`. -/
def handle (w : σ) (o : Opportunity) (candidates : List CandidateAction) (actionsLeft : ℤ) :
    Handled σ :=
  match choose O args (env.db w) o candidates actionsLeft with
  | .error e => ⟨w, [], some (.error e)⟩
  | .ok (.settle outcome) => ⟨w, [], some (.ok outcome)⟩
  | .ok (.act request scored best) =>
    let after := env.execute request w
    ⟨after.1, [(request, after.2)], after.2.outcome.map (fun
      | .error e => .error e
      | .ok (.dict result) => .ok ⟨o.id, o.opportunityType, o.estimatedMonthlyImpact,
          resultStatus result, scored, some best, some result, none⟩
      | .ok _ => .error ⟨.attributeError, "object has no attribute 'get'"⟩)⟩

/-! ### The loop -/

/-- Where the loop over the opportunities stands. -/
structure Progress (σ : Type) where
  world : σ
  calls : List (Request × CallResult)
  actionsLeft : ℤ
  errors : ℕ
  outcomes : List OpportunityOutcome

def failedOutcome (o : Opportunity) (e : PyException) : OpportunityOutcome :=
  ⟨o.id, o.opportunityType, o.estimatedMonthlyImpact, .error, [], none, none, some e.report⟩

/-- What the loop records of an opportunity that was handled. -/
def Progress.record (p : Progress σ) (o : Opportunity) (h : Handled σ)
    (r : Except PyException OpportunityOutcome) : Progress σ :=
  match r with
  | .error e => ⟨h.world, p.calls ++ h.calls, p.actionsLeft, p.errors + 1,
      p.outcomes ++ [failedOutcome o e]⟩
  | .ok outcome => ⟨h.world, p.calls ++ h.calls,
      p.actionsLeft - (if outcome.result.isSome then 1 else 0), p.errors, p.outcomes ++ [outcome]⟩

/-- How the loop ends; it is cut short when a call never comes back. -/
inductive LoopEnd where
  | completed
  | aborted
  | cut
deriving DecidableEq

def cycleLoop (proposals : Proposals) : List Opportunity → Progress σ → Progress σ × LoopEnd
  | [], p => (p, .completed)
  | o :: rest, p =>
    if args.maxErrors ≤ p.errors then (p, .aborted)
    else
      let h := handle O env args p.world o (proposals o.id) p.actionsLeft
      match h.outcome with
      | none => ({ p with world := h.world, calls := p.calls ++ h.calls }, .cut)
      | some r => cycleLoop proposals rest (p.record o h r)

/-! ### The cycle -/

/-- `l[:n]`. -/
def slice {α : Type} (n : ℤ) (l : List α) : List α :=
  if 0 ≤ n then l.take n.toNat else l.take (l.length - n.natAbs)

/-- The checks before detection; a reason when the cycle is skipped. -/
def preflight (w : σ) : Except PyException (Option String) := do
  if args.requireRls then env.rlsEnforced w
  let acquired ← env.lockAcquired w
  if acquired = false then return some "cycle_already_running"
  else if args.verifyChain = false then return none
  else
    match verifyChainIntegrity O args.tenantId (env.db w) with
    | .ok _ => return none
    | .error e =>
      if e.cls = .hashChainCorruptedError then return some "event_chain_corrupted"
      else if e.cls.isEventStoreError then return some "event_store_unavailable"
      else throw e

/-- The opportunities of the cycle. -/
def detected (w : σ) : Except PyException (List Opportunity) :=
  (env.detect args.tenantId args.now (env.db w)).map (slice args.maxOpportunities)

def detectAndReason (llm : Option (LlmReasoner τ)) (s : τ) (w : σ) :
    τ × Except PyException (List Opportunity × Proposals) :=
  match detected env args w with
  | .error e => (s, .error e)
  | .ok opportunities =>
    let reasoned := reasonAboutOpportunities printable O llm args.useLlm opportunities s
    (reasoned.1, reasoned.2.map (fun proposals => (opportunities, proposals)))

/-- What a cycle leaves behind; it has no report when a call never came back. -/
structure CycleRun (σ τ : Type) where
  world : σ
  reasoner : τ
  calls : List (Request × CallResult)
  report : Option (Except PyException CycleReport)

def CycleArgs.finish (status : CycleStatus) (reason : Option String)
    (outcomes : List OpportunityOutcome) : Option (Except PyException CycleReport) :=
  some (.ok ⟨args.cycleId, args.tenantId, args.mode, args.now, status, reason, outcomes⟩)

def CycleArgs.actions : ℤ := if args.mode = .execute then args.maxActions else 0

def runCycle (llm : Option (LlmReasoner τ)) (s : τ) (w : σ) : CycleRun σ τ :=
  match preflight O env args w with
  | .error e => ⟨w, s, [], some (.error e)⟩
  | .ok (some reason) => ⟨w, s, [], args.finish .skipped (some reason) []⟩
  | .ok none =>
    match detectAndReason printable O env args llm s w with
    | (s', .error e) => ⟨w, s', [], args.finish .failed (some e.report) []⟩
    | (s', .ok (opportunities, proposals)) =>
      let done := cycleLoop O env args proposals opportunities ⟨w, [], args.actions, 0, []⟩
      ⟨done.1.world, s', done.1.calls,
        match done.2 with
        | .completed => args.finish .completed none done.1.outcomes
        | .aborted => args.finish .aborted
            (some (toString done.1.errors ++ " errors; remaining opportunities skipped"))
            done.1.outcomes
        | .cut => none⟩

end Cycle

end OpsCopilot
