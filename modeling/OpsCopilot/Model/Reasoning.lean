import OpsCopilot.Lib.PyCompare
import OpsCopilot.Lib.PyContext
import OpsCopilot.Model.Policy

/-!
# Reasoning about opportunities

Component 3 between detection and simulation: the deterministic rules, the reasoner behind a
language model with the validation of what it proposes, and the merge of the two. Nothing here
reads or writes the database.
-/

namespace OpsCopilot

open Python Fallible

/-! ### Contracts -/

inductive OpportunityType where
  | marginDeterioration
  | stockoutExposure
  | demandDecline
deriving DecidableEq

def OpportunityType.value : OpportunityType → String
  | .marginDeterioration => "margin_deterioration"
  | .stockoutExposure => "stockout_exposure"
  | .demandDecline => "demand_decline"

inductive CandidateSource where
  | deterministic
  | llm
deriving DecidableEq

/-- A detected condition with the checks of `__post_init__`. -/
structure Opportunity where
  id : String
  tenantId : String
  opportunityType : OpportunityType
  title : String
  cause : String
  affectedEntityIds : List String
  estimatedMonthlyImpact : FiniteFloat
  confidence : FiniteFloat
  evidence : Dict
  identified : strip id ≠ "" ∧ strip tenantId ≠ ""
  explained : strip title ≠ "" ∧ strip cause ≠ ""
  affects : affectedEntityIds ≠ [] ∧ ∀ e ∈ affectedEntityIds, strip e ≠ ""
  confidence_in_range : 0 ≤ confidence.toRat ∧ confidence.toRat ≤ 1

/-- A proposed action with the checks of `__post_init__`. -/
structure CandidateAction where
  opportunityId : String
  actionType : ActionType
  payload : Dict
  rationale : String
  requiresHumanReview : Bool
  assumptions : List String
  source : CandidateSource
  named : opportunityId ≠ ""
  filled : payload ≠ []
  reasoned : strip rationale ≠ ""

def CandidateAction.make (opportunityId : String) (actionType : ActionType) (payload : Dict)
    (rationale : String) (requiresHumanReview : Bool) (assumptions : List String)
    (source : CandidateSource) : Except PyException CandidateAction :=
  if named : opportunityId = "" then .error ⟨.valueError, "opportunity_id is required"⟩
  else
    match payload with
    | [] => .error ⟨.valueError, "payload must be a non-empty mapping"⟩
    | m :: ms =>
      if reasoned : strip rationale = "" then .error ⟨.valueError, "rationale is required"⟩
      else .ok ⟨opportunityId, actionType, m :: ms, rationale, requiresHumanReview, assumptions,
        source, named, List.cons_ne_nil m ms, reasoned⟩

/-! ### Deterministic rules -/

def priceStep : ℚ := 1 / 4

def targetContributionMargin : ℚ := 7 / 20

def demandRecoveryDiscount : ℚ := 1 / 20

/-- The result of an operation on `Decimal`s whose exact value is `q`. -/
def inContext (q : ℚ) : Except PyException ℚ := (contextResult q).elim (.error decimalOverflow) .ok

/-- `_finite_decimal`; `none` stands for `ReasonerError`. -/
def finiteDecimal : Value → Option ℚ
  | .int n => if exceedsStrDigits n then none else some n
  | v => v.toDecimal.bind PyDecimal.toRat?

/-- `_price_to_step`. -/
def priceToStep (O : Outside) (price : ℚ) : Except PyException PyFloat := do
  let steps ← inContext (price / priceStep)
  match quantizeUnits steps with
  | none => throw (.ofStd .invalidOperation)
  | some n => return O.floatOfDecimal (roundContext (n < 0) (25 * n.natAbs) (-2))

/-- The end of both rules: the candidate that proposes a price, when it is one. -/
def priceCandidate (O : Outside) (o : Opportunity) (menuItemId : String) (proposed : ℚ)
    (rationale : String) (assumptions : List String) : Except PyException (List CandidateAction) :=
  match priceToStep O proposed with
  | .error e => if e.cls = .invalidOperation then .ok [] else .error e
  | .ok (.finite price) =>
    if price.toRat ≤ 0 then .ok []
    else
      (CandidateAction.make o.id .priceChange
        [(.str "menu_item_id", .str menuItemId), (.str "new_price", .float (.finite price))]
        rationale false assumptions .deterministic).map (fun c => [c])
  | .ok _ => .ok []

/-- The menu item of the evidence, when the opportunity affects it. -/
def Opportunity.namedItem (o : Opportunity) : Option String :=
  match o.evidence.get "menu_item_id" with
  | .str m => if strip m = "" ∨ m ∉ o.affectedEntityIds then none else some m
  | _ => none

def marginCandidate (O : Outside) (o : Opportunity) : Except PyException (List CandidateAction) :=
  match o.namedItem, finiteDecimal (o.evidence.get "current_price"),
      finiteDecimal (o.evidence.get "recipe_cost") with
  | some menuItemId, some price, some recipeCost =>
    if price ≤ 0 ∨ recipeCost < 0 then .ok []
    else do
      let restored ← inContext (recipeCost / (1 - targetContributionMargin))
      let proposed ← if restored ≤ price then inContext (price + priceStep) else .ok restored
      priceCandidate O o menuItemId proposed
        ("Raise price only enough to restore the configured contribution-margin target; " ++
          "Component 2 must estimate demand impact.") []
  | _, _, _ => .ok []

def demandCandidate (O : Outside) (o : Opportunity) : Except PyException (List CandidateAction) :=
  match o.namedItem, finiteDecimal (o.evidence.get "current_price") with
  | some menuItemId, some price =>
    if price ≤ 0 then .ok []
    else do
      let proposed ← inContext (price * (1 - demandRecoveryDiscount))
      if proposed ≤ 0 then .ok []
      else
        priceCandidate O o menuItemId proposed
          "Test a small, reversible price decrease against the detected demand decline."
          ["Demand decline is price-sensitive; simulate the proposed price change with " ++
            "Component 2 before execution."]
  | _, _ => .ok []

def generateCandidateActions (O : Outside) (o : Opportunity) :
    Except PyException (List CandidateAction) :=
  match o.opportunityType with
  | .marginDeterioration => marginCandidate O o
  | .demandDecline => demandCandidate O o
  -- A price for the supplier switch would have to be made up.
  | .stockoutExposure => .ok []

/-! ### Validation of proposals -/

def candidateValidation (message : String) : PyException := ⟨.candidateValidationError, message⟩

def parseActionType : Value → Except PyException ActionType
  | .str text =>
    (ActionType.ofValue text).elim
      (.error (candidateValidation ("unsupported action_type: '" ++ text ++ "'"))) .ok
  | _ => .error (candidateValidation "action_type must be a string")

def validatePayload : Value → Except PyException Dict
  | .dict [] => .error (candidateValidation "payload cannot be empty")
  | .dict payload => .ok payload
  | _ => .error (candidateValidation "payload must be an object")

def validateText (fieldName : String) : Value → Except PyException String
  | .str text =>
    if strip text = "" then .error (candidateValidation (fieldName ++ " must be non-empty"))
    else .ok (strip text)
  | _ => .error (candidateValidation (fieldName ++ " must be non-empty"))

def validateAssumptions : Value → Except PyException (List String)
  | .list raw => do
    let texts ← raw.mapM (fun
      | .str text => .ok (strip text)
      | _ => .error (candidateValidation "every assumption must be a string"))
    return texts.filter (fun text => text ≠ "")
  | _ => .error (candidateValidation "assumptions must be a list")

/-- `validate_llm_candidate`: whatever the proposal says, a human must review it. -/
def validateLlmCandidate (raw : Value) (o : Opportunity) : Except PyException CandidateAction :=
  match raw with
  | .dict raw => do
    let actionType ← parseActionType (Dict.get raw "action_type")
    let payload ← validatePayload (Dict.get raw "payload")
    let rationale ← validateText "rationale" (Dict.get raw "rationale")
    raiseIf (¬(Dict.find? "requires_human_review" raw).all (fun v => v matches .bool _))
      (candidateValidation "requires_human_review must be boolean")
    let assumptions ← validateAssumptions ((Dict.find? "assumptions" raw).getD (.list []))
    CandidateAction.make o.id actionType payload rationale true assumptions .llm
  | _ => .error (candidateValidation "candidate must be an object")

/-- `_strict_decimal`. -/
def strictDecimal : Value → Except PyException (Option ℚ)
  | .int n => if exceedsStrDigits n then .error (.ofStd .valueError) else .ok (some n)
  | .decimal d => .ok d.toRat?
  | .float (.finite x) => .ok (some x.toRat)
  | _ => .ok none

/-- `set(payload) == _PRICE_CHANGE_KEYS`. -/
def hasPriceChangeKeys (payload : Dict) : Bool :=
  payload.length = 2 && (payload.find? "menu_item_id").isSome && (payload.find? "new_price").isSome

def validatePriceChangeAgainstOpportunity (payload : Dict) (o : Opportunity) :
    Except PyException Bool :=
  if hasPriceChangeKeys payload then
    match payload.get "menu_item_id" with
    | .str menuItemId =>
      if menuItemId = "" ∨ menuItemId ∉ o.affectedEntityIds then .ok false
      else do
        let newPrice ← strictDecimal (payload.get "new_price")
        let currentPrice ← strictDecimal (o.evidence.get "current_price")
        match newPrice, currentPrice with
        | some newPrice, some currentPrice =>
          if newPrice ≤ 0 ∨ currentPrice ≤ 0 then return false
          else
            let change ← inContext (newPrice - currentPrice)
            let ratio ← inContext (|change| / currentPrice)
            return ratio ≤ maxPriceChangePct
        | _, _ => return false
    | _ => .ok false
  else .ok false

def validateCandidateAgainstOpportunity (c : CandidateAction) (o : Opportunity) :
    Except PyException Bool :=
  if c.opportunityId ≠ o.id then .ok false
  else
    match c.actionType with
    | .priceChange => validatePriceChangeAgainstOpportunity c.payload o
    | _ => .ok false

/-! ### The reasoner -/

def maxLlmCandidates : ℕ := 5

def allowedLlmActionsFor : OpportunityType → List String
  | .marginDeterioration | .demandDecline => [ActionType.priceChange.value]
  | .stockoutExposure => []

def llmReasonerError (message : String) : PyException := ⟨.llmReasonerError, message⟩

/-- What is done with one entry of `candidates`. -/
def acceptCandidate (o : Opportunity) (allowed : List String) (raw : Value) :
    Except PyException CandidateAction := do
  let c ← validateLlmCandidate raw o
  raiseIf (c.actionType.value ∉ allowed) (candidateValidation
    ("action type '" ++ c.actionType.value ++ "' is not allowed for this opportunity"))
  let supported ← validateCandidateAgainstOpportunity c o
  raiseIf (supported = false)
    (candidateValidation "candidate payload does not match verified opportunity evidence")
  return c

/-- The loop over `candidates`: what fails validation is skipped. -/
def acceptCandidates (o : Opportunity) (allowed : List String) :
    List CandidateAction → List Value → Except PyException (List CandidateAction)
  | accepted, [] => .ok accepted
  | accepted, raw :: rest =>
    if maxLlmCandidates ≤ accepted.length then .ok accepted
    else
      match acceptCandidate o allowed raw with
      | .ok c => acceptCandidates o allowed (accepted ++ [c]) rest
      | .error e =>
        if e.cls = .candidateValidationError then acceptCandidates o allowed accepted rest
        else .error e

/-- A reasoner with its client, which answers as it likes and may keep a state, and the
`json.loads` that reads the answer. -/
structure LlmReasoner (τ : Type) where
  generate : τ → Opportunity → τ × Except PyException String
  loads : String → Except PyException Value

/-- What `reason` makes of the answer. -/
def LlmReasoner.readAnswer {τ : Type} (M : LlmReasoner τ) (o : Opportunity)
    (allowed : List String) (text : String) : Except PyException (List CandidateAction) :=
  match M.loads text with
  | .error e =>
    .error (if e.cls = .jsonDecodeError then llmReasonerError "LLM returned invalid JSON" else e)
  | .ok (.dict data) =>
    match (Dict.find? "candidates" data).getD (.list []) with
    | .list raw => acceptCandidates o allowed [] raw
    | _ => .error (llmReasonerError "candidates must be a JSON array")
  | .ok _ => .error (llmReasonerError "LLM response must be a JSON object")

def LlmReasoner.reason {τ : Type} (M : LlmReasoner τ) (o : Opportunity) (allowed : List String)
    (s : τ) : τ × Except PyException (List CandidateAction) :=
  if allowed = [] then (s, .ok [])
  else
    match M.generate s o with
    | (s', .error _) => (s', .error (llmReasonerError "LLM reasoning unavailable"))
    | (s', .ok text) => (s', M.readAnswer o allowed text)

/-! ### Merging -/

section Merge

variable (printable : Char → Bool)

def keyValue : Key → Value
  | .none => .none
  | .bool b => .bool b
  | .int n => .int n
  | .float x => .float (.finite x)
  | .str s => .str s

mutual

/-- `_freeze`; lists stand for the tuples it returns. -/
def freeze : Value → Value
  | .dict ms =>
    .list ((freezeMembers ms).insertionSort (fun a b =>
      String.ofList (tupleText printable a) ≤ String.ofList (tupleText printable b)))
  | .list xs => .list (freezeItems xs)
  | v => v

def freezeItems : List Value → List Value
  | [] => []
  | x :: xs => freeze x :: freezeItems xs

def freezeMembers : List (Key × Value) → List Value
  | [] => []
  | (k, v) :: ms => .list [keyValue k, freeze v] :: freezeMembers ms

end

/-- Whether the keys of two candidates are equal. -/
def sameCandidate (c d : CandidateAction) : Bool :=
  c.opportunityId = d.opportunityId && c.actionType = d.actionType &&
    (freeze printable (.dict c.payload)).pyEq (freeze printable (.dict d.payload))

/-- The candidates that repeat none before them. -/
def mergeInto : List CandidateAction → List CandidateAction → List CandidateAction
  | result, [] => result
  | result, c :: rest =>
    if result.any (fun d => sameCandidate printable d c) then mergeInto result rest
    else mergeInto (result ++ [c]) rest

def mergeCandidates (deterministic llm : List CandidateAction) : List CandidateAction :=
  mergeInto printable [] (deterministic ++ llm)

/-! ### Orchestration -/

variable (O : Outside) {τ : Type}

def reasonAboutOpportunity (llm : Option (LlmReasoner τ)) (useLlm : Bool) (o : Opportunity)
    (s : τ) : τ × Except PyException (List CandidateAction) :=
  match generateCandidateActions O o, (if useLlm then llm else none) with
  | .error e, _ => (s, .error e)
  | .ok deterministic, none => (s, .ok deterministic)
  | .ok deterministic, some M =>
    if allowedLlmActionsFor o.opportunityType = [] then (s, .ok deterministic)
    else
      match M.reason o (allowedLlmActionsFor o.opportunityType) s with
      | (s', .ok found) => (s', .ok (mergeCandidates printable deterministic found))
      | (s', .error e) =>
        (s', if e.cls = .llmReasonerError then .ok deterministic else .error e)

/-- The candidates by opportunity. -/
abbrev Proposals := String → List CandidateAction

def mixedTenants : PyException :=
  ⟨.valueError, "all opportunities in a batch must share a tenant_id"⟩

/-- The loop of `reason_about_opportunities`; all opportunities belong to the tenant of the
first. -/
def reasonLoop (llm : Option (LlmReasoner τ)) (useLlm : Bool) (batchTenantId : String) :
    Proposals → List Opportunity → τ → τ × Except PyException Proposals
  | result, [], s => (s, .ok result)
  | result, o :: rest, s =>
    if o.tenantId ≠ batchTenantId then (s, .error mixedTenants)
    else
      match reasonAboutOpportunity printable O llm useLlm o s with
      | (s', .error e) => (s', .error e)
      | (s', .ok candidates) =>
        reasonLoop llm useLlm batchTenantId (Function.update result o.id candidates) rest s'

def reasonAboutOpportunities (llm : Option (LlmReasoner τ)) (useLlm : Bool)
    (opportunities : List Opportunity) (s : τ) : τ × Except PyException Proposals :=
  reasonLoop printable O llm useLlm ((opportunities.head?.map Opportunity.tenantId).getD "")
    (fun _ => []) opportunities s

end Merge

end OpsCopilot
