import OpsCopilot.Lib.StableSort
import OpsCopilot.Proofs.DecisionLifecycle
import OpsCopilot.Proofs.LlmProposals

/-!
# What a language model can bring about

Two runs of the cycle, one with the language model and one without, make the same calls. The
candidates of an opportunity differ only by withheld ones at the end, and those leave no trace in
what is handed to the tool framework.
-/

namespace OpsCopilot

open Python Fallible

/-! ### Ranking -/

instance : IsTrans (RankKey × ScoredCandidate) (fun a b => a.1 ≤ b.1) :=
  ⟨fun _ _ _ hab hbc => le_trans hab hbc⟩

instance : Std.Total (fun a b : RankKey × ScoredCandidate => a.1 ≤ b.1) :=
  ⟨fun a b => le_total a.1 b.1⟩

lemma keyed_ok {scored : List ScoredCandidate} (h : ∀ s ∈ scored, ∃ key, rankKey s = .ok key) :
    ∃ keyed, scored.mapM (fun s => (rankKey s).map (fun key => (key, s))) = .ok keyed ∧
      keyed.map Prod.snd = scored := by
  induction scored with
  | nil => exact ⟨[], rfl, rfl⟩
  | cons s scored ih =>
    obtain ⟨⟨key, hkey⟩, hrest⟩ := List.forall_mem_cons.mp h
    obtain ⟨keyed, hkeyed, hsnd⟩ := ih hrest
    refine ⟨(key, s) :: keyed, ?_, ?_⟩
    · rw [List.mapM_cons, hkey, hkeyed]
      rfl
    · rw [List.map_cons, hsnd]

/-- Candidates that a selection leaves out may be ranked or not. -/
lemma rank_append {scored extra : List ScoredCandidate} {p : ScoredCandidate → Bool}
    (hkeys : ∀ s ∈ extra, ∃ key, rankKey s = .ok key) (hp : ∀ s ∈ extra, p s = false) :
    (rank (scored ++ extra)).map (List.filter p) = (rank scored).map (List.filter p) := by
  obtain ⟨keyedExtra, hextra, hsnd⟩ := keyed_ok hkeys
  unfold rank
  rw [List.mapM_append, hextra]
  cases scored.mapM (fun s => (rankKey s).map (fun key => (key, s))) with
  | error e => rfl
  | ok keyed =>
    have hnone : keyedExtra.filter (p ∘ Prod.snd) = [] := by
      rw [List.filter_eq_nil_iff]
      intro k hk
      have hmem : k.2 ∈ extra := hsnd ▸ List.mem_map_of_mem hk
      simp [hp k.2 hmem]
    change Except.ok _ = Except.ok _
    rw [List.filter_map, List.filter_map, StableSort.filter_insertionSort,
      StableSort.filter_insertionSort, List.filter_append, hnone, List.append_nil]

/-! ### One opportunity -/

/-- The call that a choice leads to, and whether its outcome has a result. -/
def Choice.effect : Choice → Option Request × Bool
  | .settle outcome => (none, outcome.result.isSome)
  | .act request _ _ => (some request, true)

section Choices

variable {O : Outside} {args : CycleArgs} {db : Db} {o : Opportunity} {n : ℤ}

lemma chooseBest_effect (scored scored' : List ScoredCandidate) (best : ScoredCandidate) :
    (chooseBest O args db o n scored best).map Choice.effect =
      (chooseBest O args db o n scored' best).map Choice.effect := by
  unfold chooseBest
  cases inCooldown O db args.tenantId best.candidate args.cooldown args.now with
  | error e => rfl
  | ok cooling =>
    change Except.map _ (ite _ _ _) = Except.map _ (ite _ _ _)
    split_ifs
    · rfl
    · rfl
    · rfl
    · cases idempotencyKeyOf O args.cycleId o.id best.candidate with
      | error e => rfl
      | ok key => rfl

/-- What may be acted on of what was scored. -/
def eligible (args : CycleArgs) (s : ScoredCandidate) : Bool :=
  s.candidate.requiresHumanReview = false && s.isViable args.minScore

/-- The effect of a choice among the eligible candidates. -/
def firstEffect (O : Outside) (args : CycleArgs) (db : Db) (o : Opportunity) (n : ℤ) :
    List ScoredCandidate → Except PyException (Option Request × Bool)
  | [] => .ok (none, false)
  | best :: _ => (chooseBest O args db o n [] best).map Choice.effect

lemma admitted_filter (scored : List ScoredCandidate) :
    admitted (scored.filter (ScoredCandidate.isViable args.minScore)) =
      scored.filter (eligible args) := by
  rw [admitted, forcedReviewSupported, if_neg Bool.false_ne_true, List.filter_filter]
  rfl

lemma chooseAmong_effect (scored : List ScoredCandidate) :
    (chooseAmong O args db o n scored).map Choice.effect =
      firstEffect O args db o n (scored.filter (eligible args)) := by
  unfold chooseAmong
  rw [← admitted_filter]
  cases scored.filter (ScoredCandidate.isViable args.minScore) with
  | nil => rfl
  | cons v viable =>
    dsimp only
    cases admitted (v :: viable) with
    | nil => rfl
    | cons best rest => exact chooseBest_effect scored [] best

lemma choose_effect (hmode : args.mode ≠ .propose) (cs : List CandidateAction) :
    (choose O args db o cs n).map Choice.effect =
      ((rank (cs.map (scoreCandidate db.tables args.tenantId args.scorer))).map
        (List.filter (eligible args))).bind (firstEffect O args db o n) := by
  cases cs with
  | nil => rfl
  | cons c cs =>
    rw [choose, if_neg hmode]
    cases rank ((c :: cs).map (scoreCandidate db.tables args.tenantId args.scorer)) with
    | error e => rfl
    | ok scored => exact chooseAmong_effect scored

lemma choose_propose (hmode : args.mode = .propose) (cs : List CandidateAction) :
    (choose O args db o cs n).map Choice.effect = .ok (none, false) := by
  cases cs with
  | nil => rfl
  | cons c cs =>
    rw [choose, if_pos hmode]
    rfl

lemma scoreCandidate_candidate (T : Tables) (tenantId : String)
    (scorer : PredictedOutcome → Except PyException PyFloat) (c : CandidateAction) :
    (scoreCandidate T tenantId scorer c).candidate = c := by
  unfold scoreCandidate
  split
  · rfl
  · split <;> rfl

/-- Withheld candidates at the end do not change the choice. -/
lemma choose_append {cs extra : List CandidateAction} (hextra : ∀ c ∈ extra, c.Withheld) :
    (choose O args db o (cs ++ extra) n).map Choice.effect =
      (choose O args db o cs n).map Choice.effect := by
  by_cases hmode : args.mode = .propose
  · rw [choose_propose hmode, choose_propose hmode]
  · rw [choose_effect hmode, choose_effect hmode, List.map_append, rank_append]
    · intro s hs
      obtain ⟨c, hc, rfl⟩ := List.mem_map.mp hs
      obtain ⟨text, htext⟩ := (hextra c hc).dumps
      rw [rankKey, scoreCandidate_candidate, htext]
      exact ⟨_, rfl⟩
    · intro s hs
      obtain ⟨c, hc, rfl⟩ := List.mem_map.mp hs
      rw [eligible, scoreCandidate_candidate, (hextra c hc).flagged]
      rfl

end Choices

/-! ### The loop -/

section Loop

variable {O : Outside} {σ τ : Type} {env : Surroundings σ} {args : CycleArgs}

/-- What of a handled opportunity the rest of the cycle depends on. -/
def Handled.effect (h : Handled σ) :
    σ × List (Request × CallResult) × Option (Except PyException Bool) :=
  (h.world, h.calls, h.outcome.map (fun r => r.map (fun outcome => outcome.result.isSome)))

/-- The effect of carrying out a choice. -/
def performed (env : Surroundings σ) (w : σ) :
    Except PyException (Option Request × Bool) →
      σ × List (Request × CallResult) × Option (Except PyException Bool)
  | .error e => (w, [], some (.error e))
  | .ok (none, result) => (w, [], some (.ok result))
  | .ok (some request, _) =>
    ((env.execute request w).1, [(request, (env.execute request w).2)],
      (env.execute request w).2.outcome.map (fun
        | .error e => .error e
        | .ok (.dict _) => .ok true
        | .ok _ => .error ⟨.attributeError, "object has no attribute 'get'"⟩))

lemma handle_effect (w : σ) (o : Opportunity) (cs : List CandidateAction) (n : ℤ) :
    (handle O env args w o cs n).effect =
      performed env w ((choose O args (env.db w) o cs n).map Choice.effect) := by
  unfold handle
  cases choose O args (env.db w) o cs n with
  | error e => rfl
  | ok choice =>
    cases choice with
    | settle outcome => rfl
    | act request scored best =>
      simp only [Handled.effect, Except.map, Choice.effect, performed, Option.map_map]
      refine congrArg _ (congrArg _ (congrArg (fun f => Option.map f _) ?_))
      funext r
      cases r with
      | error e => rfl
      | ok v => cases v <;> rfl

/-- What of a loop's progress its continuation depends on. -/
def Progress.effect (p : Progress σ) : σ × List (Request × CallResult) × ℤ × ℕ :=
  (p.world, p.calls, p.actionsLeft, p.errors)

lemma Progress.record_effect {p p' : Progress σ} {o : Opportunity} {h h' : Handled σ}
    {r r' : Except PyException OpportunityOutcome} (hp : p.effect = p'.effect)
    (hh : h.effect = h'.effect)
    (hr : r.map (fun out => out.result.isSome) = r'.map (fun out => out.result.isSome)) :
    (p.record o h r).effect = (p'.record o h' r').effect := by
  simp only [Progress.effect, Prod.mk.injEq] at hp
  simp only [Handled.effect, Prod.mk.injEq] at hh
  obtain ⟨-, hcalls, hleft, herrors⟩ := hp
  obtain ⟨hworld, hmade, -⟩ := hh
  cases r with
  | error e =>
    cases r' with
    | error e' => simp only [Progress.effect, Progress.record, hcalls, hleft, herrors, hworld, hmade]
    | ok out' => nomatch hr
  | ok out =>
    cases r' with
    | error e' => nomatch hr
    | ok out' =>
      have hsome : out.result.isSome = out'.result.isSome := Except.ok.inj hr
      simp only [Progress.effect, Progress.record, hcalls, hleft, herrors, hworld, hmade, hsome]

/-- `full` proposes what `base` does, and withheld candidates after it. -/
def Proposals.Extends (full base : Proposals) : Prop :=
  ∀ id, ∃ extra, full id = base id ++ extra ∧ ∀ c ∈ extra, c.Withheld

/-- Two loops whose proposals differ by withheld candidates make the same progress. -/
theorem cycleLoop_extends {full base : Proposals} (hprop : full.Extends base)
    (opportunities : List Opportunity) {p p' : Progress σ} (hp : p.effect = p'.effect) :
    (cycleLoop O env args full opportunities p).1.effect =
        (cycleLoop O env args base opportunities p').1.effect ∧
      (cycleLoop O env args full opportunities p).2 =
        (cycleLoop O env args base opportunities p').2 := by
  induction opportunities generalizing p p' with
  | nil => exact ⟨hp, rfl⟩
  | cons o rest ih =>
    have hworld : p.world = p'.world := congrArg Prod.fst hp
    have hleft : p.actionsLeft = p'.actionsLeft := congrArg (fun x => x.2.2.1) hp
    have herrors : p.errors = p'.errors := congrArg (fun x => x.2.2.2) hp
    have hcalls : p.calls = p'.calls := congrArg (fun x => x.2.1) hp
    obtain ⟨extra, hfull, hextra⟩ := hprop o.id
    have hsame : (handle O env args p.world o (full o.id) p.actionsLeft).effect =
        (handle O env args p'.world o (base o.id) p'.actionsLeft).effect := by
      rw [handle_effect, handle_effect, hfull, choose_append hextra, hworld, hleft]
    rw [cycleLoop, cycleLoop, herrors]
    split_ifs with hmax
    · exact ⟨hp, rfl⟩
    · dsimp only
      generalize handle O env args p.world o (full o.id) p.actionsLeft = h at hsame
      generalize handle O env args p'.world o (base o.id) p'.actionsLeft = h' at hsame
      have hend : h.outcome.map (fun r => r.map (fun out => out.result.isSome)) =
          h'.outcome.map (fun r => r.map (fun out => out.result.isSome)) :=
        congrArg (fun x => x.2.2) hsame
      cases hr : h.outcome with
      | none =>
        cases hr' : h'.outcome with
        | none =>
          refine ⟨?_, rfl⟩
          have hw : h.world = h'.world := congrArg Prod.fst hsame
          have hc : h.calls = h'.calls := congrArg (fun x => x.2.1) hsame
          simp only [Progress.effect, hw, hc, hcalls, hleft]
        | some r' =>
          rw [hr, hr'] at hend
          nomatch hend
      | some r =>
        cases hr' : h'.outcome with
        | none =>
          rw [hr, hr'] at hend
          nomatch hend
        | some r' =>
          rw [hr, hr'] at hend
          exact ih (Progress.record_effect hp hsame (Option.some.inj hend))

/-- The choice of reasoner plays no part in the loop. -/
lemma cycleLoop_useLlm (b : Bool) (proposals : Proposals) (opportunities : List Opportunity)
    (p : Progress σ) :
    cycleLoop O env { args with useLlm := b } proposals opportunities p =
      cycleLoop O env args proposals opportunities p := by
  induction opportunities generalizing p with
  | nil => rfl
  | cons o rest ih =>
    rw [cycleLoop, cycleLoop]
    have hhandle : handle O env { args with useLlm := b } p.world o (proposals o.id)
        p.actionsLeft = handle O env args p.world o (proposals o.id) p.actionsLeft := rfl
    rw [hhandle]
    simp only [ih]

end Loop

/-! ### Reasoning -/

section Reasoning

variable (printable : Char → Bool) (O : Outside) {τ : Type}

/-- Over a list of opportunities the reasoner returns or raises `LLMReasonerError`. -/
def LlmReasoner.Contained (M : LlmReasoner τ) : List Opportunity → τ → Prop
  | [], _ => True
  | o :: rest, s =>
    (∀ e, (M.reason o (allowedLlmActionsFor o.opportunityType) s).2 = .error e →
      e.cls = .llmReasonerError) ∧
    M.Contained rest (M.reason o (allowedLlmActionsFor o.opportunityType) s).1

variable {O} in
lemma reasonAboutOpportunity_extends {M : LlmReasoner τ} {o : Opportunity} {s : τ}
    (h : ∀ e, (M.reason o (allowedLlmActionsFor o.opportunityType) s).2 = .error e →
      e.cls = .llmReasonerError) {deterministic : List CandidateAction}
    (hdet : generateCandidateActions O o = .ok deterministic) :
    ∃ extra, reasonAboutOpportunity printable O (some M) true o s =
        ((M.reason o (allowedLlmActionsFor o.opportunityType) s).1,
          .ok (deterministic ++ extra)) ∧
      ∀ c ∈ extra, c.Withheld := by
  unfold reasonAboutOpportunity
  rw [hdet, if_pos rfl]
  dsimp only
  split_ifs with hallowed
  · refine ⟨[], ?_, List.forall_mem_nil _⟩
    rw [List.append_nil, hallowed]
    rfl
  · rcases hreason : M.reason o (allowedLlmActionsFor o.opportunityType) s with ⟨s', answer⟩
    cases answer with
    | ok found =>
      have hwithheld := LlmReasoner.reason_withheld (congrArg Prod.snd hreason)
      obtain ⟨extra, hmerge, hsub⟩ :=
        mergeCandidates_extends printable found (generateCandidateActions_length hdet)
      refine ⟨extra, ?_, fun c hc => hwithheld c (hsub.subset hc)⟩
      rw [← hmerge]
    | error e =>
      refine ⟨[], ?_, List.forall_mem_nil _⟩
      have hcls := h e (congrArg Prod.snd hreason)
      rw [List.append_nil]
      dsimp only
      rw [if_pos hcls]

/-- With and without the model, reasoning fails alike, or the proposals differ by withheld
candidates. -/
theorem reasonLoop_extends {M : LlmReasoner τ} (llm : Option (LlmReasoner τ)) (batch : String)
    (opportunities : List Opportunity) {s : τ} (s' : τ) (h : M.Contained opportunities s)
    {full base : Proposals} (hprop : full.Extends base) :
    (∃ e, (reasonLoop printable O (some M) true batch full opportunities s).2 = .error e ∧
      (reasonLoop printable O llm false batch base opportunities s').2 = .error e) ∨
    ∃ full' base', full'.Extends base' ∧
      (reasonLoop printable O (some M) true batch full opportunities s).2 = .ok full' ∧
      (reasonLoop printable O llm false batch base opportunities s').2 = .ok base' := by
  induction opportunities generalizing s full base with
  | nil => exact .inr ⟨full, base, hprop, rfl, rfl⟩
  | cons o rest ih =>
    obtain ⟨hreason, hrest⟩ := h
    rw [reasonLoop, reasonLoop]
    split_ifs with htenant
    · exact .inl ⟨_, rfl, rfl⟩
    · cases hdet : generateCandidateActions O o with
      | error e =>
        refine .inl ⟨e, ?_, ?_⟩
        · rw [reasonAboutOpportunity, hdet]
        · rw [reasonAboutOpportunity, hdet]
      | ok deterministic =>
        obtain ⟨extra, hfull, hextra⟩ :=
          reasonAboutOpportunity_extends printable hreason hdet
        have hbase : reasonAboutOpportunity printable O llm false o s' = (s', .ok deterministic) := by
          rw [reasonAboutOpportunity, hdet, if_neg Bool.false_ne_true]
        rw [hfull, hbase]
        refine ih hrest ?_
        intro id
        rw [Function.update_apply, Function.update_apply]
        split_ifs with hid
        · exact ⟨extra, rfl, hextra⟩
        · exact hprop id

end Reasoning

/-! ### The cycle -/

section Influence

variable {printable : Char → Bool} {O : Outside} {σ τ : Type} {env : Surroundings σ}
  {args : CycleArgs}

/-- A cycle that does not reach the loop makes no call. -/
lemma runCycle_calls_nil {llm : Option (LlmReasoner τ)} {s : τ} {w : σ}
    (h : preflight O env args w ≠ .ok none ∨
      ∃ e, (detectAndReason printable O env args llm s w).2 = .error e) :
    (runCycle printable O env args llm s w).calls = [] := by
  unfold runCycle
  cases hpreflight : preflight O env args w with
  | error e => rfl
  | ok skipped =>
    cases skipped with
    | some reason => rfl
    | none =>
      rcases h with h | ⟨e, he⟩
      · exact absurd hpreflight h
      · rcases hreason : detectAndReason printable O env args llm s w with ⟨s', r⟩
        rw [hreason] at he
        dsimp only at he
        rw [he]

lemma runCycle_calls_loop {llm : Option (LlmReasoner τ)} {s : τ} {w : σ}
    {opportunities : List Opportunity} {proposals : Proposals}
    (hpreflight : preflight O env args w = .ok none)
    (hreason : (detectAndReason printable O env args llm s w).2 = .ok (opportunities, proposals)) :
    (runCycle printable O env args llm s w).calls =
      (cycleLoop O env args proposals opportunities ⟨w, [], args.actions, 0, []⟩).1.calls := by
  unfold runCycle
  rw [hpreflight]
  rcases hr : detectAndReason printable O env args llm s w with ⟨s', r⟩
  rw [hr] at hreason
  dsimp only at hreason
  rw [hreason]

/-- The language model cannot change which calls a cycle makes, or what they return. -/
theorem runCycle_calls_eq {M : LlmReasoner τ} (llm : Option (LlmReasoner τ)) (s s' : τ) (w : σ)
    (h : ∀ opportunities, detected env args w = .ok opportunities → M.Contained opportunities s) :
    (runCycle printable O env { args with useLlm := true } (some M) s w).calls =
      (runCycle printable O env { args with useLlm := false } llm s' w).calls := by
  have hpreflight : ∀ b, preflight O env { args with useLlm := b } w = preflight O env args w :=
    fun _ => rfl
  have hreason : ∀ b (llm : Option (LlmReasoner τ)) (s : τ) opportunities,
      detected env args w = .ok opportunities →
      (detectAndReason printable O env { args with useLlm := b } llm s w).2 =
        (reasonAboutOpportunities printable O llm b opportunities s).2.map
          (fun proposals => (opportunities, proposals)) := by
    intro b llm s opportunities hfound
    have hdetected : detected env { args with useLlm := b } w = .ok opportunities := hfound
    rw [detectAndReason, hdetected]
  by_cases hgo : preflight O env args w = .ok none
  · cases hfound : detected env args w with
    | error e =>
      have hfail : ∀ b (llm : Option (LlmReasoner τ)) (s : τ),
          (detectAndReason printable O env { args with useLlm := b } llm s w).2 = .error e := by
        intro b llm s
        have hdetected : detected env { args with useLlm := b } w = .error e := hfound
        rw [detectAndReason, hdetected]
      rw [runCycle_calls_nil (.inr ⟨e, hfail true (some M) s⟩),
        runCycle_calls_nil (.inr ⟨e, hfail false llm s'⟩)]
    | ok opportunities =>
      have htrue := hreason true (some M) s opportunities hfound
      have hfalse := hreason false llm s' opportunities hfound
      have hempty : Proposals.Extends (fun _ => []) (fun _ => []) :=
        fun _ => ⟨[], rfl, List.forall_mem_nil _⟩
      rcases reasonLoop_extends printable O llm
          ((opportunities.head?.map Opportunity.tenantId).getD "") opportunities s'
          (h opportunities hfound) hempty with
        ⟨e, hfull, hbase⟩ | ⟨full, base, hextends, hfull, hbase⟩
      · rw [reasonAboutOpportunities, hfull] at htrue
        rw [reasonAboutOpportunities, hbase] at hfalse
        rw [runCycle_calls_nil (.inr ⟨e, htrue⟩), runCycle_calls_nil (.inr ⟨e, hfalse⟩)]
      · rw [reasonAboutOpportunities, hfull] at htrue
        rw [reasonAboutOpportunities, hbase] at hfalse
        rw [runCycle_calls_loop (hpreflight true ▸ hgo) htrue,
          runCycle_calls_loop (hpreflight false ▸ hgo) hfalse, cycleLoop_useLlm true,
          cycleLoop_useLlm false]
        have hrun : (cycleLoop O env args full opportunities ⟨w, [], args.actions, 0, []⟩).1.effect =
            (cycleLoop O env args base opportunities ⟨w, [], args.actions, 0, []⟩).1.effect :=
          (cycleLoop_extends hextends opportunities rfl).1
        exact congrArg (fun x => x.2.1) hrun
  · rw [runCycle_calls_nil (.inl (by rw [hpreflight]; exact hgo)),
      runCycle_calls_nil (.inl (by rw [hpreflight]; exact hgo))]

/-- The keys, action types and payloads that a cycle hands to the tool framework are the same with
and without the language model. -/
theorem llm_cannot_influence {M : LlmReasoner τ} (llm : Option (LlmReasoner τ)) (s s' : τ) (w : σ)
    (h : ∀ opportunities, detected env args w = .ok opportunities → M.Contained opportunities s) :
    (runCycle printable O env { args with useLlm := true } (some M) s w).calls.map Prod.fst =
      (runCycle printable O env { args with useLlm := false } llm s' w).calls.map Prod.fst := by
  rw [runCycle_calls_eq llm s s' w h]

end Influence

/-! ### A concrete cycle -/

lemma affects_soup : ["soup"] ≠ [] ∧ ∀ e ∈ ["soup"], strip e ≠ "" := by decide +kernel

/-- The soup no longer covers its cost. -/
def soupMargin : Opportunity where
  id := "margin_deterioration:soup"
  tenantId := "t"
  opportunityType := .marginDeterioration
  title := "Soup contribution margin is below target"
  cause := "Recipe-derived ingredient cost exceeds the configured contribution-margin target."
  affectedEntityIds := ["soup"]
  estimatedMonthlyImpact := .ofDigits true 100 0
  confidence := .ofDigits false 85 (-2)
  evidence := [(.str "menu_item_id", .str "soup"),
    (.str "current_price", .float (.finite (.ofDigits false 10 0))),
    (.str "recipe_cost", .float (.finite (.ofDigits false 8 0)))]
  identified := by decide +kernel
  explained := by decide +kernel
  affects := affects_soup
  confidence_in_range := by decide +kernel

/-- A model that asks for a price of its own and claims that nobody need look at it. -/
def eagerReasoner : LlmReasoner Unit where
  generate s _ := (s, .ok "")
  loads _ := .ok (.dict [(.str "candidates", .list [.dict [
    (.str "action_type", .str "price_change"),
    (.str "payload", .dict [(.str "menu_item_id", .str "soup"),
      (.str "new_price", .float (.finite (.ofDigits false 115 (-1))))]),
    (.str "rationale", .str "more"),
    (.str "requires_human_review", .bool false)]])])

/-- Detection finds the soup, and every call reports that it has executed its action. -/
def soupSurroundings : Surroundings Db where
  db w := w
  rlsEnforced _ := .ok ()
  lockAcquired _ := .ok true
  detect _ _ _ := .ok [soupMargin]
  execute _ w := (w, ⟨[], some (.ok (.dict [(.str "executed", .bool true)]))⟩)

def soupCycle : CycleArgs where
  tenantId := "t"
  mode := .execute
  useLlm := true
  scorer _ := .ok (.finite (.ofDigits false 1 0))
  minScore := .finite (.ofDigits false 0 0)
  cycleId := "c"
  maxOpportunities := 10
  maxActions := 3
  maxErrors := 3
  cooldown := 86400000000
  verifyChain := true
  requireRls := false
  now := 1000000

theorem soup_llm_cannot_influence :
    (runCycle (fun _ => true) (Outside.prescribed []) soupSurroundings
        { soupCycle with useLlm := true } (some eagerReasoner) () bistro).calls.map Prod.fst =
      (runCycle (fun _ => true) (Outside.prescribed []) soupSurroundings
        { soupCycle with useLlm := false } (some eagerReasoner) () bistro).calls.map Prod.fst ∧
    (runCycle (fun _ => true) (Outside.prescribed []) soupSurroundings
      { soupCycle with useLlm := false } (some eagerReasoner) () bistro).calls.length = 1 := by
  refine ⟨llm_cannot_influence (some eagerReasoner) () () bistro ?_, by decide +kernel⟩
  intro opportunities hfound
  have hsoup : [soupMargin] = opportunities := Except.ok.inj hfound
  rw [← hsoup]
  refine ⟨fun e he => ?_, trivial⟩
  have hok : ((eagerReasoner.reason soupMargin
      (allowedLlmActionsFor soupMargin.opportunityType) ()).2).isOk = true := by decide +kernel
  rw [he] at hok
  exact absurd hok Bool.false_ne_true

end OpsCopilot
