import OpsCopilot.Proofs.BlastRadius

/-!
# How a cycle ends

A cycle records one outcome for each opportunity that it handles, in order, and stops early when
enough of them have raised. An outcome that reports an error without an exception is not counted.
-/

namespace OpsCopilot

open Python Fallible

/-- The outcome is about the opportunity. -/
structure OpportunityOutcome.About (o : Opportunity) (x : OpportunityOutcome) : Prop where
  id_eq : x.opportunityId = o.id
  type_eq : x.opportunityType = o.opportunityType
  impact_eq : x.estimatedMonthlyImpact = o.estimatedMonthlyImpact

/-- The outcome stands for an exception: it reports an error and has no result. -/
def OpportunityOutcome.raised (x : OpportunityOutcome) : Bool :=
  x.status = .error ∧ x.result = none

/-- The outcomes that stand for an exception. -/
def raisedCount (outcomes : List OpportunityOutcome) : ℕ := outcomes.countP OpportunityOutcome.raised

lemma raisedCount_cons (x : OpportunityOutcome) (outcomes : List OpportunityOutcome) :
    raisedCount (x :: outcomes) = (if x.raised then 1 else 0) + raisedCount outcomes := by
  rw [raisedCount, List.countP_cons, raisedCount, add_comm]

section Cycle

variable {O : Outside} {σ τ : Type} {env : Surroundings σ} {args : CycleArgs}

/-! ### One opportunity -/

/-- What is settled without a call is about the opportunity and no error. -/
def Choice.Sound (o : Opportunity) (c : Choice) : Prop :=
  ∀ x, c = .settle x → x.About o ∧ x.raised = false

lemma Choice.rest_sound {o : Opportunity} {status : OutcomeStatus} {scored : List ScoredCandidate}
    {selected : Option ScoredCandidate} {detail : Option String} (h : status ≠ .error) :
    (Choice.rest o status scored selected detail).Sound o := by
  intro x hx
  obtain rfl := Choice.settle.inj hx
  refine ⟨⟨rfl, rfl, rfl⟩, ?_⟩
  simp [OpportunityOutcome.raised, h]

lemma chooseBest_sound {db : Db} {o : Opportunity} {n : ℤ} {scored : List ScoredCandidate}
    {best : ScoredCandidate} {c : Choice} (h : chooseBest O args db o n scored best = .ok c) :
    c.Sound o := by
  obtain ⟨cooling, -, h⟩ := bind_ok.mp h
  split_ifs at h
  · exact Except.ok.inj h ▸ Choice.rest_sound (by decide)
  · exact Except.ok.inj h ▸ Choice.rest_sound (by decide)
  · exact Except.ok.inj h ▸ Choice.rest_sound (by decide)
  · obtain ⟨key, -, h⟩ := bind_ok.mp h
    intro x hx
    rw [← pure_ok.mp h] at hx
    cases hx

lemma choose_sound {db : Db} {o : Opportunity} {cs : List CandidateAction} {n : ℤ} {c : Choice}
    (h : choose O args db o cs n = .ok c) : c.Sound o := by
  unfold choose at h
  split at h
  · exact Except.ok.inj h ▸ Choice.rest_sound (by decide)
  · split_ifs at h
    · exact Except.ok.inj h ▸ Choice.rest_sound (by decide)
    · obtain ⟨scored, -, h⟩ := bind_ok.mp h
      unfold chooseAmong at h
      dsimp only at h
      split at h
      · exact Except.ok.inj h ▸ Choice.rest_sound (by decide)
      · exact Except.ok.inj h ▸ Choice.rest_sound (by decide)
      · exact chooseBest_sound h

/-- What an opportunity is recorded with, when it has not raised. -/
lemma handle_sound {w : σ} {o : Opportunity} {cs : List CandidateAction} {n : ℤ}
    {x : OpportunityOutcome} (h : (handle O env args w o cs n).outcome = some (.ok x)) :
    x.About o ∧ x.raised = false := by
  unfold handle at h
  cases hchoice : choose O args (env.db w) o cs n with
  | error e =>
    rw [hchoice] at h
    cases h
  | ok choice =>
    rw [hchoice] at h
    cases choice with
    | settle outcome =>
      obtain rfl := Except.ok.inj (Option.some.inj h)
      exact choose_sound hchoice outcome rfl
    | act request scored best =>
      dsimp only at h
      obtain ⟨r, -, hr⟩ := Option.map_eq_some_iff.mp h
      split at hr
      · cases hr
      · rw [← Except.ok.inj hr]
        refine ⟨⟨rfl, rfl, rfl⟩, ?_⟩
        simp [OpportunityOutcome.raised]
      · cases hr

/-- One opportunity adds one outcome, and one error when it has raised. -/
lemma record_spec {p : Progress σ} {o : Opportunity} {cs : List CandidateAction}
    {r : Except PyException OpportunityOutcome}
    (hr : (handle O env args p.world o cs p.actionsLeft).outcome = some r) :
    ∃ x, x.About o ∧
      (p.record o (handle O env args p.world o cs p.actionsLeft) r).outcomes = p.outcomes ++ [x] ∧
      (p.record o (handle O env args p.world o cs p.actionsLeft) r).errors =
        p.errors + (if x.raised then 1 else 0) := by
  cases r with
  | error e => exact ⟨failedOutcome o e, ⟨rfl, rfl, rfl⟩, rfl, rfl⟩
  | ok x =>
    obtain ⟨habout, hquiet⟩ := handle_sound hr
    refine ⟨x, habout, rfl, ?_⟩
    rw [hquiet]
    rfl

/-! ### The loop -/

/-- What the loop over some opportunities has recorded when it ends. -/
structure LoopRecord (args : CycleArgs) (opportunities : List Opportunity) (p p' : Progress σ)
    (last : LoopEnd) (new : List OpportunityOutcome) : Prop where
  outcomes_eq : p'.outcomes = p.outcomes ++ new
  fits : new.length ≤ opportunities.length
  inOrder : List.Forall₂ (fun o x => OpportunityOutcome.About o x)
    (opportunities.take new.length) new
  completed : last = .completed → new.length = opportunities.length
  aborted : last = .aborted → new.length < opportunities.length
  limited : ∀ j < new.length, (p.errors + raisedCount (new.take j) : ℤ) < args.maxErrors

theorem cycleLoop_record (proposals : Proposals) (opportunities : List Opportunity)
    (p : Progress σ) : ∃ new, LoopRecord args opportunities p
      (cycleLoop O env args proposals opportunities p).1
      (cycleLoop O env args proposals opportunities p).2 new := by
  induction opportunities generalizing p with
  | nil =>
    exact ⟨[], (List.append_nil _).symm, le_rfl, .nil, fun _ => rfl, LoopEnd.noConfusion,
      fun j hj => absurd hj (Nat.not_lt_zero j)⟩
  | cons o rest ih =>
    rw [cycleLoop]
    split_ifs with hlimit
    · exact ⟨[], (List.append_nil _).symm, Nat.zero_le _, .nil, LoopEnd.noConfusion,
        fun _ => Nat.succ_pos _, fun j hj => absurd hj (Nat.not_lt_zero j)⟩
    · dsimp only
      cases hr : (handle O env args p.world o (proposals o.id) p.actionsLeft).outcome with
      | none =>
        exact ⟨[], (List.append_nil _).symm, Nat.zero_le _, .nil, LoopEnd.noConfusion,
          LoopEnd.noConfusion, fun j hj => absurd hj (Nat.not_lt_zero j)⟩
      | some r =>
        dsimp only
        obtain ⟨x, habout, houtcomes, herrors⟩ := record_spec hr
        obtain ⟨new, hnew⟩ := ih (p.record o
          (handle O env args p.world o (proposals o.id) p.actionsLeft) r)
        refine ⟨x :: new, ?_, Nat.succ_le_succ hnew.fits, .cons habout hnew.inOrder,
          fun h => congrArg Nat.succ (hnew.completed h),
          fun h => Nat.succ_lt_succ (hnew.aborted h), ?_⟩
        · rw [hnew.outcomes_eq, houtcomes, List.append_assoc, List.singleton_append]
        · intro j hj
          cases j with
          | zero =>
            rw [List.take_zero, raisedCount, List.countP_nil, Nat.cast_zero, add_zero]
            exact not_le.mp hlimit
          | succ j =>
            have hlt := hnew.limited j (Nat.lt_of_succ_lt_succ hj)
            rw [herrors] at hlt
            rw [List.take_succ_cons, raisedCount_cons]
            push_cast at hlt ⊢
            rw [← add_assoc]
            exact hlt

/-! ### The cycle -/

/-- A cycle that gets past detection and reasoning records one outcome for each opportunity of a
prefix, in order. It is completed when the prefix is the whole list and aborted otherwise, and it
handles no opportunity after as many exceptions as it may have errors. -/
theorem cycle_stops (printable : Char → Bool) (llm : Option (LlmReasoner τ)) (s s' : τ) (w : σ)
    {opportunities : List Opportunity} {proposals : Proposals} {report : CycleReport}
    (hpreflight : preflight O env args w = .ok none)
    (hdetect : detectAndReason printable O env args llm s w = (s', .ok (opportunities, proposals)))
    (hreport : (runCycle printable O env args llm s w).report = some (.ok report)) :
    report.outcomes.length ≤ opportunities.length ∧
      List.Forall₂ (fun o x => OpportunityOutcome.About o x)
        (opportunities.take report.outcomes.length) report.outcomes ∧
      (report.status = .completed ↔ report.outcomes.length = opportunities.length) ∧
      (report.status = .aborted ↔ report.outcomes.length < opportunities.length) ∧
      ∀ j < report.outcomes.length,
        (raisedCount (report.outcomes.take j) : ℤ) < args.maxErrors := by
  obtain ⟨new, hnew⟩ : ∃ new, LoopRecord args opportunities ⟨w, [], args.actions, 0, []⟩
      (cycleLoop O env args proposals opportunities ⟨w, [], args.actions, 0, []⟩).1
      (cycleLoop O env args proposals opportunities ⟨w, [], args.actions, 0, []⟩).2 new :=
    cycleLoop_record proposals opportunities _
  unfold runCycle at hreport
  rw [hpreflight, hdetect] at hreport
  dsimp only at hreport
  have houtcomes := hnew.outcomes_eq
  rw [List.nil_append] at houtcomes
  have hlimited : ∀ j < new.length, (raisedCount (new.take j) : ℤ) < args.maxErrors := by
    intro j hj
    have hlt := hnew.limited j hj
    rwa [Nat.cast_zero, zero_add] at hlt
  cases hend : (cycleLoop O env args proposals opportunities ⟨w, [], args.actions, 0, []⟩).2 with
  | completed =>
    have hall := hnew.completed hend
    rw [hend, houtcomes] at hreport
    obtain rfl := Except.ok.inj (Option.some.inj hreport)
    refine ⟨hnew.fits, hnew.inOrder, iff_of_true rfl hall, iff_of_false ?_ ?_, hlimited⟩
    · exact CycleStatus.noConfusion
    · exact hall.not_lt
  | aborted =>
    have hless := hnew.aborted hend
    rw [hend, houtcomes] at hreport
    obtain rfl := Except.ok.inj (Option.some.inj hreport)
    refine ⟨hnew.fits, hnew.inOrder, iff_of_false ?_ hless.ne, iff_of_true rfl hless, hlimited⟩
    exact CycleStatus.noConfusion
  | cut =>
    rw [hend] at hreport
    cases hreport

end Cycle

/-! ### Two dishes under contention -/

/-- A call that gives up waiting for another change to the same dish. -/
def waitingScript (n : String) (now : Timestamp) : List ExecutionStep :=
  [.registry (.claim now), .registry .enter, .tool .simulate, .tool (.persist ("d" ++ n)),
    .tool .timeout, .tool (.log now), .handOver, .registry (.finish now)]

/-- A cycle over both dishes that stops at the first error. -/
def strictCycle : CycleArgs := { soupCycle with useLlm := false, maxActions := 2, maxErrors := 1 }

def strictRun (first second : List ExecutionStep) : CycleRun ScriptedWorld Unit :=
  runCycle (fun _ => true) (.prescribed [])
    (scripted (.prescribed []) (fun _ => .ok ()) (fun _ => .ok true)
      (fun _ _ _ => .ok [soupDemand, stewDemand]))
    strictCycle none () ⟨⟨⟨brasserie, [], []⟩, .empty⟩, [first, second]⟩

/-- The statuses of a report. -/
def statuses (run : CycleRun ScriptedWorld Unit) : Option (CycleStatus × List OutcomeStatus) :=
  run.report.bind (fun r => r.toOption.map (fun report =>
    (report.status, report.outcomes.map OpportunityOutcome.status)))

/-- Both dishes are handled, although the first outcome is an error already. -/
theorem second_dish_handled :
    statuses (strictRun (waitingScript "1" 2000000) (waitingScript "2" 3000000)) =
      some (.completed, [.error, .error]) ∧ strictCycle.maxErrors = 1 := by
  decide +kernel

/-- The first call loses its connection. -/
def brokenRun : CycleRun ScriptedWorld Unit :=
  strictRun [.registry (.claim 2000000), .raises ⟨.operationalError, "connection lost"⟩] []

lemma brokenRun_statuses : statuses brokenRun = some (.aborted, [.error]) := by decide +kernel

/-- Both dishes have proposals when the cycle starts. -/
lemma strict_detects (w : ScriptedWorld) : ∃ proposals, detectAndReason (fun _ => true)
    (.prescribed []) (scripted (.prescribed []) (fun _ => .ok ()) (fun _ => .ok true)
      (fun _ _ _ => .ok [soupDemand, stewDemand]))
    strictCycle (none : Option (LlmReasoner Unit)) () w =
    ((), .ok ([soupDemand, stewDemand], proposals)) := by
  have hreasons : (reasonAboutOpportunities (fun _ => true) (.prescribed [])
      (none : Option (LlmReasoner Unit)) false [soupDemand, stewDemand] ()).2.toOption.isSome := by
    decide +kernel
  obtain ⟨proposals, hproposals⟩ := Option.isSome_iff_exists.mp hreasons
  obtain ⟨proposals, hp, -⟩ := exists_ok_of_toOption (f := id) (by rwa [Option.map_id])
  refine ⟨proposals, Prod.ext rfl ?_⟩
  change (reasonAboutOpportunities (fun _ => true) (.prescribed [])
      (none : Option (LlmReasoner Unit)) false [soupDemand, stewDemand] ()).2.map _ = _
  rw [hp]
  rfl

/-- The cycle is aborted before the second dish. -/
theorem broken_run_stops : ∃ report, brokenRun.report = some (.ok report) ∧
    report.outcomes.length < [soupDemand, stewDemand].length ∧
    (raisedCount (report.outcomes.take 0) : ℤ) < strictCycle.maxErrors := by
  obtain ⟨r, hr, hstatuses⟩ := Option.bind_eq_some_iff.mp brokenRun_statuses
  obtain ⟨report, rfl, hpair⟩ := exists_ok_of_toOption hstatuses
  obtain ⟨hstatus, houtcomes⟩ := Prod.mk.inj hpair
  have hlength := congrArg List.length houtcomes
  rw [List.length_map, List.length_singleton] at hlength
  obtain ⟨proposals, hdetect⟩ := strict_detects ⟨⟨⟨brasserie, [], []⟩, .empty⟩,
    [[.registry (.claim 2000000), .raises ⟨.operationalError, "connection lost"⟩], []]⟩
  have hstops := cycle_stops (fun _ => true) none () () _ rfl hdetect hr
  refine ⟨report, hr, hstops.2.2.2.1.mp hstatus, ?_⟩
  exact hstops.2.2.2.2 0 (by rw [hlength]; exact Nat.one_pos)

end OpsCopilot
