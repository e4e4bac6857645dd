import OpsCopilot.Proofs.EvaluationMetrics

/-!
# When metrics are defined

`evaluate` meets its contract on accepted records exactly when they are measurable: every amount
and every impact is a number, and the numbers of each average go together.
-/

namespace OpsCopilot

open Python Fallible

/-! ### The contract -/

/-- The rates, each with the records that count for it. -/
def rateSources : List ((EvaluationMetrics → Option ℚ) × (EvaluationRecord → Bool)) :=
  [((·.opportunityDetectionAccuracy), fun r => r.opportunityWasCorrect.isSome),
    ((·.candidateActionValidity), fun r => r.candidateWasValid.isSome),
    ((·.decisionSuccessRate), fun r => r.decisionSucceeded.isSome),
    ((·.autonomousActionRate), fun r => r.autonomous.isSome),
    ((·.humanOverrideRate), fun r => r.humanOverrode.isSome),
    ((·.policyViolationRate), fun r => r.policyViolation.isSome),
    ((·.executionFailureRate), fun r => r.executionFailed.isSome),
    ((·.retryRate), fun r => r.retryCount.isSome)]

/-- The means, each with the records that count for it. -/
def meanSources : List ((EvaluationMetrics → Option Number) × (EvaluationRecord → Bool)) :=
  [((·.meanDecisionLatencyMs), fun r => r.latencyMs.isSome),
    ((·.meanCostPerDecisionUsd), fun r => r.costUsd.isSome),
    ((·.meanAbsolutePredictionError), fun r => r.impacts.isSome),
    ((·.meanRelativePredictionError), fun r => r.impacts.any hasBaseline)]

/-- Metrics are returned, the same in every order; the rates are shares, and a value is missing
exactly when no record counts for it. -/
def Evaluates (R : TextReaders) (tenantId : Value) (records : List EvaluationRecord) : Prop :=
  ∃ m, evaluate R tenantId records = .ok m ∧
    (∀ s ∈ rateSources, (s.1 m = none ↔ ∀ r ∈ records, s.2 r = false) ∧
      ∀ x, s.1 m = some x → 0 ≤ x ∧ x ≤ 1) ∧
    (∀ s ∈ meanSources, (s.1 m = none ↔ ∀ r ∈ records, s.2 r = false)) ∧
    ∀ rs, rs.Perm records → evaluate R tenantId rs = .ok m

/-! ### Measurable records -/

namespace EvaluationRecord

variable (r : EvaluationRecord)

def latencyNumber : Option Number := r.latencyMs.bind finiteNumber

def costNumber : Option Number := r.costUsd.bind finiteNumber

def absoluteNumber : Option Number := (r.impacts.bind comparison).map Comparison.absolute

def relativeNumber : Option Number :=
  (r.impacts.bind comparison).bind fun c => if c.actual.value = 0 then none else some c.relative

end EvaluationRecord

/-- The values of the records are numbers that go together. -/
structure Readable (records : List EvaluationRecord) : Prop where
  /-- No amount is a text. -/
  latencies : ∀ r ∈ records, ∀ v, r.latencyMs = some v → finiteNumber v ≠ none
  costs : ∀ r ∈ records, ∀ v, r.costUsd = some v → finiteNumber v ≠ none
  /-- No impact is a text, and no float stands beside a `Decimal`. -/
  impacts : ∀ r ∈ records, ∀ pair, r.impacts = some pair → comparison pair ≠ none
  /-- Every relative error is in range. -/
  quotients : ∀ r ∈ records, ∀ pair, r.impacts = some pair → ∀ c, comparison pair = some c →
    c.actual.value ≠ 0 → c.Divides

/-- What the constructor would have to check for the metrics to be defined. -/
structure Measurable (records : List EvaluationRecord) : Prop extends Readable records where
  latency : Averageable (records.filterMap (·.latencyNumber))
  cost : Averageable (records.filterMap (·.costNumber))
  absoluteErrors : Averageable (records.filterMap (·.absoluteNumber))
  relativeErrors : Averageable (records.filterMap (·.relativeNumber))

/-! ### Rates -/

section Rates

variable {α : Type} {counts : α → Bool} {known known' : List α}

lemma rate_none_iff : rate counts known = none ↔ known = [] := by
  unfold rate
  split_ifs with h
  · exact iff_of_true rfl (List.isEmpty_iff.mp h)
  · exact iff_of_false (by rintro ⟨⟩) (fun hnil => h (List.isEmpty_iff.mpr hnil))

lemma rate_perm (h : known'.Perm known) : rate counts known' = rate counts known := by
  rw [rate, rate, h.isEmpty_eq, h.countP_eq, h.length_eq]

lemma rate_unit {x : ℚ} (h : rate counts known = some x) : 0 ≤ x ∧ x ≤ 1 := by
  unfold rate at h
  split_ifs at h with hempty
  obtain rfl := Option.some.inj h
  have hpos : (0 : ℚ) < known.length := by
    exact_mod_cast List.length_pos_of_ne_nil (fun hnil => hempty (List.isEmpty_iff.mpr hnil))
  have hcount : ((known.countP counts : ℕ) : ℚ) ≤ known.length := by
    exact_mod_cast List.countP_le_length
  have hfound := binary64_unit (div_nonneg (by positivity) hpos.le) ((div_le_one hpos).mpr hcount)
  have hround := pyRound_unit 4 hfound.1 hfound.2
  exact binary64_unit hround.1 hround.2

lemma filterMap_nil_iff {β : Type} {f : α → Option β} :
    known.filterMap f = [] ↔ ∀ r ∈ known, (f r).isSome = false := by
  simp [List.filterMap_eq_nil_iff]

end Rates

/-! ### Operands of the averages -/

section Operands

variable {values : List Value} {m : Option Number}

/-- Numbers are summed as they are. -/
lemma sumNumbers_operand (h : ∀ v ∈ values, finiteNumber v ≠ none) :
    sumNumbers operand values = sumNumbers .ok (values.filterMap finiteNumber) := by
  have hrun : ∀ acc : Number, values.foldlM (fun acc v => do acc.add (← operand v)) acc =
      (values.filterMap finiteNumber).foldlM (fun acc x => do acc.add (← Except.ok x)) acc := by
    induction values with
    | nil => exact fun _ => rfl
    | cons v values ih =>
      intro acc
      obtain ⟨x, hx⟩ := Option.ne_none_iff_exists'.mp (h v List.mem_cons_self)
      rw [List.filterMap_cons_some hx, List.foldlM_cons, List.foldlM_cons, operand_ok hx, ok_bind]
      exact congrArg _ (funext (ih fun w hw => h w (List.mem_cons_of_mem v hw)))
  exact hrun _

lemma length_filterMap (h : ∀ v ∈ values, finiteNumber v ≠ none) :
    (values.filterMap finiteNumber).length = values.length := by
  rw [List.length_filterMap_eq_countP, List.countP_eq_length]
  exact fun v hv => Option.isSome_iff_ne_none.mpr (h v hv)

lemma average_operand (h : ∀ v ∈ values, finiteNumber v ≠ none) :
    average operand values = average .ok (values.filterMap finiteNumber) := by
  have hempty : (values.filterMap finiteNumber).isEmpty = values.isEmpty := by
    rw [Bool.eq_iff_iff, List.isEmpty_iff_length_eq_zero, List.isEmpty_iff_length_eq_zero,
      length_filterMap h]
  rw [average, average, sumNumbers_operand h, length_filterMap h, hempty]

/-- A text among the values has no average. -/
lemma operands_of_average (h : average operand values = .ok m) :
    ∀ v ∈ values, finiteNumber v ≠ none := by
  have hrun : ∀ acc s : Number,
      values.foldlM (fun acc v => do acc.add (← operand v)) acc = .ok s →
        ∀ v ∈ values, finiteNumber v ≠ none := by
    clear h
    induction values with
    | nil => exact fun _ _ _ v hv => absurd hv List.not_mem_nil
    | cons w values ih =>
      intro acc s hs v hv hnone
      rw [List.foldlM_cons] at hs
      obtain ⟨next, hnext, hs⟩ := bind_ok.mp hs
      rcases List.mem_cons.mp hv with rfl | hv
      · rw [operand_error hnone, error_bind] at hnext
        cases hnext
      · exact ih next s hs v hv hnone
  intro v hv
  rw [average, if_neg (fun hnil => by
    rw [List.isEmpty_iff.mp hnil] at hv
    exact List.not_mem_nil hv)] at h
  obtain ⟨s, hs, -⟩ := bind_ok.mp h
  exact hrun _ s hs v hv

lemma average_none_iff {α : Type} {read : α → Except PyException Number} {xs : List α}
    (h : average read xs = .ok m) : m = none ↔ xs = [] := by
  unfold average at h
  split_ifs at h with hempty
  · exact iff_of_true (Except.ok.inj h).symm (List.isEmpty_iff.mp hempty)
  · obtain ⟨s, -, h⟩ := bind_ok.mp h
    obtain ⟨mean, -, h⟩ := bind_ok.mp h
    obtain ⟨rounded, -, h⟩ := bind_ok.mp h
    obtain rfl := Except.ok.inj h
    exact iff_of_false (by rintro ⟨⟩) (fun hnil => hempty (List.isEmpty_iff.mpr hnil))

end Operands

/-! ### Checked records -/

section Records

variable {R : TextReaders} {tenantId : Value} {t : String} {records : List EvaluationRecord}

lemma EvaluationRecord.Checked.impacts {r : EvaluationRecord} (h : r.Checked)
    {pair : Value × Value} (hpair : r.impacts = some pair) :
    CheckedNumber pair.1 ∧ CheckedNumber pair.2 := by
  rw [EvaluationRecord.impacts] at hpair
  cases hp : r.predictedEconomicImpact with
  | none =>
    rw [hp] at hpair
    cases hpair
  | some p =>
    cases ha : r.actualEconomicImpact with
    | none =>
      rw [hp, ha] at hpair
      cases hpair
    | some a =>
      rw [hp, ha] at hpair
      obtain rfl := Option.some.inj hpair
      exact ⟨h.predicted p hp, h.actual a ha⟩

/-- The integers among the numbers of a record are not negative. -/
lemma absolute_integer_nonneg (c : Comparison) : 0 ≤ c.absolute.integer := by
  unfold Comparison.absolute
  cases c.arithmetic with
  | integers => exact Int.floor_nonneg.mpr (abs_nonneg _)
  | doubles | decimals => exact le_rfl

lemma relative_integer (c : Comparison) : c.relative.integer = 0 := by
  unfold Comparison.relative
  cases c.arithmetic with
  | integers | doubles | decimals => rfl

section Nonnegative

variable {r : EvaluationRecord} {x : Number}

lemma latencyNumber_nonneg (h : r.Checked) (hx : r.latencyNumber = some x) : 0 ≤ x.integer := by
  obtain ⟨v, hv, hx⟩ := Option.bind_eq_some_iff.mp hx
  exact (h.latency v hv).2 x hx

lemma costNumber_nonneg (h : r.Checked) (hx : r.costNumber = some x) : 0 ≤ x.integer := by
  obtain ⟨v, hv, hx⟩ := Option.bind_eq_some_iff.mp hx
  exact (h.cost v hv).2 x hx

lemma absoluteNumber_nonneg (hx : r.absoluteNumber = some x) : 0 ≤ x.integer := by
  obtain ⟨c, -, rfl⟩ := Option.map_eq_some_iff.mp hx
  exact absolute_integer_nonneg c

lemma relativeNumber_nonneg (hx : r.relativeNumber = some x) : 0 ≤ x.integer := by
  obtain ⟨c, -, hx⟩ := Option.bind_eq_some_iff.mp hx
  split_ifs at hx
  obtain rfl := Option.some.inj hx
  exact (relative_integer c).ge

end Nonnegative

/-- `evaluate` on the records of its tenant. -/
lemma evaluate_ok_iff (ht : canonicalTenantId R tenantId = .ok t)
    (hrecords : ∀ r ∈ records, r.tenantId = t) {m : EvaluationMetrics} :
    evaluate R tenantId records = .ok m ↔
      ∃ absoluteErrors relativeErrors latency cost meanAbsolute meanRelative,
        (records.filterMap (·.impacts)).mapM absoluteError = .ok absoluteErrors ∧
        ((records.filterMap (·.impacts)).filter hasBaseline).mapM relativeError =
          .ok relativeErrors ∧
        average operand (records.filterMap (·.latencyMs)) = .ok latency ∧
        average operand (records.filterMap (·.costUsd)) = .ok cost ∧
        average .ok absoluteErrors = .ok meanAbsolute ∧
        average .ok relativeErrors = .ok meanRelative ∧
        EvaluationMetrics.ofRecords records latency cost meanAbsolute meanRelative = m := by
  have hraise : raiseIf (∃ r ∈ records, r.tenantId ≠ t)
      (⟨.valueError, "records must all belong to tenant_id"⟩ : PyException) = .ok () :=
    raiseIf_ok.mpr (fun ⟨r, hr, hne⟩ => hne (hrecords r hr))
  rw [evaluate, ht, ok_bind, hraise, ok_bind]
  simp only [bind_ok, pure_ok]
  constructor
  · rintro ⟨absoluteErrors, habs, relativeErrors, hrel, latency, hlat, cost, hcost, meanAbsolute,
      hma, meanRelative, hmr, hm⟩
    exact ⟨absoluteErrors, relativeErrors, latency, cost, meanAbsolute, meanRelative, habs, hrel,
      hlat, hcost, hma, hmr, hm⟩
  · rintro ⟨absoluteErrors, relativeErrors, latency, cost, meanAbsolute, meanRelative, habs, hrel,
      hlat, hcost, hma, hmr, hm⟩
    exact ⟨absoluteErrors, habs, relativeErrors, hrel, latency, hlat, cost, hcost, meanAbsolute,
      hma, meanRelative, hmr, hm⟩

/-! ### Errors of predictions -/

lemma mem_impacts {pair : Value × Value} :
    pair ∈ records.filterMap (·.impacts) ↔ ∃ r ∈ records, r.impacts = some pair :=
  List.mem_filterMap

lemma hasBaseline_eq {pair : Value × Value} {c : Comparison} (h : comparison pair = some c) :
    hasBaseline pair = decide (c.actual.value ≠ 0) := by
  rw [hasBaseline, (comparison_some h).2.1]
  rfl

lemma absoluteErrors_eq (hchecked : ∀ r ∈ records, r.Checked)
    (h : ∀ r ∈ records, ∀ pair, r.impacts = some pair → comparison pair ≠ none) :
    (records.filterMap (·.impacts)).mapM absoluteError =
      .ok (records.filterMap (·.absoluteNumber)) := by
  have hnumbers : records.filterMap (·.absoluteNumber) =
      (records.filterMap (·.impacts)).filterMap
        (fun pair => (comparison pair).map Comparison.absolute) := by
    rw [List.filterMap_filterMap]
    refine List.filterMap_congr fun r _ => ?_
    rw [EvaluationRecord.absoluteNumber, Option.map_bind]
    rfl
  rw [hnumbers]
  refine mapM_eq_filterMap fun pair hpair => ?_
  obtain ⟨r, hr, hpair⟩ := mem_impacts.mp hpair
  obtain ⟨c, hc⟩ := Option.ne_none_iff_exists'.mp (h r hr pair hpair)
  have hcheck := (hchecked r hr).impacts hpair
  exact ⟨c.absolute, by rw [hc]; rfl, (absoluteError_ok_iff hcheck.1 hcheck.2).mpr ⟨c, hc, rfl⟩⟩

lemma relativeErrors_eq (hchecked : ∀ r ∈ records, r.Checked) (h : Readable records) :
    ((records.filterMap (·.impacts)).filter hasBaseline).mapM relativeError =
      .ok (records.filterMap (·.relativeNumber)) := by
  have hnumbers : records.filterMap (·.relativeNumber) =
      ((records.filterMap (·.impacts)).filter hasBaseline).filterMap
        (fun pair => (comparison pair).map Comparison.relative) := by
    rw [List.filterMap_filter, List.filterMap_filterMap]
    refine List.filterMap_congr fun r hr => ?_
    rw [EvaluationRecord.relativeNumber]
    cases hpair : r.impacts with
    | none => rfl
    | some pair =>
      obtain ⟨c, hc⟩ := Option.ne_none_iff_exists'.mp (h.impacts r hr pair hpair)
      rw [Option.bind_some, Option.bind_some, hc, hasBaseline_eq hc]
      by_cases hzero : c.actual.value = 0
      · simp [hzero]
      · simp [hzero]
  rw [hnumbers]
  refine mapM_eq_filterMap fun pair hpair => ?_
  obtain ⟨hpair, hbase⟩ := List.mem_filter.mp hpair
  obtain ⟨r, hr, hpair⟩ := mem_impacts.mp hpair
  obtain ⟨c, hc⟩ := Option.ne_none_iff_exists'.mp (h.impacts r hr pair hpair)
  rw [hasBaseline_eq hc] at hbase
  have hne := of_decide_eq_true hbase
  have hcheck := (hchecked r hr).impacts hpair
  exact ⟨c.relative, by rw [hc]; rfl, (relativeError_ok_iff hcheck.1 hcheck.2 hc hne).mpr
    ⟨h.quotients r hr pair hpair c hc hne, rfl⟩⟩

lemma amounts_eq (field : EvaluationRecord → Option Value)
    (h : ∀ r ∈ records, ∀ v, field r = some v → finiteNumber v ≠ none) :
    average operand (records.filterMap field) =
      average .ok (records.filterMap fun r => (field r).bind finiteNumber) := by
  rw [average_operand, List.filterMap_filterMap]
  intro v hv
  obtain ⟨r, hr, hfield⟩ := List.mem_filterMap.mp hv
  exact h r hr v hfield

/-- What has been computed when metrics are returned. -/
structure Computed (records : List EvaluationRecord) : Prop extends Readable records where
  latency : ∃ mean, average .ok (records.filterMap (·.latencyNumber)) = .ok mean
  cost : ∃ mean, average .ok (records.filterMap (·.costNumber)) = .ok mean
  absoluteErrors : ∃ mean, average .ok (records.filterMap (·.absoluteNumber)) = .ok mean
  relativeErrors : ∃ mean, average .ok (records.filterMap (·.relativeNumber)) = .ok mean

lemma computed_of_evaluate (ht : canonicalTenantId R tenantId = .ok t)
    (hrecords : ∀ r ∈ records, r.tenantId = t) (hchecked : ∀ r ∈ records, r.Checked)
    {m : EvaluationMetrics} (h : evaluate R tenantId records = .ok m) : Computed records := by
  obtain ⟨absoluteErrors, relativeErrors, latency, cost, meanAbsolute, meanRelative, habs, hrel,
    hlat, hcost, hma, hmr, -⟩ := (evaluate_ok_iff ht hrecords).mp h
  have hlatencies : ∀ r ∈ records, ∀ v, r.latencyMs = some v → finiteNumber v ≠ none :=
    fun r hr v hv => operands_of_average hlat v (List.mem_filterMap.mpr ⟨r, hr, hv⟩)
  have hcosts : ∀ r ∈ records, ∀ v, r.costUsd = some v → finiteNumber v ≠ none :=
    fun r hr v hv => operands_of_average hcost v (List.mem_filterMap.mpr ⟨r, hr, hv⟩)
  have himpacts : ∀ r ∈ records, ∀ pair, r.impacts = some pair → comparison pair ≠ none := by
    intro r hr pair hpair
    obtain ⟨e, -, he⟩ := exists_mem_of_mapM habs (mem_impacts.mpr ⟨r, hr, hpair⟩)
    have hcheck := (hchecked r hr).impacts hpair
    obtain ⟨c, hc, -⟩ := (absoluteError_ok_iff hcheck.1 hcheck.2).mp he
    exact Option.ne_none_iff_exists'.mpr ⟨c, hc⟩
  have hquotients : ∀ r ∈ records, ∀ pair, r.impacts = some pair →
      ∀ c, comparison pair = some c → c.actual.value ≠ 0 → c.Divides := by
    intro r hr pair hpair c hc hne
    have hbase : pair ∈ (records.filterMap (·.impacts)).filter hasBaseline := by
      refine List.mem_filter.mpr ⟨mem_impacts.mpr ⟨r, hr, hpair⟩, ?_⟩
      rw [hasBaseline_eq hc]
      exact decide_eq_true hne
    obtain ⟨e, -, he⟩ := exists_mem_of_mapM hrel hbase
    have hcheck := (hchecked r hr).impacts hpair
    exact ((relativeError_ok_iff hcheck.1 hcheck.2 hc hne).mp he).1
  have hreadable : Readable records := ⟨hlatencies, hcosts, himpacts, hquotients⟩
  rw [absoluteErrors_eq hchecked himpacts] at habs
  rw [relativeErrors_eq hchecked hreadable] at hrel
  rw [← Except.ok.inj habs] at hma
  rw [← Except.ok.inj hrel] at hmr
  rw [amounts_eq _ hlatencies] at hlat
  rw [amounts_eq _ hcosts] at hcost
  exact ⟨hreadable, ⟨_, hlat⟩, ⟨_, hcost⟩, ⟨_, hma⟩, ⟨_, hmr⟩⟩

lemma evaluate_of_readable (ht : canonicalTenantId R tenantId = .ok t)
    (hrecords : ∀ r ∈ records, r.tenantId = t) (hchecked : ∀ r ∈ records, r.Checked)
    (h : Readable records) {latency cost meanAbsolute meanRelative : Option Number}
    (hlatency : average .ok (records.filterMap (·.latencyNumber)) = .ok latency)
    (hcost : average .ok (records.filterMap (·.costNumber)) = .ok cost)
    (habsolute : average .ok (records.filterMap (·.absoluteNumber)) = .ok meanAbsolute)
    (hrelative : average .ok (records.filterMap (·.relativeNumber)) = .ok meanRelative) :
    evaluate R tenantId records =
      .ok (EvaluationMetrics.ofRecords records latency cost meanAbsolute meanRelative) :=
  (evaluate_ok_iff ht hrecords).mpr ⟨_, _, _, _, _, _, absoluteErrors_eq hchecked h.impacts,
    relativeErrors_eq hchecked h, (amounts_eq _ h.latencies).trans hlatency,
    (amounts_eq _ h.costs).trans hcost, habsolute, hrelative, rfl⟩

/-! ### The contract met -/

lemma Readable.perm {rs : List EvaluationRecord} (h : Readable records)
    (hperm : rs.Perm records) : Readable rs where
  latencies r hr := h.latencies r (hperm.mem_iff.mp hr)
  costs r hr := h.costs r (hperm.mem_iff.mp hr)
  impacts r hr := h.impacts r (hperm.mem_iff.mp hr)
  quotients r hr := h.quotients r (hperm.mem_iff.mp hr)

lemma ofRecords_perm {rs : List EvaluationRecord} (hperm : rs.Perm records)
    (latency cost meanAbsolute meanRelative : Option Number) :
    EvaluationMetrics.ofRecords rs latency cost meanAbsolute meanRelative =
      EvaluationMetrics.ofRecords records latency cost meanAbsolute meanRelative := by
  unfold EvaluationMetrics.ofRecords
  simp only [rate_perm (hperm.filterMap _), hperm.length_eq, (hperm.filterMap _).countP_eq]

/-- Metrics around averages that were computed. -/
lemma ofRecords_rates (latency cost meanAbsolute meanRelative : Option Number) :
    ∀ s ∈ rateSources,
      (s.1 (.ofRecords records latency cost meanAbsolute meanRelative) = none ↔
        ∀ r ∈ records, s.2 r = false) ∧
      ∀ x, s.1 (.ofRecords records latency cost meanAbsolute meanRelative) = some x →
        0 ≤ x ∧ x ≤ 1 := by
  simp only [rateSources, List.forall_mem_cons, List.not_mem_nil, false_implies, implies_true,
    and_true]
  refine ⟨?_, ?_, ?_, ?_, ?_, ?_, ?_, ?_⟩
  all_goals exact ⟨rate_none_iff.trans filterMap_nil_iff, fun x hx => rate_unit hx⟩

lemma absoluteNumber_isSome (h : Readable records) {r : EvaluationRecord} (hr : r ∈ records) :
    r.absoluteNumber.isSome = r.impacts.isSome := by
  rw [EvaluationRecord.absoluteNumber, Option.isSome_map]
  cases hpair : r.impacts with
  | none => rfl
  | some pair => exact Option.isSome_iff_ne_none.mpr (h.impacts r hr pair hpair)

lemma relativeNumber_isSome (h : Readable records) {r : EvaluationRecord} (hr : r ∈ records) :
    r.relativeNumber.isSome = r.impacts.any hasBaseline := by
  rw [EvaluationRecord.relativeNumber]
  cases hpair : r.impacts with
  | none => rfl
  | some pair =>
    obtain ⟨c, hc⟩ := Option.ne_none_iff_exists'.mp (h.impacts r hr pair hpair)
    rw [Option.bind_some, hc, Option.any_some, hasBaseline_eq hc]
    by_cases hzero : c.actual.value = 0
    · simp [hzero]
    · simp [hzero]

/-- The metrics are defined exactly on the accepted records that are measurable. -/
theorem evaluates_iff {R : TextReaders} {tenantId : Value} {t : String}
    {records : List EvaluationRecord} (ht : canonicalTenantId R tenantId = .ok t)
    (hrecords : ∀ r ∈ records, r.tenantId = t)
    (haccepted : ∀ r ∈ records, ∃ fields, EvaluationRecord.construct R fields = .ok r) :
    Evaluates R tenantId records ↔ Measurable records := by
  have hchecked : ∀ r ∈ records, r.Checked := by
    intro r hr
    obtain ⟨fields, hfields⟩ := haccepted r hr
    exact construct_checked hfields
  constructor
  · rintro ⟨m, hm, -, -, hperm⟩
    have hcomputed : ∀ rs : List EvaluationRecord, rs.Perm records → Computed rs := by
      intro rs hrs
      exact computed_of_evaluate ht (fun r hr => hrecords r (hrs.mem_iff.mp hr))
        (fun r hr => hchecked r (hrs.mem_iff.mp hr)) (hperm rs hrs)
    exact ⟨(hcomputed records (.refl _)).toReadable,
      (averages_iff fun r hr x hx => latencyNumber_nonneg (hchecked r hr) hx).mp
        fun rs hrs => (hcomputed rs hrs).latency,
      (averages_iff fun r hr x hx => costNumber_nonneg (hchecked r hr) hx).mp
        fun rs hrs => (hcomputed rs hrs).cost,
      (averages_iff fun r _ x hx => absoluteNumber_nonneg hx).mp
        fun rs hrs => (hcomputed rs hrs).absoluteErrors,
      (averages_iff fun r _ x hx => relativeNumber_nonneg hx).mp
        fun rs hrs => (hcomputed rs hrs).relativeErrors⟩
  · intro h
    have hnonneg : ∀ f : EvaluationRecord → Option Number,
        (∀ r ∈ records, ∀ x, f r = some x → 0 ≤ x.integer) →
          ∀ x ∈ records.filterMap f, 0 ≤ x.integer := by
      intro f hf x hx
      obtain ⟨r, hr, hx⟩ := List.mem_filterMap.mp hx
      exact hf r hr x hx
    have hlat := hnonneg (·.latencyNumber) fun r hr x hx => latencyNumber_nonneg (hchecked r hr) hx
    have hcos := hnonneg (·.costNumber) fun r hr x hx => costNumber_nonneg (hchecked r hr) hx
    have habs := hnonneg (·.absoluteNumber) fun r _ x hx => absoluteNumber_nonneg hx
    have hrel := hnonneg (·.relativeNumber) fun r _ x hx => relativeNumber_nonneg hx
    obtain ⟨latency, hlatency⟩ := h.latency.exists_average hlat
    obtain ⟨cost, hcost⟩ := h.cost.exists_average hcos
    obtain ⟨meanAbsolute, habsolute⟩ := h.absoluteErrors.exists_average habs
    obtain ⟨meanRelative, hrelative⟩ := h.relativeErrors.exists_average hrel
    have hevery : ∀ rs : List EvaluationRecord, rs.Perm records → evaluate R tenantId rs =
        .ok (.ofRecords records latency cost meanAbsolute meanRelative) := by
      intro rs hrs
      rw [← ofRecords_perm hrs]
      exact evaluate_of_readable ht (fun r hr => hrecords r (hrs.mem_iff.mp hr))
        (fun r hr => hchecked r (hrs.mem_iff.mp hr)) (h.toReadable.perm hrs)
        ((average_perm hlat h.latency (hrs.filterMap _)).trans hlatency)
        ((average_perm hcos h.cost (hrs.filterMap _)).trans hcost)
        ((average_perm habs h.absoluteErrors (hrs.filterMap _)).trans habsolute)
        ((average_perm hrel h.relativeErrors (hrs.filterMap _)).trans hrelative)
    refine ⟨_, hevery records (.refl _), ofRecords_rates _ _ _ _, ?_, hevery⟩
    simp only [meanSources, List.forall_mem_cons, List.not_mem_nil, false_implies, implies_true,
      and_true]
    refine ⟨?_, ?_, ?_, ?_⟩
    · exact (average_none_iff ((amounts_eq _ h.latencies).trans hlatency)).trans filterMap_nil_iff
    · exact (average_none_iff ((amounts_eq _ h.costs).trans hcost)).trans filterMap_nil_iff
    · refine ((average_none_iff habsolute).trans filterMap_nil_iff).trans ?_
      exact forall₂_congr fun r hr => by rw [absoluteNumber_isSome h.toReadable hr]
    · refine ((average_none_iff hrelative).trans filterMap_nil_iff).trans ?_
      exact forall₂_congr fun r hr => by rw [relativeNumber_isSome h.toReadable hr]

end Records

/-! ### Two kitchens -/

def plainReaders : TextReaders := ⟨some, fun _ => none⟩

def kitchenTenant : String := "6f1c1d0e-5b1a-4c8e-9b59-0d4f2d3c7a10"

/-- A record of a latency, as its fields and as the constructor keeps it. -/
def timedFields (recordId : String) (latencyMs : Value) : RecordFields :=
  { tenantId := .str kitchenTenant, recordId := .str recordId, latencyMs }

def timedRecord (recordId : String) (latencyMs : Value) : EvaluationRecord :=
  ⟨kitchenTenant, recordId, none, none, none, none, none, none, none, none, none, none, none,
    some latencyMs, none, none, none⟩

lemma kitchenTenant_canonical :
    canonicalTenantId plainReaders (.str kitchenTenant) = .ok kitchenTenant := by
  have htext : ¬(strip kitchenTenant = "" ∨ '\x00' ∈ kitchenTenant.toList) := by decide +kernel
  have hstrip : strip kitchenTenant = kitchenTenant := by decide +kernel
  rw [canonicalTenantId, if_neg htext, hstrip]
  rfl

lemma timedRecord_accepted {recordId : String} {v : Value} (number : ℚ) (hid : strip recordId ≠ "")
    (hv : optionalFinite plainReaders v "latency_ms" = .ok (some number)) (hpos : ¬number < 0) :
    EvaluationRecord.construct plainReaders (timedFields recordId v) =
      .ok (timedRecord recordId v) := by
  have htext : requiredTextField (.str recordId) "record_id" = .ok recordId := if_neg hid
  have hfield : numericField plainReaders true v "latency_ms" = .ok (some v) := by
    rw [numericField, hv, ok_bind]
    dsimp only
    rw [(raiseIf_ok (u := ())).mpr fun h => hpos h.2, ok_bind]
    rfl
  unfold EvaluationRecord.construct timedFields
  dsimp only
  rw [kitchenTenant_canonical, htext, hfield]
  rfl

lemma accepted_decimal : EvaluationRecord.construct plainReaders
    (timedFields "r1" (.decimal (.finite false 15 (-1)))) =
      .ok (timedRecord "r1" (.decimal (.finite false 15 (-1)))) :=
  timedRecord_accepted (binary64 (decimalRat false 15 (-1))) (by decide +kernel)
    (if_neg (by decide +kernel)) (by decide +kernel)

lemma accepted_float : EvaluationRecord.construct plainReaders
    (timedFields "r2" (.float (.finite (.ofDigits false 25 (-1))))) =
      .ok (timedRecord "r2" (.float (.finite (.ofDigits false 25 (-1))))) :=
  timedRecord_accepted (FiniteFloat.ofDigits false 25 (-1)).toRat (by decide +kernel)
    rfl (by decide +kernel)

lemma accepted_integers : ∀ r ∈ [timedRecord "r3" (.int 12), timedRecord "r4" (.int 30)],
    ∃ fields, EvaluationRecord.construct plainReaders fields = .ok r :=
  List.forall_mem_cons.mpr
    ⟨⟨_, timedRecord_accepted (binary64 ((12 : ℤ) : ℚ)) (by decide +kernel)
        (if_neg (by decide +kernel)) (by decide +kernel)⟩,
      List.forall_mem_singleton.mpr
        ⟨_, timedRecord_accepted (binary64 ((30 : ℤ) : ℚ)) (by decide +kernel)
          (if_neg (by decide +kernel)) (by decide +kernel)⟩⟩

/-- A latency of `Decimal("1.5")` and one of 2.5 are accepted, but have no metrics. -/
theorem evaluates_mixed : ∃ r₁ r₂,
    EvaluationRecord.construct plainReaders
      (timedFields "r1" (.decimal (.finite false 15 (-1)))) = .ok r₁ ∧
    EvaluationRecord.construct plainReaders
      (timedFields "r2" (.float (.finite (.ofDigits false 25 (-1))))) = .ok r₂ ∧
    ¬Evaluates plainReaders (.str kitchenTenant) [r₁, r₂] := by
  refine ⟨_, _, accepted_decimal, accepted_float, ?_⟩
  rintro ⟨m, hm, -, -, -⟩
  have hcomputed := computed_of_evaluate kitchenTenant_canonical
    (List.forall_mem_cons.mpr ⟨rfl, List.forall_mem_singleton.mpr rfl⟩)
    (List.forall_mem_cons.mpr ⟨construct_checked accepted_decimal,
      List.forall_mem_singleton.mpr (construct_checked accepted_float)⟩) hm
  obtain ⟨mean, hmean⟩ := hcomputed.latency
  obtain ⟨s, hs⟩ := sum_of_average (List.cons_ne_nil _ _) hmean
  exact Bool.noConfusion (sumNumbers_kinds hs rfl)

/-- Latencies of 12 and 30 are measurable. -/
theorem evaluates_integers : Evaluates plainReaders (.str kitchenTenant)
    [timedRecord "r3" (.int 12), timedRecord "r4" (.int 30)] := by
  refine (evaluates_iff kitchenTenant_canonical
    (List.forall_mem_cons.mpr ⟨rfl, List.forall_mem_singleton.mpr rfl⟩) accepted_integers).mpr ?_
  have hsum : exactSum [.int 12, .int 30] = 42 := by norm_num [exactSum, Number.value]
  have hlatencies : Averageable [.int 12, .int 30] := by
    refine ⟨Bool.noConfusion, Bool.noConfusion, fun _ _ => ?_, Bool.noConfusion⟩
    rw [hsum]
    exact overflowsFloat_of_small (by norm_num)
  -- Of the impacts and costs there are none.
  have hnone : ∀ {α : Type} {f : EvaluationRecord → Option α} {P : α → Prop},
      (∀ r ∈ [timedRecord "r3" (.int 12), timedRecord "r4" (.int 30)], f r = none) →
      ∀ r ∈ [timedRecord "r3" (.int 12), timedRecord "r4" (.int 30)], ∀ v, f r = some v → P v :=
    fun h r hr v hv => absurd ((h r hr).symm.trans hv) (Option.some_ne_none v).symm
  have hboth : ∀ {P : EvaluationRecord → Prop}, P (timedRecord "r3" (.int 12)) →
      P (timedRecord "r4" (.int 30)) →
      ∀ r ∈ [timedRecord "r3" (.int 12), timedRecord "r4" (.int 30)], P r :=
    fun h₁ h₂ => List.forall_mem_cons.mpr ⟨h₁, List.forall_mem_singleton.mpr h₂⟩
  refine ⟨⟨hboth ?_ ?_, hnone (hboth rfl rfl), hnone (hboth rfl rfl), hnone (hboth rfl rfl)⟩,
    hlatencies, averageable_nil, averageable_nil, averageable_nil⟩
  all_goals
    intro v hv
    obtain rfl := Option.some.inj hv
    exact Option.some_ne_none _

end OpsCopilot
