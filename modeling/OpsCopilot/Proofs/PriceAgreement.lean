import OpsCopilot.Model.PriceLimits
import OpsCopilot.Proofs.ApprovedPrice

/-!
# The price limits agree

On exact numbers the critic, the risk classifier and the validation of proposals draw the same line
around the current price.
-/

namespace OpsCopilot

open Python Fallible

section Judges

variable {c n : ℚ}

lemma judgePriceChange_approved_iff :
    (judgePriceChange c n).approved = true ↔ |n - c| / c ≤ maxPriceChangePct := by
  unfold judgePriceChange
  dsimp only
  split_ifs with hlimit
  · exact iff_of_false Bool.false_ne_true (not_le.mpr hlimit)
  · exact iff_of_true rfl (not_lt.mp hlimit)

/-- A price within the limit is not negative. -/
lemma nonneg_of_within (hc : 0 < c) (h : |n - c| / c ≤ maxPriceChangePct) : 0 ≤ n := by
  rw [div_le_iff₀ hc, maxPriceChangePct] at h
  have hlow := (abs_le.mp h).1
  linarith

lemma judgePriceRisk_high_iff (hc : 0 < c) :
    (judgePriceRisk c n).riskLevel = .high ↔ ¬|n - c| / c ≤ maxPriceChangePct := by
  unfold judgePriceRisk
  dsimp only
  split_ifs with hnegative hlimit hsmall
  · exact iff_of_true rfl (fun h => absurd (nonneg_of_within hc h) (not_le.mpr hnegative))
  · exact iff_of_true rfl (not_le.mpr hlimit)
  · exact iff_of_false (fun h => by cases h) (not_not.mpr (not_lt.mp hlimit))
  · exact iff_of_false (fun h => by cases h) (not_not.mpr (not_lt.mp hlimit))

/-- The critic approves what the classifier does not find too risky. -/
lemma judges_agree (hc : 0 < c) :
    (judgePriceChange c n).approved = true ↔ (judgePriceRisk c n).riskLevel ≠ .high := by
  rw [judgePriceChange_approved_iff, Ne, judgePriceRisk_high_iff hc, not_not]

end Judges

/-- A payload that no policy can read is blocked by one gate and of high risk to the other. -/
lemma unreadable_agree (reason problem : String) :
    (blocked reason).approved = true ↔ (cannotClassify "price-change" problem).riskLevel ≠ .high :=
  iff_of_false Bool.false_ne_true (fun h => h rfl)

section Gates

variable {A : Arithmetic} {payload : Dict} {c confidence : ℚ}

lemma critiquePriceChange_eq (hc : 0 < c) {v : Value} (hv : payload.find? "new_price" = some v) :
    critiquePriceChange A payload (some c) = do
      if ← A.isValid v then return judgePriceChange c (← A.operand v)
      else return blocked "Payload field new_price must be a finite number." := by
  have hbaseline : validatePositiveBaseline (some c) "price change" = .ok c :=
    if_neg (not_le.mpr hc)
  simp only [critiquePriceChange, hbaseline, hv]

lemma classifyChangeRisk_eq (hlow : minConfidenceForAutonomousAction ≤ confidence)
    (hhigh : confidence ≤ 1) (currentValue : Option ℚ) :
    classifyChangeRisk A payload confidence currentValue = classifyChange A payload currentValue := by
  have hvalid : ¬(confidence < 0 ∨ 1 < confidence) := by
    unfold minConfidenceForAutonomousAction at hlow
    rintro (h | h)
    · linarith
    · linarith
  rw [classifyChangeRisk, if_neg hvalid, if_neg (not_lt.mpr hlow)]

lemma classifyChange_eq (hc : 0 < c) {v : Value} (hv : payload.find? "new_price" = some v) :
    classifyChange A payload (some c) = do
      if ← A.isValid v then
        return (A.toExact v).elim (cannotClassify "price-change"
          "numeric values could not be represented exactly.") (judgePriceRisk c)
      else return cannotClassify "price-change" "new_price must be a finite number." := by
  simp only [classifyChange, hv, if_neg (not_le.mpr hc)]

lemma gates_missing (hc : 0 < c) (hv : payload.find? "new_price" = none) :
    critiquePriceChange A payload (some c) =
        .ok (blocked "Missing required payload field: new_price.") ∧
      classifyChange A payload (some c) =
        .ok (cannotClassify "price-change" "new_price is missing.") := by
  have hbaseline : validatePositiveBaseline (some c) "price change" = .ok c :=
    if_neg (not_le.mpr hc)
  constructor
  · simp only [critiquePriceChange, hbaseline, hv]
  · simp only [classifyChange, hv, if_neg (not_le.mpr hc)]

/-- On exact numbers both gates return, and agree. -/
theorem exact_gates_agree (hc : 0 < c) (payload : Dict) :
    ∃ verdict risk, critiquePriceChange .exact payload (some c) = .ok verdict ∧
      classifyChange .exact payload (some c) = .ok risk ∧
      (verdict.approved = true ↔ risk.riskLevel ≠ .high) := by
  cases hv : payload.find? "new_price" with
  | none =>
    obtain ⟨hcritique, hclassify⟩ := gates_missing (A := .exact) hc hv
    exact ⟨_, _, hcritique, hclassify, unreadable_agree _ _⟩
  | some v =>
    rw [critiquePriceChange_eq hc hv, classifyChange_eq hc hv]
    simp only [Arithmetic.exact]
    cases exactNumber v with
    | none => exact ⟨_, _, rfl, rfl, unreadable_agree _ _⟩
    | some n => exact ⟨_, _, rfl, rfl, judges_agree hc⟩

/-- With the arithmetic of Python, gates that both return agree. -/
theorem python_gates_agree {O : Outside} {verdict : CriticVerdict} {risk : RiskClassification}
    (hc : 0 < c) (hcritique : critique O .priceChange payload (some c) = .ok verdict)
    (hclassify : classifyChange .python payload (some c) = .ok risk) :
    verdict.approved = true ↔ risk.riskLevel ≠ .high := by
  rw [critique_python] at hcritique
  cases hv : payload.find? "new_price" with
  | none =>
    obtain ⟨hblocked, hhigh⟩ := gates_missing (A := .python) hc hv
    rw [← Except.ok.inj (hblocked.symm.trans hcritique), ← Except.ok.inj (hhigh.symm.trans hclassify)]
    exact unreadable_agree _ _
  | some v =>
    rw [critiquePriceChange_eq hc hv] at hcritique
    rw [classifyChange_eq hc hv] at hclassify
    obtain ⟨valid, hvalid, hcritique⟩ := bind_ok.mp hcritique
    obtain ⟨valid', hvalid', hclassify⟩ := bind_ok.mp hclassify
    obtain rfl := Except.ok.inj (hvalid.symm.trans hvalid')
    cases valid with
    | false =>
      rw [← pure_ok.mp hcritique, ← pure_ok.mp hclassify]
      exact unreadable_agree _ _
    | true =>
      obtain ⟨n, hn, hcritique⟩ := bind_ok.mp hcritique
      rw [← pure_ok.mp hcritique, ← pure_ok.mp hclassify]
      have hexact : Arithmetic.python.toExact v = some n := floatOperand_exact hn
      rw [hexact]
      exact judges_agree hc

end Gates

/-- On exact numbers a price is accepted within the limit around the price in evidence. -/
lemma validateProposedPrice_exact {payload : Dict} {o : Opportunity} {c : ℚ}
    (hcurrent : exactNumber (o.evidence.get "current_price") = some c)
    (h : validateProposedPrice .exact payload o = .ok true) :
    ∃ n, exactNumber (payload.get "new_price") = some n ∧ |n - c| / c ≤ maxPriceChangePct := by
  unfold validateProposedPrice at h
  split_ifs at h
  · cases hid : payload.get "menu_item_id" with
    | str id =>
      rw [hid] at h
      dsimp only at h
      split_ifs at h
      · cases h
      · obtain ⟨newPrice, hnew, h⟩ := bind_ok.mp h
        obtain ⟨currentPrice, hold, h⟩ := bind_ok.mp h
        obtain rfl : exactNumber (payload.get "new_price") = newPrice := Except.ok.inj hnew
        obtain rfl : exactNumber (o.evidence.get "current_price") = currentPrice :=
          Except.ok.inj hold
        rw [hcurrent] at h
        cases hn : exactNumber (payload.get "new_price") with
        | none =>
          rw [hn] at h
          cases h
        | some n =>
          rw [hn] at h
          dsimp only at h
          split_ifs at h
          · cases h
          · exact ⟨n, rfl, of_decide_eq_true (Except.ok.inj h)⟩
    | none | bool _ | int _ | float _ | decimal _ | list _ | dict _ =>
      rw [hid] at h
      cases h
  · cases h

lemma validateProposal_exact {p : CandidateAction} {o : Opportunity} {c : ℚ}
    (hcurrent : exactNumber (o.evidence.get "current_price") = some c)
    (h : validateProposal .exact p o = .ok true) :
    ∃ n, exactNumber (p.payload.get "new_price") = some n ∧ |n - c| / c ≤ maxPriceChangePct := by
  unfold validateProposal at h
  split_ifs at h
  · cases h
  · cases haction : p.actionType with
    | priceChange =>
      rw [haction] at h
      exact validateProposedPrice_exact hcurrent h
    | supplierSwitch | menuSwap | staffingChange =>
      rw [haction] at h
      cases h

/-- The limits on a price change agree: on exact numbers the critic approves exactly what the
classifier does not find too risky, whatever the payload, and everything that the validation of
proposals accepts. The functions as they are agree wherever they return. -/
theorem price_limits_agree {c confidence : ℚ} (hc : 0 < c)
    (hlow : minConfidenceForAutonomousAction ≤ confidence) (hhigh : confidence ≤ 1) :
    (∀ payload, ∃ verdict risk,
      critiquePriceChange .exact payload (some c) = .ok verdict ∧
      classifyChangeRisk .exact payload confidence (some c) = .ok risk ∧
      (verdict.approved = true ↔ risk.riskLevel ≠ .high) ∧
      (risk.riskLevel = .low → verdict.approved = true)) ∧
    (∀ p o, exactNumber (o.evidence.get "current_price") = some c →
      validateProposal .exact p o = .ok true →
      ∃ verdict, critiquePriceChange .exact p.payload (some c) = .ok verdict ∧
        verdict.approved = true) ∧
    ∀ O payload verdict risk, critique O .priceChange payload (some c) = .ok verdict →
      classifyRisk O .priceChange payload confidence (some c) = .ok risk →
      (verdict.approved = true ↔ risk.riskLevel ≠ .high) := by
  refine ⟨fun payload => ?_, fun p o hcurrent haccepted => ?_,
    fun O payload verdict risk hcritique hclassify => ?_⟩
  · obtain ⟨verdict, risk, hcritique, hclassify, hagree⟩ := exact_gates_agree hc payload
    refine ⟨verdict, risk, hcritique, ?_, hagree, fun hrisk => hagree.mpr ?_⟩
    · rw [classifyChangeRisk_eq hlow hhigh, hclassify]
    · rw [hrisk]
      exact fun h => by cases h
  · obtain ⟨n, hn, hwithin⟩ := validateProposal_exact hcurrent haccepted
    refine ⟨judgePriceChange c n, ?_, judgePriceChange_approved_iff.mpr hwithin⟩
    have hv : p.payload.find? "new_price" = some (p.payload.get "new_price") := by
      cases hfound : p.payload.find? "new_price" with
      | none =>
        rw [Dict.get, hfound] at hn
        cases hn
      | some v => rw [Dict.get, hfound, Option.getD_some]
    rw [critiquePriceChange_eq hc hv]
    simp only [Arithmetic.exact, hn]
    rfl
  · rw [classifyRisk_python, classifyChangeRisk_eq hlow hhigh] at hclassify
    exact python_gates_agree hc hcritique hclassify

/-- From 10.00 to 13: exactly at the limit. -/
theorem price_limits_agree_thirteen :
    (0 : ℚ) < 10 ∧ minConfidenceForAutonomousAction ≤ 9 / 10 ∧ (9 / 10 : ℚ) ≤ 1 ∧
      ∃ verdict risk,
        critiquePriceChange .exact [(.str "new_price", .int 13)] (some 10) = .ok verdict ∧
        classifyChangeRisk .exact [(.str "new_price", .int 13)] (9 / 10) (some 10) = .ok risk ∧
        (verdict.approved = true ↔ risk.riskLevel ≠ .high) ∧
        (risk.riskLevel = .low → verdict.approved = true) := by
  have hlow : minConfidenceForAutonomousAction ≤ 9 / 10 := by decide +kernel
  exact ⟨by norm_num, hlow, by norm_num,
    (price_limits_agree (by norm_num) hlow (by norm_num)).1 [(.str "new_price", .int 13)]⟩

end OpsCopilot
