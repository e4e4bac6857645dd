import OpsCopilot.Proofs.LlmProposals

/-!
# Proposals of a language model are sound

Whatever text the client answers, reasoning about an opportunity returns the deterministic
candidates and at most five proposals, each of them a price change of an affected menu item near
the price of the evidence.
-/

namespace OpsCopilot

open Python Fallible

/-! ### Prices within the bound -/

section Ratio

variable {newPrice currentPrice change ratio : ℚ}

/-- The check of the ratio, up to the rounding of the division. -/
lemma change_le (hpos : 0 < currentPrice)
    (hratio : contextResult (|change| / currentPrice) = some ratio) (hle : ratio ≤ 3 / 10) :
    (1 - 1 / 2 * 10 ^ (-27 : ℤ)) * |change| ≤ 3 / 10 * currentPrice := by
  have hsmall : (10 : ℚ) ^ (28 - 1000026 : ℤ) ≤ 3 / 10 :=
    (zpow_le_zpow_right₀ (by norm_num) (by norm_num : (28 - 1000026 : ℤ) ≤ -1)).trans (by norm_num)
  have hbound := contextResult_le hratio (by positivity) hle hsmall
  rw [← mul_div_assoc, div_le_iff₀ hpos] at hbound
  exact hbound

/-- A price that passes the check is within 30 percent, up to the rounding of two operations. -/
theorem price_near (hpos : 0 < currentPrice)
    (hchange : contextResult (newPrice - currentPrice) = some change)
    (hratio : contextResult (|change| / currentPrice) = some ratio) (hle : ratio ≤ 3 / 10) :
    |newPrice - currentPrice| ≤ (3 / 10 + 10 ^ (-27 : ℤ)) * currentPrice + 10 ^ (-1000026 : ℤ) := by
  have hle' := change_le hpos hratio hle
  have hnear := contextResult_near hchange
  have htriangle : |newPrice - currentPrice| ≤ |change| + |change - (newPrice - currentPrice)| := by
    have h := abs_sub_abs_le_abs_sub (newPrice - currentPrice) change
    rw [abs_sub_comm (newPrice - currentPrice) change] at h
    linarith
  have htiny : (0 : ℚ) < 10 ^ (-1000026 : ℤ) := zpow_pos (by norm_num) _
  generalize (10 : ℚ) ^ (-1000026 : ℤ) = tiny at hnear htiny ⊢
  norm_num at hle' hnear ⊢
  linarith

/-- On a grid of which the current price spans not too many units the check is exact. -/
theorem price_within {e m n : ℤ} (hpos : 0 < currentPrice)
    (hchange : contextResult (newPrice - currentPrice) = some change)
    (hratio : contextResult (|change| / currentPrice) = some ratio) (hle : ratio ≤ 3 / 10)
    (hnew : newPrice = m * 10 ^ e) (hcurrent : currentPrice = n * 10 ^ e)
    (he : -1000026 ≤ e) (hn : n ≤ 10 ^ 26) :
    |newPrice - currentPrice| ≤ 3 / 10 * currentPrice := by
  have hunit : (0 : ℚ) < 10 ^ e := by positivity
  have hnpos : 0 < n := by
    rw [hcurrent] at hpos
    exact_mod_cast (mul_pos_iff_of_pos_right hunit).mp hpos
  have hgrid : newPrice - currentPrice = (m - n : ℤ) * 10 ^ e := by
    rw [hnew, hcurrent]
    push_cast
    ring
  obtain ⟨d, hd⟩ : ∃ d : ℤ, d = |m - n| := ⟨_, rfl⟩
  have habs : |newPrice - currentPrice| = d * 10 ^ e := by
    rw [hgrid, abs_mul, abs_of_pos hunit, hd, Int.cast_abs]
  have hnear := price_near hpos hchange hratio hle
  have htiny : (10 : ℚ) ^ (-1000026 : ℤ) ≤ 10 ^ e := zpow_le_zpow_right₀ (by norm_num) he
  have hunits : (d : ℚ) ≤ (3 / 10 + 10 ^ (-27 : ℤ)) * n + 1 := by
    rw [habs, hcurrent] at hnear
    refine le_of_mul_le_mul_right (hnear.trans ?_) hunit
    linarith
  have hnq : (n : ℚ) ≤ 10 ^ 26 := by exact_mod_cast hn
  -- The difference has few digits, so that the subtraction is exact.
  have hexact : change = newPrice - currentPrice := by
    refine contextResult_exact hchange hgrid ?_ he
    have hfew : (d : ℚ) < 10 ^ 28 := by
      norm_num at hunits hnq ⊢
      linarith
    zify
    rw [← hd]
    exact_mod_cast hfew
  have hround := change_le hpos hratio hle
  rw [hexact, habs, hcurrent, ← mul_assoc, ← mul_assoc] at hround
  replace hround := le_of_mul_le_mul_right hround hunit
  rw [habs, hcurrent, ← mul_assoc]
  refine mul_le_mul_of_nonneg_right ?_ hunit.le
  by_contra hover
  -- Beyond the bound the difference exceeds it by a tenth of a unit at least.
  have hstep : 3 * n + 1 ≤ 10 * d := by
    have hlt : 3 * n < 10 * d := by
      have h : (3 * n : ℚ) < 10 * d := by linarith
      exact_mod_cast h
    linarith
  have hstepq : (3 * n + 1 : ℚ) ≤ 10 * d := by exact_mod_cast hstep
  norm_num at hround hnq
  linarith

end Ratio

/-! ### Sound candidates -/

/-- A positive price within 30 percent of another one, as far as `Decimal`s can tell: exactly so
when both are whole multiples of a power of ten of which the other holds at most `10 ^ 26`. -/
structure WithinBound (newPrice currentPrice : ℚ) : Prop where
  new_pos : 0 < newPrice
  current_pos : 0 < currentPrice
  near : |newPrice - currentPrice| ≤
    (3 / 10 + 10 ^ (-27 : ℤ)) * currentPrice + 10 ^ (-1000026 : ℤ)
  onGrid : ∀ e m n : ℤ, -1000026 ≤ e → newPrice = m * 10 ^ e → currentPrice = n * 10 ^ e →
    n ≤ 10 ^ 26 → |newPrice - currentPrice| ≤ 3 / 10 * currentPrice

/-- A price change of an affected item near the price of the evidence, held back for review. -/
structure CandidateAction.SoundFor (o : Opportunity) (c : CandidateAction) : Prop where
  opportunity : c.opportunityId = o.id
  action : c.actionType = .priceChange
  payload : ∃ menuItemId price,
    (c.payload = [(.str "menu_item_id", .str menuItemId), (.str "new_price", price)] ∨
      c.payload = [(.str "new_price", price), (.str "menu_item_id", .str menuItemId)]) ∧
    menuItemId ∈ o.affectedEntityIds ∧
    ∃ newPrice currentPrice, strictDecimal price = .ok (some newPrice) ∧
      strictDecimal (o.evidence.get "current_price") = .ok (some currentPrice) ∧
      WithinBound newPrice currentPrice
  flagged : c.requiresHumanReview = true

lemma acceptCandidate_sound {o : Opportunity} {allowed : List String} {raw : Value}
    {c : CandidateAction} (h : acceptCandidate o allowed raw = .ok c) : c.SoundFor o := by
  obtain ⟨hshape, hsupported⟩ := acceptCandidate_ok h
  obtain ⟨hid, haction, hprice⟩ := validateCandidate_ok hsupported
  obtain ⟨m, price, hpayload, hm, newPrice, currentPrice, change, ratio, hnew, hcurrent, hnpos,
    hcpos, hchange, hratio, hle⟩ := validatePriceChange_ok hprice
  refine ⟨hid, haction, ⟨m, price, hpayload, hm, newPrice, currentPrice, hnew, hcurrent, hnpos,
    hcpos, price_near hcpos hchange hratio hle, ?_⟩, (validateLlmCandidate_ok hshape).2⟩
  intro e m n he hm hn hfew
  exact price_within hcpos hchange hratio hle hm hn he hfew

/-- A reasoner returns at most five candidates, all of them sound. -/
lemma reason_sound {τ : Type} {M : LlmReasoner τ} {o : Opportunity} {allowed : List String}
    {s : τ} {found : List CandidateAction} (h : (M.reason o allowed s).2 = .ok found) :
    found.length ≤ maxLlmCandidates ∧ ∀ c ∈ found, c.SoundFor o := by
  obtain ⟨raws, hraws⟩ := LlmReasoner.reason_ok h
  exact ⟨acceptCandidates_length raws (Nat.zero_le _) hraws,
    acceptCandidates_forall (fun _ _ => acceptCandidate_sound) raws (List.forall_mem_nil _) hraws⟩

variable {τ : Type} {printable : Char → Bool} {O : Outside}

/-- What reasoning about an opportunity returns is the deterministic candidates, alone or merged
with what the reasoner found. -/
lemma reasonAboutOpportunity_ok {llm : Option (LlmReasoner τ)} {useLlm : Bool} {o : Opportunity}
    {s : τ} {candidates : List CandidateAction}
    (h : (reasonAboutOpportunity printable O llm useLlm o s).2 = .ok candidates) :
    ∃ deterministic, generateCandidateActions O o = .ok deterministic ∧
      (candidates = deterministic ∨ ∃ (M : LlmReasoner τ) (allowed : List String)
        (found : List CandidateAction), (M.reason o allowed s).2 = .ok found ∧
          candidates = mergeCandidates printable deterministic found) := by
  unfold reasonAboutOpportunity at h
  cases hdet : generateCandidateActions O o with
  | error e =>
    rw [hdet] at h
    cases h
  | ok deterministic =>
    refine ⟨deterministic, rfl, ?_⟩
    rw [hdet] at h
    cases hllm : (if useLlm then llm else none) with
    | none =>
      rw [hllm] at h
      exact .inl (Except.ok.inj h).symm
    | some M =>
      rw [hllm] at h
      dsimp only at h
      split_ifs at h
      · exact .inl (Except.ok.inj h).symm
      · rcases hreason : M.reason o (allowedLlmActionsFor o.opportunityType) s with ⟨s', answer⟩
        rw [hreason] at h
        cases answer with
        | ok found =>
          exact .inr ⟨M, _, found, congrArg Prod.snd hreason, (Except.ok.inj h).symm⟩
        | error e =>
          dsimp only at h
          split_ifs at h
          exact .inl (Except.ok.inj h).symm

/-- The result of reasoning is the deterministic candidates, followed by proposals that are
sound and repeat nothing before them. -/
theorem llm_candidates_sound (llm : Option (LlmReasoner τ)) (useLlm : Bool) (o : Opportunity)
    (s : τ) :
    (∀ (M : LlmReasoner τ) (allowed : List String) (found : List CandidateAction),
      (M.reason o allowed s).2 = .ok found →
        found.length ≤ maxLlmCandidates ∧ ∀ c ∈ found, c.SoundFor o) ∧
    ∀ candidates, (reasonAboutOpportunity printable O llm useLlm o s).2 = .ok candidates →
      ∃ deterministic extra, generateCandidateActions O o = .ok deterministic ∧
        candidates = deterministic ++ extra ∧
        candidates.Pairwise (fun d c => sameCandidate printable d c = false) ∧
        extra.length ≤ maxLlmCandidates ∧ ∀ c ∈ extra, c.SoundFor o := by
  refine ⟨fun M allowed found h => reason_sound h, fun candidates h => ?_⟩
  obtain ⟨deterministic, hdet, halone | ⟨M, allowed, found, hfound, hmerge⟩⟩ :=
    reasonAboutOpportunity_ok h
  · refine ⟨deterministic, [], hdet, by rw [halone, List.append_nil], ?_, Nat.zero_le _,
      List.forall_mem_nil _⟩
    rw [halone]
    exact generateCandidateActions_pairwise hdet
  · obtain ⟨hlen, hsound⟩ := reason_sound hfound
    obtain ⟨extra, hextends, hsub⟩ :=
      mergeCandidates_extends printable found (generateCandidateActions_length hdet)
    refine ⟨deterministic, extra, hdet, by rw [hmerge, hextends], ?_,
      hsub.length_le.trans hlen, fun c hc => hsound c (hsub.subset hc)⟩
    rw [hmerge]
    exact mergeInto_pairwise _ List.Pairwise.nil

/-! ### The limits of 28 digits -/

lemma affects_goldleaf : ["goldleaf"] ≠ [] ∧ ∀ e ∈ ["goldleaf"], strip e ≠ "" := by decide +kernel

/-- A dish that costs more than `Decimal`s can tell apart. -/
def goldleafDecline : Opportunity where
  id := "demand_decline:goldleaf"
  tenantId := "t"
  opportunityType := .demandDecline
  title := "Goldleaf demand is declining"
  cause := "Orders have fallen."
  affectedEntityIds := ["goldleaf"]
  estimatedMonthlyImpact := .ofDigits true 7 1
  confidence := .ofDigits false 65 (-2)
  evidence := [(.str "current_price", .float (.finite (.ofDigits false 1 30)))]
  identified := by decide +kernel
  explained := by decide +kernel
  affects := affects_goldleaf
  confidence_in_range := by decide +kernel

/-- A model that raises the price by 30 percent and one unit. -/
def raisingReasoner : LlmReasoner Unit where
  generate s _ := (s, .ok "")
  loads _ := .ok (.dict [(.str "candidates", .list [.dict [
    (.str "action_type", .str "price_change"),
    (.str "payload", .dict [(.str "menu_item_id", .str "goldleaf"),
      (.str "new_price", .int (13 * 10 ^ 29 + 1))]),
    (.str "rationale", .str "more")]])])

/-- The difference is rounded to 28 digits, and the proposal is accepted. -/
theorem goldleaf_beyond_bound :
    (reasonAboutOpportunity (fun _ => true) (Outside.prescribed []) (some raisingReasoner) true
      goldleafDecline ()).2.toOption.map (fun candidates => candidates.map (fun c =>
        ((strictDecimal (c.payload.get "new_price")).toOption,
          (strictDecimal (goldleafDecline.evidence.get "current_price")).toOption))) =
        some [(some (some (13 * 10 ^ 29 + 1)), some (some (10 ^ 30)))] ∧
    ¬|(13 * 10 ^ 29 + 1 : ℚ) - 10 ^ 30| ≤ 3 / 10 * 10 ^ 30 := by
  refine ⟨by decide +kernel, ?_⟩
  norm_num

/-- Also this proposal is sound within the limits of the arithmetic. -/
theorem goldleaf_candidates_sound :
    ∃ candidates, (reasonAboutOpportunity (fun _ => true) (Outside.prescribed [])
        (some raisingReasoner) true goldleafDecline ()).2 = .ok candidates ∧
      candidates.length = 1 ∧
      ∃ deterministic extra,
        generateCandidateActions (Outside.prescribed []) goldleafDecline = .ok deterministic ∧
        candidates = deterministic ++ extra ∧
        candidates.Pairwise (fun d c => sameCandidate (fun _ => true) d c = false) ∧
        extra.length ≤ maxLlmCandidates ∧ ∀ c ∈ extra, c.SoundFor goldleafDecline := by
  have hlen : (reasonAboutOpportunity (fun _ => true) (Outside.prescribed [])
      (some raisingReasoner) true goldleafDecline ()).2.toOption.map List.length = some 1 := by
    decide +kernel
  obtain ⟨candidates, hok, hone⟩ := exists_ok_of_toOption hlen
  exact ⟨candidates, hok, hone,
    (llm_candidates_sound (some raisingReasoner) true goldleafDecline ()).2 candidates hok⟩

end OpsCopilot
