import OpsCopilot.Model.Cycle

/-!
# What a language model can propose

Every candidate that comes out of the reasoner is flagged for review, and its payload is a price
change that `json.dumps` accepts.
-/

namespace OpsCopilot

open Python Fallible

/-! ### Payloads of price changes -/

lemma inContext_ok {q r : ℚ} : inContext q = .ok r ↔ contextResult q = some r := by
  unfold inContext
  cases contextResult q with
  | none => simp
  | some r' => simp

lemma prepare_ok_of_strictDecimal {v : Value} {q : ℚ} (h : strictDecimal v = .ok (some q)) :
    ∃ j, prepare ⟨true, strDefault⟩ v = .ok j := by
  cases v with
  | int n => exact ⟨_, rfl⟩
  | decimal d => exact ⟨_, rfl⟩
  | float x => exact ⟨_, rfl⟩
  | none | bool _ | str _ | list _ | dict _ => exact absurd h (by simp [strictDecimal])

lemma find?_pair {k l : Key} {v w : Value} {a b : String} (hab : a ≠ b)
    (ha : (Dict.find? a [(k, v), (l, w)]).isSome) (hb : (Dict.find? b [(k, v), (l, w)]).isSome) :
    (k = .str a ∧ l = .str b) ∨ (k = .str b ∧ l = .str a) := by
  cases k with
  | str s =>
    cases l with
    | str t =>
      simp only [Dict.find?] at ha hb
      grind
    | none | bool _ | int _ | float _ =>
      simp only [Dict.find?] at ha hb
      grind
  | none | bool _ | int _ | float _ =>
    cases l with
    | str t =>
      simp only [Dict.find?] at ha hb
      grind
    | none | bool _ | int _ | float _ =>
      simp only [Dict.find?] at ha
      grind

/-- A dictionary with exactly the keys of a price change. -/
lemma hasPriceChangeKeys_cases {payload : Dict} (h : hasPriceChangeKeys payload = true) :
    ∃ m p, payload = [(.str "menu_item_id", m), (.str "new_price", p)] ∨
      payload = [(.str "new_price", p), (.str "menu_item_id", m)] := by
  simp only [hasPriceChangeKeys, Bool.and_eq_true, decide_eq_true_eq] at h
  obtain ⟨⟨hlen, hitem⟩, hprice⟩ := h
  match payload, hlen with
  | [(k, v), (l, w)], _ =>
    rcases find?_pair (by decide) hitem hprice with ⟨rfl, rfl⟩ | ⟨rfl, rfl⟩
    · exact ⟨v, w, .inl rfl⟩
    · exact ⟨w, v, .inr rfl⟩

lemma dumpsSorted_pair {k l : String} {v w : Value} {i j : Json}
    (hv : prepare ⟨true, strDefault⟩ v = .ok i) (hw : prepare ⟨true, strDefault⟩ w = .ok j) :
    ∃ text, dumpsSorted (.dict [(.str k, v), (.str l, w)]) = .ok text := by
  have hmembers : prepareMembers ⟨true, strDefault⟩ [(.str k, v), (.str l, w)] =
      .ok [(.str k, i), (.str l, j)] := by
    simp [prepareMembers, hv, hw, Except.bind, Except.map]
  cases hdumps : dumpsSorted (.dict [(.str k, v), (.str l, w)]) with
  | ok text => exact ⟨text, rfl⟩
  | error e =>
    rw [dumpsSorted, prepare, hmembers] at hdumps
    cases hdumps

/-- The checks that a price change of an opportunity has passed. -/
lemma validatePriceChange_ok {payload : Dict} {o : Opportunity}
    (h : validatePriceChangeAgainstOpportunity payload o = .ok true) :
    ∃ menuItemId price,
      (payload = [(.str "menu_item_id", .str menuItemId), (.str "new_price", price)] ∨
        payload = [(.str "new_price", price), (.str "menu_item_id", .str menuItemId)]) ∧
      menuItemId ∈ o.affectedEntityIds ∧
      ∃ newPrice currentPrice change ratio, strictDecimal price = .ok (some newPrice) ∧
        strictDecimal (o.evidence.get "current_price") = .ok (some currentPrice) ∧
        0 < newPrice ∧ 0 < currentPrice ∧ contextResult (newPrice - currentPrice) = some change ∧
        contextResult (|change| / currentPrice) = some ratio ∧ ratio ≤ maxPriceChangePct := by
  unfold validatePriceChangeAgainstOpportunity at h
  split_ifs at h with hkeys
  · obtain ⟨item, price, hpayload⟩ := hasPriceChangeKeys_cases hkeys
    have hitem : payload.get "menu_item_id" = item := by
      rcases hpayload with hpayload | hpayload <;> (rw [hpayload]; rfl)
    have hprice : payload.get "new_price" = price := by
      rcases hpayload with hpayload | hpayload <;> (rw [hpayload]; rfl)
    rw [hitem, hprice] at h
    cases item with
    | str menuItemId =>
      dsimp only at h
      split_ifs at h with hid
      · exact absurd (Except.ok.inj h) (by decide)
      · obtain ⟨newPrice, hnew, h⟩ := bind_ok.mp h
        obtain ⟨currentPrice, hcurrent, h⟩ := bind_ok.mp h
        cases newPrice with
        | none => exact absurd (Except.ok.inj h) (by decide)
        | some newPrice =>
          cases currentPrice with
          | none => exact absurd (Except.ok.inj h) (by decide)
          | some currentPrice =>
            dsimp only at h
            split_ifs at h with hsign
            · exact absurd (Except.ok.inj h) (by decide)
            · obtain ⟨change, hchange, h⟩ := bind_ok.mp h
              obtain ⟨ratio, hratio, h⟩ := bind_ok.mp h
              rw [not_or, not_le, not_le] at hsign
              exact ⟨menuItemId, price, hpayload, (not_or.mp hid).2 |> not_not.mp, newPrice,
                currentPrice, change, ratio, hnew, hcurrent, hsign.1, hsign.2,
                inContext_ok.mp hchange, inContext_ok.mp hratio,
                of_decide_eq_true (pure_ok.mp h)⟩
    | none | bool _ | int _ | float _ | decimal _ | list _ | dict _ =>
      exact absurd (Except.ok.inj h) (by decide)
  · exact absurd (Except.ok.inj h) (by decide)

lemma dumpsSorted_of_priceChange {payload : Dict} {o : Opportunity}
    (h : validatePriceChangeAgainstOpportunity payload o = .ok true) :
    ∃ text, dumpsSorted (.dict payload) = .ok text := by
  obtain ⟨m, price, hpayload, -, newPrice, _, _, _, hnew, -⟩ := validatePriceChange_ok h
  obtain ⟨j, hj⟩ := prepare_ok_of_strictDecimal hnew
  rcases hpayload with hpayload | hpayload
  · rw [hpayload]
    exact dumpsSorted_pair rfl hj
  · rw [hpayload]
    exact dumpsSorted_pair hj rfl

/-! ### Accepted candidates -/

/-- A candidate that only a reviewer could release, and whose payload has a text. -/
structure CandidateAction.Withheld (c : CandidateAction) : Prop where
  flagged : c.requiresHumanReview = true
  dumps : ∃ text, dumpsSorted (.dict c.payload) = .ok text

lemma Opportunity.id_ne_empty (o : Opportunity) : o.id ≠ "" :=
  fun h => o.identified.1 (by rw [h]; decide +kernel)

lemma CandidateAction.make_total {id rationale : String} (a : ActionType) (m : Key × Value)
    (ms : Dict) (review : Bool) (assumptions : List String) (source : CandidateSource)
    (hid : id ≠ "") (hrationale : strip rationale ≠ "") :
    ∃ c, CandidateAction.make id a (m :: ms) rationale review assumptions source = .ok c ∧
      c.payload = m :: ms := by
  rw [CandidateAction.make, dif_neg hid]
  dsimp only
  rw [dif_neg hrationale]
  exact ⟨_, rfl, rfl⟩

lemma CandidateAction.make_ok {id : String} {a : ActionType} {payload : Dict} {rationale : String}
    {review : Bool} {assumptions : List String} {source : CandidateSource} {c : CandidateAction}
    (h : CandidateAction.make id a payload rationale review assumptions source = .ok c) :
    c.opportunityId = id ∧ c.actionType = a ∧ c.payload = payload ∧
      c.requiresHumanReview = review ∧ c.source = source := by
  unfold CandidateAction.make at h
  split at h
  · nomatch h
  · cases payload with
    | nil => nomatch h
    | cons m ms =>
      dsimp only at h
      split at h
      · nomatch h
      · cases h
        exact ⟨rfl, rfl, rfl, rfl, rfl⟩

lemma validateLlmCandidate_ok {raw : Value} {o : Opportunity} {c : CandidateAction}
    (h : validateLlmCandidate raw o = .ok c) :
    c.opportunityId = o.id ∧ c.requiresHumanReview = true := by
  cases raw with
  | dict raw =>
    obtain ⟨actionType, -, h⟩ := bind_ok.mp h
    obtain ⟨payload, -, h⟩ := bind_ok.mp h
    obtain ⟨rationale, -, h⟩ := bind_ok.mp h
    obtain ⟨-, -, h⟩ := bind_ok.mp h
    obtain ⟨assumptions, -, h⟩ := bind_ok.mp h
    obtain ⟨hid, -, -, hreview, -⟩ := CandidateAction.make_ok h
    exact ⟨hid, hreview⟩
  | none | bool _ | int _ | float _ | decimal _ | str _ | list _ => nomatch h

lemma validateCandidate_ok {c : CandidateAction} {o : Opportunity}
    (h : validateCandidateAgainstOpportunity c o = .ok true) :
    c.opportunityId = o.id ∧ c.actionType = .priceChange ∧
      validatePriceChangeAgainstOpportunity c.payload o = .ok true := by
  unfold validateCandidateAgainstOpportunity at h
  split_ifs at h with hid
  · exact absurd (Except.ok.inj h) (by decide)
  · cases ha : c.actionType with
    | priceChange =>
      rw [ha] at h
      exact ⟨not_not.mp hid, rfl, h⟩
    | supplierSwitch | menuSwap | staffingChange =>
      rw [ha] at h
      exact absurd (Except.ok.inj h) (by decide)

/-- An accepted candidate has passed both validations. -/
lemma acceptCandidate_ok {o : Opportunity} {allowed : List String} {raw : Value}
    {c : CandidateAction} (h : acceptCandidate o allowed raw = .ok c) :
    validateLlmCandidate raw o = .ok c ∧ validateCandidateAgainstOpportunity c o = .ok true := by
  obtain ⟨d, hd, h⟩ := bind_ok.mp h
  obtain ⟨-, -, h⟩ := bind_ok.mp h
  obtain ⟨supported, hsupported, h⟩ := bind_ok.mp h
  obtain ⟨_, hraise, h⟩ := bind_ok.mp h
  have htrue : supported = true := Bool.eq_true_of_not_eq_false (raiseIf_ok.mp hraise)
  rw [htrue] at hsupported
  rw [← pure_ok.mp h]
  exact ⟨hd, hsupported⟩

lemma acceptCandidate_withheld {o : Opportunity} {allowed : List String} {raw : Value}
    {c : CandidateAction} (h : acceptCandidate o allowed raw = .ok c) : c.Withheld := by
  obtain ⟨hshape, hsupported⟩ := acceptCandidate_ok h
  exact ⟨(validateLlmCandidate_ok hshape).2,
    dumpsSorted_of_priceChange (validateCandidate_ok hsupported).2.2⟩

/-- What holds of every accepted entry holds of everything the loop accepts. -/
lemma acceptCandidates_forall {P : CandidateAction → Prop} {o : Opportunity}
    {allowed : List String} (hP : ∀ raw c, acceptCandidate o allowed raw = .ok c → P c)
    (raws : List Value) {accepted found : List CandidateAction} (haccepted : ∀ c ∈ accepted, P c)
    (h : acceptCandidates o allowed accepted raws = .ok found) : ∀ c ∈ found, P c := by
  induction raws generalizing accepted with
  | nil => exact Except.ok.inj h ▸ haccepted
  | cons raw raws ih =>
    rw [acceptCandidates] at h
    split_ifs at h
    · exact Except.ok.inj h ▸ haccepted
    · cases hraw : acceptCandidate o allowed raw with
      | ok c =>
        rw [hraw] at h
        refine ih ?_ h
        intro d hd
        rcases List.mem_append.mp hd with hd | hd
        · exact haccepted d hd
        · rw [List.mem_singleton.mp hd]
          exact hP raw c hraw
      | error e =>
        rw [hraw] at h
        dsimp only at h
        split_ifs at h
        exact ih haccepted h

/-- The loop stops at the cap. -/
lemma acceptCandidates_length {o : Opportunity} {allowed : List String} (raws : List Value)
    {accepted found : List CandidateAction} (haccepted : accepted.length ≤ maxLlmCandidates)
    (h : acceptCandidates o allowed accepted raws = .ok found) :
    found.length ≤ maxLlmCandidates := by
  induction raws generalizing accepted with
  | nil => exact Except.ok.inj h ▸ haccepted
  | cons raw raws ih =>
    rw [acceptCandidates] at h
    split_ifs at h with hfull
    · exact Except.ok.inj h ▸ haccepted
    · cases hraw : acceptCandidate o allowed raw with
      | ok c =>
        rw [hraw] at h
        refine ih ?_ h
        rw [List.length_append, List.length_singleton]
        omega
      | error e =>
        rw [hraw] at h
        dsimp only at h
        split_ifs at h
        exact ih haccepted h

/-- What a reasoner returns comes out of the loop, started with nothing accepted. -/
lemma LlmReasoner.reason_ok {τ : Type} {M : LlmReasoner τ} {o : Opportunity}
    {allowed : List String} {s : τ} {found : List CandidateAction}
    (h : (M.reason o allowed s).2 = .ok found) :
    ∃ raws, acceptCandidates o allowed [] raws = .ok found := by
  unfold LlmReasoner.reason at h
  split_ifs at h
  · exact ⟨[], h⟩
  · rcases hg : M.generate s o with ⟨s', answer⟩
    rw [hg] at h
    cases answer with
    | error e => cases h
    | ok text =>
      unfold LlmReasoner.readAnswer at h
      dsimp only at h
      split at h
      · cases h
      · split at h
        · exact ⟨_, h⟩
        · cases h
      · cases h

theorem LlmReasoner.reason_withheld {τ : Type} {M : LlmReasoner τ} {o : Opportunity}
    {allowed : List String} {s : τ} {found : List CandidateAction}
    (h : (M.reason o allowed s).2 = .ok found) : ∀ c ∈ found, c.Withheld := by
  obtain ⟨raws, hraws⟩ := LlmReasoner.reason_ok h
  exact acceptCandidates_forall (fun _ _ => acceptCandidate_withheld) raws
    (List.forall_mem_nil _) hraws

/-! ### Deterministic candidates -/

/-- Not more than one candidate comes out of the rules. -/
lemma generateCandidateActions_length {O : Outside} {o : Opportunity} {cs : List CandidateAction}
    (h : generateCandidateActions O o = .ok cs) : cs.length ≤ 1 := by
  have hprice : ∀ {m : String} {q : ℚ} {r : String} {as : List String},
      priceCandidate O o m q r as = .ok cs → cs.length ≤ 1 := by
    intro m q r as h
    unfold priceCandidate at h
    split at h
    · split_ifs at h
      exact Except.ok.inj h ▸ Nat.zero_le 1
    · split_ifs at h
      · exact Except.ok.inj h ▸ Nat.zero_le 1
      · obtain ⟨c, -, hc⟩ := map_ok.mp h
        exact hc ▸ le_rfl
    · exact Except.ok.inj h ▸ Nat.zero_le 1
  cases htype : o.opportunityType with
  | marginDeterioration =>
    rw [generateCandidateActions, htype] at h
    unfold marginCandidate at h
    dsimp only at h
    split at h
    · split_ifs at h
      · exact Except.ok.inj h ▸ Nat.zero_le 1
      · obtain ⟨restored, -, h⟩ := bind_ok.mp h
        split_ifs at h
        · obtain ⟨proposed, -, h⟩ := bind_ok.mp h
          exact hprice h
        · exact hprice h
    · exact Except.ok.inj h ▸ Nat.zero_le 1
  | demandDecline =>
    rw [generateCandidateActions, htype] at h
    unfold demandCandidate at h
    dsimp only at h
    split at h
    · split_ifs at h
      · exact Except.ok.inj h ▸ Nat.zero_le 1
      · obtain ⟨proposed, -, h⟩ := bind_ok.mp h
        split_ifs at h
        · exact Except.ok.inj h ▸ Nat.zero_le 1
        · exact hprice h
    · exact Except.ok.inj h ▸ Nat.zero_le 1
  | stockoutExposure =>
    rw [generateCandidateActions, htype] at h
    exact Except.ok.inj h ▸ Nat.zero_le 1

lemma generateCandidateActions_pairwise {O : Outside} {o : Opportunity}
    {cs : List CandidateAction} {R : CandidateAction → CandidateAction → Prop}
    (h : generateCandidateActions O o = .ok cs) : cs.Pairwise R := by
  have hlen := generateCandidateActions_length h
  cases cs with
  | nil => exact List.Pairwise.nil
  | cons c rest =>
    have hrest : rest = [] :=
      List.length_eq_zero_iff.mp (Nat.le_zero.mp (Nat.le_of_succ_le_succ hlen))
    rw [hrest]
    exact List.pairwise_singleton R c

/-! ### Merging -/

variable {printable : Char → Bool}

/-- Merging only appends, and only what it is given. -/
lemma mergeInto_extends (result cs : List CandidateAction) :
    ∃ extra, mergeInto printable result cs = result ++ extra ∧ extra.Sublist cs := by
  induction cs generalizing result with
  | nil => exact ⟨[], (List.append_nil result).symm, List.Sublist.refl []⟩
  | cons c cs ih =>
    rw [mergeInto]
    split_ifs
    · obtain ⟨extra, heq, hsub⟩ := ih result
      exact ⟨extra, heq, hsub.cons c⟩
    · obtain ⟨extra, heq, hsub⟩ := ih (result ++ [c])
      refine ⟨c :: extra, ?_, hsub.cons_cons c⟩
      rw [heq, List.append_assoc, List.singleton_append]

/-- A merged list repeats no candidate. -/
lemma mergeInto_pairwise {result : List CandidateAction} (cs : List CandidateAction)
    (h : result.Pairwise (fun d c => sameCandidate printable d c = false)) :
    (mergeInto printable result cs).Pairwise
      (fun d c => sameCandidate printable d c = false) := by
  induction cs generalizing result with
  | nil => exact h
  | cons c cs ih =>
    rw [mergeInto]
    split_ifs with hany
    · exact ih h
    · refine ih (List.pairwise_append.mpr ⟨h, List.pairwise_singleton _ _, ?_⟩)
      intro d hd c' hc'
      rw [List.mem_singleton.mp hc']
      rw [List.any_eq_true, not_exists] at hany
      exact Bool.eq_false_iff.mpr (fun hsame => hany d ⟨hd, hsame⟩)

/-- At most one deterministic candidate survives the merge as it is. -/
lemma mergeCandidates_extends (printable : Char → Bool) {deterministic : List CandidateAction}
    (llm : List CandidateAction) (h : deterministic.length ≤ 1) :
    ∃ extra, mergeCandidates printable deterministic llm = deterministic ++ extra ∧
      extra.Sublist llm := by
  cases deterministic with
  | nil => exact mergeInto_extends [] llm
  | cons d ds =>
    have hds : ds = [] := List.length_eq_zero_iff.mp (Nat.le_zero.mp (Nat.le_of_succ_le_succ h))
    rw [hds, mergeCandidates, List.singleton_append, mergeInto, if_neg (by simp), List.nil_append]
    exact mergeInto_extends [d] llm

end OpsCopilot
