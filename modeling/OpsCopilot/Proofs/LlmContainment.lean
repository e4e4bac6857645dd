import OpsCopilot.Proofs.LlmSoundness
import OpsCopilot.Proofs.PriceSteps

/-!
# Failures of a language model

A failure of the client, a text that is no JSON and a proposal that fails validation are all
contained. What is not contained is a number: one that `json.loads` cannot read, or one with which
the comparison of two prices leaves the range of `str` or of `Decimal`.
-/

namespace OpsCopilot

open Python Fallible

/-! ### What may be raised -/

/-- The error that falls back to the deterministic candidates. -/
abbrev IsReasonerError (e : PyException) : Prop := e.cls = .llmReasonerError

/-- The error that skips one candidate. -/
abbrev IsCandidateError (e : PyException) : Prop := e.cls = .candidateValidationError

/-- An error of the arithmetic, which nothing around the reasoner catches. -/
def IsArithmeticError (e : PyException) : Prop := e.cls = .valueError ∨ e.cls = .decimalOverflow

/-- `json.loads` fails in the ways it documents. -/
def LoadsDocumented (loads : String → Except PyException Value) : Prop :=
  ∀ text e, loads text = .error e →
    e.cls = .jsonDecodeError ∨ e.cls = .valueError ∨ e.cls = .recursionError

lemma IsArithmeticError.not_candidateError {e : PyException} (h : IsArithmeticError e) :
    ¬IsCandidateError e := by
  rcases h with h | h
  · exact fun h' => ErrorClass.noConfusion (h.symm.trans h')
  · exact fun h' => ErrorClass.noConfusion (h.symm.trans h')

lemma IsArithmeticError.not_reasonerError {e : PyException} (h : IsArithmeticError e) :
    ¬IsReasonerError e := by
  rcases h with h | h
  · exact fun h' => ErrorClass.noConfusion (h.symm.trans h')
  · exact fun h' => ErrorClass.noConfusion (h.symm.trans h')

/-! ### The comparison of two prices -/

/-- Two prices can be compared: neither is an integer too long for `str`, and when both are
positive their difference and its ratio to the current price fit a `Decimal`. -/
structure PricesCompare (new current : Value) : Prop where
  newShort : ∀ n, new = .int n → exceedsStrDigits n = false
  currentShort : ∀ n, current = .int n → exceedsStrDigits n = false
  fits : ∀ p q, strictDecimal new = .ok (some p) → strictDecimal current = .ok (some q) →
    0 < p → 0 < q → ∃ change, contextResult (p - q) = some change ∧
      ∃ ratio, contextResult (|change| / q) = some ratio

lemma strictDecimal_ok_iff {v : Value} :
    (∃ q, strictDecimal v = .ok q) ↔ ∀ n, v = .int n → exceedsStrDigits n = false := by
  cases v with
  | int n =>
    rw [strictDecimal]
    split_ifs with hlong
    · constructor
      · rintro ⟨q, h⟩
        cases h
      · intro h
        exact absurd ((h n rfl).symm.trans hlong) Bool.false_ne_true
    · constructor
      · intro _ m hm
        rw [← Value.int.inj hm]
        exact Bool.eq_false_iff.mpr hlong
      · exact fun _ => ⟨_, rfl⟩
  | float x =>
    cases x with
    | finite x => exact ⟨fun _ n hn => Value.noConfusion hn, fun _ => ⟨_, rfl⟩⟩
    | inf _ | nan => exact ⟨fun _ n hn => Value.noConfusion hn, fun _ => ⟨_, rfl⟩⟩
  | decimal d => exact ⟨fun _ n hn => Value.noConfusion hn, fun _ => ⟨_, rfl⟩⟩
  | none | bool _ | str _ | list _ | dict _ =>
    exact ⟨fun _ n hn => Value.noConfusion hn, fun _ => ⟨_, rfl⟩⟩

lemma strictDecimal_raises {v : Value} : OnlyRaises IsArithmeticError (strictDecimal v) := by
  cases v with
  | int n =>
    rw [strictDecimal]
    split_ifs
    · exact onlyRaises_error (.inl rfl)
    · exact onlyRaises_ok _
  | float x =>
    cases x with
    | finite x => exact onlyRaises_ok _
    | inf _ | nan => exact onlyRaises_ok _
  | decimal d => exact onlyRaises_ok _
  | none | bool _ | str _ | list _ | dict _ => exact onlyRaises_ok _

lemma inContext_raises {q : ℚ} : OnlyRaises IsArithmeticError (inContext q) := by
  unfold inContext
  cases contextResult q with
  | none => exact onlyRaises_error (.inr rfl)
  | some r => exact onlyRaises_ok r

lemma validatePriceChange_raises {payload : Dict} {o : Opportunity} :
    OnlyRaises IsArithmeticError (validatePriceChangeAgainstOpportunity payload o) := by
  unfold validatePriceChangeAgainstOpportunity
  split_ifs
  · cases payload.get "menu_item_id" with
    | str m =>
      dsimp only
      split_ifs
      · exact onlyRaises_ok false
      · refine strictDecimal_raises.bind (fun p _ => strictDecimal_raises.bind (fun q _ => ?_))
        cases p with
        | none => exact onlyRaises_ok false
        | some p =>
          cases q with
          | none => exact onlyRaises_ok false
          | some q =>
            dsimp only
            split_ifs
            · exact onlyRaises_ok false
            · exact inContext_raises.bind
                (fun _ _ => inContext_raises.bind (fun _ _ => onlyRaises_ok _))
    | none | bool _ | int _ | float _ | decimal _ | list _ | dict _ => exact onlyRaises_ok false
  · exact onlyRaises_ok false

/-- A price change of an affected menu item has prices that can be compared. -/
def PriceChangeReads (payload : Dict) (o : Opportunity) : Prop :=
  hasPriceChangeKeys payload = true → ∀ m, payload.get "menu_item_id" = .str m →
    m ∈ o.affectedEntityIds →
      PricesCompare (payload.get "new_price") (o.evidence.get "current_price")

lemma Opportunity.ne_empty_of_affected {o : Opportunity} {m : String}
    (h : m ∈ o.affectedEntityIds) : m ≠ "" := by
  rintro rfl
  exact o.affects.2 "" h rfl

lemma validatePriceChange_ok_iff {payload : Dict} {o : Opportunity} :
    (∃ b, validatePriceChangeAgainstOpportunity payload o = .ok b) ↔
      PriceChangeReads payload o := by
  constructor
  · rintro ⟨b, h⟩ hkeys m hm haffected
    unfold validatePriceChangeAgainstOpportunity at h
    rw [if_pos hkeys, hm] at h
    dsimp only at h
    rw [if_neg (not_or.mpr ⟨o.ne_empty_of_affected haffected, not_not.mpr haffected⟩)] at h
    obtain ⟨new, hnew, h⟩ := bind_ok.mp h
    obtain ⟨current, hcurrent, h⟩ := bind_ok.mp h
    refine ⟨strictDecimal_ok_iff.mp ⟨new, hnew⟩, strictDecimal_ok_iff.mp ⟨current, hcurrent⟩, ?_⟩
    intro p q hp hq hpos hqpos
    cases Except.ok.inj (hnew.symm.trans hp)
    cases Except.ok.inj (hcurrent.symm.trans hq)
    dsimp only at h
    rw [if_neg (not_or.mpr ⟨not_le.mpr hpos, not_le.mpr hqpos⟩)] at h
    obtain ⟨change, hchange, h⟩ := bind_ok.mp h
    obtain ⟨ratio, hratio, -⟩ := bind_ok.mp h
    exact ⟨change, inContext_ok.mp hchange, ratio, inContext_ok.mp hratio⟩
  · intro hreads
    unfold validatePriceChangeAgainstOpportunity
    split_ifs with hkeys
    · cases hm : payload.get "menu_item_id" with
      | str m =>
        dsimp only
        split_ifs with hid
        · exact ⟨false, rfl⟩
        · obtain ⟨hnew, hcurrent, hfits⟩ := hreads hkeys m hm (not_not.mp (not_or.mp hid).2)
          obtain ⟨p, hp⟩ := strictDecimal_ok_iff.mpr hnew
          obtain ⟨q, hq⟩ := strictDecimal_ok_iff.mpr hcurrent
          cases p with
          | none => exact ⟨false, bind_ok.mpr ⟨none, hp, bind_ok.mpr ⟨q, hq, rfl⟩⟩⟩
          | some p =>
            cases q with
            | none => exact ⟨false, bind_ok.mpr ⟨some p, hp, bind_ok.mpr ⟨none, hq, rfl⟩⟩⟩
            | some q =>
              rw [hp, hq]
              dsimp only [bind, Except.bind]
              split_ifs with hsign
              · exact ⟨false, rfl⟩
              · rw [not_or, not_le, not_le] at hsign
                obtain ⟨change, hchange, ratio, hratio⟩ := hfits p q hp hq hsign.1 hsign.2
                rw [inContext_ok.mpr hchange]
                dsimp only
                rw [inContext_ok.mpr hratio]
                exact ⟨_, rfl⟩
      | none | bool _ | int _ | float _ | decimal _ | list _ | dict _ => exact ⟨false, rfl⟩
    · exact ⟨false, rfl⟩

/-! ### One entry -/

/-- Comparing the prices of an entry, where it gets that far, raises nothing. -/
def EntryReads (o : Opportunity) (allowed : List String) (raw : Value) : Prop :=
  ∀ c, validateLlmCandidate raw o = .ok c → c.actionType = .priceChange →
    c.actionType.value ∈ allowed → PriceChangeReads c.payload o

lemma validateText_raises {fieldName : String} {v : Value} :
    OnlyRaises IsCandidateError (validateText fieldName v) := by
  cases v with
  | str text =>
    rw [validateText]
    split_ifs
    · exact onlyRaises_error rfl
    · exact onlyRaises_ok _
  | none | bool _ | int _ | float _ | decimal _ | list _ | dict _ => exact onlyRaises_error rfl

lemma validateText_stripped {fieldName text : String} {v : Value}
    (h : validateText fieldName v = .ok text) : strip text ≠ "" := by
  cases v with
  | str raw =>
    rw [validateText] at h
    split_ifs at h with hempty
    exact Except.ok.inj h ▸ strip_strip_ne_empty hempty
  | none | bool _ | int _ | float _ | decimal _ | list _ | dict _ => cases h

lemma parseActionType_raises {v : Value} :
    OnlyRaises IsCandidateError (parseActionType v) := by
  cases v with
  | str text =>
    rw [parseActionType]
    cases ActionType.ofValue text with
    | none => exact onlyRaises_error rfl
    | some a => exact onlyRaises_ok a
  | none | bool _ | int _ | float _ | decimal _ | list _ | dict _ => exact onlyRaises_error rfl

lemma validatePayload_raises {v : Value} :
    OnlyRaises IsCandidateError (validatePayload v) := by
  cases v with
  | dict payload =>
    cases payload with
    | nil => exact onlyRaises_error rfl
    | cons m ms => exact onlyRaises_ok _
  | none | bool _ | int _ | float _ | decimal _ | str _ | list _ => exact onlyRaises_error rfl

lemma validatePayload_cons {v : Value} {payload : Dict} (h : validatePayload v = .ok payload) :
    ∃ m ms, payload = m :: ms := by
  cases v with
  | dict members =>
    cases members with
    | nil => cases h
    | cons m ms => exact ⟨m, ms, (Except.ok.inj h).symm⟩
  | none | bool _ | int _ | float _ | decimal _ | str _ | list _ => cases h

lemma onlyRaises_mapM {α β : Type} {C : PyException → Prop} {f : α → Except PyException β}
    (hf : ∀ a, OnlyRaises C (f a)) (l : List α) : OnlyRaises C (l.mapM f) := by
  induction l with
  | nil =>
    rw [List.mapM_nil]
    exact onlyRaises_ok _
  | cons a l ih =>
    rw [List.mapM_cons]
    exact (hf a).bind (fun _ _ => ih.bind (fun _ _ => onlyRaises_ok _))

lemma validateAssumptions_raises {v : Value} :
    OnlyRaises IsCandidateError (validateAssumptions v) := by
  cases v with
  | list raw =>
    rw [validateAssumptions]
    refine (onlyRaises_mapM (fun x => ?_) raw).bind (fun _ _ => onlyRaises_ok _)
    cases x with
    | str text => exact onlyRaises_ok _
    | none | bool _ | int _ | float _ | decimal _ | list _ | dict _ => exact onlyRaises_error rfl
  | none | bool _ | int _ | float _ | decimal _ | str _ | dict _ => exact onlyRaises_error rfl

/-- The validation of the shape raises nothing but its own error. -/
lemma validateLlmCandidate_raises {raw : Value} {o : Opportunity} :
    OnlyRaises IsCandidateError (validateLlmCandidate raw o) := by
  cases raw with
  | dict raw =>
    refine parseActionType_raises.bind (fun a _ => validatePayload_raises.bind
      (fun payload hpayload => validateText_raises.bind (fun rationale hrationale =>
        OnlyRaises.bind (onlyRaises_raiseIf rfl) (fun _ _ => validateAssumptions_raises.bind
          (fun assumptions _ => ?_)))))
    obtain ⟨m, ms, rfl⟩ := validatePayload_cons hpayload
    obtain ⟨c, hc, -⟩ := CandidateAction.make_total a m ms true assumptions .llm o.id_ne_empty
      (validateText_stripped hrationale)
    rw [hc]
    exact onlyRaises_ok c
  | none | bool _ | int _ | float _ | decimal _ | str _ | list _ => exact onlyRaises_error rfl

/-- What is done with an entry, after its shape has been validated. -/
lemma acceptCandidate_raises_iff {o : Opportunity} {allowed : List String} {raw : Value} :
    OnlyRaises IsCandidateError (acceptCandidate o allowed raw) ↔ EntryReads o allowed raw := by
  constructor
  · intro honly c hc hprice hallowed
    rw [← validatePriceChange_ok_iff]
    cases hv : validatePriceChangeAgainstOpportunity c.payload o with
    | ok b => exact ⟨b, rfl⟩
    | error e =>
      refine absurd (honly e ?_) (validatePriceChange_raises e hv).not_candidateError
      have hid := (validateLlmCandidate_ok hc).1
      have hsupported : validateCandidateAgainstOpportunity c o = .error e := by
        unfold validateCandidateAgainstOpportunity
        rw [if_neg (not_not.mpr hid), hprice]
        exact hv
      rw [acceptCandidate, hc]
      dsimp only [bind, Except.bind]
      rw [raiseIf, if_neg (not_not.mpr hallowed)]
      dsimp only
      rw [hsupported]
  · intro hreads
    refine validateLlmCandidate_raises.bind (fun c hc => OnlyRaises.bind (onlyRaises_raiseIf rfl)
      (fun u hu => OnlyRaises.bind ?_
        (fun _ _ => OnlyRaises.bind (onlyRaises_raiseIf rfl) (fun _ _ => onlyRaises_ok _))))
    have hallowed := not_not.mp (raiseIf_ok.mp hu)
    unfold validateCandidateAgainstOpportunity
    split_ifs
    · exact onlyRaises_ok false
    · cases ha : c.actionType with
      | priceChange =>
        obtain ⟨b, hb⟩ := validatePriceChange_ok_iff.mpr (hreads c hc ha hallowed)
        dsimp only
        rw [hb]
        exact onlyRaises_ok b
      | supplierSwitch | menuSwap | staffingChange => exact onlyRaises_ok false

lemma acceptCandidate_raises {o : Opportunity} {allowed : List String} {raw : Value} :
    OnlyRaises (fun e => IsCandidateError e ∨ IsArithmeticError e)
      (acceptCandidate o allowed raw) := by
  refine (validateLlmCandidate_raises.mono fun _ => .inl).bind (fun c _ =>
    OnlyRaises.bind (onlyRaises_raiseIf (.inl rfl)) (fun _ _ => OnlyRaises.bind ?_
      (fun _ _ => OnlyRaises.bind (onlyRaises_raiseIf (.inl rfl)) (fun _ _ => onlyRaises_ok _))))
  unfold validateCandidateAgainstOpportunity
  split_ifs
  · exact onlyRaises_ok false
  · cases c.actionType with
    | priceChange => exact validatePriceChange_raises.mono fun _ => .inr
    | supplierSwitch | menuSwap | staffingChange => exact onlyRaises_ok false

/-! ### The entries of an answer -/

/-- Whether an entry ends up among the candidates, when there is room. -/
def accepts (o : Opportunity) (allowed : List String) (raw : Value) : Bool :=
  (acceptCandidate o allowed raw).isOk

lemma entryReads_of_accepts {o : Opportunity} {allowed : List String} {raw : Value}
    (h : accepts o allowed raw = true) : EntryReads o allowed raw := by
  rw [← acceptCandidate_raises_iff]
  rw [accepts] at h
  cases hraw : acceptCandidate o allowed raw with
  | ok c => exact onlyRaises_ok c
  | error e =>
    rw [hraw] at h
    cases h

/-- Every entry that is looked at reads: each with fewer than five accepted ones before it. -/
def EntriesRead (o : Opportunity) (allowed : List String) (raws : List Value) : Prop :=
  ∀ before raw after, raws = before ++ raw :: after →
    before.countP (accepts o allowed) < maxLlmCandidates → EntryReads o allowed raw

lemma forall_split_cons {α : Type} {P : List α → α → Prop} {a : α} {l : List α} :
    (∀ before b after, a :: l = before ++ b :: after → P before b) ↔
      P [] a ∧ ∀ before b after, l = before ++ b :: after → P (a :: before) b := by
  constructor
  · intro h
    refine ⟨h [] a l rfl, fun before b after hl => h (a :: before) b after ?_⟩
    rw [hl, List.cons_append]
  · rintro ⟨hhead, htail⟩ before b after hl
    cases before with
    | nil =>
      rw [List.nil_append] at hl
      rw [← (List.cons.inj hl).1]
      exact hhead
    | cons c before =>
      rw [List.cons_append] at hl
      rw [← (List.cons.inj hl).1]
      exact htail before b after (List.cons.inj hl).2

/-- The loop, with `n` candidates still to come before the cap. -/
lemma acceptCandidates_raises_iff {o : Opportunity} {allowed : List String} {raws : List Value}
    {accepted : List CandidateAction} :
    OnlyRaises IsReasonerError (acceptCandidates o allowed accepted raws) ↔
      ∀ before raw after, raws = before ++ raw :: after →
        accepted.length + before.countP (accepts o allowed) < maxLlmCandidates →
          EntryReads o allowed raw := by
  induction raws generalizing accepted with
  | nil => exact ⟨fun _ before raw after h => by simp at h, fun _ => onlyRaises_ok accepted⟩
  | cons raw raws ih =>
    rw [forall_split_cons (P := fun before raw =>
      accepted.length + before.countP (accepts o allowed) < maxLlmCandidates →
        EntryReads o allowed raw), acceptCandidates]
    split_ifs with hfull
    · refine ⟨fun _ => ⟨fun h => ?_, fun before _ _ _ h => ?_⟩, fun _ => onlyRaises_ok accepted⟩
      · exact absurd hfull (by simpa using h)
      · exact absurd hfull (not_le.mpr (lt_of_le_of_lt (Nat.le_add_right _ _) h))
    · have hroom : accepted.length + ([] : List Value).countP (accepts o allowed) <
          maxLlmCandidates := not_le.mp hfull
      cases hraw : acceptCandidate o allowed raw with
      | ok c =>
        have haccepts : accepts o allowed raw = true := by
          rw [accepts, hraw]
          rfl
        have hhead := entryReads_of_accepts haccepts
        dsimp only
        rw [ih]
        constructor
        · intro h
          refine ⟨fun _ => hhead, fun before b after hl hcount => h before b after hl ?_⟩
          rw [List.countP_cons_of_pos haccepts] at hcount
          rw [List.length_append, List.length_singleton]
          omega
        · intro h before b after hl hcount
          refine h.2 before b after hl ?_
          rw [List.length_append, List.length_singleton] at hcount
          rw [List.countP_cons_of_pos haccepts]
          omega
      | error e =>
        have hrejects : accepts o allowed raw = false := by
          rw [accepts, hraw]
          rfl
        dsimp only
        split_ifs with hcls
        · have hhead : EntryReads o allowed raw :=
            acceptCandidate_raises_iff.mp (hraw ▸ onlyRaises_error hcls)
          rw [ih]
          simp only [List.countP_cons_of_neg (Bool.eq_false_iff.mp hrejects)]
          exact ⟨fun h => ⟨fun _ => hhead, h⟩, fun h => h.2⟩
        · have harith : IsArithmeticError e := (acceptCandidate_raises e hraw).resolve_left hcls
          constructor
          · intro h
            exact absurd (h e rfl) harith.not_reasonerError
          · intro h
            exact absurd (acceptCandidate_raises_iff.mpr (h.1 hroom) e hraw) hcls

/-! ### The answer -/

/-- A text that is read: `json.loads` gives a value for it or calls it invalid JSON, and of the
value every entry that is looked at reads. -/
structure TextReads (loads : String → Except PyException Value) (o : Opportunity)
    (allowed : List String) (text : String) : Prop where
  decodes : ∀ e, loads text = .error e → e.cls = .jsonDecodeError
  entries : ∀ data raws, loads text = .ok (.dict data) →
    (Dict.find? "candidates" data).getD (.list []) = .list raws → EntriesRead o allowed raws

variable {τ : Type}

/-- The client is not asked, or fails, or answers with a text that is read. -/
def LlmReasoner.AnswerReads (M : LlmReasoner τ) (o : Opportunity) (allowed : List String)
    (s : τ) : Prop :=
  allowed ≠ [] → ∀ text, (M.generate s o).2 = .ok text → TextReads M.loads o allowed text

lemma acceptCandidates_nil_raises_iff {o : Opportunity} {allowed : List String}
    {raws : List Value} :
    OnlyRaises IsReasonerError (acceptCandidates o allowed [] raws) ↔
      EntriesRead o allowed raws := by
  rw [acceptCandidates_raises_iff]
  simp only [List.length_nil, Nat.zero_add, EntriesRead]

lemma LlmReasoner.readAnswer_raises_iff {M : LlmReasoner τ} (hloads : LoadsDocumented M.loads)
    {o : Opportunity} {allowed : List String} {text : String} :
    OnlyRaises IsReasonerError (M.readAnswer o allowed text) ↔
      TextReads M.loads o allowed text := by
  unfold LlmReasoner.readAnswer
  cases hdata : M.loads text with
  | error e =>
    dsimp only
    constructor
    · intro honly
      refine ⟨fun e' he' => ?_, fun data raws h => by cases hdata.symm.trans h⟩
      rw [← Except.error.inj (hdata.symm.trans he')]
      by_contra hcls
      have hreasoner := honly e (by rw [if_neg hcls])
      rcases hloads text e hdata with h | h | h
      · exact hcls h
      · exact ErrorClass.noConfusion (h.symm.trans hreasoner)
      · exact ErrorClass.noConfusion (h.symm.trans hreasoner)
    · intro hreads
      rw [if_pos (hreads.decodes e hdata)]
      exact onlyRaises_error rfl
  | ok data =>
    have hdecodes : ∀ e, M.loads text = .error e → e.cls = .jsonDecodeError := by
      intro e he
      cases hdata.symm.trans he
    cases data with
    | dict data =>
      dsimp only
      generalize hraws : (Dict.find? "candidates" data).getD (.list []) = raws
      have hentries : (∀ raws', raws = .list raws' → EntriesRead o allowed raws') ↔
          TextReads M.loads o allowed text := by
        constructor
        · refine fun h => ⟨hdecodes, fun data' raws' hdata' hraws' => h raws' ?_⟩
          cases hdata.symm.trans hdata'
          exact hraws.symm.trans hraws'
        · intro h raws' hraws'
          exact h.entries data raws' hdata (hraws.trans hraws')
      rw [← hentries]
      cases raws with
      | list raws =>
        dsimp only
        rw [acceptCandidates_nil_raises_iff]
        constructor
        · intro h raws' hraws'
          exact Value.list.inj hraws' ▸ h
        · exact fun h => h raws rfl
      | none | bool _ | int _ | float _ | decimal _ | str _ | dict _ =>
        exact ⟨fun _ raws' h => (Value.noConfusion h), fun _ => onlyRaises_error rfl⟩
    | none | bool _ | int _ | float _ | decimal _ | str _ | list _ =>
      refine ⟨fun _ => ⟨hdecodes, fun data' raws' hdata' => ?_⟩, fun _ => onlyRaises_error rfl⟩
      cases hdata.symm.trans hdata'

lemma LlmReasoner.reason_raises_iff {M : LlmReasoner τ} (hloads : LoadsDocumented M.loads)
    {o : Opportunity} {allowed : List String} {s : τ} :
    OnlyRaises IsReasonerError (M.reason o allowed s).2 ↔ M.AnswerReads o allowed s := by
  unfold LlmReasoner.reason LlmReasoner.AnswerReads
  split_ifs with hallowed
  · exact ⟨fun _ h => absurd hallowed h, fun _ => onlyRaises_ok []⟩
  · rcases hg : M.generate s o with ⟨s', answer⟩
    cases answer with
    | error e => exact ⟨fun _ _ text h => (by cases h), fun _ => onlyRaises_error rfl⟩
    | ok text =>
      dsimp only
      rw [M.readAnswer_raises_iff hloads]
      constructor
      · intro h _ text' htext'
        exact Except.ok.inj htext' ▸ h
      · exact fun h => h hallowed text rfl

/-! ### The deterministic rules -/

/-- Rounding a price to the step stays in the range of `Decimal`. -/
def StepFits (price : ℚ) : Prop := ∃ steps, contextResult (price / priceStep) = some steps

/-- The arithmetic of `_margin_candidate` stays in the range of `Decimal`. -/
def MarginFits (price recipeCost : ℚ) : Prop :=
  ∃ restored, contextResult (recipeCost / (1 - targetContributionMargin)) = some restored ∧
    if restored ≤ price then
      ∃ proposed, contextResult (price + priceStep) = some proposed ∧ StepFits proposed
    else StepFits restored

/-- The arithmetic of `_demand_candidate` stays in the range of `Decimal`. -/
def DemandFits (price : ℚ) : Prop :=
  ∃ proposed, contextResult (price * (1 - demandRecoveryDiscount)) = some proposed ∧
    (0 < proposed → StepFits proposed)

/-- The rule for the opportunity computes a price, or is not asked for one. -/
def RuleComputes (o : Opportunity) : Prop :=
  match o.opportunityType with
  | .marginDeterioration => ∀ m price recipeCost, o.namedItem = some m →
      finiteDecimal (o.evidence.get "current_price") = some price →
      finiteDecimal (o.evidence.get "recipe_cost") = some recipeCost →
      0 < price → 0 ≤ recipeCost → MarginFits price recipeCost
  | .demandDecline => ∀ m price, o.namedItem = some m →
      finiteDecimal (o.evidence.get "current_price") = some price → 0 < price → DemandFits price
  | .stockoutExposure => True

variable {O : Outside}

lemma priceToStep_of_fits {q : ℚ} (h : StepFits q) : (∃ price, priceToStep O q = .ok price) ∨
    priceToStep O q = .error (.ofStd .invalidOperation) := by
  obtain ⟨steps, hsteps⟩ := h
  rw [priceToStep_of_context hsteps]
  cases quantizeUnits steps with
  | none => exact .inr rfl
  | some n => exact .inl ⟨_, rfl⟩

lemma priceCandidate_ok_iff {o : Opportunity} {m rationale : String} {q : ℚ}
    {assumptions : List String} (hrationale : strip rationale ≠ "") :
    (∃ cs, priceCandidate O o m q rationale assumptions = .ok cs) ↔ StepFits q := by
  constructor
  · rintro ⟨cs, h⟩
    cases hsteps : contextResult (q / priceStep) with
    | some steps => exact ⟨steps, hsteps⟩
    | none =>
      unfold priceCandidate at h
      rw [priceToStep_overflow hsteps] at h
      dsimp only at h
      rw [if_neg (by exact ErrorClass.noConfusion)] at h
      cases h
  · intro hfits
    unfold priceCandidate
    rcases priceToStep_of_fits (O := O) hfits with ⟨price, h⟩ | h
    · rw [h]
      cases price with
      | finite price =>
        dsimp only
        split_ifs
        · exact ⟨[], rfl⟩
        · obtain ⟨c, hc, -⟩ := CandidateAction.make_total .priceChange
            (.str "menu_item_id", .str m) [(.str "new_price", .float (.finite price))] false
            assumptions .deterministic o.id_ne_empty hrationale
          exact ⟨[c], map_ok.mpr ⟨c, hc, rfl⟩⟩
      | inf _ | nan => exact ⟨[], rfl⟩
    · rw [h]
      exact ⟨[], rfl⟩

lemma marginCandidate_ok_iff {o : Opportunity} :
    (∃ cs, marginCandidate O o = .ok cs) ↔ ∀ m price recipeCost, o.namedItem = some m →
      finiteDecimal (o.evidence.get "current_price") = some price →
      finiteDecimal (o.evidence.get "recipe_cost") = some recipeCost →
      0 < price → 0 ≤ recipeCost → MarginFits price recipeCost := by
  unfold marginCandidate
  generalize o.namedItem = item, finiteDecimal (o.evidence.get "current_price") = current,
    finiteDecimal (o.evidence.get "recipe_cost") = cost
  cases item with
  | none => exact ⟨fun _ m _ _ h => (nomatch h), fun _ => ⟨[], rfl⟩⟩
  | some m =>
    cases current with
    | none => exact ⟨fun _ _ price _ _ h => (nomatch h), fun _ => ⟨[], rfl⟩⟩
    | some price =>
      cases cost with
      | none => exact ⟨fun _ _ _ c _ _ h => (nomatch h), fun _ => ⟨[], rfl⟩⟩
      | some recipeCost =>
        dsimp only
        split_ifs with hsign
        · refine ⟨fun _ m' price' cost' _ hprice hcost hpos hnonneg => ?_, fun _ => ⟨[], rfl⟩⟩
          cases hprice
          cases hcost
          exact absurd hsign (not_or.mpr ⟨not_le.mpr hpos, not_lt.mpr hnonneg⟩)
        · rw [not_or, not_le, not_lt] at hsign
          have hrule : MarginFits price recipeCost ↔ ∀ m' price' cost', some m = some m' →
              some price = some price' → some recipeCost = some cost' → 0 < price' →
              0 ≤ cost' → MarginFits price' cost' := by
            constructor
            · intro h m' price' cost' _ hprice hcost _ _
              cases hprice
              cases hcost
              exact h
            · exact fun h => h m price recipeCost rfl rfl rfl hsign.1 hsign.2
          rw [← hrule]
          constructor
          · rintro ⟨cs, h⟩
            obtain ⟨restored, hrestored, h⟩ := bind_ok.mp h
            refine ⟨restored, inContext_ok.mp hrestored, ?_⟩
            split_ifs at h ⊢
            · obtain ⟨proposed, hproposed, h⟩ := bind_ok.mp h
              exact ⟨proposed, inContext_ok.mp hproposed,
                (priceCandidate_ok_iff marginRationale_reasoned).mp ⟨cs, h⟩⟩
            · exact (priceCandidate_ok_iff marginRationale_reasoned).mp ⟨cs, h⟩
          · rintro ⟨restored, hrestored, h⟩
            split_ifs at h with hle
            · obtain ⟨proposed, hproposed, hstep⟩ := h
              obtain ⟨cs, hcs⟩ := (priceCandidate_ok_iff marginRationale_reasoned).mpr hstep
              refine ⟨cs, bind_ok.mpr ⟨restored, inContext_ok.mpr hrestored, ?_⟩⟩
              rw [if_pos hle]
              exact bind_ok.mpr ⟨proposed, inContext_ok.mpr hproposed, hcs⟩
            · obtain ⟨cs, hcs⟩ := (priceCandidate_ok_iff marginRationale_reasoned).mpr h
              refine ⟨cs, bind_ok.mpr ⟨restored, inContext_ok.mpr hrestored, ?_⟩⟩
              rw [if_neg hle]
              exact hcs

lemma demandCandidate_ok_iff {o : Opportunity} :
    (∃ cs, demandCandidate O o = .ok cs) ↔ ∀ m price, o.namedItem = some m →
      finiteDecimal (o.evidence.get "current_price") = some price → 0 < price →
        DemandFits price := by
  unfold demandCandidate
  generalize o.namedItem = item, finiteDecimal (o.evidence.get "current_price") = current
  cases item with
  | none => exact ⟨fun _ m _ h => (nomatch h), fun _ => ⟨[], rfl⟩⟩
  | some m =>
    cases current with
    | none => exact ⟨fun _ _ price _ h => (nomatch h), fun _ => ⟨[], rfl⟩⟩
    | some price =>
      dsimp only
      split_ifs with hsign
      · refine ⟨fun _ m' price' _ hprice hpos => ?_, fun _ => ⟨[], rfl⟩⟩
        cases hprice
        exact absurd hsign (not_le.mpr hpos)
      · rw [not_le] at hsign
        have hrule : DemandFits price ↔ ∀ m' price', some m = some m' →
            some price = some price' → 0 < price' → DemandFits price' := by
          constructor
          · intro h m' price' _ hprice _
            cases hprice
            exact h
          · exact fun h => h m price rfl rfl hsign
        rw [← hrule]
        constructor
        · rintro ⟨cs, h⟩
          obtain ⟨proposed, hproposed, h⟩ := bind_ok.mp h
          refine ⟨proposed, inContext_ok.mp hproposed, fun hpos => ?_⟩
          rw [if_neg (not_le.mpr hpos)] at h
          exact (priceCandidate_ok_iff demandRationale_reasoned).mp ⟨cs, h⟩
        · rintro ⟨proposed, hproposed, h⟩
          by_cases hpos : 0 < proposed
          · obtain ⟨cs, hcs⟩ := (priceCandidate_ok_iff demandRationale_reasoned).mpr (h hpos)
            refine ⟨cs, bind_ok.mpr ⟨proposed, inContext_ok.mpr hproposed, ?_⟩⟩
            rw [if_neg (not_le.mpr hpos)]
            exact hcs
          · refine ⟨[], bind_ok.mpr ⟨proposed, inContext_ok.mpr hproposed, ?_⟩⟩
            rw [if_pos (not_lt.mp hpos)]

lemma generateCandidateActions_ok_iff {o : Opportunity} :
    (∃ cs, generateCandidateActions O o = .ok cs) ↔ RuleComputes o := by
  unfold generateCandidateActions RuleComputes
  cases o.opportunityType with
  | marginDeterioration => exact marginCandidate_ok_iff
  | demandDecline => exact demandCandidate_ok_iff
  | stockoutExposure => exact ⟨fun _ => trivial, fun _ => ⟨[], rfl⟩⟩

/-! ### The whole function -/

/-- Reasoning about an opportunity returns a list that starts with the deterministic candidates. -/
def KeepsDeterministic (O : Outside) (o : Opportunity)
    (answer : Except PyException (List CandidateAction)) : Prop :=
  ∃ deterministic extra, generateCandidateActions O o = .ok deterministic ∧
    answer = .ok (deterministic ++ extra)

variable {printable : Char → Bool}

/-- Any other error of the reasoner is raised again. -/
lemma reasonAboutOpportunity_raises {M : LlmReasoner τ} {o : Opportunity} {s : τ}
    {deterministic : List CandidateAction} {e : PyException}
    (hdet : generateCandidateActions O o = .ok deterministic)
    (he : (M.reason o (allowedLlmActionsFor o.opportunityType) s).2 = .error e)
    (hcls : ¬IsReasonerError e) :
    (reasonAboutOpportunity printable O (some M) true o s).2 = .error e := by
  unfold reasonAboutOpportunity
  rw [hdet, if_pos rfl]
  dsimp only
  split_ifs with hallowed
  · rw [hallowed, LlmReasoner.reason, if_pos rfl] at he
    cases he
  · rcases hreason : M.reason o (allowedLlmActionsFor o.opportunityType) s with ⟨s', answer⟩
    rw [hreason] at he
    obtain rfl : answer = .error e := he
    dsimp only
    rw [if_neg hcls]

lemma reasonAboutOpportunity_contained_iff {llm : Option (LlmReasoner τ)} {useLlm : Bool}
    {o : Opportunity} {s : τ} (hloads : ∀ M, llm = some M → LoadsDocumented M.loads) :
    KeepsDeterministic O o (reasonAboutOpportunity printable O llm useLlm o s).2 ↔
      RuleComputes o ∧ ∀ M, useLlm = true → llm = some M →
        M.AnswerReads o (allowedLlmActionsFor o.opportunityType) s := by
  rw [← generateCandidateActions_ok_iff (O := O)]
  constructor
  · rintro ⟨deterministic, extra, hdet, hanswer⟩
    refine ⟨⟨deterministic, hdet⟩, ?_⟩
    rintro M rfl rfl
    rw [← M.reason_raises_iff (hloads M rfl)]
    intro e he
    by_contra hcls
    rw [reasonAboutOpportunity_raises hdet he hcls] at hanswer
    cases hanswer
  · rintro ⟨⟨deterministic, hdet⟩, hreads⟩
    unfold reasonAboutOpportunity
    rw [hdet]
    cases hllm : (if useLlm then llm else none) with
    | none => exact ⟨deterministic, [], hdet, by rw [List.append_nil]⟩
    | some M =>
      obtain ⟨huse, hM⟩ : useLlm = true ∧ llm = some M := by
        cases useLlm with
        | true => exact ⟨rfl, hllm⟩
        | false => cases hllm
      dsimp only
      split_ifs
      · exact ⟨deterministic, [], hdet, by rw [List.append_nil]⟩
      · have honly := (M.reason_raises_iff (hloads M hM)).mpr (hreads M huse hM)
        rcases hreason : M.reason o (allowedLlmActionsFor o.opportunityType) s with ⟨s', answer⟩
        rw [hreason] at honly
        cases answer with
        | error e =>
          dsimp only
          rw [if_pos (honly e rfl)]
          exact ⟨deterministic, [], hdet, by rw [List.append_nil]⟩
        | ok found =>
          obtain ⟨extra, hextends, -⟩ :=
            mergeCandidates_extends printable found (generateCandidateActions_length hdet)
          exact ⟨deterministic, extra, hdet, by dsimp only; rw [hextends]⟩

/-- A reasoner returns a list or raises its own error just when the answer of the client is read,
and reasoning about an opportunity returns a list that starts with the deterministic candidates
just when the rule computes besides. -/
theorem llm_failures_contained_iff (printable : Char → Bool) (O : Outside)
    (llm : Option (LlmReasoner τ)) (useLlm : Bool) (o : Opportunity) (s : τ)
    (hloads : ∀ M, llm = some M → LoadsDocumented M.loads) :
    (∀ M, llm = some M → ∀ allowed,
      OnlyRaises IsReasonerError (M.reason o allowed s).2 ↔ M.AnswerReads o allowed s) ∧
    (KeepsDeterministic O o (reasonAboutOpportunity printable O llm useLlm o s).2 ↔
      RuleComputes o ∧ ∀ M, useLlm = true → llm = some M →
        M.AnswerReads o (allowedLlmActionsFor o.opportunityType) s) :=
  ⟨fun M hM _ => M.reason_raises_iff (hloads M hM), reasonAboutOpportunity_contained_iff hloads⟩

/-! ### A number that cannot be read -/

/-- The text of an integer with 5000 digits. -/
def manyNines : String := String.ofList (List.replicate 5000 '9')

def digitLimitError : PyException :=
  ⟨.valueError, "Exceeds the limit (4300 digits) for integer string conversion: value has 5000 " ++
    "digits; use sys.set_int_max_str_digits() to increase the limit"⟩

/-- A model that answers with a long number. -/
def ninesReasoner : LlmReasoner Unit where
  generate s _ := (s, .ok manyNines)
  loads text :=
    if text = manyNines then .error digitLimitError
    else .error ⟨.jsonDecodeError, "Expecting value: line 1 column 1 (char 0)"⟩

/-- The `ValueError` leaves the reasoner, and takes the deterministic candidates with it. -/
theorem nines_not_contained :
    LoadsDocumented ninesReasoner.loads ∧
    generateCandidateActions (Outside.prescribed []) goldleafDecline = .ok [] ∧
    (ninesReasoner.reason goldleafDecline (allowedLlmActionsFor .demandDecline) ()).2 =
      .error digitLimitError ∧
    (reasonAboutOpportunity (fun _ => true) (Outside.prescribed []) (some ninesReasoner) true
      goldleafDecline ()).2 = .error digitLimitError := by
  have hloads : ninesReasoner.loads manyNines = .error digitLimitError := by
    simp only [ninesReasoner, reduceIte]
  have hreason : (ninesReasoner.reason goldleafDecline (allowedLlmActionsFor .demandDecline) ()) =
      ((), .error digitLimitError) := by
    unfold LlmReasoner.reason
    rw [if_neg (by decide)]
    change ((), ninesReasoner.readAnswer goldleafDecline _ manyNines) = _
    rw [LlmReasoner.readAnswer, hloads]
    rfl
  refine ⟨fun text e h => ?_, rfl, by rw [hreason], ?_⟩
  · unfold ninesReasoner at h
    dsimp only at h
    split_ifs at h
    · exact .inr (.inl (Except.error.inj h ▸ rfl))
    · exact .inl (Except.error.inj h ▸ rfl)
  · exact reasonAboutOpportunity_raises rfl (by exact congrArg Prod.snd hreason)
      (by exact ErrorClass.noConfusion)

lemma raisingReasoner_answers :
    raisingReasoner.AnswerReads goldleafDecline (allowedLlmActionsFor .demandDecline) () := by
  intro _ text _
  refine ⟨fun e h => (by cases h), fun data raws hdata hraws before raw after hsplit _ => ?_⟩
  cases hdata
  cases hraws
  have hraw : raw ∈ before ++ raw :: after :=
    List.mem_append_right before List.mem_cons_self
  rw [← hsplit, List.mem_singleton] at hraw
  rw [hraw]
  exact entryReads_of_accepts (by decide +kernel)

/-- The proposal of a dearer dish is contained, though it is beyond the bound. -/
theorem goldleaf_contained :
    OnlyRaises IsReasonerError
      (raisingReasoner.reason goldleafDecline (allowedLlmActionsFor .demandDecline) ()).2 ∧
    KeepsDeterministic (Outside.prescribed []) goldleafDecline
      (reasonAboutOpportunity (fun _ => true) (Outside.prescribed []) (some raisingReasoner) true
        goldleafDecline ()).2 := by
  obtain ⟨hreason, hkeeps⟩ := llm_failures_contained_iff (fun _ => true) (Outside.prescribed [])
    (some raisingReasoner) true goldleafDecline ()
    (fun M hM text e he => by cases hM; cases he)
  refine ⟨(hreason raisingReasoner rfl _).mpr raisingReasoner_answers, hkeeps.mpr ⟨?_, ?_⟩⟩
  · intro m price hm
    cases hm
  · intro M _ hM
    cases hM
    exact raisingReasoner_answers

end OpsCopilot
