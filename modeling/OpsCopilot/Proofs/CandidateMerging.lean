import OpsCopilot.Lib.KeepFirst
import OpsCopilot.Lib.PyEquality
import OpsCopilot.Model.Reasoning

/-!
# What merging takes for a duplicate

Candidates are compared by their frozen payloads. Freezing forgets the order of the members of an
object, as it should, and also that there was an object: it leaves the list of its pairs.
-/

namespace OpsCopilot

open Python KeepFirst

/-! ### Frozen values -/

section Freeze

variable {printable : Char → Bool}

mutual

/-- There is no dictionary inside. -/
def DictFree : Value → Prop
  | .list xs => DictFreeItems xs
  | .dict _ => False
  | _ => True

def DictFreeItems : List Value → Prop
  | [] => True
  | x :: xs => DictFree x ∧ DictFreeItems xs

end

lemma dictFreeItems_iff {xs : List Value} : DictFreeItems xs ↔ ∀ x ∈ xs, DictFree x := by
  induction xs with
  | nil => simp [DictFreeItems]
  | cons x xs ih => rw [DictFreeItems, ih, List.forall_mem_cons]

lemma standardItems_iff {xs : List Value} : StandardItems xs ↔ ∀ x ∈ xs, x.IsStandardJson := by
  induction xs with
  | nil => simp [StandardItems]
  | cons x xs ih => rw [StandardItems, ih, List.forall_mem_cons]

mutual

/-- Without dictionaries there is only one equality. -/
lemma jsonEq_of_dictFree (v w : Value) (hv : DictFree v) : v.jsonEq w = v.pyEq w := by
  match v with
  | .none | .bool _ | .int _ | .float _ | .decimal _ | .str _ => rfl
  | .list xs =>
    match w with
    | .list ys => rw [Value.jsonEq, Value.pyEq, jsonItemsEq_of_dictFree xs ys hv]
    | .none | .bool _ | .int _ | .float _ | .decimal _ | .str _ | .dict _ => rfl
  | .dict _ => exact absurd hv not_false

lemma jsonItemsEq_of_dictFree (xs ys : List Value) (hxs : DictFreeItems xs) :
    jsonItemsEq xs ys = itemsEq xs ys := by
  match xs, ys with
  | [], [] | [], _ :: _ | _ :: _, [] => rfl
  | x :: xs, y :: ys =>
    rw [jsonItemsEq, itemsEq, jsonEq_of_dictFree x y hxs.1, jsonItemsEq_of_dictFree xs ys hxs.2]

end

/-- What becomes of a member of a dictionary. -/
def frozenMember (printable : Char → Bool) (m : Key × Value) : Value :=
  .list [keyValue m.1, freeze printable m.2]

lemma freezeMembers_eq_map (ms : List (Key × Value)) :
    freezeMembers printable ms = ms.map (frozenMember printable) := by
  induction ms with
  | nil => rfl
  | cons m ms ih => rw [freezeMembers, List.map_cons, ih, frozenMember]

mutual

lemma freeze_dictFree (v : Value) : DictFree (freeze printable v) := by
  match v with
  | .none | .bool _ | .int _ | .float _ | .decimal _ | .str _ => exact trivial
  | .list xs => exact freezeItems_dictFree xs
  | .dict ms =>
    refine dictFreeItems_iff.mpr (fun x hx => ?_)
    rw [List.mem_insertionSort, freezeMembers_eq_map] at hx
    obtain ⟨m, hm, rfl⟩ := List.mem_map.mp hx
    refine ⟨?_, freezeMembers_dictFree ms m hm, trivial⟩
    cases m.1 <;> exact trivial

lemma freezeItems_dictFree (xs : List Value) : DictFreeItems (freezeItems printable xs) := by
  match xs with
  | [] => exact trivial
  | x :: xs => exact ⟨freeze_dictFree x, freezeItems_dictFree xs⟩

lemma freezeMembers_dictFree (ms : List (Key × Value)) :
    ∀ m ∈ ms, DictFree (freeze printable m.2) := by
  match ms with
  | [] => exact fun m hm => absurd hm List.not_mem_nil
  | (k, v) :: ms =>
    exact List.forall_mem_cons.mpr ⟨freeze_dictFree v, freezeMembers_dictFree ms⟩

end

mutual

lemma freeze_standard (v : Value) (hv : v.IsStandardJson) :
    (freeze printable v).IsStandardJson := by
  match v with
  | .none | .bool _ | .int _ | .float _ | .str _ => exact hv
  | .decimal _ => exact hv
  | .list xs => exact freezeItems_standard xs hv
  | .dict ms =>
    refine standardItems_iff.mpr (fun x hx => ?_)
    rw [List.mem_insertionSort, freezeMembers_eq_map] at hx
    obtain ⟨m, hm, rfl⟩ := List.mem_map.mp hx
    obtain ⟨hkey, -⟩ := standardMembers_iff.mp hv.2 m hm
    refine ⟨?_, freezeMembers_standard ms hv.2 m hm, trivial⟩
    cases hk : m.1 with
    | str s => exact trivial
    | none | bool _ | int _ | float _ =>
      rw [hk] at hkey
      cases hkey

lemma freezeItems_standard (xs : List Value) (hxs : StandardItems xs) :
    StandardItems (freezeItems printable xs) := by
  match xs with
  | [] => exact trivial
  | x :: xs => exact ⟨freeze_standard x hxs.1, freezeItems_standard xs hxs.2⟩

lemma freezeMembers_standard (ms : List (Key × Value)) (hms : StandardMembers ms) :
    ∀ m ∈ ms, (freeze printable m.2).IsStandardJson := by
  match ms with
  | [] => exact fun m hm => absurd hm List.not_mem_nil
  | (k, v) :: ms =>
    exact List.forall_mem_cons.mpr
      ⟨freeze_standard v hms.2.1, freezeMembers_standard ms hms.2.2⟩

end

/-! ### The order of frozen members -/

/-- The text that a frozen member is sorted by. -/
def memberText (printable : Char → Bool) (m : Key × Value) : List Char :=
  tupleText printable (frozenMember printable m)

lemma memberText_str (s : String) (v : Value) : memberText printable (.str s, v) =
    '(' :: (reprStr printable s ++
      (',' :: ' ' :: (tupleText printable (freeze printable v) ++ [')']))) := rfl

/-- Members with different names are sorted by the names. -/
lemma memberText_le_iff {s t : String} {v w : Value} (h : s ≠ t) :
    String.ofList (memberText printable (.str s, v)) ≤
        String.ofList (memberText printable (.str t, w)) ↔
      String.ofList (reprStr printable s) ≤ String.ofList (reprStr printable t) := by
  rw [memberText_str, memberText_str, String.le_iff_toList_le, String.le_iff_toList_le,
    String.toList_ofList, String.toList_ofList, String.toList_ofList, String.toList_ofList,
    ← not_lt, ← not_lt, List.cons_lt_cons_iff, append_lt_append_iff _ _
      (reprStr_unextended h.symm) (reprStr_unextended h)]
  simp

/-- The members of an object in the order of their names. -/
def sortedMembers (printable : Char → Bool) (ms : List (Key × Value)) : List (Key × Value) :=
  ms.insertionSort (fun a b => String.ofList (reprStr printable a.1.name) ≤
    String.ofList (reprStr printable b.1.name))

lemma freezeMembers_sorted {ms : List (Key × Value)} (hkeys : (ms.map Prod.fst).Nodup)
    (hms : StandardMembers ms) : (freezeMembers printable ms).insertionSort (fun a b =>
        String.ofList (tupleText printable a) ≤ String.ofList (tupleText printable b)) =
      (sortedMembers printable ms).map (frozenMember printable) := by
  rw [freezeMembers_eq_map]
  refine (List.map_insertionSort _ _ _ _ (fun a ha b hb => ?_)).symm
  by_cases hab : a.1 = b.1
  · rw [List.inj_on_of_nodup_map hkeys ha hb hab]
    exact iff_of_true le_rfl le_rfl
  · obtain ⟨ka, va⟩ := a
    obtain ⟨kb, vb⟩ := b
    have hka := (standardMembers_iff.mp hms _ ha).1
    have hkb := (standardMembers_iff.mp hms _ hb).1
    cases ka with
    | str s =>
      cases kb with
      | str t => exact (memberText_le_iff (fun h => hab (congrArg Key.str h))).symm
      | none | bool _ | int _ | float _ => cases hkb
    | none | bool _ | int _ | float _ => cases hka

lemma treeMembers_sorted (ms : List (Key × Value)) :
    (treeMembers printable ms).insertionSort (NameLe printable) =
      (sortedMembers printable ms).map (fun m => (m.1.name, m.2.tree printable)) := by
  have hsort := List.map_insertionSort (fun a b : Key × Value =>
      String.ofList (reprStr printable a.1.name) ≤ String.ofList (reprStr printable b.1.name))
    (NameLe printable) (fun m : Key × Value => (m.1.name, m.2.tree printable)) ms
    (fun a _ b _ => by rw [NameLe])
  rw [treeMembers_eq_map, sortedMembers, hsort]

lemma treeItems_eq_map (xs : List Value) :
    treeItems printable xs = xs.map (Value.tree printable) := by
  induction xs with
  | nil => rfl
  | cons x xs ih => rw [treeItems, List.map_cons, ih]

lemma spelledMembers_eq_map (ms : List (String × JsonTree)) :
    spelledMembers ms = ms.map (fun m => JsonTree.list [.str m.1, m.2.spelled]) := by
  induction ms with
  | nil => rfl
  | cons m ms ih => rw [spelledMembers, List.map_cons, ih]

/-! ### Frozen values are spelled out -/

mutual

/-- The frozen value is the tree with its objects spelled out. -/
theorem freeze_tree (v : Value) (hv : v.IsStandardJson) :
    (freeze printable v).tree printable = (v.tree printable).spelled := by
  match v with
  | .none | .bool _ | .int _ | .str _ => rfl
  | .float (.finite _) | .float (.inf _) => rfl
  | .float .nan => exact absurd rfl hv
  | .decimal _ => exact absurd hv not_false
  | .list xs =>
    rw [freeze, Value.tree, Value.tree, JsonTree.spelled, freezeItems_tree xs hv]
  | .dict ms =>
    rw [freeze, freezeMembers_sorted hv.1 hv.2, Value.tree, Value.tree, JsonTree.spelled,
      treeMembers_sorted, treeItems_eq_map, spelledMembers_eq_map, List.map_map, List.map_map]
    refine congrArg JsonTree.list (List.map_congr_left (fun m hm => ?_))
    rw [sortedMembers, List.mem_insertionSort] at hm
    have hmem := hm
    obtain ⟨k, v⟩ := m
    have hkey := (standardMembers_iff.mp hv.2 _ hmem).1
    have hvalue := freezeMembers_tree ms hv.2 _ hmem
    cases k with
    | str s =>
      rw [Function.comp_apply, Function.comp_apply, frozenMember, Value.tree, treeItems, treeItems,
        treeItems, hvalue]
      rfl
    | none | bool _ | int _ | float _ => cases hkey

theorem freezeItems_tree (xs : List Value) (hxs : StandardItems xs) :
    treeItems printable (freezeItems printable xs) = spelledItems (treeItems printable xs) := by
  match xs with
  | [] => rfl
  | x :: xs =>
    rw [freezeItems, treeItems, treeItems, spelledItems, freeze_tree x hxs.1,
      freezeItems_tree xs hxs.2]

theorem freezeMembers_tree (ms : List (Key × Value)) (hms : StandardMembers ms) :
    ∀ m ∈ ms, (freeze printable m.2).tree printable = (m.2.tree printable).spelled := by
  match ms with
  | [] => exact fun m hm => absurd hm List.not_mem_nil
  | (k, v) :: ms =>
    exact List.forall_mem_cons.mpr ⟨freeze_tree v hms.2.1, freezeMembers_tree ms hms.2.2⟩

end

/-- Two values have the same frozen form when they are the same tree with every object spelled
out. -/
theorem freeze_eq_iff {v w : Value} (hv : v.IsStandardJson) (hw : w.IsStandardJson) :
    (freeze printable v).pyEq (freeze printable w) = true ↔
      (v.tree printable).spelled = (w.tree printable).spelled := by
  rw [← jsonEq_of_dictFree _ _ (freeze_dictFree v),
    Value.jsonEq_iff _ _ (freeze_standard v hv) (freeze_standard w hw), freeze_tree v hv,
    freeze_tree w hw]

end Freeze

/-! ### Candidates -/

/-- The candidates are for the same opportunity and action, with equal payloads. -/
def equalCandidate (c d : CandidateAction) : Bool :=
  c.opportunityId = d.opportunityId && c.actionType = d.actionType &&
    (Value.dict c.payload).jsonEq (.dict d.payload)

/-- The payload with every object inside written as the list of its `[key, value]` pairs, in the
order of the `repr`s of the keys; numbers count by their value. -/
def CandidateAction.spelledPayload (printable : Char → Bool) (c : CandidateAction) : JsonTree :=
  ((Value.dict c.payload).tree printable).spelled

section Merge

variable (printable : Char → Bool) {cs : List CandidateAction}

lemma mergeInto_eq (kept rest : List CandidateAction) :
    mergeInto printable kept rest = keepInto (sameCandidate printable) kept rest := by
  induction rest generalizing kept with
  | nil => rfl
  | cons c rest ih => rw [mergeInto, keepInto, ih, ih]

lemma equalCandidate_iff {c d : CandidateAction} (hc : (Value.dict c.payload).IsStandardJson)
    (hd : (Value.dict d.payload).IsStandardJson) : equalCandidate c d = true ↔
      c.opportunityId = d.opportunityId ∧ c.actionType = d.actionType ∧
        (Value.dict c.payload).tree printable = (Value.dict d.payload).tree printable := by
  rw [equalCandidate, Bool.and_eq_true, Bool.and_eq_true, decide_eq_true_eq, decide_eq_true_eq,
    Value.jsonEq_iff _ _ hc hd, and_assoc]

lemma sameCandidate_iff {c d : CandidateAction} (hc : (Value.dict c.payload).IsStandardJson)
    (hd : (Value.dict d.payload).IsStandardJson) : sameCandidate printable c d = true ↔
      c.opportunityId = d.opportunityId ∧ c.actionType = d.actionType ∧
        c.spelledPayload printable = d.spelledPayload printable := by
  rw [sameCandidate, Bool.and_eq_true, Bool.and_eq_true, decide_eq_true_eq, decide_eq_true_eq,
    freeze_eq_iff hc hd, and_assoc]
  rfl

/-- A relation that compares the opportunity, the action and something of the payload is an
equivalence. -/
lemma equivalenceOn_of_iff {same : CandidateAction → CandidateAction → Bool} {κ : Type}
    {key : CandidateAction → κ} (h : ∀ c ∈ cs, ∀ d ∈ cs, same c d = true ↔
      c.opportunityId = d.opportunityId ∧ c.actionType = d.actionType ∧ key c = key d) :
    EquivalenceOn same cs where
  refl c hc := (h c hc c hc).mpr ⟨rfl, rfl, rfl⟩
  symm c hc d hd hcd := by
    obtain ⟨hid, htype, hkey⟩ := (h c hc d hd).mp hcd
    exact (h d hd c hc).mpr ⟨hid.symm, htype.symm, hkey.symm⟩
  trans c hc d hd e he hcd hde := by
    obtain ⟨hid, htype, hkey⟩ := (h c hc d hd).mp hcd
    obtain ⟨hid', htype', hkey'⟩ := (h d hd e he).mp hde
    exact (h c hc e he).mpr ⟨hid.trans hid', htype.trans htype', hkey.trans hkey'⟩

/-- Merging keeps the first of equal candidates, and loses nothing else, exactly when no two
candidates for the same opportunity and action have payloads that differ and become equal when
their objects are spelled out as lists of pairs. -/
theorem merge_keeps_first_iff (printable : Char → Bool) (deterministic llm : List CandidateAction)
    (hjson : ∀ c ∈ deterministic ++ llm, (Value.dict c.payload).IsStandardJson) :
    KeepsFirst equalCandidate (deterministic ++ llm)
        (mergeCandidates printable deterministic llm) ↔
      ∀ c ∈ deterministic ++ llm, ∀ d ∈ deterministic ++ llm,
        c.opportunityId = d.opportunityId → c.actionType = d.actionType →
          c.spelledPayload printable = d.spelledPayload printable →
            (Value.dict c.payload).jsonEq (.dict d.payload) = true := by
  have hequal := fun c hc d hd =>
    equalCandidate_iff printable (hjson c hc) (hjson d hd)
  have hsame := fun c hc d hd =>
    sameCandidate_iff printable (hjson c hc) (hjson d hd)
  rw [mergeCandidates, mergeInto_eq,
    keepsFirst_iff (equivalenceOn_of_iff hsame) (equivalenceOn_of_iff hequal)]
  · refine forall₂_congr (fun c hc => forall₂_congr (fun d hd => ?_))
    rw [hsame c hc d hd, equalCandidate, Bool.and_eq_true, Bool.and_eq_true, decide_eq_true_eq,
      decide_eq_true_eq]
    tauto
  · intro c hc d hd hcd
    obtain ⟨hid, htype, htree⟩ := (hequal c hc d hd).mp hcd
    exact (hsame c hc d hd).mpr ⟨hid, htype, congrArg JsonTree.spelled htree⟩

end Merge

/-! ### An object and its list of pairs -/

def proposal (payload : Dict) (hfilled : payload ≠ []) : CandidateAction where
  opportunityId := "demand_decline:m1"
  actionType := .menuSwap
  payload := payload
  rationale := "Try it."
  requiresHumanReview := true
  assumptions := []
  source := .llm
  named := by decide
  filled := hfilled
  reasoned := by decide +kernel

/-- A dish with options. -/
def withOptions : CandidateAction :=
  proposal [(.str "item", .str "m1"), (.str "options", .dict [(.str "size", .int 1)])] (by simp)

/-- The options are a list of pairs instead. -/
def withPairs : CandidateAction :=
  proposal [(.str "item", .str "m1"), (.str "options", .list [.list [.str "size", .int 1]])] (by simp)

/-- The second proposal is dropped, although it repeats nothing. -/
theorem pairs_dropped : ¬KeepsFirst equalCandidate ([withOptions] ++ [withPairs])
    (mergeCandidates (fun _ => true) [withOptions] [withPairs]) := by
  intro h
  obtain ⟨first, -, hfilter⟩ := h.represented withPairs (by simp)
  have hnone : ((mergeCandidates (fun _ => true) [withOptions] [withPairs]).filter
      (fun c => equalCandidate c withPairs)).length = 0 := by decide +kernel
  rw [hfilter] at hnone
  cases hnone

/-- The same payload with its members the other way round. -/
def optionsFirst : CandidateAction :=
  proposal [(.str "options", .dict [(.str "size", .float (.finite (.ofDigits false 1 0)))]),
    (.str "item", .str "m1")] (by simp)

theorem reordered_merged : KeepsFirst equalCandidate ([withOptions] ++ [optionsFirst])
    (mergeCandidates (fun _ => true) [withOptions] [optionsFirst]) := by
  refine (merge_keeps_first_iff (fun _ => true) [withOptions] [optionsFirst] ?_).mpr ?_
  · simp [withOptions, optionsFirst, proposal, Value.IsStandardJson, StandardMembers, Key.isStr]
  · have hall : ∀ c ∈ [withOptions] ++ [optionsFirst], ∀ d ∈ [withOptions] ++ [optionsFirst],
        (Value.dict c.payload).jsonEq (.dict d.payload) = true := by
      decide +kernel
    exact fun c hc d hd _ _ _ => hall c hc d hd

end OpsCopilot
