import OpsCopilot.Lib.PyJsonEscape

/-!
# What a JSON value says

The content of a JSON value forgets the order of the members of its objects. With
`sort_keys=True` two JSON values are written as the same text exactly when they have the
same content: `sortedText_eq_iff`.
-/

namespace Python

/-- The content of a JSON value: an object is a table from names to contents. -/
inductive Content where
  | atom (a : Atom)
  | str (s : String)
  | arr (xs : List Content)
  | obj (table : String → Option Content)

mutual

def Json.content : Json → Content
  | .atom a => .atom a
  | .str s => .str s
  | .arr xs => .arr (contentItems xs)
  | .obj ms => .obj (contentTable ms)

def contentItems : List Json → List Content
  | [] => []
  | x :: xs => x.content :: contentItems xs

def contentTable : List (String × Json) → String → Option Content
  | [], _ => none
  | (k, v) :: ms, name => if k = name then some v.content else contentTable ms name

end

mutual

/-- The values that JSON can carry: no `Decimal`, and dictionaries with distinct string keys. -/
def Value.IsJson : Value → Prop
  | .none | .bool _ | .int _ | .float _ | .str _ => True
  | .decimal _ => False
  | .list xs => JsonItems xs
  | .dict ms => JsonMembers ms

def JsonItems : List Value → Prop
  | [] => True
  | x :: xs => x.IsJson ∧ JsonItems xs

def JsonMembers : List (Key × Value) → Prop
  | [] => True
  | (k, v) :: ms => k.isStr = true ∧ k ∉ ms.map Prod.fst ∧ v.IsJson ∧ JsonMembers ms

end

mutual

def Value.content : Value → Content
  | .none => .atom .null
  | .bool b => .atom (.bool b)
  | .int n => .atom (.int n)
  | .float x => .atom (.float x)
  | .decimal _ => .atom .null
  | .str s => .str s
  | .list xs => .arr (valueItems xs)
  | .dict ms => .obj (valueTable ms)

def valueItems : List Value → List Content
  | [] => []
  | x :: xs => x.content :: valueItems xs

def valueTable : List (Key × Value) → String → Option Content
  | [], _ => none
  | (k, v) :: ms, name => if k = .str name then some v.content else valueTable ms name

end

/-! ### Sorted documents -/

mutual

/-- Every object lists its members by strictly increasing name. -/
def Json.Sorted : Json → Prop
  | .atom _ | .str _ => True
  | .arr xs => SortedItems xs
  | .obj ms => SortedMembers ms

def SortedItems : List Json → Prop
  | [] => True
  | x :: xs => x.Sorted ∧ SortedItems xs

def SortedMembers : List (String × Json) → Prop
  | [] => True
  | (k, v) :: ms => (∀ m ∈ ms, k < m.1) ∧ v.Sorted ∧ SortedMembers ms

end

lemma contentTable_eq_none {ms : List (String × Json)} {name : String}
    (h : ∀ m ∈ ms, name < m.1) : contentTable ms name = none := by
  induction ms with
  | nil => rfl
  | cons m ms ih =>
    rcases m with ⟨k, v⟩
    rw [contentTable, if_neg (h (k, v) List.mem_cons_self).ne']
    exact ih (fun m hm => h m (List.mem_cons_of_mem _ hm))

lemma contentTable_head (k : String) (v : Json) (ms : List (String × Json)) :
    contentTable ((k, v) :: ms) k = some v.content := by
  rw [contentTable, if_pos rfl]

/-- The least name of a sorted object can be told from its table. -/
lemma sortedMembers_head {k l : String} {v w : Json} {ms ns : List (String × Json)}
    (hms : SortedMembers ((k, v) :: ms)) (hns : SortedMembers ((l, w) :: ns))
    (h : contentTable ((k, v) :: ms) = contentTable ((l, w) :: ns)) : k = l := by
  rcases lt_trichotomy k l with hlt | heq | hgt
  · have hnone : contentTable ((l, w) :: ns) k = none := by
      refine contentTable_eq_none (fun m hm => ?_)
      rcases List.mem_cons.mp hm with rfl | hm
      · exact hlt
      · exact hlt.trans (hns.1 m hm)
    rw [← h, contentTable_head] at hnone
    exact absurd hnone (by simp)
  · exact heq
  · have hnone : contentTable ((k, v) :: ms) l = none := by
      refine contentTable_eq_none (fun m hm => ?_)
      rcases List.mem_cons.mp hm with rfl | hm
      · exact hgt
      · exact hgt.trans (hms.1 m hm)
    rw [h, contentTable_head] at hnone
    exact absurd hnone (by simp)

lemma contentTable_tail {k : String} {v w : Json} {ms ns : List (String × Json)}
    (hms : SortedMembers ((k, v) :: ms)) (hns : SortedMembers ((k, w) :: ns))
    (h : contentTable ((k, v) :: ms) = contentTable ((k, w) :: ns)) :
    v.content = w.content ∧ contentTable ms = contentTable ns := by
  constructor
  · have hk := congrFun h k
    rw [contentTable_head, contentTable_head] at hk
    exact Option.some.inj hk
  · funext name
    by_cases hname : k = name
    · subst hname
      rw [contentTable_eq_none hms.1, contentTable_eq_none hns.1]
    · have hn := congrFun h name
      rwa [contentTable, contentTable, if_neg hname, if_neg hname] at hn

mutual

/-- A sorted document is determined by its content. -/
theorem Json.Sorted.eq_of_content (j k : Json) (hj : j.Sorted) (hk : k.Sorted)
    (h : j.content = k.content) : j = k := by
  match j, k with
  | .atom a, .atom b => rw [Json.content, Json.content, Content.atom.injEq] at h; rw [h]
  | .str s, .str t => rw [Json.content, Json.content, Content.str.injEq] at h; rw [h]
  | .arr xs, .arr ys =>
    rw [Json.content, Json.content, Content.arr.injEq] at h
    rw [sortedItems_eq_of_content xs ys hj hk h]
  | .obj ms, .obj ns =>
    rw [Json.content, Json.content, Content.obj.injEq] at h
    rw [sortedMembers_eq_of_content ms ns hj hk h]
  | .atom _, .str _ | .atom _, .arr _ | .atom _, .obj _ | .str _, .atom _ | .str _, .arr _
  | .str _, .obj _ | .arr _, .atom _ | .arr _, .str _ | .arr _, .obj _ | .obj _, .atom _
  | .obj _, .str _ | .obj _, .arr _ => simp [Json.content] at h

theorem sortedItems_eq_of_content (xs ys : List Json) (hx : SortedItems xs)
    (hy : SortedItems ys) (h : contentItems xs = contentItems ys) : xs = ys := by
  match xs, ys with
  | [], [] => rfl
  | [], y :: ys => simp [contentItems] at h
  | x :: xs, [] => simp [contentItems] at h
  | x :: xs, y :: ys =>
    rw [contentItems, contentItems, List.cons.injEq] at h
    rw [Json.Sorted.eq_of_content x y hx.1 hy.1 h.1, sortedItems_eq_of_content xs ys hx.2 hy.2 h.2]

theorem sortedMembers_eq_of_content (ms ns : List (String × Json)) (hm : SortedMembers ms)
    (hn : SortedMembers ns) (h : contentTable ms = contentTable ns) : ms = ns := by
  match ms, ns with
  | [], [] => rfl
  | [], (l, w) :: ns =>
    have hl := congrFun h l
    rw [contentTable_head] at hl
    exact absurd hl (by simp [contentTable])
  | (k, v) :: ms, [] =>
    have hk := congrFun h k
    rw [contentTable_head] at hk
    exact absurd hk (by simp [contentTable])
  | (k, v) :: ms, (l, w) :: ns =>
    obtain rfl := sortedMembers_head hm hn h
    obtain ⟨hv, ht⟩ := contentTable_tail hm hn h
    rw [Json.Sorted.eq_of_content v w hm.2.1 hn.2.1 hv,
      sortedMembers_eq_of_content ms ns hm.2.2 hn.2.2 ht]

end

/-! ### Sorting the members keeps the content -/

lemma contentTable_perm {ms ns : List (String × Json)} (h : ms.Perm ns)
    (hnodup : (ms.map Prod.fst).Nodup) : contentTable ms = contentTable ns := by
  induction h with
  | nil => rfl
  | cons m h ih =>
    rcases m with ⟨k, v⟩
    rw [List.map_cons, List.nodup_cons] at hnodup
    funext name
    rw [contentTable, contentTable, ih hnodup.2]
  | swap m n ms =>
    rcases m with ⟨k, v⟩
    rcases n with ⟨l, w⟩
    rw [List.map_cons, List.map_cons, List.nodup_cons, List.mem_cons, not_or] at hnodup
    funext name
    simp only [contentTable]
    split_ifs with hl hk
    · exact absurd (hl.trans hk.symm) hnodup.1.1
    · rfl
    · rfl
    · rfl
  | trans h₁ h₂ ih₁ ih₂ =>
    exact (ih₁ hnodup).trans (ih₂ ((h₁.map Prod.fst).nodup_iff.mp hnodup))

lemma sortedMembers_of_pairwise {ms : List (String × Json)}
    (hnames : ms.Pairwise (fun m n => m.1 < n.1)) (hvalues : ∀ m ∈ ms, m.2.Sorted) :
    SortedMembers ms := by
  induction ms with
  | nil => trivial
  | cons m ms ih =>
    rcases m with ⟨k, v⟩
    rw [List.pairwise_cons] at hnames
    exact ⟨hnames.1, hvalues (k, v) List.mem_cons_self,
      ih hnames.2 (fun m hm => hvalues m (List.mem_cons_of_mem _ hm))⟩

/-- A member as it is written. -/
def nameMember (m : Key × Json) : String × Json := (m.1.text, m.2)

/-- String keys are always sortable, and sorting only permutes the members. -/
lemma sortMembers_str {js : List (Key × Json)} (hstr : ∀ m ∈ js, m.1.isStr = true) :
    ∃ ks, sortMembers js = .ok ks ∧ ks.Perm js ∧
      ks.Pairwise (fun m n => m.1.text ≤ n.1.text) := by
  unfold sortMembers
  by_cases hlen : js.length ≤ 1
  · rw [if_pos hlen]
    refine ⟨js, rfl, List.Perm.refl _, ?_⟩
    match js, hlen with
    | [], _ => exact List.Pairwise.nil
    | [m], _ => exact List.pairwise_singleton _ _
  · rw [if_neg hlen, if_pos (List.all_eq_true.mpr hstr)]
    have : Std.Total (fun m n : Key × Json => m.1.text ≤ n.1.text) := ⟨fun m n => le_total _ _⟩
    have : IsTrans (Key × Json) (fun m n => m.1.text ≤ n.1.text) := ⟨fun _ _ _ => le_trans⟩
    exact ⟨_, rfl, List.perm_insertionSort _ js, List.pairwise_insertionSort _ js⟩

/-- An object with distinct names is arranged into a sorted object of the same content. -/
lemma arrangeMembers_sorted (default : PyDecimal → Except StdError Json)
    {js : List (Key × Json)} (hstr : ∀ m ∈ js, m.1.isStr = true)
    (hnodup : ((js.map nameMember).map Prod.fst).Nodup) (hvalues : ∀ m ∈ js, m.2.Sorted) :
    ∃ ns, arrangeMembers ⟨true, default⟩ js = .ok (.obj ns) ∧ SortedMembers ns ∧
      contentTable ns = contentTable (js.map nameMember) := by
  obtain ⟨ks, hsort, hperm, hpair⟩ := sortMembers_str hstr
  have hnames : (ks.map nameMember).Perm (js.map nameMember) := hperm.map nameMember
  have hknodup : ((ks.map nameMember).map Prod.fst).Nodup :=
    (hnames.map Prod.fst).nodup_iff.mpr hnodup
  refine ⟨ks.map nameMember, ?_, ?_, contentTable_perm hnames hknodup⟩
  · simp only [arrangeMembers, if_true, hsort]
    rfl
  · refine sortedMembers_of_pairwise ?_ ?_
    · rw [List.Nodup, List.pairwise_map, List.pairwise_map] at hknodup
      rw [List.pairwise_map]
      exact (hpair.and hknodup).imp (fun h => lt_of_le_of_ne h.1 h.2)
    · intro m hm
      obtain ⟨n, hn, rfl⟩ := List.mem_map.mp hm
      exact hvalues n (hperm.mem_iff.mp hn)

lemma Key.text_of_isStr {k : Key} {name : String} (hk : k.isStr = true) :
    k.text = name ↔ k = .str name := by
  cases k with
  | str s => rw [Key.text, Key.str.injEq]
  | none | bool b | int n | float x => exact absurd hk (by simp [Key.isStr])

lemma JsonMembers.keys {ms : List (Key × Value)} (h : JsonMembers ms) :
    (∀ k ∈ ms.map Prod.fst, k.isStr = true) ∧ (ms.map Prod.fst).Nodup := by
  induction ms with
  | nil => exact ⟨by simp, List.nodup_nil⟩
  | cons m ms ih =>
    rcases m with ⟨k, v⟩
    obtain ⟨hstr, hnodup⟩ := ih h.2.2.2
    refine ⟨?_, List.nodup_cons.mpr ⟨h.2.1, hnodup⟩⟩
    intro l hl
    rcases List.mem_cons.mp hl with rfl | hl
    · exact h.1
    · exact hstr l hl

/-- Distinct string keys are written as distinct names. -/
lemma nodup_names {js : List (Key × Json)} (hstr : ∀ k ∈ js.map Prod.fst, k.isStr = true)
    (hnodup : (js.map Prod.fst).Nodup) : ((js.map nameMember).map Prod.fst).Nodup := by
  have hnames : (js.map nameMember).map Prod.fst = (js.map Prod.fst).map Key.text := by
    rw [List.map_map, List.map_map]
    rfl
  rw [hnames]
  refine List.Nodup.map_on ?_ hnodup
  intro k hk l hl heq
  have hl' := (Key.text_of_isStr (hstr l hl)).mp rfl
  rw [(Key.text_of_isStr (hstr k hk)).mp heq, ← hl']

section Prepare

variable (default : PyDecimal → Except StdError Json)

mutual

/-- Writing a JSON value with sorted keys gives a sorted document of the same content. -/
theorem Value.IsJson.prepare_sorted (v : Value) (hv : v.IsJson) :
    ∃ j, prepare ⟨true, default⟩ v = .ok j ∧ j.Sorted ∧ j.content = v.content := by
  match v with
  | .none | .bool b | .int n | .float x | .str s =>
    exact ⟨_, rfl, trivial, by simp only [Json.content, Value.content]⟩
  | .decimal d => exact absurd hv (by simp [Value.IsJson])
  | .list xs =>
    obtain ⟨js, hjs, hsorted, hcontent⟩ := JsonItems.prepare_sorted xs hv
    refine ⟨.arr js, ?_, hsorted, ?_⟩
    · rw [prepare, hjs]
      rfl
    · rw [Json.content, Value.content, hcontent]
  | .dict ms =>
    obtain ⟨js, hjs, hkeys, hsorted, htable⟩ := JsonMembers.prepare_sorted ms hv
    have hstr : ∀ k ∈ js.map Prod.fst, k.isStr = true := hkeys ▸ hv.keys.1
    obtain ⟨ns, hns, hnsorted, hncontent⟩ := arrangeMembers_sorted default
      (fun m hm => hstr m.1 (List.mem_map_of_mem hm)) (nodup_names hstr (hkeys ▸ hv.keys.2)) hsorted
    refine ⟨.obj ns, ?_, hnsorted, ?_⟩
    · rw [prepare, hjs]
      exact hns
    · rw [Json.content, Value.content, hncontent, htable]

theorem JsonItems.prepare_sorted (xs : List Value) (hx : JsonItems xs) :
    ∃ js, prepareItems ⟨true, default⟩ xs = .ok js ∧ SortedItems js ∧
      contentItems js = valueItems xs := by
  match xs with
  | [] => exact ⟨[], rfl, trivial, rfl⟩
  | x :: xs =>
    obtain ⟨j, hj, hsorted, hcontent⟩ := Value.IsJson.prepare_sorted x hx.1
    obtain ⟨js, hjs, hsorteds, hcontents⟩ := JsonItems.prepare_sorted xs hx.2
    refine ⟨j :: js, ?_, ⟨hsorted, hsorteds⟩, ?_⟩
    · rw [prepareItems, hj, hjs]
      rfl
    · rw [contentItems, valueItems, hcontent, hcontents]

theorem JsonMembers.prepare_sorted (ms : List (Key × Value)) (hm : JsonMembers ms) :
    ∃ js, prepareMembers ⟨true, default⟩ ms = .ok js ∧ js.map Prod.fst = ms.map Prod.fst ∧
      (∀ m ∈ js, m.2.Sorted) ∧ contentTable (js.map nameMember) = valueTable ms := by
  match ms with
  | [] => exact ⟨[], rfl, rfl, by simp, rfl⟩
  | (k, v) :: ms =>
    obtain ⟨j, hj, hsorted, hcontent⟩ := Value.IsJson.prepare_sorted v hm.2.2.1
    obtain ⟨js, hjs, hkeys, hsorteds, htable⟩ := JsonMembers.prepare_sorted ms hm.2.2.2
    refine ⟨(k, j) :: js, ?_, by rw [List.map_cons, List.map_cons, hkeys], ?_, ?_⟩
    · rw [prepareMembers, hj, hjs]
      rfl
    · intro m hm'
      rcases List.mem_cons.mp hm' with rfl | hm'
      · exact hsorted
      · exact hsorteds m hm'
    · funext name
      rw [List.map_cons, nameMember, contentTable, valueTable, hcontent, htable]
      simp only [Key.text_of_isStr hm.1]

end

/-- Two JSON values have the same sorted text exactly when they have the same content. -/
theorem sorted_text_eq_iff {escape : Char → List Char} (he : Escaping escape) {v w : Value}
    (hv : v.IsJson) (hw : w.IsJson) :
    (prepare ⟨true, default⟩ v).map (Json.text escape) =
      (prepare ⟨true, default⟩ w).map (Json.text escape) ↔ v.content = w.content := by
  obtain ⟨j, hj, hjs, hjc⟩ := hv.prepare_sorted default
  obtain ⟨k, hk, hks, hkc⟩ := hw.prepare_sorted default
  rw [hj, hk, ← hjc, ← hkc]
  constructor
  · intro h
    have htext : j.text escape = k.text escape := Except.ok.inj h
    rw [Json.eq_of_text he htext]
  · intro h
    rw [Json.Sorted.eq_of_content j k hjs hks h]

end Prepare

end Python
