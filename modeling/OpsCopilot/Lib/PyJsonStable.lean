import OpsCopilot.Lib.Fallible
import OpsCopilot.Lib.PyJsonRoundTrip

/-!
# Writing what a JSON column returns

A JSON column turns dictionary keys into strings. The value it returns is written with
`sort_keys=True` as the same document as the value put in, exactly when no dictionary has
number keys that sort differently from their texts: `prepare_stored_eq_iff`.
-/

namespace Python

/-! ### Keys -/

/-- `k == l` for dictionary keys: numbers are equal by value. -/
def Key.Same (k l : Key) : Prop := k = l ∨ k.isNumber = true ∧ l.isNumber = true ∧ k.number = l.number

/-- The keys of a dictionary sort like the strings they are written as. -/
def TextOrdered (ks : List Key) : Prop :=
  (∀ k ∈ ks, k.isStr = true) ∨ ∀ k ∈ ks, ∀ l ∈ ks, k.number ≤ l.number → k.text ≤ l.text

mutual

/-- What every Python dictionary guarantees: no two of its keys are equal. -/
def Value.DistinctKeys : Value → Prop
  | .list xs => ItemsDistinctKeys xs
  | .dict ms => (ms.map Prod.fst).Pairwise (fun k l => ¬k.Same l) ∧ MembersDistinctKeys ms
  | _ => True

def ItemsDistinctKeys : List Value → Prop
  | [] => True
  | x :: xs => x.DistinctKeys ∧ ItemsDistinctKeys xs

def MembersDistinctKeys : List (Key × Value) → Prop
  | [] => True
  | (_, v) :: ms => v.DistinctKeys ∧ MembersDistinctKeys ms

end

mutual

/-- In every dictionary the keys sort like their texts. -/
def Value.KeysStable : Value → Prop
  | .list xs => ItemsKeysStable xs
  | .dict ms => TextOrdered (ms.map Prod.fst) ∧ MembersKeysStable ms
  | _ => True

def ItemsKeysStable : List Value → Prop
  | [] => True
  | x :: xs => x.KeysStable ∧ ItemsKeysStable xs

def MembersKeysStable : List (Key × Value) → Prop
  | [] => True
  | (_, v) :: ms => v.KeysStable ∧ MembersKeysStable ms

end

/-- The document of a number key. -/
def Key.atom : Key → Atom
  | .bool b => .bool b
  | .int n => .int n
  | .float x => .float (.finite x)
  | _ => .null

lemma Key.text_eq_atom {k : Key} (hk : k.isNumber = true) : k.text = String.ofList k.atom.text := by
  cases k with
  | bool b => cases b <;> rfl
  | int n => rfl
  | float x => rfl
  | none | str s => exact absurd hk (by simp [Key.isNumber])

lemma Key.eq_of_atom {k l : Key} (hk : k.isNumber = true) (hl : l.isNumber = true)
    (h : k.atom = l.atom) : k = l := by
  cases k with
  | bool b | int n | float x =>
    cases l with
    | bool c | int m | float y => simp_all [Key.atom]
    | none | str s => exact absurd hl (by simp [Key.isNumber])
  | none | str s => exact absurd hk (by simp [Key.isNumber])

/-- Number keys are told apart by their texts. -/
lemma Key.eq_of_text_number {k l : Key} (hk : k.isNumber = true) (hl : l.isNumber = true)
    (h : k.text = l.text) : k = l := by
  rw [Key.text_eq_atom hk, Key.text_eq_atom hl] at h
  exact Key.eq_of_atom hk hl (Atom.text_inj (String.ofList_injective h))

lemma Key.eq_of_text_str {k l : Key} (hk : k.isStr = true) (hl : l.isStr = true)
    (h : k.text = l.text) : k = l := by
  have hl' := (Key.text_of_isStr hl).mp rfl
  rw [(Key.text_of_isStr hk).mp h, ← hl']

/-! ### Sorting members -/

/-- How `sorted` was able to order the members. -/
inductive Sortable {α : Type*} (ms ks : List (Key × α)) : Prop where
  | single (hlen : ms.length ≤ 1) (heq : ks = ms)
  | strings (hstr : ∀ m ∈ ms, m.1.isStr = true)
      (hpair : ks.Pairwise (fun m n => m.1.text ≤ n.1.text))
  | numbers (hnum : ∀ m ∈ ms, m.1.isNumber = true)
      (hpair : ks.Pairwise (fun m n => m.1.number ≤ n.1.number))

lemma sortMembers_spec {α : Type*} {ms ks : List (Key × α)} (h : sortMembers ms = .ok ks) :
    ks.Perm ms ∧ Sortable ms ks := by
  unfold sortMembers at h
  split_ifs at h with hlen hstr hnum
  · obtain rfl := Except.ok.inj h
    exact ⟨List.Perm.refl _, .single hlen rfl⟩
  · have : Std.Total (fun m n : Key × α => m.1.text ≤ n.1.text) := ⟨fun m n => le_total _ _⟩
    have : IsTrans (Key × α) (fun m n => m.1.text ≤ n.1.text) := ⟨fun _ _ _ => le_trans⟩
    obtain rfl := Except.ok.inj h
    exact ⟨List.perm_insertionSort _ ms,
      .strings (List.all_eq_true.mp hstr) (List.pairwise_insertionSort _ ms)⟩
  · have : Std.Total (fun m n : Key × α => m.1.number ≤ n.1.number) := ⟨fun m n => le_total _ _⟩
    have : IsTrans (Key × α) (fun m n => m.1.number ≤ n.1.number) := ⟨fun _ _ _ => le_trans⟩
    obtain rfl := Except.ok.inj h
    exact ⟨List.perm_insertionSort _ ms,
      .numbers (List.all_eq_true.mp hnum) (List.pairwise_insertionSort _ ms)⟩

section Members

variable {α : Type*} {ms ks : List (Key × α)}

lemma names_nodup_of_inj (hdistinct : (ms.map Prod.fst).Pairwise (fun k l => ¬k.Same l))
    (hinj : ∀ k ∈ ms.map Prod.fst, ∀ l ∈ ms.map Prod.fst, k.text = l.text → k = l) :
    ((ms.map Prod.fst).map Key.text).Nodup := by
  refine List.Nodup.map_on hinj ?_
  exact hdistinct.imp (fun hne heq => hne (.inl heq))

/-- Keys that can be sorted have distinct texts. -/
lemma Sortable.names_nodup (h : Sortable ms ks)
    (hdistinct : (ms.map Prod.fst).Pairwise (fun k l => ¬k.Same l)) :
    ((ms.map Prod.fst).map Key.text).Nodup := by
  cases h with
  | single hlen =>
    match ms, hlen with
    | [], _ => exact List.nodup_nil
    | [m], _ => exact List.nodup_singleton _
  | strings hstr =>
    refine names_nodup_of_inj hdistinct ?_
    intro k hk l hl heq
    obtain ⟨m, hm, rfl⟩ := List.mem_map.mp hk
    obtain ⟨n, hn, rfl⟩ := List.mem_map.mp hl
    exact Key.eq_of_text_str (hstr m hm) (hstr n hn) heq
  | numbers hnum =>
    refine names_nodup_of_inj hdistinct ?_
    intro k hk l hl heq
    obtain ⟨m, hm, rfl⟩ := List.mem_map.mp hk
    obtain ⟨n, hn, rfl⟩ := List.mem_map.mp hl
    exact Key.eq_of_text_number (hnum m hm) (hnum n hn) heq

lemma same_symm {k l : Key} (h : ¬k.Same l) : ¬l.Same k := by
  rintro (heq | ⟨hl, hk, heq⟩)
  · exact h (.inl heq.symm)
  · exact h (.inr ⟨hk, hl, heq.symm⟩)

/-- Members sorted by number are sorted by text when the keys are ordered alike. -/
lemma textOrdered_of_pairwise (hnum : ∀ m ∈ ks, m.1.isNumber = true)
    (hdistinct : (ks.map Prod.fst).Pairwise (fun k l => ¬k.Same l))
    (hpair : ks.Pairwise (fun m n => m.1.number ≤ n.1.number))
    (hnames : ks.Pairwise (fun m n => m.1.text < n.1.text)) : TextOrdered (ks.map Prod.fst) := by
  right
  induction ks with
  | nil => simp
  | cons m ks ih =>
    rw [List.map_cons, List.pairwise_cons] at hdistinct
    rw [List.pairwise_cons] at hpair hnames
    have htail := ih (fun n hn => hnum n (List.mem_cons_of_mem m hn)) hdistinct.2 hpair.2 hnames.2
    intro k hk l hl hle
    rcases List.mem_cons.mp hk with rfl | hk
    · rcases List.mem_cons.mp hl with rfl | hl
      · exact le_rfl
      · obtain ⟨n, hn, rfl⟩ := List.mem_map.mp hl
        exact (hnames.1 n hn).le
    · rcases List.mem_cons.mp hl with rfl | hl
      · obtain ⟨n, hn, rfl⟩ := List.mem_map.mp hk
        have heq : m.1.number = n.1.number := le_antisymm (hpair.1 n hn) hle
        exact absurd (.inr ⟨hnum m List.mem_cons_self, hnum n (List.mem_cons_of_mem m hn), heq⟩)
          (hdistinct.1 n.1 hk)
      · exact htail k hk l hl hle

/-- The sorted members are in the order of their names exactly when the keys are ordered like
their texts. -/
lemma Sortable.names_sorted_iff (h : Sortable ms ks) (hperm : ks.Perm ms)
    (hdistinct : (ms.map Prod.fst).Pairwise (fun k l => ¬k.Same l)) :
    ks.Pairwise (fun m n => m.1.text < n.1.text) ↔ TextOrdered (ms.map Prod.fst) := by
  have hkeys : (ks.map Prod.fst).Perm (ms.map Prod.fst) := hperm.map Prod.fst
  have hnodup : ks.Pairwise (fun m n => m.1.text ≠ n.1.text) := by
    have hnames := ((hkeys.map Key.text).nodup_iff).mpr (h.names_nodup hdistinct)
    rwa [List.Nodup, List.pairwise_map, List.pairwise_map] at hnames
  have hstrict : ks.Pairwise (fun m n => m.1.text ≤ n.1.text) →
      ks.Pairwise (fun m n => m.1.text < n.1.text) := by
    intro hle
    exact (hle.and hnodup).imp (fun hmn => lt_of_le_of_ne hmn.1 hmn.2)
  cases h with
  | single hlen heq =>
    subst heq
    match ks, hlen with
    | [], _ => simp [TextOrdered]
    | [m], _ => simp [TextOrdered]
  | strings hstr hpair =>
    refine iff_of_true (hstrict hpair) (.inl ?_)
    intro k hk
    obtain ⟨m, hm, rfl⟩ := List.mem_map.mp hk
    exact hstr m hm
  | numbers hnum hpair =>
    have hnum' : ∀ m ∈ ks, m.1.isNumber = true := fun m hm => hnum m (hperm.mem_iff.mp hm)
    have hdistinct' := (hkeys.pairwise_iff (fun hkl => same_symm hkl)).mpr hdistinct
    constructor
    · intro hnames
      rcases textOrdered_of_pairwise hnum' hdistinct' hpair hnames with hstr | hord
      · exact .inl (fun k hk => hstr k (hkeys.mem_iff.mpr hk))
      · exact .inr (fun k hk l hl => hord k (hkeys.mem_iff.mpr hk) l (hkeys.mem_iff.mpr hl))
    · intro hord
      refine hstrict (hpair.imp_of_mem ?_)
      intro m n hm hn hle
      have hmk : m.1 ∈ ms.map Prod.fst := hkeys.mem_iff.mp (List.mem_map_of_mem hm)
      have hnk : n.1 ∈ ms.map Prod.fst := hkeys.mem_iff.mp (List.mem_map_of_mem hn)
      rcases hord with hstr | hord
      · have hs := hstr m.1 hmk
        have hn := hnum' m hm
        cases hk : m.1 with
        | str s => rw [hk] at hn; exact absurd hn (by simp [Key.isNumber])
        | none | bool b | int i | float x => rw [hk] at hs; exact absurd hs (by simp [Key.isStr])
      · exact hord m.1 hmk n.1 hnk hle

end Members

/-! ### Reading distinct names -/

lemma loadMembers_distinct (d : Dict) (ns : List (String × Json))
    (hnodup : (d.map Prod.fst ++ ns.map (fun m => Key.str m.1)).Nodup) :
    loadMembers d ns = d ++ ns.map (fun m => (Key.str m.1, m.2.load)) := by
  induction ns generalizing d with
  | nil => rw [loadMembers, List.map_nil, List.append_nil]
  | cons m ns ih =>
    rcases m with ⟨k, v⟩
    have hfresh : .str k ∉ d.map Prod.fst := by
      intro hmem
      exact List.disjoint_of_nodup_append hnodup hmem List.mem_cons_self
    have hnodup' : ((d ++ [(Key.str k, v.load)]).map Prod.fst ++
        ns.map (fun m => Key.str m.1)).Nodup := by
      rw [List.map_append, List.append_assoc]
      exact hnodup
    rw [loadMembers, Dict.set_of_not_mem hfresh, ih _ hnodup', List.append_assoc]
    rfl

lemma loadMembers_of_names (ns : List (String × Json)) (hnodup : (ns.map Prod.fst).Nodup) :
    loadMembers [] ns = ns.map (fun m => (Key.str m.1, m.2.load)) := by
  rw [loadMembers_distinct [] ns, List.nil_append]
  rw [List.map_nil, List.nil_append]
  have hmap : ns.map (fun m => Key.str m.1) = (ns.map Prod.fst).map Key.str := by
    rw [List.map_map]
    rfl
  rw [hmap]
  exact hnodup.map (fun s t h => Key.str.inj h)

/-- The table of the members read back from documents of given contents. -/
lemma valueTable_load (js ks : List (Key × Json)) (hkeys : js.map Prod.fst = ks.map Prod.fst)
    (hcontent : js.map (fun m => m.2.content) = ks.map (fun m => m.2.load.content)) :
    contentTable (js.map nameMember) =
      valueTable ((ks.map nameMember).map (fun m => (Key.str m.1, m.2.load))) := by
  induction js generalizing ks with
  | nil =>
    obtain rfl := List.map_eq_nil_iff.mp hkeys.symm
    rfl
  | cons m js ih =>
    cases ks with
    | nil => exact absurd hkeys (by simp)
    | cons n ks =>
      rcases m with ⟨k, v⟩
      rcases n with ⟨l, w⟩
      rw [List.map_cons, List.map_cons, List.cons.injEq] at hkeys hcontent
      obtain ⟨rfl, hkeys⟩ := hkeys
      obtain ⟨hvw, hcontent⟩ := hcontent
      funext name
      simp only [List.map_cons, nameMember, contentTable, valueTable, Key.str.injEq]
      rw [ih ks hkeys hcontent]
      exact if_congr Iff.rfl (congrArg some hvw) rfl

/-! ### The document written from the value read back -/

lemma sortedMembers_iff (ms : List (String × Json)) :
    SortedMembers ms ↔ ms.Pairwise (fun m n => m.1 < n.1) ∧ ∀ m ∈ ms, m.2.Sorted := by
  induction ms with
  | nil => simp [SortedMembers]
  | cons m ms ih =>
    rcases m with ⟨k, v⟩
    rw [SortedMembers, List.pairwise_cons, ih, List.forall_mem_cons]
    tauto

section Stored

variable (default : PyDecimal → Except StdError Json)

lemma arrangeMembers_true {js : List (Key × Json)} {j : Json}
    (h : arrangeMembers ⟨true, default⟩ js = .ok j) :
    ∃ ks, sortMembers js = .ok ks ∧ j = .obj (ks.map nameMember) := by
  obtain ⟨ks, hks, hj⟩ := Fallible.bind_ok.mp h
  exact ⟨ks, hks, (Except.ok.inj hj).symm⟩

mutual

/-- The document written from a value has the content of the value read back from the column,
and is sorted exactly when the keys of the value are stable. -/
theorem Value.prepare_load (v : Value) (hv : v.DistinctKeys) {j k : Json}
    (hj : prepare ⟨true, default⟩ v = .ok j) (hk : prepare ⟨false, noDefault⟩ v = .ok k) :
    j.content = k.load.content ∧ (j.Sorted ↔ v.KeysStable) := by
  match v with
  | .none | .bool b | .int n | .float x | .str s =>
    obtain rfl := Except.ok.inj hj
    obtain rfl := Except.ok.inj hk
    simp [Json.content, Json.load, Value.content, Json.Sorted, Value.KeysStable]
  | .decimal d => exact absurd hk (by simp [prepare, noDefault])
  | .list xs =>
    obtain ⟨js, hjs, rfl⟩ := Fallible.map_ok.mp hj
    obtain ⟨ks, hks, rfl⟩ := Fallible.map_ok.mp hk
    obtain ⟨hcontent, hsorted⟩ := prepareItems_load xs hv hjs hks
    exact ⟨by rw [Json.content, Json.load, Value.content, hcontent], hsorted⟩
  | .dict ms =>
    obtain ⟨js, hjs, harrange⟩ := Fallible.bind_ok.mp hj
    obtain ⟨ks, hks, hk⟩ := Fallible.bind_ok.mp hk
    obtain ⟨sorted, hsort, rfl⟩ := arrangeMembers_true default harrange
    obtain rfl : Json.obj (ks.map nameMember) = k := Except.ok.inj hk
    obtain ⟨hjkeys, hkkeys, hcontent, hvalues⟩ := prepareMembers_load ms hv.2 hjs hks
    obtain ⟨hperm, hsortable⟩ := sortMembers_spec hsort
    have hdistinct : (js.map Prod.fst).Pairwise (fun k l => ¬k.Same l) := hjkeys ▸ hv.1
    have hnodup : ((js.map nameMember).map Prod.fst).Nodup := by
      have hnames := hsortable.names_nodup hdistinct
      rwa [List.map_map] at hnames ⊢
    constructor
    · have hknodup : ((ks.map nameMember).map Prod.fst).Nodup := by
        have hsame : (ks.map nameMember).map Prod.fst = (js.map nameMember).map Prod.fst := by
          have htexts := congrArg (List.map Key.text) (hkkeys.trans hjkeys.symm)
          rwa [List.map_map, List.map_map] at htexts ⊢
        rw [hsame]
        exact hnodup
      have htable : contentTable (sorted.map nameMember) = contentTable (js.map nameMember) :=
        (contentTable_perm (hperm.map nameMember).symm hnodup).symm
      rw [Json.content, Json.load, loadMembers_of_names _ hknodup, Value.content, htable,
        valueTable_load js ks (hjkeys.trans hkkeys.symm) hcontent]
    · rw [Json.Sorted, sortedMembers_iff, List.pairwise_map, Value.KeysStable, ← hjkeys,
        ← hsortable.names_sorted_iff hperm hdistinct, ← hvalues]
      refine and_congr Iff.rfl ?_
      constructor
      · intro h m hm
        exact h (nameMember m) (List.mem_map_of_mem (hperm.mem_iff.mpr hm))
      · intro h m hm
        obtain ⟨n, hn, rfl⟩ := List.mem_map.mp hm
        exact h n (hperm.mem_iff.mp hn)

theorem prepareItems_load (xs : List Value) (hx : ItemsDistinctKeys xs) {js ks : List Json}
    (hj : prepareItems ⟨true, default⟩ xs = .ok js)
    (hk : prepareItems ⟨false, noDefault⟩ xs = .ok ks) :
    contentItems js = valueItems (loadItems ks) ∧ (SortedItems js ↔ ItemsKeysStable xs) := by
  match xs with
  | [] =>
    obtain rfl := Except.ok.inj hj
    obtain rfl := Except.ok.inj hk
    exact ⟨rfl, Iff.rfl⟩
  | x :: xs =>
    obtain ⟨j, hjx, hj⟩ := Fallible.bind_ok.mp hj
    obtain ⟨js, hjxs, rfl⟩ := Fallible.map_ok.mp hj
    obtain ⟨k, hkx, hk⟩ := Fallible.bind_ok.mp hk
    obtain ⟨ks, hkxs, rfl⟩ := Fallible.map_ok.mp hk
    obtain ⟨hcontent, hsorted⟩ := Value.prepare_load x hx.1 hjx hkx
    obtain ⟨hcontents, hsorteds⟩ := prepareItems_load xs hx.2 hjxs hkxs
    exact ⟨by rw [contentItems, loadItems, valueItems, hcontent, hcontents],
      and_congr hsorted hsorteds⟩

theorem prepareMembers_load (ms : List (Key × Value)) (hm : MembersDistinctKeys ms)
    {js ks : List (Key × Json)} (hj : prepareMembers ⟨true, default⟩ ms = .ok js)
    (hk : prepareMembers ⟨false, noDefault⟩ ms = .ok ks) :
    js.map Prod.fst = ms.map Prod.fst ∧ ks.map Prod.fst = ms.map Prod.fst ∧
      js.map (fun m => m.2.content) = ks.map (fun m => m.2.load.content) ∧
      ((∀ m ∈ js, m.2.Sorted) ↔ MembersKeysStable ms) := by
  match ms with
  | [] =>
    obtain rfl := Except.ok.inj hj
    obtain rfl := Except.ok.inj hk
    exact ⟨rfl, rfl, rfl, by simp [MembersKeysStable]⟩
  | (key, v) :: ms =>
    obtain ⟨j, hjv, hj⟩ := Fallible.bind_ok.mp hj
    obtain ⟨js, hjms, rfl⟩ := Fallible.map_ok.mp hj
    obtain ⟨k, hkv, hk⟩ := Fallible.bind_ok.mp hk
    obtain ⟨ks, hkms, rfl⟩ := Fallible.map_ok.mp hk
    obtain ⟨hcontent, hsorted⟩ := Value.prepare_load v hm.1 hjv hkv
    obtain ⟨hjkeys, hkkeys, hcontents, hsorteds⟩ := prepareMembers_load ms hm.2 hjms hkms
    refine ⟨by rw [List.map_cons, List.map_cons, hjkeys], by rw [List.map_cons, List.map_cons, hkkeys],
      by rw [List.map_cons, List.map_cons, hcontent, hcontents], ?_⟩
    rw [List.forall_mem_cons, MembersKeysStable, hsorted, hsorteds]

end

/-- What a column returns is always written without an error, and as the document of the value
that was put in exactly when the keys of that value are stable. -/
theorem prepare_stored_eq_iff {v stored : Value} (hv : v.DistinctKeys) {j : Json}
    (hj : prepare ⟨true, default⟩ v = .ok j) (hstored : loadsDumps v = .ok stored) :
    ∃ k, prepare ⟨true, default⟩ stored = .ok k ∧ (j = k ↔ v.KeysStable) := by
  obtain ⟨written, hwritten, rfl⟩ := Fallible.map_ok.mp hstored
  obtain ⟨hcontent, hsorted⟩ := Value.prepare_load default v hv hj hwritten
  obtain ⟨k, hk, hksorted, hkcontent⟩ := (written.load_isJson).prepare_sorted default
  refine ⟨k, hk, ?_⟩
  rw [← hsorted]
  constructor
  · intro h
    rw [h]
    exact hksorted
  · intro h
    exact Json.Sorted.eq_of_content j k h hksorted (hcontent.trans hkcontent.symm)

end Stored

/-! ### Flat dictionaries -/

/-- Neither a list nor a dictionary. -/
def Value.isScalar : Value → Bool
  | .list _ | .dict _ => false
  | _ => true

lemma Value.keysStable_of_scalar {v : Value} (h : v.isScalar = true) : v.KeysStable := by
  cases v with
  | list _ | dict _ => exact absurd h (by simp [Value.isScalar])
  | _ => simp [Value.KeysStable]

lemma Value.distinctKeys_of_scalar {v : Value} (h : v.isScalar = true) : v.DistinctKeys := by
  cases v with
  | list _ | dict _ => exact absurd h (by simp [Value.isScalar])
  | _ => simp [Value.DistinctKeys]

/-- A dictionary of scalars by name. -/
structure Dict.Plain (d : Dict) : Prop where
  names : ∀ m ∈ d, m.1.isStr = true
  distinct : (d.map Prod.fst).Nodup
  scalars : ∀ m ∈ d, m.2.isScalar = true

section Plain

variable {d : Dict}

lemma membersKeysStable_of_scalars (h : ∀ m ∈ d, m.2.isScalar = true) : MembersKeysStable d := by
  induction d with
  | nil => exact trivial
  | cons m d ih =>
    exact ⟨Value.keysStable_of_scalar (h m List.mem_cons_self),
      ih (fun n hn => h n (List.mem_cons_of_mem m hn))⟩

lemma membersDistinctKeys_of_scalars (h : ∀ m ∈ d, m.2.isScalar = true) :
    MembersDistinctKeys d := by
  induction d with
  | nil => exact trivial
  | cons m d ih =>
    exact ⟨Value.distinctKeys_of_scalar (h m List.mem_cons_self),
      ih (fun n hn => h n (List.mem_cons_of_mem m hn))⟩

/-- Storing a flat dictionary changes nothing of what is written of it. -/
lemma Dict.Plain.keysStable (h : d.Plain) : (Value.dict d).KeysStable :=
  ⟨.inl (List.forall_mem_map.mpr h.names), membersKeysStable_of_scalars h.scalars⟩

lemma Dict.Plain.distinctKeys (h : d.Plain) : (Value.dict d).DistinctKeys := by
  refine ⟨?_, membersDistinctKeys_of_scalars h.scalars⟩
  refine h.distinct.imp_of_mem (fun hk _ hne hsame => ?_)
  obtain ⟨m, hm, rfl⟩ := List.mem_map.mp hk
  have hname := h.names m hm
  rcases hsame with heq | ⟨hnumber, -, -⟩
  · exact hne heq
  · cases hkey : m.1 with
    | str _ => exact absurd (hkey ▸ hnumber) (by simp [Key.isNumber])
    | none | bool _ | int _ | float _ => exact absurd (hkey ▸ hname) (by simp [Key.isStr])

lemma Dict.Plain.append (h : d.Plain) {key : String} {v : Value} (hv : v.isScalar = true)
    (hkey : ∀ m ∈ d, m.1 ≠ .str key) : Dict.Plain (d ++ [(.str key, v)]) := by
  refine ⟨?_, ?_, ?_⟩
  · exact List.forall_mem_append.mpr ⟨h.names, List.forall_mem_singleton.mpr rfl⟩
  · rw [List.map_append, List.nodup_append']
    refine ⟨h.distinct, List.nodup_singleton _, List.disjoint_singleton.mpr (fun hmem => ?_)⟩
    obtain ⟨m, hm, heq⟩ := List.mem_map.mp hmem
    exact hkey m hm heq
  · exact List.forall_mem_append.mpr ⟨h.scalars, List.forall_mem_singleton.mpr hv⟩

end Plain

end Python
