import Mathlib.Data.List.Sort
import OpsCopilot.Lib.KeepFirst
import OpsCopilot.Lib.PyRepr

/-!
# Equality of JSON values

Two values are equal in Python exactly when they are the same tree: numbers count by their value,
and the members of an object have no order. A tree lists them by the `repr` of their names.
-/

namespace Python

/-! ### `==` -/

mutual

/-- `v == w` for values whose dictionaries have string keys. -/
def Value.jsonEq : Value → Value → Bool
  | .dict ms, .dict ns => ms.length = ns.length && membersIn ms ns
  | .list xs, .list ys => jsonItemsEq xs ys
  | v, w => v.pyEq w

def jsonItemsEq : List Value → List Value → Bool
  | [], [] => true
  | x :: xs, y :: ys => x.jsonEq y && jsonItemsEq xs ys
  | _, _ => false

def membersIn : List (Key × Value) → List (Key × Value) → Bool
  | [], _ => true
  | (k, v) :: ms, ns =>
    (ns.find? (fun m => m.1 = k)).any (fun m => v.jsonEq m.2) && membersIn ms ns

end

mutual

/-- The values of JSON: no `Decimal`, no NaN, and dictionaries with distinct string keys. -/
def Value.IsStandardJson : Value → Prop
  | .none | .bool _ | .int _ | .str _ => True
  | .float x => x ≠ .nan
  | .decimal _ => False
  | .list xs => StandardItems xs
  | .dict ms => (ms.map Prod.fst).Nodup ∧ StandardMembers ms

def StandardItems : List Value → Prop
  | [] => True
  | x :: xs => x.IsStandardJson ∧ StandardItems xs

def StandardMembers : List (Key × Value) → Prop
  | [] => True
  | (k, v) :: ms => k.isStr = true ∧ v.IsStandardJson ∧ StandardMembers ms

end

/-! ### Trees -/

inductive JsonTree where
  | null
  | number (x : Bool ⊕ ℚ)
  | str (s : String)
  | list (xs : List JsonTree)
  | dict (ms : List (String × JsonTree))

/-- The tree of a number, and of what is neither a number nor anything else. -/
def JsonTree.atom : Option (Bool ⊕ ℚ) → JsonTree
  | none => .null
  | some x => .number x

def Key.name : Key → String
  | .str s => s
  | _ => ""

section Tree

variable (printable : Char → Bool)

/-- The order of the names of an object by their `repr`. -/
def NameLe (a b : String × JsonTree) : Prop :=
  String.ofList (reprStr printable a.1) ≤ String.ofList (reprStr printable b.1)

instance : DecidableRel (NameLe printable) := fun _ _ => by unfold NameLe; infer_instance

mutual

def Value.tree : Value → JsonTree
  | .str s => .str s
  | .list xs => .list (treeItems xs)
  | .dict ms => .dict ((treeMembers ms).insertionSort (NameLe printable))
  | v => .atom v.magnitude?

def treeItems : List Value → List JsonTree
  | [] => []
  | x :: xs => x.tree :: treeItems xs

def treeMembers : List (Key × Value) → List (String × JsonTree)
  | [] => []
  | (k, v) :: ms => (k.name, v.tree) :: treeMembers ms

end

mutual

/-- The tree with every object written as the list of its `[name, value]` pairs. -/
def JsonTree.spelled : JsonTree → JsonTree
  | .list xs => .list (spelledItems xs)
  | .dict ms => .list (spelledMembers ms)
  | t => t

def spelledItems : List JsonTree → List JsonTree
  | [] => []
  | x :: xs => x.spelled :: spelledItems xs

def spelledMembers : List (String × JsonTree) → List JsonTree
  | [] => []
  | (k, v) :: ms => .list [.str k, v.spelled] :: spelledMembers ms

end

end Tree

/-! ### Equal values are the same tree -/

section Equality

variable {printable : Char → Bool}

@[simp] lemma JsonTree.atom_ne_str (x : Option (Bool ⊕ ℚ)) (s : String) :
    JsonTree.atom x ≠ .str s := by
  cases x <;> exact JsonTree.noConfusion

@[simp] lemma JsonTree.atom_ne_list (x : Option (Bool ⊕ ℚ)) (xs : List JsonTree) :
    JsonTree.atom x ≠ .list xs := by
  cases x <;> exact JsonTree.noConfusion

@[simp] lemma JsonTree.atom_ne_dict (x : Option (Bool ⊕ ℚ)) (ms : List (String × JsonTree)) :
    JsonTree.atom x ≠ .dict ms := by
  cases x <;> exact JsonTree.noConfusion

lemma tree_eq_number {v : Value} {m : Bool ⊕ ℚ} :
    v.tree printable = .number m ↔ v.magnitude? = some m := by
  have hatom : ∀ x : Option (Bool ⊕ ℚ), JsonTree.atom x = .number m ↔ x = some m := by
    intro x
    cases x <;> simp [JsonTree.atom]
  cases v with
  | none | bool _ | int _ | float _ | decimal _ =>
    rw [Value.tree]
    · exact hatom _
    all_goals exact fun _ h => nomatch h
  | str s => simp [Value.tree, Value.magnitude?]
  | list xs => simp [Value.tree, Value.magnitude?]
  | dict ms => simp [Value.tree, Value.magnitude?]

/-- A number equals what is the same number. -/
lemma pyEq_number {v w : Value} {m : Bool ⊕ ℚ} (hv : v.magnitude? = some m) :
    v.pyEq w = true ↔ v.tree printable = w.tree printable := by
  have heq : v.pyEq w = true ↔ w.magnitude? = some m := by
    cases v with
    | none | str _ | list _ | dict _ => cases hv
    | bool _ | int _ | float _ | decimal _ =>
      rw [Value.pyEq, hv]
      · cases w.magnitude? with
        | none => simp
        | some y => simp [eq_comm]
      all_goals intros; contradiction
  rw [heq, tree_eq_number.mpr hv]
  exact ⟨fun h => (tree_eq_number.mpr h).symm, fun h => tree_eq_number.mp h.symm⟩

lemma pyEq_none {w : Value} (hw : w.IsStandardJson) :
    Value.none.pyEq w = true ↔ Value.none.tree printable = w.tree printable := by
  cases w with
  | none => exact iff_of_true rfl rfl
  | bool _ | int _ => exact iff_of_false Bool.false_ne_true JsonTree.noConfusion
  | float x =>
    cases x with
    | nan => exact absurd rfl hw
    | inf _ | finite _ => exact iff_of_false Bool.false_ne_true JsonTree.noConfusion
  | decimal _ => exact absurd hw not_false
  | str _ | list _ | dict _ => exact iff_of_false Bool.false_ne_true JsonTree.noConfusion

lemma pyEq_str {s : String} {w : Value} :
    (Value.str s).pyEq w = true ↔ (Value.str s).tree printable = w.tree printable := by
  cases w with
  | str t => simp [Value.pyEq, Value.tree]
  | none | bool _ | int _ | float _ | decimal _ | list _ | dict _ =>
    exact iff_of_false Bool.false_ne_true (by simp [Value.tree, eq_comm (a := JsonTree.str s)])

/-! ### Objects -/

instance : Std.Total (NameLe printable) := ⟨fun _ _ => le_total _ _⟩

instance : IsTrans (String × JsonTree) (NameLe printable) := ⟨fun _ _ _ => le_trans⟩

/-- Objects with distinct names are the same tree when they have the same members. -/
lemma sorted_eq_iff_perm {A B : List (String × JsonTree)} (hA : (A.map Prod.fst).Nodup) :
    A.insertionSort (NameLe printable) = B.insertionSort (NameLe printable) ↔ A.Perm B := by
  constructor
  · intro h
    have hperm := List.perm_insertionSort (NameLe printable) A
    rw [h] at hperm
    exact hperm.symm.trans (List.perm_insertionSort (NameLe printable) B)
  · intro h
    refine List.Perm.eq_of_pairwise (fun a b ha hb hab hba => ?_)
      (List.pairwise_insertionSort (NameLe printable) A)
      (List.pairwise_insertionSort (NameLe printable) B)
      ((List.perm_insertionSort _ A).trans (h.trans (List.perm_insertionSort _ B).symm))
    rw [List.mem_insertionSort] at ha hb
    have htexts : String.ofList (reprStr printable a.1) = String.ofList (reprStr printable b.1) :=
      le_antisymm hab hba
    have hlists := congrArg (· ++ ([] : List Char)) (String.ofList_inj.mp htexts)
    exact List.inj_on_of_nodup_map hA ha (h.mem_iff.mpr hb) (reprStr_append_inj hlists).1

lemma treeMembers_eq_map (ms : List (Key × Value)) :
    treeMembers printable ms = ms.map (fun m => (m.1.name, m.2.tree printable)) := by
  induction ms with
  | nil => rfl
  | cons m ms ih => rw [treeMembers, List.map_cons, ih]

lemma standardMembers_iff {ms : List (Key × Value)} :
    StandardMembers ms ↔ ∀ m ∈ ms, m.1.isStr = true ∧ m.2.IsStandardJson := by
  induction ms with
  | nil => simp [StandardMembers]
  | cons m ms ih => rw [StandardMembers, ih, List.forall_mem_cons, and_assoc]

lemma Key.name_inj {k l : Key} (hk : k.isStr = true) (hl : l.isStr = true) (h : k.name = l.name) :
    k = l := by
  cases k with
  | str s =>
    cases l with
    | str t => exact congrArg Key.str h
    | none | bool _ | int _ | float _ => cases hl
  | none | bool _ | int _ | float _ => cases hk

/-- The names of an object are distinct. -/
lemma nodup_memberNames {ms : List (Key × Value)} (hkeys : (ms.map Prod.fst).Nodup)
    (hms : StandardMembers ms) : ((treeMembers printable ms).map Prod.fst).Nodup := by
  have hnames : (treeMembers printable ms).map Prod.fst = (ms.map Prod.fst).map Key.name := by
    rw [treeMembers_eq_map, List.map_map, List.map_map]
    rfl
  rw [hnames]
  refine List.Nodup.map_on (fun k hk l hl h => ?_) hkeys
  obtain ⟨m, hm, rfl⟩ := List.mem_map.mp hk
  obtain ⟨n, hn, rfl⟩ := List.mem_map.mp hl
  exact Key.name_inj (standardMembers_iff.mp hms m hm).1 (standardMembers_iff.mp hms n hn).1 h

/-- One member is among those of another object when the name is, with an equal value. -/
lemma member_mem_iff {k : Key} {v : Value} {ns : List (Key × Value)} (hk : k.isStr = true)
    (hkeys : (ns.map Prod.fst).Nodup) (hns : StandardMembers ns)
    (heq : ∀ m ∈ ns, v.jsonEq m.2 = true ↔ v.tree printable = m.2.tree printable) :
    (ns.find? (fun m => m.1 = k)).any (fun m => v.jsonEq m.2) = true ↔
      (k.name, v.tree printable) ∈ treeMembers printable ns := by
  rw [treeMembers_eq_map, List.mem_map]
  constructor
  · intro h
    obtain ⟨m, hm, heqm⟩ := (Option.any_eq_true _ _).mp h
    have hmem := List.mem_of_find?_eq_some hm
    have hkey := List.find?_some hm
    simp only [decide_eq_true_eq] at hkey
    exact ⟨m, hmem, by rw [hkey, (heq m hmem).mp heqm]⟩
  · rintro ⟨m, hmem, hm⟩
    obtain ⟨hname, htree⟩ := Prod.mk.inj hm
    have hkey := Key.name_inj (standardMembers_iff.mp hns m hmem).1 hk hname
    have hfound : ns.find? (fun m => m.1 = k) = some m :=
      KeepFirst.find?_of_nodup hkeys hmem (decide_eq_true hkey)
        (fun _ _ hm' => (of_decide_eq_true hm').trans hkey.symm)
    rw [hfound, Option.any_some]
    exact (heq m hmem).mpr htree.symm

/-! ### The theorem -/

mutual

theorem Value.jsonEq_iff (v w : Value) (hv : v.IsStandardJson) (hw : w.IsStandardJson) :
    v.jsonEq w = true ↔ v.tree printable = w.tree printable := by
  match v with
  | .none => exact pyEq_none hw
  | .bool b => exact pyEq_number rfl
  | .int n => exact pyEq_number rfl
  | .float (.finite x) => exact pyEq_number rfl
  | .float (.inf neg) => exact pyEq_number rfl
  | .float .nan => exact absurd rfl hv
  | .decimal d => exact absurd hv not_false
  | .str s => exact pyEq_str
  | .list xs =>
    match w with
    | .list ys =>
      rw [Value.jsonEq, Value.tree, Value.tree, jsonItemsEq_iff xs ys hv hw, JsonTree.list.injEq]
    | .none | .bool _ | .int _ | .float _ | .decimal _ | .str _ | .dict _ =>
      exact iff_of_false Bool.false_ne_true (fun h => absurd h.symm (by simp [Value.tree]))
  | .dict ms =>
    match w with
    | .dict ns =>
      have hnames : ((treeMembers printable ms).map Prod.fst).Nodup := nodup_memberNames hv.1 hv.2
      have hlength : ∀ ls : List (Key × Value), (treeMembers printable ls).length = ls.length :=
        fun ls => by rw [treeMembers_eq_map, List.length_map]
      rw [Value.jsonEq, Bool.and_eq_true, decide_eq_true_eq, Value.tree, Value.tree,
        JsonTree.dict.injEq, sorted_eq_iff_perm hnames, membersIn_iff ms ns hv.2 hw.1 hw.2,
        ← hlength ms, ← hlength ns]
      constructor
      · rintro ⟨hlen, hsub⟩
        exact (List.subperm_of_subset hnames.of_map hsub).perm_of_length_le hlen.ge
      · intro hperm
        exact ⟨hperm.length_eq, fun m hm => hperm.mem_iff.mp hm⟩
    | .none | .bool _ | .int _ | .float _ | .decimal _ | .str _ | .list _ =>
      exact iff_of_false Bool.false_ne_true (fun h => absurd h.symm (by simp [Value.tree]))

theorem jsonItemsEq_iff (xs ys : List Value) (hxs : StandardItems xs) (hys : StandardItems ys) :
    jsonItemsEq xs ys = true ↔ treeItems printable xs = treeItems printable ys := by
  match xs, ys with
  | [], [] => exact iff_of_true rfl rfl
  | [], y :: ys => exact iff_of_false Bool.false_ne_true (by simp [treeItems])
  | x :: xs, [] => exact iff_of_false Bool.false_ne_true (by simp [treeItems])
  | x :: xs, y :: ys =>
    rw [jsonItemsEq, Bool.and_eq_true, Value.jsonEq_iff x y hxs.1 hys.1,
      jsonItemsEq_iff xs ys hxs.2 hys.2, treeItems, treeItems, List.cons.injEq]

theorem membersIn_iff (ms ns : List (Key × Value)) (hms : StandardMembers ms)
    (hkeys : (ns.map Prod.fst).Nodup) (hns : StandardMembers ns) :
    membersIn ms ns = true ↔ ∀ m ∈ treeMembers printable ms, m ∈ treeMembers printable ns := by
  match ms with
  | [] => exact iff_of_true rfl (fun m hm => absurd hm List.not_mem_nil)
  | (k, v) :: ms =>
    have hvalue := fun m hm => Value.jsonEq_iff v m.2 hms.2.1
      (standardMembers_iff.mp hns m hm).2
    rw [membersIn, Bool.and_eq_true, member_mem_iff hms.1 hkeys hns hvalue,
      membersIn_iff ms ns hms.2.2 hkeys hns, treeMembers, List.forall_mem_cons]

end

end Equality

end Python
