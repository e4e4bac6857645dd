import Mathlib.Data.List.Forall2
import Mathlib.Data.List.Induction
import Mathlib.Data.List.Sort

/-!
# Hash chains read back in a sorted order

Rows are linked by the order in which they are appended and read back in the order of a
sort key. The two agree exactly when every appended row comes after the latest one.
-/

namespace HashChain

/-! ### Links -/

section Links

variable {α H : Type*} (prev hash : α → H)

/-- Every row names the hash of the row before it, the first one names `genesis`. -/
def Linked : H → List α → Prop
  | _, [] => True
  | genesis, row :: rows => prev row = genesis ∧ Linked (hash row) rows

def lastHash (genesis : H) (rows : List α) : H := (rows.getLast?.map hash).getD genesis

lemma lastHash_cons (genesis : H) (row : α) (rows : List α) :
    lastHash hash genesis (row :: rows) = lastHash hash (hash row) rows := by
  cases rows with
  | nil => rfl
  | cons next rows => rw [lastHash, lastHash, List.getLast?_cons_cons, List.getLast?_cons]; rfl

lemma lastHash_append (genesis : H) (rows : List α) (row : α) :
    lastHash hash genesis (rows ++ [row]) = hash row := by
  rw [lastHash, List.getLast?_concat]
  rfl

lemma linked_append (genesis : H) (rows : List α) (row : α) :
    Linked prev hash genesis (rows ++ [row]) ↔
      Linked prev hash genesis rows ∧ prev row = lastHash hash genesis rows := by
  induction rows generalizing genesis with
  | nil => simp [Linked, lastHash]
  | cons first rows ih =>
    rw [List.cons_append, Linked, Linked, ih, lastHash_cons, and_assoc]

lemma lastHash_mem {ok : H → Prop} {genesis : H} {rows : List α} (hgenesis : ok genesis)
    (hrows : ∀ row ∈ rows, ok (hash row)) : ok (lastHash hash genesis rows) := by
  induction rows generalizing genesis with
  | nil => exact hgenesis
  | cons row rows ih =>
    rw [lastHash_cons]
    exact ih (hrows row List.mem_cons_self) (fun r hr => hrows r (List.mem_cons_of_mem row hr))

/-- When the hash of a row determines the hash before it and what the row says, and no row has the
hash `genesis`, then the last hash of a linked list determines what every row of it says. -/
theorem forall₂_of_lastHash_eq {genesis : H} (ok : H → Prop) (valid : α → Prop)
    (R : α → α → Prop) (hgenesis : ok genesis)
    (hvalid : ∀ a, valid a → ok (hash a) ∧ hash a ≠ genesis)
    (hdetermines : ∀ a b, valid a → valid b → ok (prev a) → ok (prev b) → hash a = hash b →
      prev a = prev b ∧ R a b) {xs ys : List α}
    (hx : Linked prev hash genesis xs) (hxs : ∀ a ∈ xs, valid a)
    (hy : Linked prev hash genesis ys) (hys : ∀ a ∈ ys, valid a)
    (hlast : lastHash hash genesis xs = lastHash hash genesis ys) : List.Forall₂ R xs ys := by
  induction xs using List.reverseRecOn generalizing ys with
  | nil =>
    cases ys using List.reverseRecOn with
    | nil => exact List.Forall₂.nil
    | append_singleton ys b =>
      rw [lastHash_append] at hlast
      exact absurd hlast.symm (hvalid b (hys b (by simp))).2
  | append_singleton xs a ih =>
    cases ys using List.reverseRecOn with
    | nil =>
      rw [lastHash_append] at hlast
      exact absurd hlast (hvalid a (hxs a (by simp))).2
    | append_singleton ys b =>
      rw [lastHash_append, lastHash_append] at hlast
      obtain ⟨hx, hprev⟩ := (linked_append prev hash genesis xs a).mp hx
      obtain ⟨hy, hprev'⟩ := (linked_append prev hash genesis ys b).mp hy
      have hxs' : ∀ r ∈ xs, valid r := fun r hr => hxs r (List.mem_append_left [a] hr)
      have hys' : ∀ r ∈ ys, valid r := fun r hr => hys r (List.mem_append_left [b] hr)
      obtain ⟨hsame, hR⟩ := hdetermines a b (hxs a (by simp)) (hys b (by simp))
        (hprev ▸ lastHash_mem hash hgenesis (fun r hr => (hvalid r (hxs' r hr)).1))
        (hprev' ▸ lastHash_mem hash hgenesis (fun r hr => (hvalid r (hys' r hr)).1)) hlast
      exact List.rel_append (ih hx hxs' hy hys' (hprev ▸ hprev' ▸ hsame))
        (List.Forall₂.cons hR List.Forall₂.nil)

end Links

/-! ### Order -/

section Order

variable {α : Type*} (le : α → α → Prop) [DecidableRel le]

/-- `ORDER BY key ASC`. -/
def ascending (rows : List α) : List α := rows.insertionSort le

/-- `ORDER BY key DESC LIMIT 1`. -/
def latest (rows : List α) : Option α := (rows.insertionSort (fun a b => le b a)).head?

lemma orderedInsert_append {x e : α} (h : le x e) (rows : List α) :
    (rows ++ [e]).orderedInsert le x = rows.orderedInsert le x ++ [e] := by
  induction rows with
  | nil => simp [h]
  | cons y rows ih =>
    rw [List.cons_append, List.orderedInsert, List.orderedInsert, ih]
    split_ifs with hxy
    · rfl
    · rfl

/-- A row that is above all others is read back last. -/
lemma ascending_append {rows : List α} {e : α} (h : ∀ x ∈ rows, le x e) :
    ascending le (rows ++ [e]) = ascending le rows ++ [e] := by
  induction rows with
  | nil => rfl
  | cons x rows ih =>
    have htail := ih (fun y hy => h y (List.mem_cons_of_mem x hy))
    rw [ascending, ascending] at htail ⊢
    rw [List.cons_append, List.insertionSort_cons, List.insertionSort_cons, htail,
      orderedInsert_append le (h x List.mem_cons_self)]

lemma latest_eq_none {rows : List α} : latest le rows = none ↔ rows = [] := by
  rw [latest, List.head?_eq_none_iff]
  constructor
  · intro h
    have hperm := List.perm_insertionSort (fun a b => le b a) rows
    rw [h] at hperm
    exact hperm.symm.eq_nil
  · intro h
    rw [h]
    rfl

variable [Std.Total le] [IsTrans α le]

lemma latest_spec {rows : List α} {m : α} (h : latest le rows = some m) :
    m ∈ rows ∧ ∀ x ∈ rows, le x m := by
  have : Std.Total (fun a b => le b a) := ⟨fun a b => Std.Total.total b a⟩
  have : IsTrans α (fun a b => le b a) := ⟨fun a b c hab hbc => IsTrans.trans c b a hbc hab⟩
  have hperm := List.perm_insertionSort (fun a b => le b a) rows
  have hsorted := List.pairwise_insertionSort (fun a b => le b a) rows
  obtain ⟨rest, hrest⟩ := List.head?_eq_some_iff.mp h
  rw [hrest] at hperm hsorted
  refine ⟨hperm.mem_iff.mp List.mem_cons_self, fun x hx => ?_⟩
  rcases List.mem_cons.mp (hperm.mem_iff.mpr hx) with rfl | hx
  · exact (Std.Total.total x x).elim id id
  · exact (List.pairwise_cons.mp hsorted).1 x hx

/-- Where the keys tell the rows apart, the latest row is the one read back last. -/
lemma latest_eq_getLast {rows : List α}
    (hkeys : ∀ a ∈ rows, ∀ b ∈ rows, le a b → le b a → a = b) :
    latest le rows = (ascending le rows).getLast? := by
  have hperm := List.perm_insertionSort le rows
  have hsorted := List.pairwise_insertionSort le rows
  rw [ascending]
  rcases List.eq_nil_or_concat (rows.insertionSort le) with hnil | ⟨init, last, hlast⟩
  · rw [hnil] at hperm ⊢
    exact (latest_eq_none le).mpr hperm.symm.eq_nil
  · rw [List.concat_eq_append] at hlast
    rw [hlast] at hperm hsorted ⊢
    rw [List.getLast?_concat]
    cases hm : latest le rows with
    | none =>
      have hnil := (latest_eq_none le).mp hm
      rw [hnil] at hperm
      exact absurd hperm.eq_nil (by simp)
    | some m =>
      obtain ⟨hmem, hmax⟩ := latest_spec le hm
      have hlastmem : last ∈ rows := hperm.mem_iff.mp (by simp)
      have hle : le m last := by
        rcases List.mem_append.mp (hperm.mem_iff.mpr hmem) with hinit | heq
        · exact (List.pairwise_append.mp hsorted).2.2 m hinit last List.mem_cons_self
        · rw [List.mem_singleton.mp heq]
          exact (Std.Total.total last last).elim id id
      rw [hkeys m hmem last hlastmem hle (hmax last hlastmem)]

/-! ### Rows appended in the order of their keys -/

/-- Every row is strictly above the rows before it. -/
def InOrder (rows : List α) : Prop := rows.Pairwise (fun a b => le a b ∧ ¬le b a)

omit [Std.Total le] [IsTrans α le] in
lemma InOrder.ascending_eq {rows : List α} (h : InOrder le rows) : ascending le rows = rows :=
  (h.imp (fun hab => hab.1)).insertionSort_eq

omit [DecidableRel le] [Std.Total le] [IsTrans α le] in
lemma InOrder.last_above {rows : List α} {e : α} (h : InOrder le (rows ++ [e])) :
    ∀ x ∈ rows, le x e ∧ ¬le e x := by
  intro x hx
  exact (List.pairwise_append.mp h).2.2 x hx e List.mem_cons_self

lemma InOrder.latest_append {rows : List α} {e : α} (h : InOrder le (rows ++ [e])) :
    latest le (rows ++ [e]) = some e := by
  cases hm : latest le (rows ++ [e]) with
  | none => exact absurd ((latest_eq_none le).mp hm) (by simp)
  | some m =>
    obtain ⟨hmem, hmax⟩ := latest_spec le hm
    rcases List.mem_append.mp hmem with hmem | hmem
    · exact absurd (hmax e (by simp)) (h.last_above le m hmem).2
    · rw [List.mem_singleton.mp hmem]

/-- Read back in order, the latest row is the one appended last. -/
lemma InOrder.latest_eq {rows : List α} (h : InOrder le rows) : latest le rows = rows.getLast? := by
  cases List.eq_nil_or_concat rows with
  | inl hnil => rw [hnil]; rfl
  | inr hconcat =>
    obtain ⟨init, e, rfl⟩ := hconcat
    rw [List.concat_eq_append] at h ⊢
    rw [h.latest_append, List.getLast?_concat]

/-- A row keeps the rows in order exactly when it is above the latest one. -/
theorem inOrder_append {rows : List α} (h : InOrder le rows) (e : α) :
    InOrder le (rows ++ [e]) ↔ ∀ m, latest le rows = some m → le m e ∧ ¬le e m := by
  constructor
  · intro happend m hm
    exact happend.last_above le m (latest_spec le hm).1
  · intro hlatest
    refine List.pairwise_append.mpr ⟨h, List.pairwise_singleton _ e, ?_⟩
    intro x hx y hy
    rw [List.mem_singleton.mp hy]
    cases hm : latest le rows with
    | none => exact absurd ((latest_eq_none le).mp hm ▸ hx) List.not_mem_nil
    | some m =>
      have hxm := (latest_spec le hm).2 x hx
      obtain ⟨hme, hem⟩ := hlatest m hm
      exact ⟨IsTrans.trans x m e hxm hme, fun hex => hem (IsTrans.trans e x m hex hxm)⟩

end Order

end HashChain
