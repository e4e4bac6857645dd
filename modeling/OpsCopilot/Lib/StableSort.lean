import Mathlib.Data.List.Sort

/-!
# Sorting a part of a list

Insertion sort keeps equal elements in their order, so that selecting from the sorted list is the
same as sorting the selection.
-/

namespace StableSort

variable {α : Type*} {r : α → α → Prop} [DecidableRel r] {p : α → Bool}

lemma orderedInsert_of_forall {a : α} {l : List α} (h : ∀ b ∈ l, r a b) :
    l.orderedInsert r a = a :: l := by
  cases l with
  | nil => rfl
  | cons b l => exact List.orderedInsert_cons_of_le r l (h b List.mem_cons_self)

lemma filter_orderedInsert_of_not {a : α} (ha : p a = false) (l : List α) :
    (l.orderedInsert r a).filter p = l.filter p := by
  induction l with
  | nil => rw [List.orderedInsert_nil, List.filter_cons_of_neg (by simp [ha])]
  | cons b l ih =>
    rw [List.orderedInsert_cons]
    split_ifs with hab
    · rw [List.filter_cons_of_neg (by simp [ha])]
    · rw [List.filter_cons, List.filter_cons, ih]

lemma filter_orderedInsert_of_pos [IsTrans α r] {a : α} (ha : p a = true) {l : List α}
    (hl : l.Pairwise r) : (l.orderedInsert r a).filter p = (l.filter p).orderedInsert r a := by
  induction l with
  | nil => rw [List.filter_nil, List.orderedInsert_nil, List.filter_cons_of_pos ha, List.filter_nil]
  | cons b l ih =>
    obtain ⟨hb, hrest⟩ := List.pairwise_cons.mp hl
    by_cases hab : r a b
    · have hall : ∀ x ∈ (b :: l).filter p, r a x := by
        intro x hx
        rcases List.mem_cons.mp (List.mem_of_mem_filter hx) with hxb | hxl
        · rw [hxb]
          exact hab
        · exact IsTrans.trans a b x hab (hb x hxl)
      rw [List.orderedInsert_cons_of_le r l hab, List.filter_cons_of_pos ha,
        orderedInsert_of_forall hall]
    · rw [List.orderedInsert_of_not_le r l hab, List.filter_cons, List.filter_cons, ih hrest]
      split_ifs with hpb
      · rw [List.orderedInsert_of_not_le r _ hab]
      · rfl

/-- Sorting and selecting commute. -/
theorem filter_insertionSort [IsTrans α r] [Std.Total r] (p : α → Bool) (l : List α) :
    (l.insertionSort r).filter p = (l.filter p).insertionSort r := by
  induction l with
  | nil => rfl
  | cons a l ih =>
    rw [List.insertionSort_cons]
    by_cases ha : p a = true
    · rw [filter_orderedInsert_of_pos ha (List.pairwise_insertionSort r l), ih,
        List.filter_cons_of_pos ha, List.insertionSort_cons]
    · rw [filter_orderedInsert_of_not (Bool.eq_false_of_not_eq_true ha), ih,
        List.filter_cons_of_neg ha]

end StableSort
