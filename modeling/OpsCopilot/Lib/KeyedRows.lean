import Mathlib.Data.List.Nodup

/-!
# Tables with unique keys

A table is the list of its rows. What holds of every row, that no two rows have the same key, and
which keys there are: how the two ways of writing to a table, a new row and a change of the rows
that are selected, keep this.
-/

namespace KeyedRows

variable {α κ : Type*}

def UniqueKeys (key : α → κ) (rows : List α) : Prop := (rows.map key).Nodup

/-- There is a row with the key. -/
def HasKey (key : α → κ) (rows : List α) (k : κ) : Prop := ∃ r ∈ rows, key r = k

/-- The change of the rows that are selected. -/
def change (selected : α → Prop) [DecidablePred selected] (f : α → α) (rows : List α) : List α :=
  rows.map (fun r => if selected r then f r else r)

variable {key : α → κ} {rows : List α} {row : α} {k : κ} {P : α → Prop}

lemma uniqueKeys_nil : UniqueKeys key [] := List.nodup_nil

lemma UniqueKeys.append (h : UniqueKeys key rows) (hnew : ∀ r ∈ rows, key r ≠ key row) :
    UniqueKeys key (rows ++ [row]) := by
  rw [UniqueKeys, List.map_append, List.nodup_append']
  refine ⟨h, List.nodup_singleton _, List.disjoint_singleton.mpr (fun hmem => ?_)⟩
  obtain ⟨r, hr, heq⟩ := List.mem_map.mp hmem
  exact hnew r hr heq

lemma hasKey_append (h : HasKey key rows k) : HasKey key (rows ++ [row]) k := by
  obtain ⟨r, hr, hk⟩ := h
  exact ⟨r, List.mem_append_left _ hr, hk⟩

lemma hasKey_new : HasKey key (rows ++ [row]) (key row) :=
  ⟨row, List.mem_append_right _ (List.mem_singleton_self row), rfl⟩

lemma forall_append (h : ∀ r ∈ rows, P r) (hrow : P row) : ∀ r ∈ rows ++ [row], P r :=
  List.forall_mem_append.mpr ⟨h, List.forall_mem_singleton.mpr hrow⟩

section Change

variable {selected : α → Prop} [DecidablePred selected] {f : α → α}

lemma map_key_change (hf : ∀ r, key (f r) = key r) :
    (change selected f rows).map key = rows.map key := by
  rw [change, List.map_map]
  refine List.map_congr_left (fun r _ => ?_)
  simp only [Function.comp_apply]
  split_ifs
  · exact hf r
  · rfl

lemma UniqueKeys.change (h : UniqueKeys key rows) (hf : ∀ r, key (f r) = key r) :
    UniqueKeys key (change selected f rows) := by
  rwa [UniqueKeys, map_key_change hf]

lemma hasKey_change (hf : ∀ r, key (f r) = key r) :
    HasKey key (change selected f rows) k ↔ HasKey key rows k := by
  have hmem : ∀ l : List α, HasKey key l k ↔ k ∈ l.map key :=
    fun l => List.mem_map.symm
  rw [hmem, hmem, map_key_change hf]

lemma forall_change (h : ∀ r ∈ rows, P r) (hf : ∀ r ∈ rows, selected r → P r → P (f r)) :
    ∀ r ∈ change selected f rows, P r := by
  intro r hr
  obtain ⟨r', hr', rfl⟩ := List.mem_map.mp hr
  split_ifs with hselected
  · exact hf r' hr' hselected (h r' hr')
  · exact h r' hr'

end Change

end KeyedRows
