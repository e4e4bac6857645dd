import OpsCopilot.Lib.Fallible
import OpsCopilot.Lib.PyDecimal
import OpsCopilot.Lib.PyJsonStable

/-!
# Fields of a stored dictionary

A JSON column writes every key as a string. What is read back under the name of a field is what
the dictionary had under that name, written and read back itself.
-/

namespace Python

open Fallible

/-! ### Names -/

/-- No key other than the string itself is written as `name`. -/
def FieldName (name : String) : Prop := ∀ k : Key, k.text = name → k = .str name

lemma fieldName_of_head {name : String} {c : Char} (hc : name.toList.head? = some c)
    (hdigit : c.isDigit = false) (hminus : c ≠ '-')
    (hwords : name ≠ "null" ∧ name ≠ "true" ∧ name ≠ "false") : FieldName name := by
  intro k hk
  have hhead : k.text.toList.head? = some c := by rw [hk, hc]
  cases k with
  | str s => rw [← hk, Key.text]
  | none => exact absurd hk.symm hwords.1
  | bool b =>
    cases b with
    | true => exact absurd hk.symm hwords.2.1
    | false => exact absurd hk.symm hwords.2.2
  | int n =>
    rw [Key.text, String.toList_ofList] at hhead
    rcases mem_intText (List.mem_of_mem_head? hhead) with rfl | hc
    · exact absurd rfl hminus
    · exact absurd (hc.symm.trans hdigit) (by simp)
  | float x =>
    obtain ⟨d, r, hbody, hd⟩ := x.body_head
    rw [Key.text, String.toList_ofList, FiniteFloat.text_eq, hbody] at hhead
    split_ifs at hhead
    · exact absurd (Option.some.inj hhead).symm hminus
    · obtain rfl := Option.some.inj hhead
      exact absurd (hd.symm.trans hdigit) (by simp)

/-! ### Lookups -/

lemma Dict.find?_set (d : Dict) (name key : String) (v : Value) :
    (Dict.set key v d).find? name = if name = key then some v else d.find? name := by
  induction d with
  | nil => simp [Dict.set, Dict.find?, eq_comm]
  | cons m d ih =>
    rcases m with ⟨k, w⟩
    rw [Dict.set]
    by_cases hkey : k = .str key
    · rw [if_pos hkey, hkey]
      simp only [Dict.find?]
      by_cases hname : name = key
      · rw [if_pos hname.symm, if_pos hname]
      · rw [if_neg (Ne.symm hname), if_neg (Ne.symm hname), if_neg hname]
    · rw [if_neg hkey]
      cases k with
      | str s =>
        simp only [Dict.find?, ih]
        by_cases hs : s = name
        · rw [if_pos hs, if_pos hs, if_neg]
          rintro rfl
          exact hkey (congrArg Key.str hs)
        · rw [if_neg hs, if_neg hs]
      | none | bool _ | int _ | float _ => simp only [Dict.find?, ih]

lemma Dict.find?_eq_none {d : Dict} {name : String} (h : Key.str name ∉ d.map Prod.fst) :
    d.find? name = none := by
  induction d with
  | nil => rfl
  | cons m d ih =>
    rcases m with ⟨k, v⟩
    rw [List.map_cons, List.mem_cons, not_or] at h
    cases k with
    | str s =>
      rw [Dict.find?, if_neg (fun hs => h.1 (congrArg Key.str hs.symm)), ih h.2]
    | none | bool _ | int _ | float _ =>
      rw [Dict.find?]
      exact ih h.2
      simp

section Members

variable {default : PyDecimal → Except StdError Json} {name : String}

/-- The documents written for the members, looked up by name. -/
lemma loadMembers_find? (hname : FieldName name) (d : Dict) (ms : List (Key × Value))
    (hkeys : (ms.map Prod.fst).Nodup) {js : List (Key × Json)}
    (hjs : prepareMembers ⟨false, default⟩ ms = .ok js) :
    (Dict.find? name ms = none ∧
        (loadMembers d (js.map nameMember)).find? name = d.find? name) ∨
      ∃ v j, Dict.find? name ms = some v ∧ prepare ⟨false, default⟩ v = .ok j ∧
        (loadMembers d (js.map nameMember)).find? name = some j.load := by
  induction ms generalizing d js with
  | nil =>
    obtain rfl := Except.ok.inj hjs
    exact .inl ⟨rfl, rfl⟩
  | cons m ms ih =>
    rcases m with ⟨k, v⟩
    rw [prepareMembers] at hjs
    obtain ⟨j, hj, hrest⟩ := bind_ok.mp hjs
    obtain ⟨ks, hks, rfl⟩ := map_ok.mp hrest
    rw [List.map_cons, List.nodup_cons] at hkeys
    rw [List.map_cons, nameMember, loadMembers]
    by_cases hk : k = .str name
    · obtain rfl := hk
      have hlater := Dict.find?_eq_none hkeys.1
      rcases ih (Dict.set name j.load d) hkeys.2 hks with ⟨-, hfound⟩ | ⟨w, _, hw, -⟩
      · refine .inr ⟨v, j, by rw [Dict.find?, if_pos rfl], hj, ?_⟩
        rw [Key.text, hfound, Dict.find?_set, if_pos rfl]
      · exact absurd (hlater.symm.trans hw) (by simp)
    · have hskip : Dict.find? name ((k, v) :: ms) = Dict.find? name ms := by
        cases k with
        | str s => rw [Dict.find?, if_neg (fun hs => hk (congrArg Key.str hs))]
        | none | bool _ | int _ | float _ => simp only [Dict.find?]
      have htext : name ≠ k.text := fun h => hk (hname k h.symm)
      rw [hskip]
      have hset := Dict.find?_set d name k.text j.load
      rw [if_neg htext] at hset
      rw [← hset]
      exact ih _ hkeys.2 hks

end Members

/-- What a field of a dictionary has become after the dictionary was stored. -/
def StoredField (stored d : Dict) (name : String) : Prop :=
  (d.find? name = none ∧ stored.find? name = none) ∨
    ∃ v w, d.find? name = some v ∧ loadsDumps v = .ok w ∧ stored.find? name = some w

theorem loadsDumps_field {d : Dict} {v : Value} (hd : (Value.dict d).DistinctKeys)
    (h : loadsDumps (.dict d) = .ok v) :
    ∃ stored, v = .dict stored ∧ ∀ name, FieldName name → StoredField stored d name := by
  obtain ⟨j, hj, rfl⟩ := map_ok.mp h
  rw [prepare] at hj
  obtain ⟨js, hjs, harrange⟩ := bind_ok.mp hj
  obtain rfl := Except.ok.inj harrange
  refine ⟨_, rfl, fun name hname => ?_⟩
  have hnodup : (d.map Prod.fst).Nodup := hd.1.imp (fun hsame heq => hsame (.inl heq))
  rcases loadMembers_find? hname [] d hnodup hjs with ⟨hnone, hfound⟩ | ⟨v, j, hv, hprepare, hfound⟩
  · exact .inl ⟨hnone, hfound⟩
  · refine .inr ⟨v, j.load, hv, ?_, hfound⟩
    rw [loadsDumps, hprepare]
    rfl

section Fields

variable {stored d : Dict} {name : String} {v : Value}

/-- A number is read back as it was written. -/
lemma StoredField.number {x : PyDecimal} (h : StoredField stored d name)
    (hv : d.find? name = some v) (hx : v.toDecimal = some x) : stored.find? name = some v := by
  rcases h with ⟨hnone, -⟩ | ⟨w, w', hw, hload, hfound⟩
  · exact absurd (hnone.symm.trans hv) (by simp)
  · obtain rfl := Option.some.inj (hw.symm.trans hv)
    cases w with
    | int n | float y | str s =>
      rw [hfound]
      exact congrArg some (Except.ok.inj hload).symm
    | decimal y => exact absurd hload (by simp [loadsDumps, prepare, noDefault, Except.map])
    | none | bool _ | list _ | dict _ => exact absurd hx (by simp [Value.toDecimal])

/-- What is stored as it is, is read back. -/
lemma StoredField.leaf (h : StoredField stored d name) (hv : d.find? name = some v)
    (hload : loadsDumps v = .ok v) : stored.find? name = some v := by
  rcases h with ⟨hnone, -⟩ | ⟨w, w', hw, hload', hfound⟩
  · exact absurd (hnone.symm.trans hv) (by simp)
  · obtain rfl := Option.some.inj (hw.symm.trans hv)
    rw [hfound, Except.ok.inj (hload'.symm.trans hload)]

lemma StoredField.str {s : String} (h : StoredField stored d name)
    (hv : d.find? name = some (.str s)) : stored.find? name = some (.str s) :=
  h.leaf hv rfl

lemma StoredField.absent (h : StoredField stored d name) (hv : d.find? name = none) :
    stored.find? name = none := by
  rcases h with ⟨-, hfound⟩ | ⟨w, _, hw, -⟩
  · exact hfound
  · exact absurd (hv.symm.trans hw) (by simp)

end Fields

end Python
