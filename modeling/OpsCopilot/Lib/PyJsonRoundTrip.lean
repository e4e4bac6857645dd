import OpsCopilot.Lib.PyJsonContent

/-!
# `json.loads` after `json.dumps`

Whatever `json.loads` returns is a JSON value, and writing a JSON value and reading it back
changes nothing. So a JSON column changes a value at most once.
-/

namespace Python

/-! ### Reading gives a JSON value -/

lemma JsonMembers.set {d : Dict} {key : String} {v : Value} (hv : v.IsJson) (hd : JsonMembers d) :
    JsonMembers (Dict.set key v d) ∧
      ∀ k, k ∈ (Dict.set key v d).map Prod.fst ↔ k = .str key ∨ k ∈ d.map Prod.fst := by
  induction d with
  | nil => exact ⟨⟨rfl, by simp, hv, trivial⟩, by simp [Dict.set]⟩
  | cons m d ih =>
    rcases m with ⟨k, w⟩
    obtain ⟨hset, hkeys⟩ := ih hd.2.2.2
    rw [Dict.set]
    split_ifs with hk
    · refine ⟨⟨hd.1, hd.2.1, hv, hd.2.2.2⟩, ?_⟩
      intro l
      simp only [List.map_cons, List.mem_cons, hk]
      tauto
    · refine ⟨⟨hd.1, ?_, hd.2.2.1, hset⟩, ?_⟩
      · rw [hkeys, not_or]
        exact ⟨hk, hd.2.1⟩
      · intro l
        rw [List.map_cons, List.map_cons, List.mem_cons, List.mem_cons, hkeys]
        tauto

mutual

theorem Json.load_isJson (j : Json) : j.load.IsJson := by
  match j with
  | .atom .null | .atom (.bool b) | .atom (.int n) | .atom (.float x) | .str s => trivial
  | .arr xs =>
    rw [Json.load]
    exact loadItems_isJson xs
  | .obj ms =>
    rw [Json.load]
    exact loadMembers_isJson [] ms trivial

theorem loadItems_isJson (xs : List Json) : JsonItems (loadItems xs) := by
  match xs with
  | [] => trivial
  | x :: xs => exact ⟨Json.load_isJson x, loadItems_isJson xs⟩

theorem loadMembers_isJson (d : Dict) (ms : List (String × Json)) (hd : JsonMembers d) :
    JsonMembers (loadMembers d ms) := by
  match ms with
  | [] => exact hd
  | (k, v) :: ms =>
    rw [loadMembers]
    exact loadMembers_isJson _ ms (JsonMembers.set (Json.load_isJson v) hd).1

end

/-! ### Writing a JSON value and reading it back -/

lemma Dict.set_of_not_mem {d : Dict} {key : String} (h : .str key ∉ d.map Prod.fst) (v : Value) :
    Dict.set key v d = d ++ [(.str key, v)] := by
  induction d with
  | nil => rfl
  | cons m d ih =>
    rcases m with ⟨k, w⟩
    rw [List.map_cons, List.mem_cons, not_or] at h
    rw [Dict.set, if_neg (fun hk => h.1 hk.symm), ih h.2]
    rfl

def loadMember (m : Key × Json) : Key × Value := (m.1, m.2.load)

lemma loadMembers_nameMember (d : Dict) (js : List (Key × Json))
    (hstr : ∀ k ∈ js.map Prod.fst, k.isStr = true)
    (hnodup : (d.map Prod.fst ++ js.map Prod.fst).Nodup) :
    loadMembers d (js.map nameMember) = d ++ js.map loadMember := by
  induction js generalizing d with
  | nil => rw [List.map_nil, loadMembers, List.map_nil, List.append_nil]
  | cons m js ih =>
    rcases m with ⟨k, v⟩
    have hk : k = .str k.text := (Key.text_of_isStr (hstr k List.mem_cons_self)).mp rfl
    have hfresh : .str k.text ∉ d.map Prod.fst := by
      rw [← hk]
      exact fun hmem => (List.disjoint_of_nodup_append hnodup) hmem List.mem_cons_self
    have hnodup' : ((d ++ [(Key.str k.text, v.load)]).map Prod.fst ++ js.map Prod.fst).Nodup := by
      rw [← hk, List.map_append, List.append_assoc]
      exact hnodup
    rw [List.map_cons, nameMember, loadMembers, Dict.set_of_not_mem hfresh,
      ih _ (fun l hl => hstr l (List.mem_cons_of_mem _ hl)) hnodup', ← hk, List.append_assoc]
    rfl

section RoundTrip

variable (default : PyDecimal → Except StdError Json)

mutual

/-- A JSON value is written without an error, and what is read back is the value itself. -/
theorem Value.IsJson.load_prepare (v : Value) (hv : v.IsJson) :
    ∃ j, prepare ⟨false, default⟩ v = .ok j ∧ j.load = v := by
  match v with
  | .none | .bool b | .int n | .float x | .str s => exact ⟨_, rfl, rfl⟩
  | .decimal d => exact absurd hv (by simp [Value.IsJson])
  | .list xs =>
    obtain ⟨js, hjs, hload⟩ := JsonItems.load_prepare xs hv
    refine ⟨.arr js, ?_, by rw [Json.load, hload]⟩
    rw [prepare, hjs]
    rfl
  | .dict ms =>
    obtain ⟨js, hjs, hload⟩ := JsonMembers.load_prepare ms hv
    have hkeys : js.map Prod.fst = ms.map Prod.fst := by
      rw [← hload, List.map_map]
      rfl
    refine ⟨.obj (js.map nameMember), ?_, ?_⟩
    · rw [prepare, hjs]
      rfl
    · rw [Json.load, loadMembers_nameMember [] js (hkeys ▸ hv.keys.1) (hkeys ▸ hv.keys.2), hload]
      rfl

theorem JsonItems.load_prepare (xs : List Value) (hx : JsonItems xs) :
    ∃ js, prepareItems ⟨false, default⟩ xs = .ok js ∧ loadItems js = xs := by
  match xs with
  | [] => exact ⟨[], rfl, rfl⟩
  | x :: xs =>
    obtain ⟨j, hj, hload⟩ := Value.IsJson.load_prepare x hx.1
    obtain ⟨js, hjs, hloads⟩ := JsonItems.load_prepare xs hx.2
    refine ⟨j :: js, ?_, by rw [loadItems, hload, hloads]⟩
    rw [prepareItems, hj, hjs]
    rfl

theorem JsonMembers.load_prepare (ms : List (Key × Value)) (hm : JsonMembers ms) :
    ∃ js, prepareMembers ⟨false, default⟩ ms = .ok js ∧ js.map loadMember = ms := by
  match ms with
  | [] => exact ⟨[], rfl, rfl⟩
  | (k, v) :: ms =>
    obtain ⟨j, hj, hload⟩ := Value.IsJson.load_prepare v hm.2.2.1
    obtain ⟨js, hjs, hloads⟩ := JsonMembers.load_prepare ms hm.2.2.2
    refine ⟨(k, j) :: js, ?_, by rw [List.map_cons, loadMember, hload, hloads]⟩
    rw [prepareMembers, hj, hjs]
    rfl

end

end RoundTrip

/-- A JSON column gives a JSON value back as it was written. -/
theorem Value.IsJson.loadsDumps_eq {v : Value} (hv : v.IsJson) : loadsDumps v = .ok v := by
  obtain ⟨j, hj, hload⟩ := hv.load_prepare noDefault
  rw [loadsDumps, hj, Except.map, hload]

end Python
