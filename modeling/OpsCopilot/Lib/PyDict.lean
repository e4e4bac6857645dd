import OpsCopilot.Lib.PyDecimal

/-!
# Dictionaries under computed keys

Dictionaries whose keys are read from a document. Keys are compared by value, and only
hashable values are keys.
-/

namespace Python

/-- The number that a key counts as. -/
def Value.number? : Value → Option ℚ
  | .bool b => some (if b then 1 else 0)
  | .int n => some n
  | .float (.finite x) => some x.toRat
  | _ => Option.none

/-- `v == w` of two values out of a JSON column: `True`, `1` and `1.0` are one key. -/
def Value.sameKey : Value → Value → Bool
  | .none, .none => true
  | .str s, .str t => s = t
  | .float (.inf a), .float (.inf b) => a = b
  | v, w =>
    match v.number?, w.number? with
    | some x, some y => x = y
    | _, _ => false

/-- An insertion-ordered dictionary. -/
abbrev Mapping (α : Type*) := List (Value × α)

namespace Mapping

variable {α : Type*}

/-- `d.get(key)`. -/
def find? (key : Value) : Mapping α → Option α
  | [] => none
  | (k, a) :: rest => if k.sameKey key then some a else find? key rest

/-- `d[key] = a`. -/
def set (key : Value) (a : α) : Mapping α → Mapping α
  | [] => [(key, a)]
  | (k, b) :: rest => if k.sameKey key then (k, a) :: rest else (k, b) :: set key a rest

/-- Changes `d.setdefault(key, a)` in place. -/
def update (key : Value) (a : α) (f : α → α) (d : Mapping α) : Mapping α :=
  d.set key (f ((d.find? key).getD a))

end Mapping

/-! ### String keys -/

lemma Value.sameKey_str {k : Value} {s : String} : k.sameKey (.str s) = true ↔ k = .str s := by
  cases k with
  | str t => simp [Value.sameKey]
  | none | bool _ | int _ | float _ | decimal _ | list _ | dict _ => simp [Value.sameKey, Value.number?]

lemma Value.str_sameKey {k : Value} {s : String} :
    (Value.str s).sameKey k = true ↔ k = .str s := by
  cases k with
  | str t => simp [Value.sameKey, eq_comm]
  | none | bool _ | int _ | float _ | decimal _ | list _ | dict _ => simp [Value.sameKey, Value.number?]

namespace Mapping

variable {α : Type*} {d : Mapping α}

lemma find?_set (s t : String) (a : α) :
    (d.set (.str t) a).find? (.str s) = if s = t then some a else d.find? (.str s) := by
  induction d with
  | nil => simp [set, find?, Value.sameKey, eq_comm]
  | cons m d ih =>
    rcases m with ⟨k, b⟩
    rw [set]
    by_cases hkey : k = .str t
    · rw [if_pos (Value.sameKey_str.mpr hkey), find?, find?, hkey]
      simp only [Value.sameKey_str, Value.str.injEq]
      by_cases hs : s = t
      · rw [if_pos hs.symm, if_pos hs]
      · rw [if_neg (Ne.symm hs), if_neg (Ne.symm hs), if_neg hs]
    · rw [if_neg (fun h => hkey (Value.sameKey_str.mp h)), find?, find?, ih]
      by_cases hs : k = .str s
      · rw [if_pos (Value.sameKey_str.mpr hs), if_pos (Value.sameKey_str.mpr hs), if_neg]
        rintro rfl
        exact hkey hs
      · rw [if_neg (fun h => hs (Value.sameKey_str.mp h)),
          if_neg (fun h => hs (Value.sameKey_str.mp h))]

lemma find?_update (s t : String) (a : α) (f : α → α) :
    (d.update (.str t) a f).find? (.str s) =
      if s = t then some (f ((d.find? (.str s)).getD a)) else d.find? (.str s) := by
  rw [update, find?_set]
  split_ifs with h
  · rw [h]
  · rfl

/-- All keys are strings. -/
def StrKeys (d : Mapping α) : Prop := ∀ m ∈ d, ∃ s, m.1 = .str s

lemma StrKeys.set (h : d.StrKeys) (t : String) (a : α) : (d.set (.str t) a).StrKeys := by
  induction d with
  | nil =>
    intro m hm
    exact ⟨t, congrArg Prod.fst (List.mem_singleton.mp hm)⟩
  | cons m d ih =>
    rcases m with ⟨k, b⟩
    obtain ⟨hk, hd⟩ := List.forall_mem_cons.mp h
    rw [Mapping.set]
    split_ifs
    · exact List.forall_mem_cons.mpr ⟨hk, hd⟩
    · exact List.forall_mem_cons.mpr ⟨hk, ih hd⟩

lemma StrKeys.find? (h : d.StrKeys) {key : Value} {a : α} (hfound : d.find? key = some a) :
    ∃ s, key = .str s := by
  induction d with
  | nil => exact absurd hfound (by simp [Mapping.find?])
  | cons m d ih =>
    rcases m with ⟨k, b⟩
    obtain ⟨⟨s, hs⟩, hd⟩ := List.forall_mem_cons.mp h
    rw [Mapping.find?] at hfound
    split_ifs at hfound with hsame
    · dsimp only at hs
      rw [hs] at hsame
      exact ⟨s, Value.str_sameKey.mp hsame⟩
    · exact ih hd hfound

end Mapping

end Python
