import OpsCopilot.Lib.Fallible
import OpsCopilot.Lib.PyJsonContent
import OpsCopilot.Lib.PyJsonRead

/-!
# The characters of a JSON text

With `ensure_ascii=False` a character beyond ASCII is written as it is, and everything that
`json.dumps` adds is ASCII. So such a character stands in the text of a value exactly when it
stands in one of its strings or keys.
-/

namespace Python

open Fallible

lemma toNat_digitChar (n : ℕ) (hn : n < 16) : (Nat.digitChar n).toNat < 0x80 := by
  have hall : ∀ i : Fin 16, (Nat.digitChar i.val).toNat < 0x80 := by decide
  exact hall ⟨n, hn⟩

/-- A character with a two-character escape is ASCII, and so is its letter. -/
lemma shortEscape_ascii {c e : Char} (h : shortEscape c = some e) :
    c.toNat < 0x80 ∧ e.toNat < 0x80 := by
  unfold shortEscape at h
  split_ifs at h with h1 h2 h3 h4 h5 h6 h7 <;>
    (obtain rfl := Option.some.inj h; subst_vars; decide)

/-- Sorting only permutes the members. -/
lemma sortMembers_perm {α : Type*} {ms ns : List (Key × α)} (h : sortMembers ms = .ok ns) :
    ns.Perm ms := by
  unfold sortMembers at h
  split_ifs at h
  · obtain rfl := Except.ok.inj h
    exact List.Perm.refl _
  · obtain rfl := Except.ok.inj h
    exact List.perm_insertionSort _ _
  · obtain rfl := Except.ok.inj h
    exact List.perm_insertionSort _ _

section Characters

variable (p : Char → Bool)

mutual

/-- One of the strings or keys of the value has a character of this kind. -/
def Value.anyChar : Value → Bool
  | .none | .bool _ | .int _ | .float _ | .decimal _ => false
  | .str s => s.toList.any p
  | .list xs => itemsAnyChar xs
  | .dict ms => membersAnyChar ms

def itemsAnyChar : List Value → Bool
  | [] => false
  | x :: xs => x.anyChar || itemsAnyChar xs

def membersAnyChar : List (Key × Value) → Bool
  | [] => false
  | (k, v) :: ms => k.text.toList.any p || v.anyChar || membersAnyChar ms

end

variable {p} (hp : BeyondAscii p)
include hp

lemma BeyondAscii.any_eq_false {cs : List Char} (h : ∀ c ∈ cs, c.toNat < 0x80) :
    cs.any p = false :=
  List.any_eq_false.mpr fun c hc => Bool.eq_false_iff.mp (hp c (h c hc))

/-! ### Texts -/

lemma Atom.any_text (a : Atom) : a.text.any p = false := by
  refine hp.any_eq_false fun c hc => ?_
  have hword := toNat_of_atomChar (a.atomChar_text c hc)
  omega

lemma any_unicodeEscape (n : ℕ) : (unicodeEscape n).any p = false := by
  have hdigit : ∀ k, (Nat.digitChar (k % 16)).toNat < 0x80 :=
    fun k => toNat_digitChar _ (by omega)
  refine hp.any_eq_false fun c hc => ?_
  simp only [unicodeEscape, hex4, List.mem_cons, List.not_mem_nil, or_false] at hc
  rcases hc with rfl | rfl | rfl | rfl | rfl | rfl
  · decide
  · decide
  all_goals exact hdigit _

lemma any_escapeUnicode (c : Char) : (escapeUnicode c).any p = p c := by
  unfold escapeUnicode
  split
  · rename_i e he
    obtain ⟨hc, he⟩ := shortEscape_ascii he
    rw [hp c hc]
    refine hp.any_eq_false fun d hd => ?_
    simp only [List.mem_cons, List.not_mem_nil, or_false] at hd
    rcases hd with rfl | rfl
    · decide
    · exact he
  · split_ifs with hlt
    · rw [any_unicodeEscape hp, hp c (by omega)]
    · simp

lemma any_quote (s : String) : (quote escapeUnicode s).any p = s.toList.any p := by
  have hquote : p '"' = false := hp _ (by decide)
  simp [quote, hquote, any_escapeUnicode hp]

/-- The text of an array has the characters of its items. -/
lemma any_arrText (xs : List Json) :
    ((Json.arr xs).text escapeUnicode).any p = xs.any fun x => (x.text escapeUnicode).any p := by
  have hopen : p '[' = false := hp _ (by decide)
  have hclose : p ']' = false := hp _ (by decide)
  have hcomma : p ',' = false := hp _ (by decide)
  have hitems : ∀ ys : List Json,
      (itemsText escapeUnicode ys).any p = ys.any fun x => (x.text escapeUnicode).any p := by
    intro ys
    induction ys with
    | nil => simp [itemsText, hclose]
    | cons y ys ih =>
      simp only [itemsText, List.any_cons, List.any_append, hcomma, ih, Bool.false_or]
  cases xs with
  | nil => simp [Json.text, hopen, hclose]
  | cons x xs => simp only [Json.text, List.any_cons, List.any_append, hopen, hitems, Bool.false_or]

/-- The text of an object has the characters of its names and of its values. -/
lemma any_objText (ms : List (String × Json)) :
    ((Json.obj ms).text escapeUnicode).any p =
      ms.any fun m => m.1.toList.any p || (m.2.text escapeUnicode).any p := by
  have hopen : p '\x7b' = false := hp _ (by decide)
  have hclose : p '\x7d' = false := hp _ (by decide)
  have hcomma : p ',' = false := hp _ (by decide)
  have hcolon : p ':' = false := hp _ (by decide)
  have hmembers : ∀ ns : List (String × Json), (membersText escapeUnicode ns).any p =
      ns.any fun m => m.1.toList.any p || (m.2.text escapeUnicode).any p := by
    intro ns
    induction ns with
    | nil => simp [membersText, hclose]
    | cons n ns ih =>
      simp only [membersText, List.any_cons, List.any_append, any_quote hp, hcomma, hcolon, ih,
        Bool.false_or, Bool.or_assoc]
  cases ms with
  | nil => simp [Json.text, hopen, hclose]
  | cons m ms =>
    simp only [Json.text, List.any_cons, List.any_append, any_quote hp, hopen, hcolon, hmembers,
      Bool.false_or, Bool.or_assoc]

end Characters

/-! ### Values -/

section Prepare

variable {p : Char → Bool} {default : PyDecimal → Except StdError Json}

mutual

/-- The characters in the sorted text of a JSON value are those of its strings and keys. -/
theorem Value.IsJson.any_text (hp : BeyondAscii p) (v : Value) (hv : v.IsJson) {j : Json}
    (h : prepare ⟨true, default⟩ v = .ok j) : (j.text escapeUnicode).any p = v.anyChar p := by
  match v with
  | .none | .bool b | .int n | .float x =>
    obtain rfl := Except.ok.inj h
    exact Atom.any_text hp _
  | .decimal d => exact absurd hv (by simp [Value.IsJson])
  | .str s =>
    obtain rfl := Except.ok.inj h
    exact any_quote hp s
  | .list xs =>
    rw [prepare] at h
    obtain ⟨js, hjs, rfl⟩ := map_ok.mp h
    rw [any_arrText hp, Value.anyChar]
    exact JsonItems.any_text hp xs hv hjs
  | .dict ms =>
    rw [prepare] at h
    obtain ⟨js, hjs, h⟩ := bind_ok.mp h
    obtain ⟨ns, hns, h⟩ := bind_ok.mp h
    obtain rfl := Except.ok.inj h
    rw [any_objText hp, List.any_map, (sortMembers_perm hns).any_eq, Value.anyChar]
    exact JsonMembers.any_text hp ms hv hjs

theorem JsonItems.any_text (hp : BeyondAscii p) (xs : List Value) (hx : JsonItems xs)
    {js : List Json} (h : prepareItems ⟨true, default⟩ xs = .ok js) :
    (js.any fun j => (j.text escapeUnicode).any p) = itemsAnyChar p xs := by
  match xs with
  | [] =>
    obtain rfl := Except.ok.inj h
    rfl
  | x :: xs =>
    rw [prepareItems] at h
    obtain ⟨j, hj, h⟩ := bind_ok.mp h
    obtain ⟨js, hjs, rfl⟩ := map_ok.mp h
    rw [List.any_cons, Value.IsJson.any_text hp x hx.1 hj, JsonItems.any_text hp xs hx.2 hjs,
      itemsAnyChar]

theorem JsonMembers.any_text (hp : BeyondAscii p) (ms : List (Key × Value)) (hm : JsonMembers ms)
    {js : List (Key × Json)} (h : prepareMembers ⟨true, default⟩ ms = .ok js) :
    (js.any fun m => m.1.text.toList.any p || (m.2.text escapeUnicode).any p) =
      membersAnyChar p ms := by
  match ms with
  | [] =>
    obtain rfl := Except.ok.inj h
    rfl
  | (k, v) :: ms =>
    rw [prepareMembers] at h
    obtain ⟨j, hj, h⟩ := bind_ok.mp h
    obtain ⟨js, hjs, rfl⟩ := map_ok.mp h
    rw [List.any_cons, Value.IsJson.any_text hp v hm.2.2.1 hj,
      JsonMembers.any_text hp ms hm.2.2.2 hjs, membersAnyChar]

end

end Prepare

end Python
