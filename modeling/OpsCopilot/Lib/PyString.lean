import Mathlib.Data.List.TakeWhile

/-!
# Python strings

`str.strip()` removes the characters for which `str.isspace()` holds from both ends.
-/

namespace Python

/-- The predicate holds of no ASCII character. -/
def BeyondAscii (p : Char → Bool) : Prop := ∀ c, c.toNat < 0x80 → p c = false

/-- `str.isspace()` of one character. -/
def isSpace (c : Char) : Bool :=
  (9 ≤ c.toNat && c.toNat ≤ 13) || (28 ≤ c.toNat && c.toNat ≤ 32) || c.toNat == 0x85 ||
    c.toNat == 0xa0 || c.toNat == 0x1680 || (0x2000 ≤ c.toNat && c.toNat ≤ 0x200a) ||
    c.toNat == 0x2028 || c.toNat == 0x2029 || c.toNat == 0x202f || c.toNat == 0x205f ||
    c.toNat == 0x3000

def stripChars (cs : List Char) : List Char :=
  ((cs.dropWhile isSpace).reverse.dropWhile isSpace).reverse

/-- `s.strip()`. -/
def strip (s : String) : String := String.ofList (stripChars s.toList)

lemma mem_dropWhile {p : Char → Bool} {c : Char} {cs : List Char} (hc : p c = false)
    (h : c ∈ cs) : c ∈ cs.dropWhile p := by
  rw [← List.takeWhile_append_dropWhile (p := p) (l := cs)] at h
  rcases List.mem_append.mp h with h | h
  · exact absurd ((List.mem_takeWhile_imp h).symm.trans hc) Bool.true_eq_false.mp
  · exact h

/-- Only white space is removed. -/
lemma mem_stripChars {c : Char} {cs : List Char} (hc : isSpace c = false) (h : c ∈ cs) :
    c ∈ stripChars cs :=
  List.mem_reverse.mpr (mem_dropWhile hc (List.mem_reverse.mpr (mem_dropWhile hc h)))

lemma exists_of_strip_ne_empty {s : String} (h : strip s ≠ "") :
    ∃ c ∈ s.toList, isSpace c = false := by
  by_contra hall
  refine h ?_
  have hspace : s.toList.dropWhile isSpace = [] := by
    rw [List.dropWhile_eq_nil_iff]
    intro c hc
    by_contra hns
    exact hall ⟨c, hc, Bool.eq_false_iff.mpr hns⟩
  rw [strip, stripChars, hspace]
  rfl

/-- What is left after stripping is not stripped away. -/
lemma strip_strip_ne_empty {s : String} (h : strip s ≠ "") : strip (strip s) ≠ "" := by
  obtain ⟨c, hc, hns⟩ := exists_of_strip_ne_empty h
  have hmem : c ∈ (strip (strip s)).toList := by
    rw [strip, String.toList_ofList, strip, String.toList_ofList]
    exact mem_stripChars hns (mem_stripChars hns hc)
  intro hempty
  rw [hempty] at hmem
  exact absurd hmem List.not_mem_nil

lemma dropWhile_of_head {p : Char → Bool} {cs : List Char} (h : ∀ c ∈ cs.head?, p c = false) :
    cs.dropWhile p = cs := by
  cases cs with
  | nil => rfl
  | cons c cs => exact List.dropWhile_cons_of_neg (by simp [h c rfl])

/-- A text that neither starts nor ends with white space. -/
lemma strip_eq_self {s : String} (hhead : ∀ c ∈ s.toList.head?, isSpace c = false)
    (hlast : ∀ c ∈ s.toList.getLast?, isSpace c = false) : strip s = s := by
  rw [strip, stripChars, dropWhile_of_head hhead, dropWhile_of_head, List.reverse_reverse,
    String.ofList_toList]
  rwa [List.head?_reverse]

lemma strip_of_no_space {s : String} (h : ∀ c ∈ s.toList, isSpace c = false) : strip s = s :=
  strip_eq_self (fun c hc => h c (List.mem_of_mem_head? hc))
    (fun c hc => h c (List.mem_of_mem_getLast? hc))

lemma head?_dropWhile (p : Char → Bool) (cs : List Char) :
    ∀ c ∈ (cs.dropWhile p).head?, p c = false := by
  intro c hc
  induction cs with
  | nil => exact absurd hc (by simp)
  | cons d cs ih =>
    rw [List.dropWhile_cons] at hc
    split_ifs at hc with hd
    · exact ih hc
    · obtain rfl := Option.some.inj hc
      exact Bool.eq_false_iff.mpr hd

lemma strip_strip (s : String) : strip (strip s) = strip s := by
  have hsuffix : (s.toList.dropWhile isSpace).reverse.dropWhile isSpace <:+
      (s.toList.dropWhile isSpace).reverse := List.dropWhile_suffix isSpace
  refine strip_eq_self ?_ ?_
  · rw [strip, String.toList_ofList, stripChars]
    intro c hc
    obtain ⟨rest, hrest⟩ := List.reverse_prefix.mpr hsuffix
    rw [List.reverse_reverse] at hrest
    refine head?_dropWhile isSpace s.toList c ?_
    rw [← hrest, List.head?_append, Option.mem_def.mp hc]
    rfl
  · rw [strip, String.toList_ofList, stripChars, List.getLast?_reverse]
    exact head?_dropWhile isSpace _

end Python
