import OpsCopilot.Lib.PyCompare
import OpsCopilot.Lib.PyJsonEscape

/-!
# `repr` of strings is a prefix code

A quoted string says itself where it ends. Hence no `repr` of a string is the beginning of another,
and texts that begin with different ones compare like them.
-/

namespace Python

/-! ### Hexadecimal digits -/

def hexNumber (ds : List Char) : ℕ := ds.foldl (fun n c => n * 16 + hexValue c) 0

lemma hexNumber_append_singleton (ds : List Char) (c : Char) :
    hexNumber (ds ++ [c]) = hexNumber ds * 16 + hexValue c := by
  rw [hexNumber, List.foldl_append]
  rfl

lemma hexNumber_toDigits (n : ℕ) : hexNumber (Nat.toDigits 16 n) = n := by
  induction n using Nat.base_induction 16 (by decide) with
  | single n hn =>
    rw [Nat.toDigits_of_lt_base hn]
    exact (zero_add _).trans (hexValue_digitChar n hn)
  | digit m k hk hm ih =>
    rw [← Nat.toDigits_append_toDigits (by decide) hm hk, Nat.toDigits_of_lt_base hk,
      hexNumber_append_singleton, ih, hexValue_digitChar k hk, mul_comm]

lemma hexNumber_zeros (k : ℕ) (ds : List Char) :
    hexNumber (List.replicate k '0' ++ ds) = hexNumber ds := by
  induction k with
  | zero => rfl
  | succ k ih => exact ih

lemma hexNumber_hexDigits (width n : ℕ) : hexNumber (hexDigits width n) = n := by
  rw [hexDigits, hexNumber_zeros, hexNumber_toDigits]

lemma length_hexDigits {width n : ℕ} (hw : 0 < width) (hn : n < 16 ^ width) :
    (hexDigits width n).length = width := by
  have hlen := (Nat.length_toDigits_le_iff (by decide : 1 < 16) hw).mpr hn
  rw [hexDigits, List.length_append, List.length_replicate]
  omega

/-! ### Reading a character back -/

/-- The character whose code the next `width` digits give. -/
def readHex (width : ℕ) (r : List Char) : Char × List Char :=
  (Char.ofNat (hexNumber (r.take width)), r.drop width)

lemma readHex_hexDigits {width : ℕ} {c : Char} (hw : 0 < width) (hc : c.toNat < 16 ^ width)
    (r : List Char) : readHex width (hexDigits width c.toNat ++ r) = (c, r) := by
  have hlen := length_hexDigits hw hc
  rw [readHex, List.take_left' hlen, List.drop_left' hlen, hexNumber_hexDigits, Char.ofNat_toNat]

/-- Reads what follows a backslash. -/
def unreprEscape : List Char → Option (Char × List Char)
  | [] => none
  | e :: r =>
    if e = 'n' then some ('\n', r)
    else if e = 'r' then some ('\r', r)
    else if e = 't' then some ('\t', r)
    else if e = 'x' then some (readHex 2 r)
    else if e = 'u' then some (readHex 4 r)
    else if e = 'U' then some (readHex 8 r)
    else some (e, r)

/-- Reads one character of a string literal, and none at its closing mark. -/
def unreprChar (mark : Char) : List Char → Option (Char × List Char)
  | [] => none
  | c :: r =>
    if c = mark then none else if c = '\\' then unreprEscape r else some (c, r)

section Repr

variable {printable : Char → Bool} {mark : Char}

lemma unreprChar_backslash (hmark : mark = '\x27' ∨ mark = '"') (r : List Char) :
    unreprChar mark ('\\' :: r) = unreprEscape r := by
  rcases hmark with rfl | rfl <;> simp [unreprChar]

/-- A character comes back from its text. -/
lemma unreprChar_reprChar (hmark : mark = '\x27' ∨ mark = '"') (c : Char) (r : List Char) :
    unreprChar mark (reprChar printable mark c ++ r) = some (c, r) := by
  have hcode := toNat_lt_unicode c
  unfold reprChar
  split_ifs with hescaped hn hr ht hplain hprintable hx hu
  · rw [List.cons_append, unreprChar_backslash hmark, List.cons_append]
    rcases hescaped with rfl | rfl
    · rcases hmark with rfl | rfl <;> simp [unreprEscape]
    · simp [unreprEscape]
  · rw [List.cons_append, unreprChar_backslash hmark, hn]
    simp [unreprEscape]
  · rw [List.cons_append, unreprChar_backslash hmark, hr]
    simp [unreprEscape]
  · rw [List.cons_append, unreprChar_backslash hmark, ht]
    simp [unreprEscape]
  · obtain ⟨hquote, hback⟩ := not_or.mp hescaped
    simp [unreprChar, hquote, hback]
  · obtain ⟨hquote, hback⟩ := not_or.mp hescaped
    simp [unreprChar, hquote, hback]
  · have hshort : c.toNat < 16 ^ 2 := hx
    rw [List.cons_append, unreprChar_backslash hmark, List.cons_append]
    simp [unreprEscape, readHex_hexDigits (by decide) hshort]
  · have hbasic : c.toNat < 16 ^ 4 := hu
    rw [List.cons_append, unreprChar_backslash hmark, List.cons_append]
    simp [unreprEscape, readHex_hexDigits (by decide) hbasic]
  · have hlong : c.toNat < 16 ^ 8 := by omega
    rw [List.cons_append, unreprChar_backslash hmark, List.cons_append]
    simp [unreprEscape, readHex_hexDigits (by decide) hlong]

lemma reprChars_inj (hmark : mark = '\x27' ∨ mark = '"') (cs ds r s : List Char)
    (h : cs.flatMap (reprChar printable mark) ++ mark :: r =
      ds.flatMap (reprChar printable mark) ++ mark :: s) : cs = ds ∧ r = s := by
  have hend : ∀ q, unreprChar mark (mark :: q) = none := fun q => if_pos rfl
  induction cs generalizing ds with
  | nil =>
    cases ds with
    | nil => exact ⟨rfl, (List.cons.inj h).2⟩
    | cons d ds =>
      rw [List.flatMap_cons, List.append_assoc] at h
      have hread := congrArg (unreprChar mark) h
      rw [List.flatMap_nil, List.nil_append, hend, unreprChar_reprChar hmark] at hread
      cases hread
  | cons c cs ih =>
    cases ds with
    | nil =>
      rw [List.flatMap_cons, List.append_assoc] at h
      have hread := congrArg (unreprChar mark) h
      rw [List.flatMap_nil, List.nil_append, hend, unreprChar_reprChar hmark] at hread
      cases hread
    | cons d ds =>
      rw [List.flatMap_cons, List.flatMap_cons, List.append_assoc, List.append_assoc] at h
      have hread := congrArg (unreprChar mark) h
      rw [unreprChar_reprChar hmark, unreprChar_reprChar hmark] at hread
      obtain ⟨rfl, hrest⟩ := Prod.mk.inj (Option.some.inj hread)
      obtain ⟨rfl, hrs⟩ := ih ds hrest
      exact ⟨rfl, hrs⟩

theorem reprStr_append_inj {s t : String} {r r' : List Char}
    (h : reprStr printable s ++ r = reprStr printable t ++ r') : s = t ∧ r = r' := by
  simp only [reprStr, List.cons_append, List.append_assoc, List.nil_append, List.cons.injEq] at h
  obtain ⟨hmarks, hbody⟩ := h
  rw [hmarks] at hbody
  have hmark : (if '\x27' ∈ t.toList ∧ '"' ∉ t.toList then '"' else '\x27') = '\x27' ∨
      (if '\x27' ∈ t.toList ∧ '"' ∉ t.toList then '"' else '\x27') = '"' := by
    split_ifs
    · exact .inr rfl
    · exact .inl rfl
  obtain ⟨hst, hr⟩ := reprChars_inj hmark _ _ _ _ hbody
  exact ⟨String.toList_injective hst, hr⟩

/-- The texts differ before either of them ends. -/
lemma reprStr_unextended {s t : String} (h : s ≠ t) :
    ¬reprStr printable s <+: reprStr printable t := by
  rintro ⟨r, hr⟩
  rw [← List.append_nil (reprStr printable t)] at hr
  exact h (reprStr_append_inj hr).1

end Repr

/-! ### Order -/

/-- Lists that differ before either of them ends compare like their continuations. -/
lemma append_lt_append_iff {a b : List Char} (r s : List Char) (hab : ¬a <+: b) (hba : ¬b <+: a) :
    a ++ r < b ++ s ↔ a < b := by
  induction a generalizing b with
  | nil => exact absurd (List.nil_prefix) hab
  | cons x a ih =>
    cases b with
    | nil => exact absurd (List.nil_prefix) hba
    | cons y b =>
      rw [List.cons_append, List.cons_append, List.cons_lt_cons_iff, List.cons_lt_cons_iff]
      by_cases hxy : x = y
      · subst hxy
        rw [List.cons_prefix_cons, and_iff_right rfl] at hab hba
        rw [ih hab hba]
      · simp only [hxy, false_and, or_false]

/-- `repr` of a text. -/
def quoted (printable : Char → Bool) (s : String) : String := String.ofList (reprStr printable s)

end Python
