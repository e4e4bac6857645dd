import OpsCopilot.Lib.PyJsonInjective

/-!
# The two escapings of `json.dumps` can be undone

`unescape` reads one character back from the front of an escaped string, so that both
escapings meet `Escaping` and the texts of documents determine the documents.
-/

namespace Python

def hexValue (c : Char) : ℕ := if c.isDigit then c.toNat - 48 else c.toNat - 87

/-- Reads four hexadecimal digits. -/
def unhex4 : List Char → Option (ℕ × List Char)
  | a :: b :: c :: d :: r =>
    some (hexValue a * 4096 + hexValue b * 256 + hexValue c * 16 + hexValue d, r)
  | _ => none

/-- The character a two-character escape stands for. -/
def shortUnescape (e : Char) : Char :=
  if e = 'n' then '\n' else if e = 'r' then '\r' else if e = 't' then '\t'
  else if e = 'b' then '\x08' else if e = 'f' then '\x0c' else e

/-- Reads the code unit after `\u`; a leading surrogate takes the next unit along. -/
def unescapeUnit (r : List Char) : Option (Char × List Char) :=
  (unhex4 r).bind (fun u =>
    if 0xd800 ≤ u.1 ∧ u.1 < 0xdc00 then
      (unhex4 (u.2.drop 2)).map
        (fun l => (Char.ofNat (0x10000 + (u.1 - 0xd800) * 1024 + (l.1 - 0xdc00)), l.2))
    else some (Char.ofNat u.1, u.2))

/-- Reads one character of a quoted string. -/
def unescape : List Char → Option (Char × List Char)
  | [] => none
  | c :: r =>
    if c = '"' then none
    else if c = '\\' then
      match r with
      | [] => none
      | e :: r => if e = 'u' then unescapeUnit r else some (shortUnescape e, r)
    else some (c, r)

lemma hexValue_digitChar (n : ℕ) (hn : n < 16) : hexValue (Nat.digitChar n) = n := by
  have hall : ∀ i : Fin 16, hexValue (Nat.digitChar i.val) = i.val := by decide
  exact hall ⟨n, hn⟩

lemma unhex4_hex4 (n : ℕ) (hn : n < 0x10000) (r : List Char) :
    unhex4 (hex4 n ++ r) = some (n, r) := by
  simp only [hex4, List.cons_append, List.nil_append, unhex4]
  rw [hexValue_digitChar _ (by omega), hexValue_digitChar _ (by omega),
    hexValue_digitChar _ (by omega), hexValue_digitChar _ (by omega)]
  have hvalue : n / 4096 % 16 * 4096 + n / 256 % 16 * 256 + n / 16 % 16 * 16 + n % 16 = n := by
    omega
  rw [hvalue]

lemma shortEscape_eq_some {c e : Char} (h : shortEscape c = some e) :
    shortUnescape e = c ∧ e ≠ 'u' := by
  unfold shortEscape at h
  split_ifs at h with h1 h2 h3 h4 h5 h6 h7 <;>
    rw [Option.some.injEq] at h <;> subst_vars <;> decide

lemma shortEscape_eq_none {c : Char} (h : shortEscape c = none) : c ≠ '"' ∧ c ≠ '\\' := by
  unfold shortEscape at h
  constructor
  · rintro rfl
    simp at h
  · rintro rfl
    simp at h

lemma unescape_short {c e : Char} (h : shortEscape c = some e) (r : List Char) :
    unescape ('\\' :: e :: r) = some (c, r) := by
  obtain ⟨hc, he⟩ := shortEscape_eq_some h
  simp [unescape, he, hc]

lemma unescape_plain {c : Char} (h : shortEscape c = none) (r : List Char) :
    unescape (c :: r) = some (c, r) := by
  obtain ⟨hquote, hback⟩ := shortEscape_eq_none h
  simp [unescape, hquote, hback]

lemma toNat_not_surrogate (c : Char) : c.toNat < 0xd800 ∨ 0xdfff < c.toNat := by
  rcases c.valid with h | h
  · exact .inl h
  · exact .inr h.1

lemma toNat_lt_unicode (c : Char) : c.toNat < 0x110000 := by
  rcases c.valid with h | h
  · exact Nat.lt_trans h (by decide)
  · exact h.2

/-- A character of the basic plane comes back from its one `\u` escape. -/
lemma unescape_unit (c : Char) (hc : c.toNat < 0x10000) (r : List Char) :
    unescape (unicodeEscape c.toNat ++ r) = some (c, r) := by
  have hsur := toNat_not_surrogate c
  have hout : ¬(0xd800 ≤ c.toNat ∧ c.toNat < 0xdc00) := by omega
  simp only [unicodeEscape, List.cons_append, unescape, unescapeUnit, Char.reduceEq, if_false,
    if_true, unhex4_hex4 _ hc, Option.bind_some, hout, Char.ofNat_toNat]

/-- A character beyond the basic plane comes back from its surrogate pair. -/
lemma unescape_pair (c : Char) (hc : 0x10000 ≤ c.toNat) (r : List Char) :
    unescape (unicodeEscape (0xd800 + (c.toNat - 0x10000) / 1024) ++
      unicodeEscape (0xdc00 + (c.toNat - 0x10000) % 1024) ++ r) = some (c, r) := by
  have hlt := toNat_lt_unicode c
  have hin : 0xd800 ≤ 0xd800 + (c.toNat - 0x10000) / 1024 ∧
      0xd800 + (c.toNat - 0x10000) / 1024 < 0xdc00 := by omega
  have hback : 0x10000 + (0xd800 + (c.toNat - 0x10000) / 1024 - 0xd800) * 1024 +
      (0xdc00 + (c.toNat - 0x10000) % 1024 - 0xdc00) = c.toNat := by omega
  rw [List.append_assoc]
  simp only [unicodeEscape, List.cons_append, unescape, unescapeUnit, Char.reduceEq, if_false,
    if_true]
  rw [unhex4_hex4 _ (by omega), Option.bind_some]
  simp only [hin, and_self, if_true, List.drop_succ_cons, List.drop_zero]
  rw [unhex4_hex4 _ (by omega), Option.map_some]
  simp only [hback, Char.ofNat_toNat]

lemma Escaping.of_unescape {escape : Char → List Char}
    (h : ∀ c r, unescape (escape c ++ r) = some (c, r)) : Escaping escape where
  inj c d r s heq := by
    have hboth := (h c r).symm.trans ((congrArg unescape heq).trans (h d s))
    simpa using hboth
  notQuote c r s heq := by
    have hnone := (h c r).symm.trans (congrArg unescape heq)
    simp [unescape] at hnone

theorem escaping_escapeUnicode : Escaping escapeUnicode := by
  refine Escaping.of_unescape (fun c r => ?_)
  unfold escapeUnicode
  cases h : shortEscape c with
  | some e => exact unescape_short h r
  | none =>
    simp only
    split_ifs with hlow
    · exact unescape_unit c (by omega) r
    · exact unescape_plain h r

theorem escaping_escapeAscii : Escaping escapeAscii := by
  refine Escaping.of_unescape (fun c r => ?_)
  unfold escapeAscii
  cases h : shortEscape c with
  | some e => exact unescape_short h r
  | none =>
    simp only
    split_ifs with hplain hbasic
    · exact unescape_plain h r
    · exact unescape_unit c hbasic r
    · exact unescape_pair c (by omega) r

end Python
