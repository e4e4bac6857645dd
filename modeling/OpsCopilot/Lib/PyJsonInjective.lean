import OpsCopilot.Lib.PyNumberText

/-!
# JSON texts are self-delimiting

Two documents whose texts start the same character list are equal, and so are the rests:
`Json.text_inj`. A number may not be followed by another number character; strings, arrays
and objects close themselves.
-/

namespace Python

/-! ### Leaves -/

/-- The characters of a leaf that is not a string. -/
def atomChar (c : Char) : Bool := c.isAlphanum || c == '-' || c == '+' || c == '.'

lemma atomChar_of_isDigit {c : Char} (hc : c.isDigit = true) : atomChar c = true := by
  simp [atomChar, Char.isAlphanum, hc]

lemma atomChar_exponentText (e : ℤ) : ∀ c ∈ exponentText e, atomChar c = true := by
  intro c hc
  unfold exponentText at hc
  rcases List.mem_cons.mp hc with rfl | hc
  · split_ifs <;> decide
  · split_ifs at hc
    · rcases List.mem_cons.mp hc with rfl | hc
      · decide
      · exact atomChar_of_isDigit (isDigit_toDigits hc)
    · exact atomChar_of_isDigit (isDigit_toDigits hc)

lemma atomChar_digitsText {ds : List Char} (hds : ∀ c ∈ ds, c.isDigit = true) (point : ℤ) :
    ∀ c ∈ digitsText ds point, atomChar c = true := by
  have hin : ∀ c ∈ ds, atomChar c = true := fun c hc => atomChar_of_isDigit (hds c hc)
  have hzeros : ∀ k, ∀ c ∈ List.replicate k '0', atomChar c = true := fun k c hc =>
    (List.mem_replicate.mp hc).2 ▸ by decide
  have htake : ∀ k, ∀ c ∈ ds.take k, atomChar c = true :=
    fun k c hc => hin c (List.mem_of_mem_take hc)
  have hdrop : ∀ k, ∀ c ∈ ds.drop k, atomChar c = true :=
    fun k c hc => hin c (List.mem_of_mem_drop hc)
  intro c hc
  unfold digitsText at hc
  split_ifs at hc
  · simp only [List.mem_cons, List.mem_append] at hc
    rcases hc with rfl | rfl | hc | hc
    · decide
    · decide
    · exact hzeros _ c hc
    · exact hin c hc
  · simp only [List.mem_cons, List.mem_append] at hc
    rcases hc with hc | rfl | hc
    · exact htake _ c hc
    · decide
    · exact hdrop _ c hc
  · simp only [List.mem_cons, List.mem_append, List.not_mem_nil, or_false] at hc
    rcases hc with (hc | hc) | rfl | rfl
    · exact hin c hc
    · exact hzeros _ c hc
    · decide
    · decide
  · simp only [List.mem_cons, List.mem_append] at hc
    rcases hc with (hc | rfl | hc) | rfl | hc
    · exact htake _ c hc
    · decide
    · exact hdrop _ c hc
    · decide
    · exact atomChar_exponentText _ c hc
  · simp only [List.mem_cons, List.mem_append, List.not_mem_nil, or_false] at hc
    rcases hc with hc | rfl | hc
    · exact htake _ c hc
    · decide
    · exact atomChar_exponentText _ c hc

lemma atomChar_floatText (x : FiniteFloat) : ∀ c ∈ x.text, atomChar c = true := by
  have hbody : ∀ c ∈ x.body, atomChar c = true := by
    unfold FiniteFloat.body
    split_ifs
    · exact List.all_eq_true.mp (by decide)
    · exact atomChar_digitsText (fun c hc => isDigit_toDigits hc) _
  intro c hc
  rw [FiniteFloat.text_eq] at hc
  split_ifs at hc
  · rcases List.mem_cons.mp hc with rfl | hc
    · decide
    · exact hbody c hc
  · exact hbody c hc

lemma Atom.atomChar_text (a : Atom) : ∀ c ∈ a.text, atomChar c = true := by
  match a with
  | .null => exact List.all_eq_true.mp (by decide)
  | .bool true => exact List.all_eq_true.mp (by decide)
  | .bool false => exact List.all_eq_true.mp (by decide)
  | .int n =>
    intro c hc
    rcases mem_intText hc with rfl | hc
    · decide
    · exact atomChar_of_isDigit hc
  | .float .nan => exact List.all_eq_true.mp (by decide)
  | .float (.inf true) => exact List.all_eq_true.mp (by decide)
  | .float (.inf false) => exact List.all_eq_true.mp (by decide)
  | .float (.finite x) => exact atomChar_floatText x

/-- A number text starts with a digit, perhaps after a minus sign. -/
def NumberHead (cs : List Char) : Prop :=
  ∃ c r, c.isDigit = true ∧ (cs = c :: r ∨ cs = '-' :: c :: r)

lemma numberHead_toDigits (n : ℕ) : ∃ c r, Nat.toDigits 10 n = c :: r ∧ c.isDigit = true := by
  obtain ⟨c, r, h⟩ := List.exists_cons_of_ne_nil (Nat.toDigits_ne_nil (n := n) (b := 10))
  exact ⟨c, r, h, isDigit_toDigits (h ▸ List.mem_cons_self)⟩

lemma numberHead_intText (n : ℤ) : NumberHead (intText n) := by
  obtain ⟨c, r, h, hc⟩ := numberHead_toDigits n.natAbs
  unfold intText
  split_ifs
  · exact ⟨c, r, hc, .inr (by rw [h])⟩
  · exact ⟨c, r, hc, .inl h⟩

lemma numberHead_floatText (x : FiniteFloat) : NumberHead x.text := by
  obtain ⟨c, r, h, hc⟩ := x.body_head
  rw [FiniteFloat.text_eq]
  split_ifs
  · exact ⟨c, r, hc, .inr (by rw [h])⟩
  · exact ⟨c, r, hc, .inl h⟩

/-- The words among the leaf texts are not number texts. -/
lemma not_numberHead_word {cs : List Char} (hcs : cs ∈ [Atom.null.text, (Atom.bool true).text,
    (Atom.bool false).text, (Atom.float .nan).text, (Atom.float (.inf true)).text,
    (Atom.float (.inf false)).text]) : ¬NumberHead cs := by
  rintro ⟨c, r, hc, h⟩
  simp only [Atom.text, List.mem_cons, List.not_mem_nil, or_false] at hcs
  rcases hcs with rfl | rfl | rfl | rfl | rfl | rfl <;>
    rcases h with h | h <;>
    simp only [List.cons.injEq, Char.reduceEq, false_and, true_and] at h <;>
    exact absurd hc (by rw [← h.1]; decide)

/-- Whether a leaf is written as a word rather than as a number. -/
def Atom.isWord : Atom → Bool
  | .int _ | .float (.finite _) => false
  | _ => true

lemma Atom.not_numberHead {a : Atom} (ha : a.isWord = true) : ¬NumberHead a.text := by
  match a with
  | .null | .bool true | .bool false | .float .nan | .float (.inf true)
  | .float (.inf false) => exact not_numberHead_word (by simp)
  | .int n => exact absurd ha (by simp [Atom.isWord])
  | .float (.finite x) => exact absurd ha (by simp [Atom.isWord])

lemma Atom.numberHead {a : Atom} (ha : a.isWord = false) : NumberHead a.text := by
  match a with
  | .null | .bool true | .bool false | .float .nan | .float (.inf true)
  | .float (.inf false) => exact absurd ha (by simp [Atom.isWord])
  | .int n => exact numberHead_intText n
  | .float (.finite x) => exact numberHead_floatText x

lemma Atom.word_inj {a b : Atom} (ha : a.isWord = true) (hb : b.isWord = true)
    (h : a.text = b.text) : a = b := by
  have hwords : ∀ c : Atom, c.isWord = true → c ∈ [Atom.null, .bool true, .bool false,
      .float .nan, .float (.inf true), .float (.inf false)] := by
    intro c hc
    match c with
    | .null | .bool true | .bool false | .float .nan | .float (.inf true)
    | .float (.inf false) => simp
    | .int n => exact absurd hc (by simp [Atom.isWord])
    | .float (.finite x) => exact absurd hc (by simp [Atom.isWord])
  have hdec : ∀ x ∈ [Atom.null, .bool true, .bool false, .float .nan, .float (.inf true),
      .float (.inf false)], ∀ y ∈ [Atom.null, .bool true, .bool false, .float .nan,
      .float (.inf true), .float (.inf false)], x.text = y.text → x = y := by decide
  exact hdec a (hwords a ha) b (hwords b hb) h

theorem Atom.text_inj {a b : Atom} (h : a.text = b.text) : a = b := by
  cases ha : a.isWord <;> cases hb : b.isWord
  · match a, b with
    | .int m, .int n => exact congrArg Atom.int (intText_inj h)
    | .int m, .float (.finite y) => exact absurd h.symm (y.text_ne_intText m)
    | .float (.finite x), .int n => exact absurd h (x.text_ne_intText n)
    | .float (.finite x), .float (.finite y) =>
      exact congrArg (fun z => Atom.float (.finite z)) (FiniteFloat.text_inj h)
    | .null, _ | .bool _, _ | .float .nan, _ | .float (.inf _), _ =>
      exact absurd ha (by simp [Atom.isWord])
    | .int _, .null | .int _, .bool _ | .int _, .float .nan | .int _, .float (.inf _)
    | .float (.finite _), .null | .float (.finite _), .bool _
    | .float (.finite _), .float .nan | .float (.finite _), .float (.inf _) =>
      exact absurd hb (by simp [Atom.isWord])
  · exact absurd (h ▸ Atom.numberHead ha) (Atom.not_numberHead hb)
  · exact absurd (h ▸ Atom.numberHead hb) (Atom.not_numberHead ha)
  · exact Atom.word_inj ha hb h

/-! ### Strings -/

/-- An escaping that can be undone character by character and never writes a bare quote. -/
structure Escaping (escape : Char → List Char) : Prop where
  inj : ∀ c d r s, escape c ++ r = escape d ++ s → c = d ∧ r = s
  notQuote : ∀ c r s, escape c ++ r ≠ '"' :: s

section Strings

variable {escape : Char → List Char} (he : Escaping escape)
include he

lemma escaped_inj (cs ds : List Char) (r s : List Char)
    (h : cs.flatMap escape ++ '"' :: r = ds.flatMap escape ++ '"' :: s) : cs = ds ∧ r = s := by
  induction cs generalizing ds with
  | nil =>
    cases ds with
    | nil => simpa using h
    | cons d ds =>
      rw [List.flatMap_cons, List.append_assoc] at h
      exact absurd h.symm (he.notQuote d _ _)
  | cons c cs ih =>
    cases ds with
    | nil =>
      rw [List.flatMap_cons, List.append_assoc] at h
      exact absurd h (he.notQuote c _ _)
    | cons d ds =>
      rw [List.flatMap_cons, List.flatMap_cons, List.append_assoc, List.append_assoc] at h
      obtain ⟨rfl, hrest⟩ := he.inj c d _ _ h
      obtain ⟨rfl, hrs⟩ := ih ds hrest
      exact ⟨rfl, hrs⟩

lemma quote_inj {s t : String} {r r' : List Char}
    (h : quote escape s ++ r = quote escape t ++ r') : s = t ∧ r = r' := by
  simp only [quote, List.cons_append, List.append_assoc, List.nil_append, List.cons.injEq,
    true_and] at h
  obtain ⟨hst, hr⟩ := escaped_inj he _ _ _ _ h
  exact ⟨String.toList_injective hst, hr⟩

end Strings

/-! ### Documents -/

/-- What follows a document must not continue a number. -/
def Delimited (r : List Char) : Prop := ∀ c ∈ r.head?, atomChar c = false

lemma delimited_cons {c : Char} {r : List Char} (hc : atomChar c = false) :
    Delimited (c :: r) := by
  intro d hd
  simp only [List.head?_cons, Option.mem_def, Option.some.injEq] at hd
  exact hd ▸ hc

lemma Atom.text_append_inj {a b : Atom} {r s : List Char} (hr : Delimited r) (hs : Delimited s)
    (h : a.text ++ r = b.text ++ s) : a = b ∧ r = s := by
  have htake : ∀ (c : Atom) (q : List Char), Delimited q →
      (c.text ++ q).takeWhile atomChar = c.text := by
    intro c q hq
    cases q with
    | nil => rw [List.append_nil]; exact (takeWhile_eq_self_of_all _ _ c.atomChar_text).1
    | cons d q => exact (takeWhile_append_cons _ _ _ _ c.atomChar_text (hq d rfl)).1
  have htext : a.text = b.text := by
    rw [← htake a r hr, ← htake b s hs, h]
  obtain rfl := Atom.text_inj htext
  exact ⟨rfl, List.append_cancel_left h⟩

lemma Atom.text_head (a : Atom) : ∃ c r, a.text = c :: r ∧ atomChar c = true := by
  have hne : a.text ≠ [] := by
    intro h
    cases ha : a.isWord with
    | true =>
      match a with
      | .null | .bool true | .bool false | .float .nan | .float (.inf true)
      | .float (.inf false) => exact absurd h (by decide)
      | .int n => exact absurd ha (by simp [Atom.isWord])
      | .float (.finite x) => exact absurd ha (by simp [Atom.isWord])
    | false =>
      obtain ⟨c, r, -, hcs | hcs⟩ := Atom.numberHead ha
      · rw [h] at hcs
        exact absurd hcs (by simp)
      · rw [h] at hcs
        exact absurd hcs (by simp)
  obtain ⟨c, r, h⟩ := List.exists_cons_of_ne_nil hne
  exact ⟨c, r, h, a.atomChar_text c (h ▸ List.mem_cons_self)⟩

lemma Atom.text_ne_cons (a : Atom) {c : Char} (hc : atomChar c = false) (q r : List Char) :
    a.text ++ q ≠ c :: r := by
  obtain ⟨d, tl, h, hd⟩ := a.text_head
  rw [h, List.cons_append]
  intro heq
  rw [List.cons.injEq] at heq
  rw [heq.1, hc] at hd
  exact Bool.noConfusion hd

/-- The first character of a text tells which constructor wrote it. -/
def Json.mark : Json → Option Char
  | .atom _ => none
  | .str _ => some '"'
  | .arr _ => some '['
  | .obj _ => some '{'

lemma Json.mark_mem {j : Json} {d : Char} (hj : j.mark = some d) : d ∈ ['"', '[', '{'] := by
  cases j with
  | atom a => exact absurd hj (by simp [Json.mark])
  | str s | arr xs | obj ms =>
    rw [← Option.some.inj hj]
    decide

section Documents

variable {escape : Char → List Char}

lemma Json.mark_eq {j : Json} {c : Char} (hj : j.mark = some c) :
    ∃ r, j.text escape = c :: r ∧ atomChar c = false := by
  match j with
  | .atom a => exact absurd hj (by simp [Json.mark])
  | .str s =>
    simp only [Json.mark, Option.some.injEq] at hj
    subst hj
    exact ⟨_, by rw [Json.text, quote], by decide⟩
  | .arr [] =>
    simp only [Json.mark, Option.some.injEq] at hj
    subst hj
    exact ⟨_, by rw [Json.text], by decide⟩
  | .arr (x :: xs) =>
    simp only [Json.mark, Option.some.injEq] at hj
    subst hj
    exact ⟨_, by rw [Json.text], by decide⟩
  | .obj [] =>
    simp only [Json.mark, Option.some.injEq] at hj
    subst hj
    exact ⟨_, by rw [Json.text], by decide⟩
  | .obj ((k, v) :: ms) =>
    simp only [Json.mark, Option.some.injEq] at hj
    subst hj
    exact ⟨_, by rw [Json.text], by decide⟩

/-- No text starts with a closing bracket or another character that opens nothing. -/
lemma Json.text_ne_close (j : Json) {c : Char} (hc : atomChar c = false)
    (hmark : c ∉ ['"', '[', '{']) (q r : List Char) : j.text escape ++ q ≠ c :: r := by
  intro h
  cases hj : j.mark with
  | none =>
    obtain ⟨a, rfl⟩ : ∃ a, j = .atom a := by
      cases j <;> simp_all [Json.mark]
    rw [Json.text] at h
    exact a.text_ne_cons hc q r h
  | some d =>
    obtain ⟨tl, htl, -⟩ := Json.mark_eq hj
    rw [htl, List.cons_append, List.cons.injEq] at h
    exact hmark (h.1 ▸ Json.mark_mem hj)

/-- Equal texts have equal marks. -/
lemma Json.mark_eq_of_text {j k : Json} {r s : List Char}
    (h : j.text escape ++ r = k.text escape ++ s) : j.mark = k.mark := by
  cases hj : j.mark with
  | none =>
    cases hk : k.mark with
    | none => rfl
    | some c =>
      obtain ⟨a, rfl⟩ : ∃ a, j = .atom a := by
        cases j <;> simp_all [Json.mark]
      obtain ⟨q, hq, hc⟩ := Json.mark_eq hk
      rw [hq, List.cons_append, Json.text] at h
      exact absurd h (a.text_ne_cons hc _ _)
  | some c =>
    obtain ⟨q, hq, hc⟩ := Json.mark_eq hj
    cases hk : k.mark with
    | none =>
      obtain ⟨a, rfl⟩ : ∃ a, k = .atom a := by
        cases k <;> simp_all [Json.mark]
      rw [hq, List.cons_append, Json.text] at h
      exact absurd h.symm (a.text_ne_cons hc _ _)
    | some d =>
      obtain ⟨q', hq', -⟩ := Json.mark_eq hk
      rw [hq, hq', List.cons_append, List.cons_append, List.cons.injEq] at h
      rw [h.1]

lemma delimited_itemsText (xs : List Json) (r : List Char) :
    Delimited (itemsText escape xs ++ r) := by
  cases xs <;> simp only [itemsText, List.cons_append] <;> exact delimited_cons (by decide)

lemma delimited_membersText (ms : List (String × Json)) (r : List Char) :
    Delimited (membersText escape ms ++ r) := by
  rcases ms with _ | ⟨⟨k, v⟩, ms⟩ <;> simp only [membersText, List.cons_append] <;>
    exact delimited_cons (by decide)

mutual

/-- Texts are uniquely readable from the left. -/
theorem Json.text_inj (he : Escaping escape) (j k : Json) {r s : List Char} (hr : Delimited r) (hs : Delimited s)
    (h : j.text escape ++ r = k.text escape ++ s) : j = k ∧ r = s := by
  have hmark := Json.mark_eq_of_text h
  match j, k with
  | .atom a, .atom b =>
    rw [Json.text, Json.text] at h
    obtain ⟨rfl, hrs⟩ := Atom.text_append_inj hr hs h
    exact ⟨rfl, hrs⟩
  | .str a, .str b =>
    rw [Json.text, Json.text] at h
    obtain ⟨rfl, hrs⟩ := quote_inj he h
    exact ⟨rfl, hrs⟩
  | .arr [], .arr [] =>
    exact ⟨rfl, by simpa [Json.text] using h⟩
  | .arr [], .arr (y :: ys) =>
    simp only [Json.text, List.cons_append, List.nil_append, List.cons.injEq, true_and] at h
    rw [List.append_assoc] at h
    exact absurd h.symm (Json.text_ne_close y (c := ']') (by decide) (by decide) _ _)
  | .arr (x :: xs), .arr [] =>
    simp only [Json.text, List.cons_append, List.nil_append, List.cons.injEq, true_and] at h
    rw [List.append_assoc] at h
    exact absurd h (Json.text_ne_close x (c := ']') (by decide) (by decide) _ _)
  | .arr (x :: xs), .arr (y :: ys) =>
    simp only [Json.text, List.cons_append, List.append_assoc, List.cons.injEq, true_and] at h
    obtain ⟨rfl, htail⟩ := Json.text_inj he x y (delimited_itemsText xs r)
      (delimited_itemsText ys s) h
    obtain ⟨rfl, hrs⟩ := itemsText_inj he xs ys htail
    exact ⟨rfl, hrs⟩
  | .obj [], .obj [] =>
    exact ⟨rfl, by simpa [Json.text] using h⟩
  | .obj [], .obj ((k, v) :: ms) => simp [Json.text, quote] at h
  | .obj ((k, v) :: ms), .obj [] => simp [Json.text, quote] at h
  | .obj ((k, v) :: ms), .obj ((l, w) :: ns) =>
    simp only [Json.text, List.cons_append, List.append_assoc, List.cons.injEq, true_and] at h
    obtain ⟨rfl, hrest⟩ := quote_inj he h
    rw [List.cons.injEq] at hrest
    obtain ⟨rfl, htail⟩ := Json.text_inj he v w (delimited_membersText ms r)
      (delimited_membersText ns s) hrest.2
    obtain ⟨rfl, hrs⟩ := membersText_inj he ms ns htail
    exact ⟨rfl, hrs⟩
  | .atom _, .str _ | .atom _, .arr _ | .atom _, .obj _ | .str _, .atom _ | .str _, .arr _
  | .str _, .obj _ | .arr _, .atom _ | .arr _, .str _ | .arr _, .obj _ | .obj _, .atom _
  | .obj _, .str _ | .obj _, .arr _ => exact absurd hmark (by simp [Json.mark])

theorem itemsText_inj (he : Escaping escape) (xs ys : List Json) {r s : List Char}
    (h : itemsText escape xs ++ r = itemsText escape ys ++ s) : xs = ys ∧ r = s := by
  match xs, ys with
  | [], [] => exact ⟨rfl, by simpa [itemsText] using h⟩
  | [], y :: ys => simp [itemsText] at h
  | x :: xs, [] => simp [itemsText] at h
  | x :: xs, y :: ys =>
    simp only [itemsText, List.cons_append, List.append_assoc, List.cons.injEq, true_and] at h
    obtain ⟨rfl, htail⟩ := Json.text_inj he x y (delimited_itemsText xs r)
      (delimited_itemsText ys s) h
    obtain ⟨rfl, hrs⟩ := itemsText_inj he xs ys htail
    exact ⟨rfl, hrs⟩

theorem membersText_inj (he : Escaping escape) (ms ns : List (String × Json)) {r s : List Char}
    (h : membersText escape ms ++ r = membersText escape ns ++ s) : ms = ns ∧ r = s := by
  match ms, ns with
  | [], [] => exact ⟨rfl, by simpa [membersText] using h⟩
  | [], (l, w) :: ns => simp [membersText] at h
  | (k, v) :: ms, [] => simp [membersText] at h
  | (k, v) :: ms, (l, w) :: ns =>
    simp only [membersText, List.cons_append, List.append_assoc, List.cons.injEq,
      true_and] at h
    obtain ⟨rfl, hrest⟩ := quote_inj he h
    rw [List.cons.injEq] at hrest
    obtain ⟨rfl, htail⟩ := Json.text_inj he v w (delimited_membersText ms r)
      (delimited_membersText ns s) hrest.2
    obtain ⟨rfl, hrs⟩ := membersText_inj he ms ns htail
    exact ⟨rfl, hrs⟩

end

/-- The text of a whole document determines it. -/
theorem Json.eq_of_text (he : Escaping escape) {j k : Json} (h : j.text escape = k.text escape) : j = k :=
  (Json.text_inj he j k (r := []) (s := []) (by simp [Delimited]) (by simp [Delimited])
    (by rw [h])).1

end Documents

end Python
