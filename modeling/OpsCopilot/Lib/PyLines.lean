import OpsCopilot.Lib.PyString

/-!
# Lines of Python strings

`str.splitlines()` breaks at many characters besides the newline. Joining the lines with newlines
again replaces each of these breaks by a newline.
-/

namespace Python

/-- The characters at which `str.splitlines()` breaks. -/
def isLineBreak (c : Char) : Bool :=
  (10 ≤ c.toNat && c.toNat ≤ 13) || (28 ≤ c.toNat && c.toNat ≤ 30) || c.toNat == 0x85 ||
    c.toNat == 0x2028 || c.toNat == 0x2029

/-- The lines of a text of which `line` has been read already, just after a `"\r"` or not: a `"\n"`
there belongs to the same break. -/
def linesFrom (line : List Char) (afterCr : Bool) : List Char → List (List Char)
  | [] => if line = [] then [] else [line]
  | c :: cs =>
    if afterCr && c == '\n' then linesFrom line false cs
    else if isLineBreak c then line :: linesFrom [] (c == '\r') cs
    else linesFrom (line ++ [c]) false cs

/-- `str.splitlines()`. -/
def splitlines (cs : List Char) : List (List Char) := linesFrom [] false cs

/-- `"\n".join(lines)`. -/
def joinLines (lines : List (List Char)) : List Char := List.intercalate ['\n'] lines

/-- The text with a newline for each break. -/
def withNewlines (afterCr : Bool) : List Char → List Char
  | [] => []
  | c :: cs =>
    if afterCr && c == '\n' then withNewlines false cs
    else if isLineBreak c then '\n' :: withNewlines (c == '\r') cs
    else c :: withNewlines false cs

/-! ### Lines -/

lemma linesFrom_unbroken (line : List Char) {last : List Char}
    (hlast : ∀ c ∈ last, isLineBreak c = false) (hne : line ++ last ≠ []) :
    linesFrom line false last = [line ++ last] := by
  induction last generalizing line with
  | nil =>
    rw [List.append_nil] at hne ⊢
    rw [linesFrom, if_neg hne]
  | cons c cs ih =>
    have hc := hlast c List.mem_cons_self
    rw [linesFrom, Bool.false_and, if_neg Bool.false_ne_true, hc, if_neg Bool.false_ne_true,
      ih _ (fun d hd => hlast d (List.mem_cons_of_mem c hd)) (by simp), List.append_assoc,
      List.singleton_append]

lemma linesFrom_first {line first : List Char} (rest : List Char)
    (hfirst : ∀ c ∈ first, isLineBreak c = false) :
    linesFrom line false (first ++ '\n' :: rest) = (line ++ first) :: linesFrom [] false rest := by
  induction first generalizing line with
  | nil =>
    rw [List.nil_append, List.append_nil, linesFrom, Bool.false_and, if_neg Bool.false_ne_true,
      if_pos (by decide)]
    rfl
  | cons c cs ih =>
    have hc := hfirst c List.mem_cons_self
    rw [List.cons_append, linesFrom, Bool.false_and, if_neg Bool.false_ne_true, hc,
      if_neg Bool.false_ne_true, ih (fun d hd => hfirst d (List.mem_cons_of_mem c hd)),
      List.append_assoc, List.singleton_append]

/-- The lines before the last one are the text with a newline for each break. -/
lemma linesFrom_last {last : List Char} (hlast : ∀ c ∈ last, isLineBreak c = false)
    (hne : last ≠ []) (cs line : List Char) (afterCr : Bool)
    (hline : afterCr = true → line = []) :
    ∃ lines, linesFrom line afterCr (cs ++ '\n' :: last) = lines ++ [last] ∧
      lines.flatMap (· ++ ['\n']) = line ++ withNewlines afterCr (cs ++ ['\n']) := by
  induction cs generalizing line afterCr with
  | nil =>
    have hlf : isLineBreak '\n' = true := by decide
    have hcr : ('\n' == '\r') = false := by decide
    have hrest := linesFrom_unbroken [] hlast (by rwa [List.nil_append])
    rw [List.nil_append, List.nil_append, linesFrom, withNewlines]
    cases afterCr with
    | true =>
      simp only [hline rfl, Bool.true_and, BEq.rfl, reduceIte, hrest]
      exact ⟨[], by simp, by simp [withNewlines]⟩
    | false =>
      simp only [Bool.false_and, reduceIte, hlf, hcr, hrest]
      exact ⟨[line], by simp, by simp [withNewlines]⟩
  | cons c cs ih =>
    rw [List.cons_append, List.cons_append, linesFrom, withNewlines]
    split_ifs with hsame hbreak
    · exact ih line false (fun h => absurd h Bool.false_ne_true)
    · obtain ⟨lines, hlines, hflat⟩ := ih [] (c == '\r') (fun _ => rfl)
      refine ⟨line :: lines, by rw [hlines, List.cons_append], ?_⟩
      rw [List.flatMap_cons, hflat, List.append_assoc, List.nil_append, List.singleton_append]
    · obtain ⟨lines, hlines, hflat⟩ := ih (line ++ [c]) false
        (fun h => absurd h Bool.false_ne_true)
      exact ⟨lines, hlines, by rw [hflat, List.append_assoc, List.singleton_append]⟩

lemma joinLines_newline {lines : List (List Char)} (hne : lines ≠ []) :
    joinLines lines ++ ['\n'] = lines.flatMap (· ++ ['\n']) := by
  induction lines with
  | nil => exact absurd rfl hne
  | cons line lines ih =>
    cases lines with
    | nil => simp [joinLines]
    | cons line' lines =>
      rw [List.flatMap_cons, ← ih (List.cons_ne_nil _ _), joinLines, joinLines,
        List.intercalate_cons_cons, List.append_assoc, List.append_assoc]

/-- A break that is no newline keeps what stands before it apart from what follows. -/
lemma withNewlines_append {u : Char} (hbreak : isLineBreak u = true) (hlf : u ≠ '\n')
    (hcr : u ≠ '\r') (p q : List Char) {afterCr : Bool} :
    withNewlines afterCr (p ++ u :: q) =
      withNewlines afterCr p ++ '\n' :: withNewlines false q := by
  induction p generalizing afterCr with
  | nil =>
    have hcr' : (u == '\r') = false := beq_false_of_ne hcr
    have hlf' : (u == '\n') = false := beq_false_of_ne hlf
    rw [List.nil_append, withNewlines.eq_2, hlf', Bool.and_false, if_neg Bool.false_ne_true,
      if_pos hbreak, hcr', withNewlines, List.nil_append]
  | cons c p ih =>
    rw [List.cons_append, withNewlines, withNewlines]
    split_ifs
    · exact ih
    · rw [ih, List.cons_append]
    · rw [ih, List.cons_append]

/-! ### Stripping -/

/-- Stripping takes white space off both ends. -/
lemma stripChars_split (cs : List Char) : ∃ w x, (∀ c ∈ w, isSpace c = true) ∧
    cs.dropWhile isSpace = stripChars cs ++ w ∧ cs = x ++ cs.dropWhile isSpace := by
  refine ⟨((cs.dropWhile isSpace).reverse.takeWhile isSpace).reverse, cs.takeWhile isSpace,
    ?_, ?_, List.takeWhile_append_dropWhile.symm⟩
  · intro c hc
    exact List.mem_takeWhile_imp (List.mem_reverse.mp hc)
  · rw [stripChars, ← List.reverse_append, List.takeWhile_append_dropWhile, List.reverse_reverse]

lemma dropWhile_eq_self {c : Char} {cs : List Char} (hc : isSpace c = false) :
    (c :: cs).dropWhile isSpace = c :: cs := by
  rw [List.dropWhile_cons, hc, if_neg Bool.false_ne_true]

lemma stripChars_eq_self {c d : Char} {cs : List Char} (hc : isSpace c = false)
    (hd : isSpace d = false) : stripChars (c :: (cs ++ [d])) = c :: (cs ++ [d]) := by
  rw [stripChars, dropWhile_eq_self hc, ← List.cons_append, List.reverse_append,
    List.reverse_singleton, List.singleton_append, dropWhile_eq_self hd, List.reverse_cons,
    List.reverse_reverse]

lemma dropWhile_append_space {p : Char → Bool} {c : Char} (hc : p c = true) (cs : List Char) :
    ((cs ++ [c]).dropWhile p) = [] ∧ cs.dropWhile p = [] ∨
      (cs ++ [c]).dropWhile p = cs.dropWhile p ++ [c] := by
  induction cs with
  | nil => exact .inl ⟨by simp [hc], rfl⟩
  | cons d cs ih =>
    rw [List.cons_append, List.dropWhile_cons, List.dropWhile_cons]
    split_ifs
    · exact ih
    · exact .inr rfl

/-- White space at the end is stripped. -/
lemma stripChars_append_space {c : Char} (hc : isSpace c = true) (cs : List Char) :
    stripChars (cs ++ [c]) = stripChars cs := by
  rw [stripChars, stripChars]
  rcases dropWhile_append_space hc cs with ⟨h, h'⟩ | h
  · rw [h, h']
  · rw [h, List.reverse_append, List.reverse_singleton, List.singleton_append, List.dropWhile_cons,
      if_pos hc]

end Python
