import OpsCopilot.Lib.PyJsonInjective
import OpsCopilot.Lib.PyLines

/-!
# Reading JSON

`json.loads` in two passes over the text: one finds the tokens, the other puts them together on a
stack of open arrays and objects. What a number or another bare word denotes is a parameter. White
space around and between the tokens is of no consequence, and a newline in a string is an error.
-/

namespace Python

/-! ### Tokens -/

inductive JsonToken where
  | punctuation (c : Char)
  | word (cs : List Char)
  /-- What stands between the quotes. -/
  | quoted (cs : List Char)
deriving DecidableEq

/-- Where the reading of a token stands. -/
inductive LexMode where
  | between
  | word (cs : List Char)
  | quoted (cs : List Char)
  | escaped (cs : List Char)
deriving DecidableEq

/-- The tokens so far, and the one that is being read. -/
structure LexState where
  tokens : List JsonToken
  mode : LexMode
deriving DecidableEq

def isJsonSpace (c : Char) : Bool := c == ' ' || c == '\t' || c == '\n' || c == '\r'

def isPunctuation (c : Char) : Bool :=
  c == '[' || c == ']' || c == '\x7b' || c == '\x7d' || c == ',' || c == ':'

/-- The characters that may follow a backslash. -/
def isEscapeChar (c : Char) : Bool :=
  c == '"' || c == '\\' || c == '/' || c == 'b' || c == 'f' || c == 'n' || c == 'r' || c == 't' ||
    c == 'u'

/-- A character that follows these tokens. -/
def openToken (tokens : List JsonToken) (c : Char) : Option LexState :=
  if isJsonSpace c then some ⟨tokens, .between⟩
  else if isPunctuation c then some ⟨tokens ++ [.punctuation c], .between⟩
  else if atomChar c then some ⟨tokens, .word [c]⟩
  else if c = '"' then some ⟨tokens, .quoted []⟩
  else none

def lexStep (s : LexState) (c : Char) : Option LexState :=
  match s.mode with
  | .between => openToken s.tokens c
  | .word cs =>
    if atomChar c then some ⟨s.tokens, .word (cs ++ [c])⟩
    else openToken (s.tokens ++ [.word cs]) c
  | .quoted cs =>
    if c = '"' then some ⟨s.tokens ++ [.quoted cs], .between⟩
    else if c = '\\' then some ⟨s.tokens, .escaped cs⟩
    -- Control characters are refused in strict mode.
    else if c.toNat < 32 then none
    else some ⟨s.tokens, .quoted (cs ++ [c])⟩
  | .escaped cs =>
    if isEscapeChar c then some ⟨s.tokens, .quoted (cs ++ ['\\', c])⟩ else none

/-- The tokens, where the text ends here. -/
def LexState.finish (s : LexState) : Option (List JsonToken) :=
  match s.mode with
  | .between => some s.tokens
  | .word cs => some (s.tokens ++ [.word cs])
  | .quoted _ | .escaped _ => none

def lexJson (cs : List Char) : Option (List JsonToken) :=
  (cs.foldlM lexStep ⟨[], .between⟩).bind LexState.finish

/-! ### Strings -/

def hexDigit (c : Char) : Option ℕ :=
  if '0' ≤ c ∧ c ≤ '9' then some (c.toNat - 48)
  else if 'a' ≤ c ∧ c ≤ 'f' then some (c.toNat - 87)
  else if 'A' ≤ c ∧ c ≤ 'F' then some (c.toNat - 55)
  else none

def escapedChar (c : Char) : Option ℕ :=
  if c = '"' ∨ c = '\\' ∨ c = '/' then some c.toNat
  else if c = 'b' then some 8
  else if c = 'f' then some 12
  else if c = 'n' then some 10
  else if c = 'r' then some 13
  else if c = 't' then some 9
  else none

/-- The code points between the quotes, where a surrogate pair is still two of them. -/
def unquoteUnits : List Char → Option (List ℕ)
  | [] => some []
  | '\\' :: 'u' :: a :: b :: c :: d :: cs => do
    let units ← unquoteUnits cs
    let a ← hexDigit a
    let b ← hexDigit b
    let c ← hexDigit c
    let d ← hexDigit d
    return (4096 * a + 256 * b + 16 * c + d) :: units
  | '\\' :: c :: cs => do
    let units ← unquoteUnits cs
    let unit ← escapedChar c
    return unit :: units
  | c :: cs => (unquoteUnits cs).map (c.toNat :: ·)

def joinSurrogates : List ℕ → List ℕ
  | [] => []
  | h :: cs =>
    match joinSurrogates cs with
    | [] => [h]
    | l :: rest =>
      if 0xd800 ≤ h ∧ h < 0xdc00 ∧ 0xdc00 ≤ l ∧ l < 0xe000 then
        (0x10000 + 1024 * (h - 0xd800) + (l - 0xdc00)) :: rest
      else h :: l :: rest

/-- The code points of a string token. -/
def unquote (cs : List Char) : Option (List ℕ) := (unquoteUnits cs).map joinSurrogates

/-! ### Values -/

/-- A JSON value with numbers in `ν`; the members of an object are in the order they are written,
and strings are lists of code points. -/
inductive JsonValue (ν : Type) where
  | null
  | bool (b : Bool)
  | number (n : ν)
  | str (s : List ℕ)
  | array (xs : List (JsonValue ν))
  | object (ms : List (List ℕ × JsonValue ν))

section Read

variable {ν : Type}

/-- An array or object that has been opened. -/
inductive JsonFrame (ν : Type) where
  | array (xs : List (JsonValue ν))
  | object (ms : List (List ℕ × JsonValue ν))
  /-- An object whose member of this name has no value yet. -/
  | member (ms : List (List ℕ × JsonValue ν)) (name : List ℕ)

/-- What may come next: a value, the end of an array instead, a name, the end of an object instead,
a colon, or what follows a value inside a frame. -/
inductive JsonPhase where
  | value
  | firstValue
  | name
  | firstName
  | colon
  | rest

inductive ReadState (ν : Type) where
  | reading (stack : List (JsonFrame ν)) (phase : JsonPhase)
  | done (v : JsonValue ν)

/-- A value is complete. -/
def completeValue (v : JsonValue ν) : List (JsonFrame ν) → Option (ReadState ν)
  | [] => some (.done v)
  | .array xs :: stack => some (.reading (.array (xs ++ [v]) :: stack) .rest)
  | .member ms name :: stack => some (.reading (.object (ms ++ [(name, v)]) :: stack) .rest)
  | .object _ :: _ => none

variable (number : List Char → Option ν)

/-- A number, a literal or another word that `number` knows. -/
def readWord (cs : List Char) : Option (JsonValue ν) :=
  if cs = "null".toList then some .null
  else if cs = "true".toList then some (.bool true)
  else if cs = "false".toList then some (.bool false)
  else (number cs).map .number

/-- A token where a value must stand. -/
def startValue (stack : List (JsonFrame ν)) : JsonToken → Option (ReadState ν)
  | .word cs => (readWord number cs).bind (completeValue · stack)
  | .quoted cs => (unquote cs).bind (fun s => completeValue (.str s) stack)
  | .punctuation c =>
    if c = '[' then some (.reading (.array [] :: stack) .firstValue)
    else if c = '\x7b' then some (.reading (.object [] :: stack) .firstName)
    else none

def startName : List (JsonFrame ν) → JsonToken → Option (ReadState ν)
  | .object ms :: stack, .quoted cs =>
    (unquote cs).map (fun name => .reading (.member ms name :: stack) .colon)
  | _, _ => none

/-- A token that ends the frame, or separates its values. -/
def continueFrame : List (JsonFrame ν) → JsonToken → Option (ReadState ν)
  | .array xs :: stack, .punctuation c =>
    if c = ',' then some (.reading (.array xs :: stack) .value)
    else if c = ']' then completeValue (.array xs) stack
    else none
  | .object ms :: stack, .punctuation c =>
    if c = ',' then some (.reading (.object ms :: stack) .name)
    else if c = '\x7d' then completeValue (.object ms) stack
    else none
  | _, _ => none

def readToken : ReadState ν → JsonToken → Option (ReadState ν)
  | .done _, _ => none
  | .reading stack .value, t => startValue number stack t
  | .reading stack .firstValue, t =>
    if t = .punctuation ']' then continueFrame stack t else startValue number stack t
  | .reading stack .name, t => startName stack t
  | .reading stack .firstName, t =>
    if t = .punctuation '\x7d' then continueFrame stack t else startName stack t
  | .reading stack .colon, t =>
    if t = .punctuation ':' then some (.reading stack .value) else none
  | .reading stack .rest, t => continueFrame stack t

/-- The value of a list of tokens. -/
def readTokens (tokens : List JsonToken) : Option (JsonValue ν) :=
  match tokens.foldlM (readToken number) (.reading [] .value) with
  | some (.done v) => some v
  | _ => none

/-- `json.loads`; `none` stands for a text that is no JSON. -/
def readJson (cs : List Char) : Option (JsonValue ν) := (lexJson cs).bind (readTokens number)

end Read

/-! ### White space -/

lemma toNat_of_atomChar {c : Char} (hc : atomChar c = true) : 43 ≤ c.toNat ∧ c.toNat ≤ 122 := by
  delta atomChar Char.isAlphanum Char.isAlpha Char.isUpper Char.isLower Char.isDigit at hc
  simp only [Bool.or_eq_true, Bool.and_eq_true, decide_eq_true_eq, beq_iff_eq,
    UInt32.le_iff_toNat_le] at hc
  rcases hc with ((hc | rfl) | rfl) | rfl
  · have hA : 'A'.val.toNat = 65 ∧ 'Z'.val.toNat = 90 := by decide
    have ha : 'a'.val.toNat = 97 ∧ 'z'.val.toNat = 122 := by decide
    have h0 : '0'.val.toNat = 48 ∧ '9'.val.toNat = 57 := by decide
    rw [Char.toNat]
    omega
  all_goals decide

lemma toNat_of_space {c : Char} (hc : isSpace c = true) : c.toNat ≤ 32 ∨ 133 ≤ c.toNat := by
  simp only [isSpace, Bool.or_eq_true, Bool.and_eq_true, decide_eq_true_eq, beq_iff_eq] at hc
  omega

lemma atomChar_of_space {c : Char} (hc : isSpace c = true) : atomChar c = false := by
  rw [Bool.eq_false_iff]
  intro hatom
  have hword := toNat_of_atomChar hatom
  have hspace := toNat_of_space hc
  omega

lemma isPunctuation_of_space {c : Char} (hc : isSpace c = true) : isPunctuation c = false := by
  rw [Bool.eq_false_iff]
  intro hp
  have hspace := toNat_of_space hc
  simp only [isPunctuation, Bool.or_eq_true, beq_iff_eq] at hp
  rcases hp with ((((rfl | rfl) | rfl) | rfl) | rfl) | rfl <;> revert hspace <;> decide

lemma isEscapeChar_of_space {c : Char} (hc : isSpace c = true) : isEscapeChar c = false := by
  rw [Bool.eq_false_iff]
  intro he
  have hspace := toNat_of_space hc
  simp only [isEscapeChar, Bool.or_eq_true, beq_iff_eq] at he
  rcases he with (((((((rfl | rfl) | rfl) | rfl) | rfl) | rfl) | rfl) | rfl) | rfl <;>
    revert hspace <;> decide

lemma ne_quote_of_space {c : Char} (hc : isSpace c = true) : c ≠ '"' := by
  rintro rfl
  exact absurd (toNat_of_space hc) (by decide)

/-- White space of other kinds than JSON's starts no token. -/
lemma openToken_space {tokens : List JsonToken} {c : Char} {s : LexState}
    (hc : isSpace c = true) (h : openToken tokens c = some s) :
    isJsonSpace c = true ∧ s = ⟨tokens, .between⟩ := by
  rw [openToken, isPunctuation_of_space hc, atomChar_of_space hc,
    if_neg Bool.false_ne_true, if_neg Bool.false_ne_true, if_neg (ne_quote_of_space hc)] at h
  split_ifs at h with hspace
  exact ⟨hspace, (Option.some.inj h).symm⟩

/-- White space makes no difference to the tokens of a text that ends after it. -/
lemma lexStep_space {s s' : LexState} {c : Char} (hc : isSpace c = true)
    (h : lexStep s c = some s') : s'.finish = s.finish := by
  obtain ⟨tokens, mode⟩ := s
  cases mode with
  | between => rw [(openToken_space hc h).2]
  | word cs =>
    rw [lexStep] at h
    dsimp only at h
    rw [atomChar_of_space hc, if_neg Bool.false_ne_true] at h
    rw [(openToken_space hc h).2]
    rfl
  | quoted cs =>
    rw [lexStep] at h
    dsimp only at h
    rw [if_neg (ne_quote_of_space hc)] at h
    split_ifs at h
    · rw [← Option.some.inj h]
      rfl
    · rw [← Option.some.inj h]
      rfl
  | escaped cs =>
    rw [lexStep] at h
    dsimp only at h
    rw [isEscapeChar_of_space hc, if_neg Bool.false_ne_true] at h
    cases h

lemma foldlM_space {w : List Char} (hw : ∀ c ∈ w, isSpace c = true) {s s' : LexState}
    (h : w.foldlM lexStep s = some s') : s'.finish = s.finish := by
  induction w generalizing s with
  | nil => rw [← Option.some.inj h]
  | cons c w ih =>
    rw [List.foldlM_cons] at h
    obtain ⟨s₁, hs₁, h⟩ := Option.bind_eq_some_iff.mp h
    rw [ih (fun d hd => hw d (List.mem_cons_of_mem c hd)) h,
      lexStep_space (hw c List.mem_cons_self) hs₁]

lemma foldlM_dropWhile {cs : List Char} {tokens : List JsonToken} {s : LexState}
    (h : cs.foldlM lexStep ⟨tokens, .between⟩ = some s) :
    (cs.dropWhile isSpace).foldlM lexStep ⟨tokens, .between⟩ = some s := by
  induction cs with
  | nil => exact h
  | cons c cs ih =>
    rw [List.dropWhile_cons]
    split_ifs with hc
    · rw [List.foldlM_cons] at h
      obtain ⟨s₁, hs₁, h⟩ := Option.bind_eq_some_iff.mp h
      rw [(openToken_space hc hs₁).2] at h
      exact ih h
    · exact h

/-- Stripping a text that has tokens leaves them. -/
theorem lexJson_stripChars {cs : List Char} {tokens : List JsonToken}
    (h : lexJson cs = some tokens) : lexJson (stripChars cs) = some tokens := by
  obtain ⟨s, hs, hfinish⟩ := Option.bind_eq_some_iff.mp h
  obtain ⟨w, -, hw, hdrop, -⟩ := stripChars_split cs
  have hrun := foldlM_dropWhile hs
  rw [hdrop, List.foldlM_append] at hrun
  obtain ⟨s₁, hs₁, hrest⟩ := Option.bind_eq_some_iff.mp hrun
  rw [lexJson, hs₁, Option.bind_some, ← foldlM_space hw hrest, hfinish]

/-! ### Line breaks -/

/-- The line breaks that may stand inside a string. -/
def isSeparator (c : Char) : Bool := c.toNat == 0x85 || c.toNat == 0x2028 || c.toNat == 0x2029

lemma isSpace_of_isLineBreak {c : Char} (hc : isLineBreak c = true) : isSpace c = true := by
  simp only [isLineBreak, isSpace, Bool.or_eq_true, Bool.and_eq_true, decide_eq_true_eq,
    beq_iff_eq] at hc ⊢
  omega

lemma isLineBreak_of_isSeparator {c : Char} (hc : isSeparator c = true) :
    isLineBreak c = true := by
  simp only [isLineBreak, isSeparator, Bool.or_eq_true, beq_iff_eq] at hc ⊢
  tauto

lemma isJsonSpace_of_isSeparator {c : Char} (hc : isSeparator c = true) :
    isJsonSpace c = false := by
  rw [Bool.eq_false_iff]
  intro hjson
  simp only [isJsonSpace, Bool.or_eq_true, beq_iff_eq] at hjson
  rcases hjson with ((rfl | rfl) | rfl) | rfl <;> cases hc

/-- The other line breaks are control characters. -/
lemma toNat_of_isLineBreak {c : Char} (hc : isLineBreak c = true) (hs : isSeparator c = false) :
    c.toNat < 32 := by
  simp only [isLineBreak, isSeparator, Bool.or_eq_true, Bool.and_eq_true, decide_eq_true_eq,
    beq_iff_eq, Bool.or_eq_false_iff, beq_eq_false_iff_ne] at hc hs
  omega

/-- A line break that is read as JSON is a separator in a string, or white space. -/
lemma lexStep_break {s s' : LexState} {c : Char} (hc : isLineBreak c = true)
    (h : lexStep s c = some s') :
    (∃ cs, s.mode = .quoted cs ∧ isSeparator c = true) ∨
      isJsonSpace c = true ∧ s'.mode = .between ∧ lexStep s '\n' = some s' := by
  have hspace := isSpace_of_isLineBreak hc
  obtain ⟨tokens, mode⟩ := s
  cases mode with
  | between =>
    obtain ⟨hjson, rfl⟩ := openToken_space hspace h
    exact .inr ⟨hjson, rfl, rfl⟩
  | word cs =>
    rw [lexStep] at h
    dsimp only at h
    rw [atomChar_of_space hspace, if_neg Bool.false_ne_true] at h
    obtain ⟨hjson, rfl⟩ := openToken_space hspace h
    exact .inr ⟨hjson, rfl, rfl⟩
  | quoted cs =>
    rw [lexStep] at h
    dsimp only at h
    rw [if_neg (ne_quote_of_space hspace)] at h
    split_ifs at h with hslash hcontrol
    · subst hslash
      exact absurd hc (by decide)
    · refine .inl ⟨cs, rfl, ?_⟩
      by_contra hs
      exact hcontrol (toNat_of_isLineBreak hc (Bool.eq_false_iff.mpr hs))
  | escaped cs =>
    rw [lexStep] at h
    dsimp only at h
    rw [isEscapeChar_of_space hspace, if_neg Bool.false_ne_true] at h
    cases h

lemma lexStep_quoted_newline {s : LexState} {cs : List Char} (hs : s.mode = .quoted cs) :
    lexStep s '\n' = none := by
  rw [lexStep, hs]
  rfl

/-- Without separators in it, a text keeps its tokens with a newline for each break. -/
theorem foldlM_withNewlines {cs : List Char} (hcs : ∀ c ∈ cs, isSeparator c = false)
    {s s' : LexState} (afterCr : Bool) (hmode : afterCr = true → s.mode = .between)
    (h : cs.foldlM lexStep s = some s') :
    (withNewlines afterCr cs).foldlM lexStep s = some s' := by
  induction cs generalizing s afterCr with
  | nil => exact h
  | cons c cs ih =>
    have htail : ∀ d ∈ cs, isSeparator d = false := fun d hd => hcs d (List.mem_cons_of_mem c hd)
    rw [List.foldlM_cons] at h
    obtain ⟨s₁, hs₁, h⟩ := Option.bind_eq_some_iff.mp h
    rw [withNewlines]
    split_ifs with hsame hbreak
    · -- The second half of a break is white space between two tokens.
      rw [Bool.and_eq_true, beq_iff_eq] at hsame
      obtain ⟨tokens, mode⟩ := s
      obtain rfl : mode = .between := hmode hsame.1
      rw [hsame.2] at hs₁
      cases hs₁
      exact ih htail false (fun h => absurd h Bool.false_ne_true) h
    · rcases lexStep_break hbreak hs₁ with ⟨_, -, hsep⟩ | ⟨-, hbetween, hnewline⟩
      · rw [hcs c List.mem_cons_self] at hsep
        cases hsep
      · rw [List.foldlM_cons, hnewline]
        exact ih htail _ (fun _ => hbetween) h
    · rw [List.foldlM_cons, hs₁]
      exact ih htail false (fun h => absurd h Bool.false_ne_true) h

/-- A text in which a newline follows what leaves a string open has no tokens, stripped or not. -/
lemma lexJson_stripChars_open {p q cs : List Char} {s : LexState}
    (hp : p.foldlM lexStep ⟨[], .between⟩ = some s) (hs : s.mode = .quoted cs) :
    lexJson (stripChars (p ++ '\n' :: q)) = none := by
  have hopen : s.finish = none := by rw [LexState.finish, hs]
  have hp' := foldlM_dropWhile hp
  have hne : p.dropWhile isSpace ≠ [] := by
    intro hnil
    rw [hnil] at hp'
    rw [← Option.some.inj hp'] at hs
    cases hs
  obtain ⟨w, -, hw, hsplit, -⟩ := stripChars_split (p ++ '\n' :: q)
  rw [List.dropWhile_append, if_neg (by simpa using hne)] at hsplit
  generalize stripChars (p ++ '\n' :: q) = kept at hsplit
  cases hlex : lexJson kept with
  | none => rfl
  | some tokens =>
    obtain ⟨s₁, hs₁, hfinish⟩ := Option.bind_eq_some_iff.mp hlex
    rcases List.append_eq_append_iff.mp hsplit with ⟨a, ha, hrest⟩ | ⟨a, ha, hrest⟩
    · rw [ha, List.foldlM_append, hp'] at hs₁
      cases a with
      | nil =>
        obtain rfl : s = s₁ := Option.some.inj hs₁
        rw [hopen] at hfinish
        cases hfinish
      | cons c a =>
        rw [List.cons_append] at hrest
        rw [← (List.cons.inj hrest).1] at hs₁
        change ('\n' :: a).foldlM lexStep s = some s₁ at hs₁
        rw [List.foldlM_cons, lexStep_quoted_newline hs] at hs₁
        cases hs₁
    · rw [ha, List.foldlM_append, hs₁] at hp'
      have hspaces : ∀ c ∈ a, isSpace c = true :=
        fun c hc => hw c (hrest ▸ List.mem_append_left _ hc)
      rw [foldlM_space hspaces hp', hfinish] at hopen
      cases hopen

/-- A text with tokens keeps them when its line breaks become newlines, unless one of them stands
in a string: then nothing is left of them. -/
theorem lexJson_withNewlines {j : List Char} {tokens : List JsonToken}
    (hj : lexJson j = some tokens) :
    lexJson (stripChars (withNewlines false (j ++ ['\n']))) =
      if j.all (fun c => !isSeparator c) then some tokens else none := by
  obtain ⟨s, hs, hfinish⟩ := Option.bind_eq_some_iff.mp hj
  split_ifs with hall
  · refine lexJson_stripChars ?_
    have hplain : ∀ c ∈ j ++ ['\n'], isSeparator c = false := by
      intro c hc
      rcases List.mem_append.mp hc with hc | hc
      · simpa using List.all_eq_true.mp hall c hc
      · rw [List.mem_singleton.mp hc]
        rfl
    have hend : ∃ s', lexStep s '\n' = some s' := by
      obtain ⟨before, mode⟩ := s
      cases mode with
      | between | word _ => exact ⟨_, rfl⟩
      | quoted _ | escaped _ => cases hfinish
    obtain ⟨s', hs'⟩ := hend
    have hrun : (j ++ ['\n']).foldlM lexStep ⟨[], .between⟩ = some s' := by
      rw [List.foldlM_append, hs]
      change ['\n'].foldlM lexStep s = some s'
      rw [List.foldlM_cons, hs']
      rfl
    rw [lexJson, foldlM_withNewlines hplain false (fun h => absurd h Bool.false_ne_true) hrun,
      Option.bind_some, lexStep_space (by decide) hs', hfinish]
  · rw [List.all_eq_true, not_forall] at hall
    obtain ⟨p, u, q, rfl, hp, hu⟩ : ∃ p u q, j = p ++ u :: q ∧
        (∀ c ∈ p, isSeparator c = false) ∧ isSeparator u = true := by
      cases hfind : j.find? isSeparator with
      | none =>
        obtain ⟨c, hc⟩ := hall
        rw [Classical.not_imp] at hc
        exact absurd (List.find?_eq_none.mp hfind c hc.1) (by simpa using hc.2)
      | some u =>
        obtain ⟨hu, p, q, hsplit, hp⟩ := List.find?_eq_some_iff_append.mp hfind
        exact ⟨p, u, q, hsplit, fun c hc => by simpa using hp c hc, hu⟩
    rw [List.foldlM_append] at hs
    obtain ⟨s₁, hs₁, hrest⟩ := Option.bind_eq_some_iff.mp hs
    rw [List.foldlM_cons] at hrest
    obtain ⟨s₂, hs₂, -⟩ := Option.bind_eq_some_iff.mp hrest
    have hbreak := isLineBreak_of_isSeparator hu
    rw [List.append_assoc, List.cons_append,
      withNewlines_append hbreak (by rintro rfl; cases hu) (by rintro rfl; cases hu)]
    have hkept := foldlM_withNewlines hp false
      (fun h => absurd h Bool.false_ne_true) hs₁
    rcases lexStep_break hbreak hs₂ with ⟨cs, hcs, -⟩ | ⟨hjson, -⟩
    · exact lexJson_stripChars_open hkept hcs
    · exact absurd hjson (Bool.eq_false_iff.mp (isJsonSpace_of_isSeparator hu))

end Python
