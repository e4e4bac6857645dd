import OpsCopilot.Lib.PyFloat

/-!
# Texts to sort by and equality by value

`json.dumps` in its default layout, `repr` of scalars and tuples, and `==`.
-/

namespace Python

/-! ### Documents with separators `, ` and `: ` -/

section Writer

variable (escape : Char → List Char)

mutual

def Json.spacedText : Json → List Char
  | .atom a => a.text
  | .str s => quote escape s
  | .arr [] => ['[', ']']
  | .arr (x :: xs) => '[' :: (x.spacedText ++ spacedItems xs)
  | .obj [] => ['{', '}']
  | .obj ((k, v) :: ms) =>
    '{' :: (quote escape k ++ ':' :: ' ' :: (v.spacedText ++ spacedMembers ms))

def spacedItems : List Json → List Char
  | [] => [']']
  | x :: xs => ',' :: ' ' :: (x.spacedText ++ spacedItems xs)

def spacedMembers : List (String × Json) → List Char
  | [] => ['}']
  | (k, v) :: ms =>
    ',' :: ' ' :: (quote escape k ++ ':' :: ' ' :: (v.spacedText ++ spacedMembers ms))

end

end Writer

/-! ### `repr` -/

/-- The lower-case hexadecimal digits of `n`, `width` of them. -/
def hexDigits (width n : ℕ) : List Char :=
  let ds := Nat.toDigits 16 n
  List.replicate (width - ds.length) '0' ++ ds

section Repr

variable (printable : Char → Bool)

/-- One character in the `repr` of a string whose quotation mark is `mark`; `printable` is
`str.isprintable()` beyond ASCII. -/
def reprChar (mark c : Char) : List Char :=
  if c = mark ∨ c = '\\' then ['\\', c]
  else if c = '\n' then ['\\', 'n']
  else if c = '\r' then ['\\', 'r']
  else if c = '\t' then ['\\', 't']
  else if 0x20 ≤ c.toNat ∧ c.toNat < 0x7f then [c]
  else if 0x7f < c.toNat ∧ printable c then [c]
  else if c.toNat < 0x100 then '\\' :: 'x' :: hexDigits 2 c.toNat
  else if c.toNat < 0x10000 then '\\' :: 'u' :: hexDigits 4 c.toNat
  else '\\' :: 'U' :: hexDigits 8 c.toNat

def reprStr (s : String) : List Char :=
  let mark := if '\x27' ∈ s.toList ∧ '"' ∉ s.toList then '"' else '\x27'
  mark :: (s.toList.flatMap (reprChar printable mark) ++ [mark])

mutual

/-- `repr` of a value whose lists stand for tuples. -/
def tupleText : Value → List Char
  | .none => "None".toList
  | .bool b => if b then "True".toList else "False".toList
  | .int n => intText n
  | .float .nan => "nan".toList
  | .float (.inf neg) => if neg then "-inf".toList else "inf".toList
  | .float (.finite x) => x.text
  | .decimal d => "Decimal('".toList ++ d.text ++ "')".toList
  | .str s => reprStr printable s
  | .list [] => ['(', ')']
  | .list [x] => '(' :: (tupleText x ++ [',', ')'])
  | .list (x :: y :: xs) => '(' :: (tupleText x ++ tupleItems (y :: xs))
  -- Nothing that is sorted by its text contains a dictionary.
  | .dict _ => []

def tupleItems : List Value → List Char
  | [] => [')']
  | x :: xs => ',' :: ' ' :: (tupleText x ++ tupleItems xs)

end

end Repr

/-! ### Equality -/

/-- The number that a value counts as: an infinity by its sign, or a rational. A float counts as its
exact binary value, not as its literal. -/
def Value.magnitude? : Value → Option (Bool ⊕ ℚ)
  | .bool b => some (.inr (if b then 1 else 0))
  | .int n => some (.inr n)
  | .float (.finite x) => some (.inr (binary64 x.toRat))
  | .decimal (.finite neg coeff exp) => some (.inr (decimalRat neg coeff exp))
  | .float (.inf neg) | .decimal (.inf neg) => some (.inl neg)
  | _ => Option.none

mutual

/-- `v == w` for values whose lists stand for tuples. -/
def Value.pyEq : Value → Value → Bool
  | .none, .none => true
  | .str s, .str t => s = t
  | .list xs, .list ys => itemsEq xs ys
  | v, w =>
    match v.magnitude?, w.magnitude? with
    | some x, some y => x = y
    | _, _ => false

def itemsEq : List Value → List Value → Bool
  | [], [] => true
  | x :: xs, y :: ys => Value.pyEq x y && itemsEq xs ys
  | _, _ => false

end

example : String.ofList (tupleText (fun _ => false) (.list [.str "it's", .list [.int 1]])) =
    "(\"it's\", (1,))" := by
  decide +kernel

end Python
