import Mathlib.Data.List.Sort
import Mathlib.Data.String.Basic
import OpsCopilot.Lib.PyValue

/-!
# The `json` module

`json.dumps` is modelled in two halves: `prepare` turns a Python value into a JSON
document (sorting the members and turning keys into strings), and `Json.text` writes the
document in the compact layout. `loadsDumps` is what a JSON column gives back.
-/

namespace Python

/-- A JSON leaf that is not a string. -/
inductive Atom where
  | null
  | bool (b : Bool)
  | int (n : ℤ)
  | float (x : PyFloat)
deriving DecidableEq

/-- A JSON document: the members of an object are in the order they are written. -/
inductive Json where
  | atom (a : Atom)
  | str (s : String)
  | arr (xs : List Json)
  | obj (ms : List (String × Json))

/-! ### Text of numbers -/

/-- `int.__repr__`. -/
def intText (n : ℤ) : List Char :=
  if n < 0 then '-' :: Nat.toDigits 10 n.natAbs else Nat.toDigits 10 n.natAbs

/-- The exponent of `float.__repr__`: a sign and at least two digits. -/
def exponentText (e : ℤ) : List Char :=
  (if e < 0 then '-' else '+') ::
    (if e.natAbs < 10 then '0' :: Nat.toDigits 10 e.natAbs else Nat.toDigits 10 e.natAbs)

/-- The digits of `float.__repr__` for digits `ds` whose decimal point stands after the
first `point` of them. -/
def digitsText (ds : List Char) (point : ℤ) : List Char :=
  if -4 < point ∧ point ≤ 16 then
    if point ≤ 0 then '0' :: '.' :: (List.replicate (-point).toNat '0' ++ ds)
    else if point < ds.length then ds.take point.toNat ++ '.' :: ds.drop point.toNat
    else ds ++ List.replicate (point - ds.length).toNat '0' ++ ['.', '0']
  else
    ds.take 1 ++ (if 1 < ds.length then '.' :: ds.drop 1 else []) ++
      'e' :: exponentText (point - 1)

/-- `float.__repr__` of a finite float. -/
def FiniteFloat.text (x : FiniteFloat) : List Char :=
  let ds := Nat.toDigits 10 x.coeff
  let body := if x.coeff = 0 then ['0', '.', '0'] else digitsText ds (ds.length + x.exp)
  if x.neg then '-' :: body else body

def Atom.text : Atom → List Char
  | .null => ['n', 'u', 'l', 'l']
  | .bool true => ['t', 'r', 'u', 'e']
  | .bool false => ['f', 'a', 'l', 's', 'e']
  | .int n => intText n
  | .float .nan => ['N', 'a', 'N']
  | .float (.inf false) => ['I', 'n', 'f', 'i', 'n', 'i', 't', 'y']
  | .float (.inf true) => ['-', 'I', 'n', 'f', 'i', 'n', 'i', 't', 'y']
  | .float (.finite x) => x.text

/-! ### Text of strings -/

def hex4 (n : ℕ) : List Char :=
  [Nat.digitChar (n / 4096 % 16), Nat.digitChar (n / 256 % 16), Nat.digitChar (n / 16 % 16),
    Nat.digitChar (n % 16)]

def unicodeEscape (n : ℕ) : List Char := '\\' :: 'u' :: hex4 n

/-- The letter of a two-character escape. -/
def shortEscape (c : Char) : Option Char :=
  if c = '"' then some '"' else if c = '\\' then some '\\' else if c = '\n' then some 'n'
  else if c = '\r' then some 'r' else if c = '\t' then some 't'
  else if c = '\x08' then some 'b' else if c = '\x0c' then some 'f' else none

/-- `ensure_ascii=False`: only quotes, backslashes and control characters are escaped. -/
def escapeUnicode (c : Char) : List Char :=
  match shortEscape c with
  | some e => ['\\', e]
  | none => if c.toNat < 0x20 then unicodeEscape c.toNat else [c]

/-- `ensure_ascii=True`: whatever is not printable ASCII becomes one `\u` escape, or two for
a character beyond the basic plane. -/
def escapeAscii (c : Char) : List Char :=
  match shortEscape c with
  | some e => ['\\', e]
  | none =>
    if 0x20 ≤ c.toNat ∧ c.toNat < 0x7f then [c]
    else if c.toNat < 0x10000 then unicodeEscape c.toNat
    else unicodeEscape (0xd800 + (c.toNat - 0x10000) / 1024) ++
      unicodeEscape (0xdc00 + (c.toNat - 0x10000) % 1024)

def quote (escape : Char → List Char) (s : String) : List Char :=
  '"' :: (s.toList.flatMap escape ++ ['"'])

/-! ### Text of documents, with separators `,` and `:` -/

section Writer

variable (escape : Char → List Char)

mutual

def Json.text : Json → List Char
  | .atom a => a.text
  | .str s => quote escape s
  | .arr [] => ['[', ']']
  | .arr (x :: xs) => '[' :: (x.text ++ itemsText xs)
  | .obj [] => ['{', '}']
  | .obj ((k, v) :: ms) => '{' :: (quote escape k ++ ':' :: (v.text ++ membersText ms))

/-- The items after the first one, up to the closing bracket. -/
def itemsText : List Json → List Char
  | [] => [']']
  | x :: xs => ',' :: (x.text ++ itemsText xs)

/-- The members after the first one, up to the closing brace. -/
def membersText : List (String × Json) → List Char
  | [] => ['}']
  | (k, v) :: ms => ',' :: (quote escape k ++ ':' :: (v.text ++ membersText ms))

end

end Writer

/-! ### From Python values to documents -/

def boolText (b : Bool) : String := if b then "true" else "false"

/-- The string a dictionary key is written as. -/
def Key.text : Key → String
  | .none => "null"
  | .bool b => boolText b
  | .int n => String.ofList (intText n)
  | .float x => String.ofList x.text
  | .str s => s

/-- The number a numeric key counts as when keys are compared. -/
def Key.number : Key → ℚ
  | .bool true => 1
  | .int n => n
  | .float x => x.toRat
  | _ => 0

def Key.isStr : Key → Bool
  | .str _ => true
  | _ => false

def Key.isNumber : Key → Bool
  | .bool _ | .int _ | .float _ => true
  | _ => false

/-- What can go wrong in the standard library. -/
inductive StdError where
  | typeError
  | valueError
  | overflowError
  | invalidOperation
  | unicodeEncodeError
deriving DecidableEq

/-- `sorted(d.items())`: strings sort among themselves, numbers among themselves, and any
other pair of keys cannot be compared. A single member is never compared. -/
def sortMembers {α : Type*} (ms : List (Key × α)) : Except StdError (List (Key × α)) :=
  if ms.length ≤ 1 then .ok ms
  else if ms.all (fun m => m.1.isStr) then
    .ok (ms.insertionSort (fun a b => a.1.text ≤ b.1.text))
  else if ms.all (fun m => m.1.isNumber) then
    .ok (ms.insertionSort (fun a b => a.1.number ≤ b.1.number))
  else .error .typeError

/-- The arguments of `json.dumps` that the document depends on. -/
structure DumpOptions where
  sortKeys : Bool
  default : PyDecimal → Except StdError Json

/-- `default=None`: a `Decimal` is not serialisable. -/
def noDefault (_ : PyDecimal) : Except StdError Json := .error .typeError

section Prepare

variable (o : DumpOptions)

def arrangeMembers (ms : List (Key × Json)) : Except StdError Json := do
  let ordered ← if o.sortKeys then sortMembers ms else .ok ms
  return .obj (ordered.map (fun m => (m.1.text, m.2)))

mutual

def prepare : Value → Except StdError Json
  | .none => .ok (.atom .null)
  | .bool b => .ok (.atom (.bool b))
  | .int n => .ok (.atom (.int n))
  | .float x => .ok (.atom (.float x))
  | .decimal d => o.default d
  | .str s => .ok (.str s)
  | .list xs => (prepareItems xs).map Json.arr
  | .dict ms => (prepareMembers ms).bind (arrangeMembers o)

def prepareItems : List Value → Except StdError (List Json)
  | [] => .ok []
  | x :: xs => (prepare x).bind (fun j => (prepareItems xs).map (fun js => j :: js))

def prepareMembers : List (Key × Value) → Except StdError (List (Key × Json))
  | [] => .ok []
  | (k, v) :: ms =>
    (prepare v).bind (fun j => (prepareMembers ms).map (fun js => (k, j) :: js))

end

end Prepare

/-! ### Back to Python values -/

/-- `d[key] = v` on an insertion-ordered dictionary. -/
def Dict.set (key : String) (v : Value) : Dict → Dict
  | [] => [(.str key, v)]
  | (k, w) :: rest => if k = .str key then (k, v) :: rest else (k, w) :: Dict.set key v rest

mutual

/-- `json.loads` of the text of a document. -/
def Json.load : Json → Value
  | .atom .null => .none
  | .atom (.bool b) => .bool b
  | .atom (.int n) => .int n
  | .atom (.float x) => .float x
  | .str s => .str s
  | .arr xs => .list (loadItems xs)
  | .obj ms => .dict (loadMembers [] ms)

def loadItems : List Json → List Value
  | [] => []
  | x :: xs => x.load :: loadItems xs

/-- A repeated member name overwrites the earlier one. -/
def loadMembers (d : Dict) : List (String × Json) → Dict
  | [] => d
  | (k, v) :: ms => loadMembers (Dict.set k v.load d) ms

end

/-- What a JSON column returns for a value written to it. -/
def loadsDumps (v : Value) : Except StdError Value :=
  (prepare ⟨false, noDefault⟩ v).map Json.load

example : (Json.obj [("a", .atom (.float (.finite (.ofDigits false 125 (-1))))),
    ("b", .arr [.atom .null, .str "x\n"])]).text escapeAscii =
    "\x7b\"a\":12.5,\"b\":[null,\"x\\n\"]\x7d".toList := by decide

end Python
