import Mathlib.Data.Rat.Floor
import OpsCopilot.Lib.PyString
import OpsCopilot.Lib.PyJson

/-!
# Numbers out of loosely typed values

`Decimal(str(v))`, `int(v)` and the rounding of `Decimal` arithmetic.
-/

namespace Python

/-! ### Digits -/

/-- The zeros of the decimal digits that Unicode knows. -/
def digitZeros : List ℕ :=
  [0x30, 0x660, 0x6f0, 0x7c0, 0x966, 0x9e6, 0xa66, 0xae6, 0xb66, 0xbe6, 0xc66, 0xce6, 0xd66,
    0xde6, 0xe50, 0xed0, 0xf20, 0x1040, 0x1090, 0x17e0, 0x1810, 0x1946, 0x19d0, 0x1a80, 0x1a90,
    0x1b50, 0x1bb0, 0x1c40, 0x1c50, 0xa620, 0xa8d0, 0xa900, 0xa9d0, 0xa9f0, 0xaa50, 0xabf0,
    0xff10, 0x104a0, 0x10d30, 0x11066, 0x110f0, 0x11136, 0x111d0, 0x112f0, 0x11450, 0x114d0,
    0x11650, 0x116c0, 0x11730, 0x118e0, 0x11950, 0x11c50, 0x11d50, 0x11da0, 0x16a60, 0x16ac0,
    0x16b50, 0x1d7ce, 0x1d7d8, 0x1d7e2, 0x1d7ec, 0x1d7f6, 0x1e140, 0x1e2f0, 0x1e950, 0x1fbf0]

def digitValue (c : Char) : Option ℕ :=
  digitZeros.findSome? (fun z => if z ≤ c.toNat ∧ c.toNat < z + 10 then some (c.toNat - z) else none)

/-- The number written by a non-empty run of digits. -/
def readDigits (cs : List Char) : Option ℕ :=
  if cs = [] then none
  else (cs.mapM digitValue).map (fun ds => ds.foldl (fun n d => 10 * n + d) 0)

/-- An optional sign in front of the rest. -/
def readSign : List Char → Bool × List Char
  | '-' :: cs => (true, cs)
  | '+' :: cs => (false, cs)
  | cs => (false, cs)

def signed (neg : Bool) (n : ℕ) : ℤ := if neg then -n else n

/-! ### `Decimal` -/

/-- The digits around the decimal point, one side of which may be empty. -/
def readPoint (cs : List Char) : Option (ℕ × ℕ) :=
  let whole := cs.takeWhile (fun c => c ≠ '.')
  let frac := (cs.dropWhile (fun c => c ≠ '.')).drop 1
  (readDigits (whole ++ frac)).map (fun coeff => (coeff, frac.length))

def readExponentPart : List Char → Option ℤ
  | [] => some 0
  | _ :: cs => (readDigits (readSign cs).2).map (signed (readSign cs).1)

/-- The exponents that a `Decimal` can hold exactly. -/
def exponentInRange (coeff : ℕ) (exp : ℤ) : Bool :=
  exp + (Nat.toDigits 10 coeff).length ≤ 1000000000000000000 ∧ -1999999999999999997 ≤ exp

/-- `Decimal(text)`; `none` stands for `InvalidOperation`. -/
def decimalOfText (text : String) : Option PyDecimal :=
  let (neg, cs) := readSign ((stripChars text.toList).filter (fun c => c ≠ '_'))
  let word := cs.map Char.toLower
  if word = "inf".toList ∨ word = "infinity".toList then some (.inf neg)
  else if (word.take 3 = "nan".toList ∧ (cs.drop 3).all (fun c => (digitValue c).isSome)) ∨
      (word.take 4 = "snan".toList ∧ (cs.drop 4).all (fun c => (digitValue c).isSome)) then some .nan
  else
    let isE := fun c => c = 'e' ∨ c = 'E'
    match readPoint (cs.takeWhile (fun c => ¬isE c)),
        readExponentPart (cs.dropWhile (fun c => ¬isE c)) with
    | some (coeff, places), some e =>
      if exponentInRange coeff (e - places) then some (.finite neg coeff (e - places)) else none
    | _, _ => none

/-- `Decimal(str(v))`; `none` stands for `InvalidOperation`. -/
def Value.toDecimal : Value → Option PyDecimal
  | .int n => some (.finite (n < 0) n.natAbs 0)
  | .float .nan => some .nan
  | .float (.inf neg) => some (.inf neg)
  | .float (.finite x) => some (.finite x.neg x.coeff x.exp)
  | .decimal d => some d
  | .str s => decimalOfText s
  | .none | .bool _ | .list _ | .dict _ => Option.none

/-- The number of a finite `Decimal`. -/
def PyDecimal.toRat? : PyDecimal → Option ℚ
  | .finite neg coeff exp => some (decimalRat neg coeff exp)
  | _ => none

/-- `d < 0`, which `InvalidOperation` stops for a NaN. -/
def PyDecimal.isNegative : PyDecimal → Except StdError Bool
  | .nan => .error .invalidOperation
  | .inf neg => .ok neg
  | .finite neg coeff _ => .ok (neg && coeff ≠ 0)

/-- `d <= 0`. -/
def PyDecimal.isNonpositive : PyDecimal → Except StdError Bool
  | .nan => .error .invalidOperation
  | .inf neg => .ok neg
  | .finite neg coeff _ => .ok (neg || coeff = 0)

/-- `Decimal.__str__`. -/
def PyDecimal.text : PyDecimal → List Char
  | .nan => "NaN".toList
  | .inf neg => (if neg then ['-'] else []) ++ "Infinity".toList
  | .finite neg coeff exp =>
    let ds := Nat.toDigits 10 coeff
    let left : ℤ := exp + ds.length
    let point : ℤ := if exp ≤ 0 ∧ -6 < left then left else 1
    let body :=
      if point ≤ 0 then '0' :: '.' :: (List.replicate (-point).toNat '0' ++ ds)
      else if point < ds.length then ds.take point.toNat ++ '.' :: ds.drop point.toNat
      else ds ++ List.replicate (point - ds.length).toNat '0'
    let exponent :=
      if left = point then []
      else 'E' :: (if left < point then '-' else '+') :: Nat.toDigits 10 (left - point).natAbs
    (if neg then ['-'] else []) ++ body ++ exponent

/-! ### Arithmetic of the default context: 28 digits, halves to even -/

/-- `coeff` with its last `drop` digits rounded away. -/
def roundDigits (drop coeff : ℕ) : ℕ :=
  let q := coeff / 10 ^ drop
  let r := coeff % 10 ^ drop
  if 10 ^ drop < 2 * r ∨ (10 ^ drop = 2 * r ∧ q % 2 = 1) then q + 1 else q

def contextPrecision : ℕ := 28

/-- Rounds an exact result to the context. -/
def roundContext (neg : Bool) (coeff : ℕ) (exp : ℤ) : PyDecimal :=
  let len := (Nat.toDigits 10 coeff).length
  if len ≤ contextPrecision then .finite neg coeff exp
  else
    let drop := len - contextPrecision
    .finite neg (roundDigits drop coeff) (exp + drop)

/-- `x + y`; infinities of opposite sign have no sum. -/
def PyDecimal.add : PyDecimal → PyDecimal → Except StdError PyDecimal
  | .nan, _ | _, .nan => .ok .nan
  | .inf a, .inf b => if a = b then .ok (.inf a) else .error .invalidOperation
  | .inf a, .finite .. | .finite .., .inf a => .ok (.inf a)
  | .finite a c e, .finite b d f =>
    let exp := min e f
    let sum := signed a (c * 10 ^ (e - exp).toNat) + signed b (d * 10 ^ (f - exp).toNat)
    .ok (roundContext (sum < 0) sum.natAbs exp)

/-- A result with more digits before the point than the context allows overflows. -/
def PyDecimal.beyondContext : PyDecimal → Bool
  | .finite _ coeff exp => coeff ≠ 0 ∧ 999999 < exp + (Nat.toDigits 10 coeff).length - 1
  | _ => false

def PyDecimal.negate : PyDecimal → PyDecimal
  | .nan => .nan
  | .inf neg => .inf !neg
  | .finite neg coeff exp => .finite (!neg) coeff exp

/-- `x - y`. -/
def PyDecimal.sub (x y : PyDecimal) : Except StdError PyDecimal := x.add y.negate

/-! ### `int` -/

/-- The integer part of `± coeff * 10 ^ exp`. -/
def truncate (neg : Bool) (coeff : ℕ) (exp : ℤ) : ℤ :=
  signed neg (if 0 ≤ exp then coeff * 10 ^ exp.toNat else coeff / 10 ^ (-exp).toNat)

/-- Digits in groups that single underscores separate. -/
def readGroups (cs : List Char) : Option ℕ :=
  if (cs.splitOn '_').all (fun group => group ≠ []) then
    readDigits (cs.filter (fun c => c ≠ '_'))
  else none

/-- The number of digits beyond which `str` and `int` refuse to convert an integer. -/
def maxStrDigits : ℕ := 4300

/-- `int(text)`. -/
def intOfText (text : String) : Option ℤ :=
  let (neg, cs) := readSign (stripChars text.toList)
  if maxStrDigits < (cs.filter (fun c => c ≠ '_')).length then none
  else (readGroups cs).map (signed neg)

/-- `int(v)`. -/
def Value.toInt : Value → Except StdError ℤ
  | .bool b => .ok (if b then 1 else 0)
  | .int n => .ok n
  | .float .nan | .decimal .nan => .error .valueError
  | .float (.inf _) | .decimal (.inf _) => .error .overflowError
  | .float (.finite x) => .ok (truncate x.neg x.coeff x.exp)
  | .decimal (.finite neg coeff exp) => .ok (truncate neg coeff exp)
  | .str s => (intOfText s).elim (.error .valueError) .ok
  | .none | .list _ | .dict _ => .error .typeError

example : decimalOfText " -1_2.50e+1 " = some (.finite true 1250 (-1)) := by decide

end Python
