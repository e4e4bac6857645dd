import OpsCopilot.Lib.GridRounding
import OpsCopilot.Model.Policy
import OpsCopilot.Model.Detector

/-!
# The critic on every kind of number

`critique` of price changes and supplier switches with the arithmetic between `int`, `float` and
`Decimal` operands as Python has it. A float stands for its exact binary value here.
-/

namespace OpsCopilot

open Python Fallible

/-! ### Numbers of three kinds -/

/-- A finite number. The rationals are the exact values of a double and of a `Decimal`. -/
inductive Number where
  | int (n : ℤ)
  | float (q : ℚ)
  | decimal (q : ℚ)

def Number.value : Number → ℚ
  | .int n => n
  | .float q | .decimal q => q

/-- The finite number that a value is. -/
def finiteNumber : Value → Option Number
  | .int n => some (.int n)
  | .float (.finite x) => some (.float (binary64 x.toRat))
  | .decimal (.finite neg coeff exp) => some (.decimal (decimalRat neg coeff exp))
  | _ => none

/-- The number that a value is, where `_is_valid_numeric` holds of it. -/
def readNumber (v : Value) : Except PyException (Option Number) := do
  if ← isValidNumeric v then return finiteNumber v
  else return none

def Number.typeName : Number → String
  | .int _ => "int"
  | .float _ => "float"
  | .decimal _ => "decimal.Decimal"

/-- An operation between a float and a `Decimal`. -/
def mixedKinds (operator : String) (x y : Number) : PyException :=
  ⟨.typeError, "unsupported operand type(s) for " ++ operator ++ ": '" ++ x.typeName ++ "' and '" ++
    y.typeName ++ "'"⟩

/-- `float(n)`, which an infinity never meets here. -/
def Number.toFloat : Number → Except PyException ℚ
  | .int n => if overflowsFloat n then .error (.ofStd .overflowError) else .ok (binary64 n)
  | .float q | .decimal q => .ok q

/-- The `Decimal` of an operation. -/
def decimalResult (q : ℚ) : Except PyException Number := (inContext q).map .decimal

/-- `x - y`. -/
def Number.sub : Number → Number → Except PyException Number
  | .int m, .int n => .ok (.int (m - n))
  | .decimal p, y@(.int _) | .decimal p, y@(.decimal _) => decimalResult (p - y.value)
  | .int m, .decimal q => decimalResult (m - q)
  | x@(.float _), y@(.decimal _) | x@(.decimal _), y@(.float _) => .error (mixedKinds "-" x y)
  | x@(.float _), y | x, y@(.float _) => do
    return .float (binary64 ((← x.toFloat) - (← y.toFloat)))

/-- `abs(x)`. -/
def Number.abs : Number → Number
  | .int n => .int |n|
  | .float q => .float |q|
  | .decimal q => .decimal |q|

/-- `x / y` for `y` above zero. -/
def Number.div : Number → Number → Except PyException Number
  | .int m, .int n =>
    if overflowsFloat ((m : ℚ) / n) then .error (.ofStd .overflowError)
    else .ok (.float (binary64 ((m : ℚ) / n)))
  | .decimal p, y@(.int _) | .decimal p, y@(.decimal _) => decimalResult (p / y.value)
  | .int m, .decimal q => decimalResult (m / q)
  | x@(.float _), y@(.decimal _) | x@(.decimal _), y@(.float _) => .error (mixedKinds "/" x y)
  | x@(.float _), y | x, y@(.float _) => do
    return .float (binary64 ((← x.toFloat) / (← y.toFloat)))

/-- `x > limit` for the double of a literal. -/
def Number.exceeds (x : Number) (limit : ℚ) : Bool := binary64 limit < x.value

/-! ### The two policies -/

/-- What the branches of `critique` for price changes and supplier switches differ in. -/
structure ChangePolicy where
  subject : String
  field : String
  limit : ℚ
  /-- Whether the change counts without its sign. -/
  absolute : Bool
  /-- The reason for which a change of this share is blocked. -/
  beyond : ℚ → String
  within : String

def pricePolicy : ChangePolicy where
  subject := "price change"
  field := "new_price"
  limit := maxPriceChangePct
  absolute := true
  beyond pctChange := "Price change of " ++ percentText 0 pctChange ++ " exceeds the " ++
    percentText 0 maxPriceChangePct ++ " hard limit, regardless of simulator confidence."
  within := "Within price-change bounds."

def supplierPolicy : ChangePolicy where
  subject := "supplier cost change"
  field := "new_supplier_price"
  limit := maxSupplierPriceIncreasePct
  absolute := false
  beyond pctChange := "New supplier cost is " ++ signedPercentText 0 pctChange ++
    " vs. current — exceeds the " ++ percentText 0 maxSupplierPriceIncreasePct ++
    " increase limit."
  within := "Within supplier cost-change bounds."

section Critique

variable (P : ChangePolicy)

/-- The verdict on a share of the current value. -/
def ChangePolicy.verdict (pctChange : Number) : CriticVerdict :=
  if pctChange.exceeds P.limit then blocked (P.beyond pctChange.value) else approved P.within

/-- The comparison of two finite numbers. -/
def ChangePolicy.judge (current new : Number) : Except PyException CriticVerdict := do
  let difference ← new.sub current
  return P.verdict (← (if P.absolute then difference.abs else difference).div current)

/-- `_validate_positive_baseline`. -/
def ChangePolicy.baseline (currentValue : Value) :
    Except PyException (Except CriticVerdict Number) :=
  match currentValue with
  | .none => .ok (.error (blocked ("Cannot evaluate " ++ P.subject ++
      ": current value is missing.")))
  | v => do
    match ← readNumber v with
    | none => return .error (blocked ("Cannot evaluate " ++ P.subject ++
        ": current value is not a finite number."))
    | some current =>
      if current.value ≤ 0 then
        return .error (blocked ("Cannot evaluate " ++ P.subject ++
          ": current value must be greater than zero."))
      else return .ok current

/-- `_validate_payload_number`. -/
def ChangePolicy.payloadNumber (payload : Dict) :
    Except PyException (Except CriticVerdict Number) :=
  match payload.find? P.field with
  | none => .ok (.error (blocked ("Missing required payload field: " ++ P.field ++ ".")))
  | some v => do
    match ← readNumber v with
    | none => return .error (blocked ("Payload field " ++ P.field ++ " must be a finite number."))
    | some new => return .ok new

/-- `critique` of a change under the policy. -/
def ChangePolicy.critique (payload : Dict) (currentValue : Value) :
    Except PyException CriticVerdict := do
  match ← P.baseline currentValue with
  | .error verdict => return verdict
  | .ok current =>
    match ← P.payloadNumber payload with
    | .error verdict => return verdict
    | .ok new => P.judge current new

end Critique

end OpsCopilot
