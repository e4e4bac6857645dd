import Mathlib.Data.Rat.Defs
import Mathlib.Algebra.Order.Ring.Rat
import Mathlib.Algebra.Order.Field.Basic
import Mathlib.Tactic.Ring
import Mathlib.Tactic.Linarith

/-!
# Python values

The values a Python program passes around as loosely typed data: `None`, booleans,
integers, floats, `Decimal`s, strings, lists and dictionaries. Finite numbers are read as
the exact rationals that their decimal text denotes.
-/

namespace Python

/-- The rational `± coeff * 10 ^ exp`. -/
def decimalRat (neg : Bool) (coeff : ℕ) (exp : ℤ) : ℚ :=
  (if neg then -1 else 1) * (coeff * (10 : ℚ) ^ exp)

/-- A finite float, named by the shortest decimal literal that reads back to it: `coeff`
holds its significant digits, the last of which counts `10 ^ exp`. -/
structure FiniteFloat where
  neg : Bool
  coeff : ℕ
  exp : ℤ
  normal : coeff % 10 ≠ 0 ∨ coeff = 0 ∧ exp = 0
deriving DecidableEq

def FiniteFloat.toRat (x : FiniteFloat) : ℚ := decimalRat x.neg x.coeff x.exp

inductive PyFloat where
  | nan
  | inf (neg : Bool)
  | finite (x : FiniteFloat)
deriving DecidableEq

/-- `decimal.Decimal`: sign, coefficient and exponent are kept as written. -/
inductive PyDecimal where
  | nan
  | inf (neg : Bool)
  | finite (neg : Bool) (coeff : ℕ) (exp : ℤ)
deriving DecidableEq

/-- The hashable scalars that `json` accepts as dictionary keys; a float key is finite. -/
inductive Key where
  | none
  | bool (b : Bool)
  | int (n : ℤ)
  | float (x : FiniteFloat)
  | str (s : String)
deriving DecidableEq

inductive Value where
  | none
  | bool (b : Bool)
  | int (n : ℤ)
  | float (x : PyFloat)
  | decimal (d : PyDecimal)
  | str (s : String)
  | list (xs : List Value)
  | dict (ms : List (Key × Value))

/-- The members of a dictionary in insertion order. -/
abbrev Dict := List (Key × Value)

/-! ### Normal form of a decimal literal -/

/-- Moves trailing zeros of the coefficient into the exponent. -/
def stripZeros : ℕ → ℕ → ℤ → ℕ × ℤ
  | 0, coeff, exp => (coeff, exp)
  | fuel + 1, coeff, exp =>
    if coeff % 10 = 0 then stripZeros fuel (coeff / 10) (exp + 1) else (coeff, exp)

lemma stripZeros_normal (fuel coeff : ℕ) (exp : ℤ) (hpos : 0 < coeff) (hfuel : coeff ≤ fuel) :
    (stripZeros fuel coeff exp).1 % 10 ≠ 0 := by
  induction fuel generalizing coeff exp with
  | zero => omega
  | succ fuel ih =>
    rw [stripZeros]
    split_ifs with h
    · exact ih (coeff / 10) (exp + 1) (by omega) (by omega)
    · exact h

lemma stripZeros_rat (fuel coeff : ℕ) (exp : ℤ) :
    ((stripZeros fuel coeff exp).1 : ℚ) * (10 : ℚ) ^ (stripZeros fuel coeff exp).2 =
      coeff * (10 : ℚ) ^ exp := by
  induction fuel generalizing coeff exp with
  | zero => rfl
  | succ fuel ih =>
    rw [stripZeros]
    split_ifs with h
    · have hsplit : (coeff : ℚ) = (coeff / 10 : ℕ) * 10 := by
        exact_mod_cast (by omega : coeff = coeff / 10 * 10)
      rw [ih, zpow_add₀ (by norm_num : (10 : ℚ) ≠ 0), zpow_one, hsplit]
      ring
    · rfl

/-- The float whose literal is `± coeff * 10 ^ exp`. -/
def FiniteFloat.ofDigits (neg : Bool) (coeff : ℕ) (exp : ℤ) : FiniteFloat :=
  if h : coeff = 0 then ⟨neg, 0, 0, .inr ⟨rfl, rfl⟩⟩
  else ⟨neg, (stripZeros coeff coeff exp).1, (stripZeros coeff coeff exp).2,
    .inl (stripZeros_normal coeff coeff exp (Nat.pos_of_ne_zero h) le_rfl)⟩

@[simp] lemma FiniteFloat.toRat_ofDigits (neg : Bool) (coeff : ℕ) (exp : ℤ) :
    (FiniteFloat.ofDigits neg coeff exp).toRat = decimalRat neg coeff exp := by
  unfold FiniteFloat.ofDigits
  split_ifs with h
  · simp [FiniteFloat.toRat, decimalRat, h]
  · simp only [FiniteFloat.toRat, decimalRat, stripZeros_rat]

/-! ### Dictionary access -/

namespace Dict

/-- The value under a string key; `none` when the key is absent. -/
def find? (key : String) : Dict → Option Value
  | [] => .none
  | (.str k, v) :: rest => if k = key then some v else find? key rest
  | _ :: rest => find? key rest

/-- `d.get(key)`. -/
def get (d : Dict) (key : String) : Value := (find? key d).getD Value.none

/-- `d[key] = v` on an insertion-ordered dictionary. -/
def assign (key : Key) (v : Value) : Dict → Dict
  | [] => [(key, v)]
  | (k, w) :: rest => if k = key then (k, v) :: rest else (k, w) :: assign key v rest

/-- `{**d, **e}`. -/
def merge (d e : Dict) : Dict := e.foldl (fun acc m => assign m.1 m.2 acc) d

end Dict

/-- `bool(v)`. -/
def Value.truthy : Value → Bool
  | .none => false
  | .bool b => b
  | .int n => n ≠ 0
  | .float (.finite x) => x.coeff ≠ 0
  | .decimal (.finite _ coeff _) => coeff ≠ 0
  | .float _ | .decimal _ => true
  | .str s => s ≠ ""
  | .list xs => !xs.isEmpty
  | .dict ms => !ms.isEmpty

end Python
