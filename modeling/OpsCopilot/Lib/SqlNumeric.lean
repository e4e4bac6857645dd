import Mathlib.Data.Rat.Floor
import Mathlib.Tactic.Linarith

/-!
# `NUMERIC(precision, scale)` columns

A column keeps a number rounded to its scale, halves away from zero, and refuses a number
whose rounded value has too many digits. It also takes NaN, which compares above every number.
-/

namespace Sql

/-- A number of a column: `coeff` counts units of `10 ^ -scale`. -/
structure Numeric (precision scale : ℕ) where
  coeff : ℤ
  fits : coeff.natAbs < 10 ^ precision
deriving DecidableEq

namespace Numeric

variable {precision scale : ℕ}

def toRat (x : Numeric precision scale) : ℚ := x.coeff / 10 ^ scale

end Numeric

/-- The content of a column. -/
inductive Column (precision scale : ℕ) where
  | number (x : Numeric precision scale)
  | nan
deriving DecidableEq

namespace Column

variable {precision scale : ℕ}

/-- The number in a column. NaN, which is none, counts as -1 here. -/
def toRat : Column precision scale → ℚ
  | number x => x.toRat
  | nan => -1

def isNan : Column precision scale → Bool
  | number _ => false
  | nan => true

/-- `x >= 0` in the database. -/
def nonneg : Column precision scale → Bool
  | number x => 0 ≤ x.coeff
  | nan => true

/-- `x > 0` in the database. -/
def positive : Column precision scale → Bool
  | number x => 0 < x.coeff
  | nan => true

@[simp] lemma toRat_number (x : Numeric precision scale) : (number x).toRat = x.toRat := rfl

@[simp] lemma isNan_number (x : Numeric precision scale) : (number x).isNan = false := rfl

lemma number_of_nonneg {x : Column precision scale} (h : 0 ≤ x.toRat) : ∃ y, x = number y := by
  cases x with
  | number y => exact ⟨y, rfl⟩
  | nan => exact absurd h (by norm_num [toRat])

lemma isNan_of_nonneg {x : Column precision scale} (h : 0 ≤ x.toRat) : x.isNan = false := by
  obtain ⟨y, rfl⟩ := number_of_nonneg h
  rfl

lemma positive_number {y : Numeric precision scale} (h : 0 < y.toRat) :
    (number y).positive = true := by
  have hcoeff : (0 : ℚ) < y.coeff := (div_pos_iff_of_pos_right (by positivity)).mp h
  exact decide_eq_true (by exact_mod_cast hcoeff)

/-- A number that passes the check of the database is not negative. -/
lemma toRat_nonneg {x : Column precision scale} (h : x.nonneg = true) (hnan : x.isNan = false) :
    0 ≤ x.toRat := by
  cases x with
  | number y =>
    have hcoeff : (0 : ℚ) ≤ y.coeff := by exact_mod_cast of_decide_eq_true h
    exact div_nonneg hcoeff (by positivity)
  | nan => cases hnan

end Column

/-- The nearest integer, halves away from zero. -/
def roundHalfAway (q : ℚ) : ℤ := if 0 ≤ q then ⌊q + 1 / 2⌋ else -⌊-q + 1 / 2⌋

/-- What a column stores for `q`; `none` when `q` overflows it. -/
def Numeric.store? (precision scale : ℕ) (q : ℚ) : Option (Numeric precision scale) :=
  let coeff := roundHalfAway (q * 10 ^ scale)
  if h : coeff.natAbs < 10 ^ precision then some ⟨coeff, h⟩ else none

/-! ### Numbers that are not rounded -/

/-- The numbers that a column of the scale keeps as they are. -/
def OnScale (scale : ℕ) (q : ℚ) : Prop := ∃ n : ℤ, q = n / 10 ^ scale

section OnScale

variable {precision scale : ℕ} {p q : ℚ}

lemma OnScale.add (hp : OnScale scale p) (hq : OnScale scale q) : OnScale scale (p + q) := by
  obtain ⟨m, rfl⟩ := hp
  obtain ⟨n, rfl⟩ := hq
  exact ⟨m + n, by push_cast; ring⟩

lemma OnScale.neg (hq : OnScale scale q) : OnScale scale (-q) := by
  obtain ⟨n, rfl⟩ := hq
  exact ⟨-n, by push_cast; ring⟩

lemma OnScale.sub (hp : OnScale scale p) (hq : OnScale scale q) : OnScale scale (p - q) := by
  rw [sub_eq_add_neg]
  exact hp.add hq.neg

lemma Numeric.onScale (x : Numeric precision scale) : OnScale scale x.toRat := ⟨x.coeff, rfl⟩

lemma Numeric.abs_toRat_lt (x : Numeric precision scale) : |x.toRat| * 10 ^ scale < 10 ^ precision := by
  have hfits : ((x.coeff.natAbs : ℕ) : ℚ) < 10 ^ precision := by exact_mod_cast x.fits
  rw [toRat, abs_div, abs_of_pos (by positivity : (0 : ℚ) < 10 ^ scale), div_mul_cancel₀ _ (by positivity)]
  rwa [Nat.cast_natAbs, Int.cast_abs] at hfits

lemma roundHalfAway_intCast (n : ℤ) : roundHalfAway n = n := by
  unfold roundHalfAway
  split_ifs
  · rw [Int.floor_eq_iff]
    constructor <;> linarith
  · rw [neg_eq_iff_eq_neg, Int.floor_eq_iff]
    push_cast
    constructor <;> linarith

lemma roundHalfAway_near (q : ℚ) : |(roundHalfAway q : ℚ) - q| ≤ 1 / 2 := by
  have habove := Int.floor_le (q + 1 / 2)
  have hbelow := Int.lt_floor_add_one (q + 1 / 2)
  have habove' := Int.floor_le (-q + 1 / 2)
  have hbelow' := Int.lt_floor_add_one (-q + 1 / 2)
  unfold roundHalfAway
  split_ifs
  · rw [abs_le]
    constructor <;> linarith
  · rw [abs_le]
    push_cast
    constructor <;> linarith

lemma Numeric.store?_coeff {x : Numeric precision scale}
    (h : Numeric.store? precision scale q = some x) : x.coeff = roundHalfAway (q * 10 ^ scale) := by
  unfold Numeric.store? at h
  dsimp only at h
  split_ifs at h
  exact congrArg Numeric.coeff (Option.some.inj h).symm

lemma Numeric.store?_coeff_nonneg {x : Numeric precision scale} (hq : 0 ≤ q)
    (h : Numeric.store? precision scale q = some x) : 0 ≤ x.coeff := by
  have hscaled : 0 ≤ q * 10 ^ scale := by positivity
  rw [Numeric.store?_coeff h, roundHalfAway, if_pos hscaled]
  exact Int.floor_nonneg.mpr (by linarith)

lemma Numeric.store?_nonneg {x : Numeric precision scale} (hq : 0 ≤ q)
    (h : Numeric.store? precision scale q = some x) : 0 ≤ x.toRat := by
  have hcoeff := Numeric.store?_coeff_nonneg hq h
  exact div_nonneg (by exact_mod_cast hcoeff) (by positivity)

lemma Numeric.store?_exact {x : Numeric precision scale} (hq : OnScale scale q)
    (h : Numeric.store? precision scale q = some x) : x.toRat = q := by
  obtain ⟨n, rfl⟩ := hq
  have hcoeff := Numeric.store?_coeff h
  rw [div_mul_cancel₀ _ (by positivity), roundHalfAway_intCast] at hcoeff
  rw [toRat, hcoeff]

/-- A stored number is off by half a unit at most. -/
lemma Numeric.store?_near {x : Numeric precision scale}
    (h : Numeric.store? precision scale q = some x) : |x.toRat - q| ≤ 1 / (2 * 10 ^ scale) := by
  have hnear := roundHalfAway_near (q * 10 ^ scale)
  have hscale : (0 : ℚ) < 10 ^ scale := by positivity
  have hsplit : x.toRat - q = (roundHalfAway (q * 10 ^ scale) - q * 10 ^ scale) / 10 ^ scale := by
    rw [toRat, Numeric.store?_coeff h, sub_div, mul_div_cancel_right₀ _ hscale.ne']
  rw [hsplit, abs_div, abs_of_pos hscale, ← div_div]
  exact div_le_div_of_nonneg_right hnear hscale.le

/-- What fits a column is bounded, rounded or not. -/
lemma Numeric.store?_bound {x : Numeric precision scale} (h : Numeric.store? precision scale q = some x) :
    |q| * 10 ^ scale < 10 ^ precision + 1 := by
  have hcoeff := Numeric.store?_coeff h
  have hnear := roundHalfAway_near (q * 10 ^ scale)
  have hfits := x.abs_toRat_lt
  rw [toRat, abs_div, abs_of_pos (by positivity : (0 : ℚ) < 10 ^ scale),
    div_mul_cancel₀ _ (by positivity), hcoeff] at hfits
  have hq : |q| * 10 ^ scale = |q * 10 ^ scale| := by
    rw [abs_mul, abs_of_pos (by positivity : (0 : ℚ) < 10 ^ scale)]
  have htriangle := abs_sub_abs_le_abs_sub (q * 10 ^ scale) (roundHalfAway (q * 10 ^ scale))
  rw [abs_sub_comm] at htriangle
  rw [hq]
  linarith

end OnScale

end Sql
