import OpsCopilot.Lib.PyFloat

/-!
# Rounding to a grid of floating-point numbers

Numbers with a fixed count of digits to a base, and rounding to them, halves to even: the double
next to a number and the result of a `Decimal` operation are the two grids of Python. A rounded
number is compared with a limit by comparing the number itself with the middle of two grid points.
-/

namespace Python

section Nearest

variable {q : ℚ} {n : ℤ}

lemma le_roundHalfEven (h : n ≤ q) : n ≤ roundHalfEven q := by
  have hnear := (abs_le.mp (roundHalfEven_near q)).1
  have hlt : (n : ℚ) - 1 < roundHalfEven q := by linarith
  have hint : n - 1 < roundHalfEven q := by exact_mod_cast hlt
  omega

/-- The half above an odd number goes up. -/
lemma roundHalfEven_le_iff_of_odd (hn : n % 2 = 1) : roundHalfEven q ≤ n ↔ q < n + 1 / 2 := by
  constructor
  · intro h
    by_contra hge
    rw [not_lt] at hge
    rcases hge.eq_or_lt with heq | hlt
    · have hfloor : ⌊q⌋ = n := by
        rw [← heq, Int.floor_eq_iff]
        constructor
        · linarith
        · linarith
      have hround : roundHalfEven q = n + 1 := by
        unfold roundHalfEven
        dsimp only
        rw [hfloor, if_neg (by linarith), if_neg (by linarith), if_neg (by omega)]
      omega
    · have hnear := (abs_le.mp (roundHalfEven_near q)).1
      have hle : (roundHalfEven q : ℚ) ≤ n := by exact_mod_cast h
      linarith
  · intro h
    have hnear := (abs_le.mp (roundHalfEven_near q)).2
    have hlt : (roundHalfEven q : ℚ) < n + 1 := by linarith
    exact Int.lt_add_one_iff.mp (by exact_mod_cast hlt)

/-- The half above an even number goes down. -/
lemma roundHalfEven_le_iff_of_even (hn : n % 2 = 0) : roundHalfEven q ≤ n ↔ q ≤ n + 1 / 2 := by
  constructor
  · intro h
    have hnear := (abs_le.mp (roundHalfEven_near q)).1
    have hle : (roundHalfEven q : ℚ) ≤ n := by exact_mod_cast h
    linarith
  · intro h
    rcases h.eq_or_lt with heq | hlt
    · have hfloor : ⌊q⌋ = n := by
        rw [heq, Int.floor_eq_iff]
        constructor
        · linarith
        · linarith
      unfold roundHalfEven
      dsimp only
      rw [hfloor, if_neg (by linarith), if_neg (by linarith), if_pos hn]
    · have hnear := (abs_le.mp (roundHalfEven_near q)).2
      have hround : (roundHalfEven q : ℚ) < n + 1 := by linarith
      exact Int.lt_add_one_iff.mp (by exact_mod_cast hround)

/-- Halves to even treat both signs alike. -/
lemma roundHalfEven_neg (q : ℚ) : roundHalfEven (-q) = -roundHalfEven q := by
  have hle := Int.floor_le q
  have hlt := Int.lt_floor_add_one q
  rcases hle.eq_or_lt with heq | hpos
  · rw [← heq, ← Int.cast_neg, roundHalfEven_intCast, roundHalfEven_intCast]
  · have hfloor : ⌊-q⌋ = -⌊q⌋ - 1 := by
      rw [Int.floor_eq_iff]
      push_cast
      constructor
      · linarith
      · linarith
    unfold roundHalfEven
    dsimp only
    rw [hfloor]
    push_cast
    rcases lt_trichotomy (q - ⌊q⌋) (1 / 2) with h | h | h
    · rw [if_neg (by linarith), if_pos (by linarith), if_pos h]
      ring
    · rw [if_neg (by linarith), if_neg (by linarith), if_neg h.not_lt, if_neg h.not_gt]
      split_ifs <;> omega
    · rw [if_pos (by linarith), if_neg (by linarith), if_pos h]
      ring

end Nearest

/-! ### Grids -/

section Grid

variable (base digits : ℕ) (low : ℤ)

/-- The exponent of the last digit of the grid points around `q`. -/
def gridExponent (q : ℚ) : ℤ := max (Int.log base |q| + 1 - digits) low

/-- The grid point next to `q`, halves to even. -/
def gridRound (q : ℚ) : ℚ :=
  roundHalfEven (q / base ^ gridExponent base digits low q) * base ^ gridExponent base digits low q

end Grid

lemma roundSignificant_eq_gridRound (digits : ℕ) (q : ℚ) :
    roundSignificant digits q = gridRound 10 digits (-1000026) q := rfl

lemma binary64_eq_gridRound (q : ℚ) : binary64 q = gridRound 2 53 (-1074) q := by
  have hexp : binaryExponent q = gridExponent 2 53 (-1074) q := by
    unfold binaryExponent gridExponent
    congr 1
    push_cast
    ring
  rw [binary64, gridRound, hexp]
  rfl

section Limit

variable {base digits : ℕ} {low e : ℤ} {q limit : ℚ} {n : ℤ}

/-- Rounding does not pass a number that is a multiple of the last digit. -/
lemma gridRound_le (hbase : 1 < base) {m : ℤ} (hm : gridExponent base digits low q ≤ m)
    (h : q ≤ n * (base : ℚ) ^ m) : gridRound base digits low q ≤ n * (base : ℚ) ^ m := by
  have hpos : (0 : ℚ) < base := by exact_mod_cast hbase.pos
  obtain ⟨k, hk⟩ := Int.eq_ofNat_of_zero_le (sub_nonneg.mpr hm)
  have hsplit : (base : ℚ) ^ m = base ^ k * base ^ gridExponent base digits low q := by
    rw [← zpow_natCast, ← zpow_add₀ hpos.ne']
    congr 1
    linarith
  have hscaled : q / base ^ gridExponent base digits low q ≤ ((n * base ^ k : ℤ) : ℚ) := by
    rw [div_le_iff₀ (zpow_pos hpos _)]
    push_cast
    rw [mul_assoc, ← hsplit]
    exact h
  have hround : ((roundHalfEven (q / base ^ gridExponent base digits low q) : ℤ) : ℚ) ≤
      ((n * base ^ k : ℤ) : ℚ) := by
    exact_mod_cast roundHalfEven_le hscaled
  rw [gridRound, hsplit, ← mul_assoc]
  refine mul_le_mul_of_nonneg_right ?_ (zpow_pos hpos _).le
  rw [← show ((n * base ^ k : ℤ) : ℚ) = n * base ^ k by push_cast; rfl]
  exact hround

lemma le_gridRound (hbase : 1 < base) {m : ℤ} (hm : gridExponent base digits low q ≤ m)
    (h : n * (base : ℚ) ^ m ≤ q) : n * (base : ℚ) ^ m ≤ gridRound base digits low q := by
  have hpos : (0 : ℚ) < base := by exact_mod_cast hbase.pos
  obtain ⟨k, hk⟩ := Int.eq_ofNat_of_zero_le (sub_nonneg.mpr hm)
  have hsplit : (base : ℚ) ^ m = base ^ k * base ^ gridExponent base digits low q := by
    rw [← zpow_natCast, ← zpow_add₀ hpos.ne']
    congr 1
    linarith
  have hscaled : ((n * base ^ k : ℤ) : ℚ) ≤ q / base ^ gridExponent base digits low q := by
    rw [le_div_iff₀ (zpow_pos hpos _)]
    push_cast
    rw [mul_assoc, ← hsplit]
    exact h
  have hround : ((n * base ^ k : ℤ) : ℚ) ≤
      ((roundHalfEven (q / base ^ gridExponent base digits low q) : ℤ) : ℚ) := by
    exact_mod_cast le_roundHalfEven hscaled
  rw [gridRound, hsplit, ← mul_assoc]
  refine mul_le_mul_of_nonneg_right ?_ (zpow_pos hpos _).le
  rw [← show ((n * base ^ k : ℤ) : ℚ) = n * base ^ k by push_cast; rfl]
  exact hround

lemma gridRound_nonpos (hbase : 1 < base) (h : q ≤ 0) : gridRound base digits low q ≤ 0 := by
  have hzero : q ≤ ((0 : ℤ) : ℚ) * (base : ℚ) ^ gridExponent base digits low q := by
    rw [Int.cast_zero, zero_mul]
    exact h
  have hle := gridRound_le hbase le_rfl hzero
  rwa [Int.cast_zero, zero_mul] at hle

/-- Below the numbers with the exponent `e`, the exponents are not larger. -/
lemma gridExponent_le (hbase : 1 < base) (he : low ≤ e) (hq : 0 < q)
    (h : q < (base : ℚ) ^ (digits + e)) : gridExponent base digits low q ≤ e := by
  have hlog : Int.log base |q| < digits + e := by
    rw [abs_of_pos hq]
    exact (Int.lt_zpow_iff_log_lt hbase hq).mp h
  exact max_le (by linarith) he

/-- Numbers that large have the exponent of their first digit. -/
lemma le_gridExponent (hbase : 1 < base) (hq : 0 < q) (h : (base : ℚ) ^ (digits - 1 + e) ≤ q) :
    e ≤ gridExponent base digits low q := by
  have hlog : digits - 1 + e ≤ Int.log base |q| := by
    rw [abs_of_pos hq]
    exact (Int.zpow_le_iff_le_log hbase hq).mp h
  exact le_max_of_le_left (by linarith)

/-- A rounded number keeps to a limit exactly when the number, to the digits of the limit, does. -/
theorem gridRound_le_iff (hbase : 1 < base) (hdigits : 0 < digits) (he : low ≤ e)
    (hlow : (base : ℤ) ^ (digits - 1) ≤ n) (hhigh : n < (base : ℤ) ^ digits)
    (hlimit : n * (base : ℚ) ^ e ≤ limit) (hlimit' : limit < (n + 1) * (base : ℚ) ^ e) :
    gridRound base digits low q ≤ limit ↔ roundHalfEven (q / (base : ℚ) ^ e) ≤ n := by
  have hpos : (0 : ℚ) < base := by exact_mod_cast hbase.pos
  have hunit : (0 : ℚ) < (base : ℚ) ^ e := zpow_pos hpos e
  have hn : (0 : ℤ) ≤ n := le_trans (by positivity) hlow
  have hfirst : (digits : ℤ) - 1 = ((digits - 1 : ℕ) : ℤ) := by omega
  rcases le_or_gt q 0 with hneg | hq
  · -- Both sides hold below zero.
    refine iff_of_true ?_ ?_
    · refine (gridRound_nonpos hbase hneg).trans (le_trans ?_ hlimit)
      exact mul_nonneg (by exact_mod_cast hn) hunit.le
    · have hscaled : q / (base : ℚ) ^ e ≤ ((0 : ℤ) : ℚ) := by
        rw [Int.cast_zero]
        exact div_nonpos_of_nonpos_of_nonneg hneg hunit.le
      exact (roundHalfEven_le hscaled).trans hn
  · rcases lt_or_ge q ((base : ℚ) ^ (digits - 1 + e)) with hsmall | hlarge
    · -- Below the decade of the limit both sides hold as well.
      have hsplit : (base : ℚ) ^ (digits - 1 + e) =
          (((base : ℤ) ^ (digits - 1) : ℤ) : ℚ) * (base : ℚ) ^ e := by
        rw [zpow_add₀ hpos.ne', hfirst, zpow_natCast]
        push_cast
        rfl
      rw [hsplit] at hsmall
      refine iff_of_true ?_ ?_
      · have hexp : gridExponent base digits low q ≤ e := by
          refine gridExponent_le hbase he hq (hsmall.trans_le ?_)
          rw [← hsplit]
          exact zpow_le_zpow_right₀ (by exact_mod_cast hbase.le) (by linarith)
        refine (gridRound_le hbase hexp hsmall.le).trans (le_trans ?_ hlimit)
        exact mul_le_mul_of_nonneg_right (by exact_mod_cast hlow) hunit.le
      · exact (roundHalfEven_le ((div_le_iff₀ hunit).mpr hsmall.le)).trans hlow
    · have hleast : e ≤ gridExponent base digits low q := le_gridExponent hbase hq hlarge
      rcases lt_or_ge q ((base : ℚ) ^ (digits + e)) with hinside | hbeyond
      · -- In the decade of the limit the number is rounded to the digits of the limit.
        have hexp := le_antisymm (gridExponent_le hbase he hq hinside) hleast
        rw [gridRound, hexp]
        constructor
        · intro h
          have hlt := (mul_lt_mul_iff_of_pos_right hunit).mp (h.trans_lt hlimit')
          exact Int.lt_add_one_iff.mp (by exact_mod_cast hlt)
        · intro h
          refine le_trans ?_ hlimit
          exact mul_le_mul_of_nonneg_right (by exact_mod_cast h) hunit.le
      · -- Above it neither side holds.
        have hnext : (n : ℚ) + 1 ≤ (base : ℚ) ^ digits := by exact_mod_cast hhigh
        have hsplit : (base : ℚ) ^ (digits + e) = (base : ℚ) ^ digits * (base : ℚ) ^ e := by
          rw [zpow_add₀ hpos.ne', zpow_natCast]
        refine iff_of_false (not_le.mpr ?_) (not_le.mpr ?_)
        · have hlog : digits + e ≤ Int.log base |q| := by
            rw [abs_of_pos hq]
            exact (Int.zpow_le_iff_le_log hbase hq).mp hbeyond
          have hexp : gridExponent base digits low q ≤ Int.log base |q| :=
            max_le (by omega) (by omega)
          have hself : ((1 : ℤ) : ℚ) * (base : ℚ) ^ Int.log base |q| ≤ q := by
            rw [Int.cast_one, one_mul, abs_of_pos hq]
            exact Int.zpow_log_le_self hbase hq
          have hround := le_gridRound hbase hexp hself
          rw [Int.cast_one, one_mul] at hround
          refine lt_of_lt_of_le ?_ hround
          calc limit < (n + 1) * (base : ℚ) ^ e := hlimit'
            _ ≤ (base : ℚ) ^ (digits + e) := by
              rw [hsplit]
              exact mul_le_mul_of_nonneg_right hnext hunit.le
            _ ≤ (base : ℚ) ^ Int.log base |q| :=
              zpow_le_zpow_right₀ (by exact_mod_cast hbase.le) hlog
        · have hscaled : (((base : ℤ) ^ digits : ℤ) : ℚ) ≤ q / (base : ℚ) ^ e := by
            rw [le_div_iff₀ hunit]
            push_cast
            rw [← hsplit]
            exact hbeyond
          exact hhigh.trans_le (le_roundHalfEven hscaled)

end Limit

/-! ### Doubles -/

section Doubles

variable {q : ℚ}

lemma binary64_neg (q : ℚ) : binary64 (-q) = -binary64 q := by
  have hexp : binaryExponent (-q) = binaryExponent q := by
    rw [binaryExponent, binaryExponent, abs_neg]
  rw [binary64, binary64, hexp, neg_div, roundHalfEven_neg, Int.cast_neg, neg_mul]

/-- A number that is not below one has a positive double. -/
lemma binary64_pos (h : 1 ≤ q) : 0 < binary64 q := by
  have hq : 0 < q := one_pos.trans_le h
  have hlog : 0 ≤ Int.log 2 |q| := by
    rw [abs_of_pos hq, ← Int.zpow_le_iff_le_log one_lt_two hq, zpow_zero]
    exact h
  have hself : ((1 : ℤ) : ℚ) * ((2 : ℕ) : ℚ) ^ Int.log 2 |q| ≤ q := by
    rw [Int.cast_one, one_mul, abs_of_pos hq]
    exact Int.zpow_log_le_self one_lt_two hq
  have hexp : gridExponent 2 53 (-1074) q ≤ Int.log 2 |q| := max_le (by omega) (by omega)
  have hround := le_gridRound one_lt_two hexp hself
  rw [Int.cast_one, one_mul] at hround
  rw [binary64_eq_gridRound]
  exact (by positivity : (0 : ℚ) < ((2 : ℕ) : ℚ) ^ Int.log 2 |q|).trans_le hround

/-- The double of a share is a share. -/
lemma binary64_unit (hnonneg : 0 ≤ q) (hone : q ≤ 1) : 0 ≤ binary64 q ∧ binary64 q ≤ 1 := by
  constructor
  · refine mul_nonneg ?_ (by positivity)
    exact_mod_cast roundHalfEven_nonneg (div_nonneg hnonneg (by positivity))
  · have hiff : gridRound 2 53 (-1074) q ≤ 1 ↔ roundHalfEven (q / (2 : ℕ) ^ (-52 : ℤ)) ≤ 2 ^ 52 :=
      gridRound_le_iff (by norm_num) (by norm_num) (by norm_num) (by norm_num) (by norm_num)
        (by norm_num) (by norm_num)
    rw [binary64_eq_gridRound, hiff]
    refine roundHalfEven_le ?_
    rw [div_le_iff₀ (by positivity)]
    norm_num
    exact hone

end Doubles

/-! ### Decimals with four places -/

section Places

variable {q : ℚ}

lemma roundSignificant_abs (digits : ℕ) (q : ℚ) :
    |roundSignificant digits q| = roundSignificant digits |q| := by
  have hnonneg : 0 ≤ roundSignificant digits |q| := by
    refine mul_nonneg ?_ (by positivity)
    exact_mod_cast roundHalfEven_nonneg (div_nonneg (abs_nonneg q) (by positivity))
  have hneg : ∀ x : ℚ, roundSignificant digits (-x) = -roundSignificant digits x := by
    intro x
    have hexp : lastExponent digits (-x) = lastExponent digits x := by
      rw [lastExponent, lastExponent, abs_neg]
    rw [roundSignificant, roundSignificant, hexp, neg_div, roundHalfEven_neg, Int.cast_neg,
      neg_mul]
  rcases abs_choice q with h | h
  · rw [h] at hnonneg ⊢
    exact abs_of_nonneg hnonneg
  · rw [h, hneg] at hnonneg ⊢
    exact abs_of_nonpos (by linarith)

/-- Every limit between the last number with four places and the next power of ten is met by the
same numbers. -/
lemma roundSignificant_le_iff {limit : ℚ} (hlow : 10 ^ 24 - 1 / 10 ^ 4 ≤ limit)
    (hhigh : limit < 10 ^ 24) :
    roundSignificant 28 q ≤ limit ↔ q < 10 ^ 24 - 1 / 20000 := by
  norm_num at hlow hhigh
  rw [roundSignificant_eq_gridRound, gridRound_le_iff (n := 10 ^ 28 - 1) (e := -4)
    (by norm_num) (by norm_num) (by norm_num) (by norm_num) (by norm_num)
    (by norm_num; linarith) (by norm_num; linarith), roundHalfEven_le_iff_of_odd (by norm_num),
    div_lt_iff₀ (by positivity)]
  norm_num

/-- Four decimal places leave 28 digits exactly below this line. -/
theorem four_places_iff (q : ℚ) :
    roundHalfEven (|roundSignificant 28 q| * 10 ^ 4) < 10 ^ 28 ↔ |q| < 10 ^ 24 - 1 / 20000 := by
  rw [roundSignificant_abs]
  constructor
  · intro h
    have hnear := (abs_le.mp (roundHalfEven_near (roundSignificant 28 |q| * 10 ^ 4))).1
    have hcast : (roundHalfEven (roundSignificant 28 |q| * 10 ^ 4) : ℚ) ≤ 10 ^ 28 - 1 := by
      exact_mod_cast Int.le_sub_one_of_lt h
    refine (roundSignificant_le_iff (le_max_right (roundSignificant 28 |q|) _) ?_).mp
      (le_max_left _ _)
    refine max_lt ?_ (by norm_num)
    norm_num at hnear hcast ⊢
    linarith
  · intro h
    have hle := (roundSignificant_le_iff le_rfl (by norm_num)).mpr h
    have hint : roundSignificant 28 |q| * 10 ^ 4 ≤ ((10 ^ 28 - 1 : ℤ) : ℚ) := by
      norm_num at hle ⊢
      linarith
    exact Int.lt_of_le_sub_one (roundHalfEven_le hint)

end Places

end Python
