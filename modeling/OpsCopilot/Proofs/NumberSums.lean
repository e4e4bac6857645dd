import Mathlib.Algebra.Order.BigOperators.Group.List
import OpsCopilot.Model.Evaluation
import OpsCopilot.Lib.GridRounding

/-!
# Averages over numbers of several kinds

A sum of integers, floats and `Decimal`s has the kind of its summands and their exact total, in
whatever order they come. It fails on a float beside a `Decimal`, and in some order when a float
meets integers whose total no float holds.
-/

namespace OpsCopilot

open Python Fallible

namespace Number

def isFloat : Number → Bool
  | .float _ => true
  | _ => false

def isDecimal : Number → Bool
  | .decimal _ => true
  | _ => false

/-- What an integer adds to the total of the integers. -/
def integer : Number → ℤ
  | .int n => n
  | _ => 0

end Number

def exactSum (xs : List Number) : ℚ := (xs.map Number.value).sum

def integerSum (xs : List Number) : ℤ := (xs.map Number.integer).sum

/-- The exact sum as a number of its kind. -/
def summed (xs : List Number) : Number :=
  if xs.any Number.isDecimal then .decimal (exactSum xs)
  else if xs.any Number.isFloat then .float (exactSum xs)
  else .int (integerSum xs)

/-- When the average of the numbers is computed in every order. -/
structure Averageable (xs : List Number) : Prop where
  /-- No float meets a `Decimal`. -/
  kinds : xs.any Number.isFloat = true → xs.any Number.isDecimal = false
  /-- A float meets integers that floats hold. -/
  floats : xs.any Number.isFloat = true → overflowsFloat (integerSum xs) = false
  /-- The mean of integers is a float. -/
  integers : xs.any Number.isFloat = false → xs.any Number.isDecimal = false →
    overflowsFloat (exactSum xs / xs.length) = false
  /-- The mean of `Decimal`s has 24 digits before the point at most. -/
  decimals : xs.any Number.isDecimal = true → |exactSum xs / xs.length| < 10 ^ 24 - 1 / 20000

section Sums

variable {xs ys : List Number}

lemma summed_nil : summed [] = .int 0 := rfl

lemma exactSum_append : exactSum (xs ++ ys) = exactSum xs + exactSum ys := by
  rw [exactSum, List.map_append, List.sum_append]
  rfl

lemma integerSum_append : integerSum (xs ++ ys) = integerSum xs + integerSum ys := by
  rw [integerSum, List.map_append, List.sum_append]
  rfl

lemma exactSum_singleton (x : Number) : exactSum [x] = x.value := add_zero _

lemma integerSum_singleton (x : Number) : integerSum [x] = x.integer := add_zero _

lemma integerSum_nonneg (h : ∀ x ∈ xs, 0 ≤ x.integer) : 0 ≤ integerSum xs := by
  refine List.sum_nonneg fun n hn => ?_
  obtain ⟨x, hx, rfl⟩ := List.mem_map.mp hn
  exact h x hx

/-- Without floats and `Decimal`s, the total is that of the integers. -/
lemma exactSum_integers (hfloat : xs.any Number.isFloat = false)
    (hdecimal : xs.any Number.isDecimal = false) : exactSum xs = integerSum xs := by
  induction xs with
  | nil => rfl
  | cons x xs ih =>
    rw [List.any_cons, Bool.or_eq_false_iff] at hfloat hdecimal
    have hsum : exactSum (x :: xs) = x.value + exactSum xs := List.sum_cons
    have hint : integerSum (x :: xs) = x.integer + integerSum xs := List.sum_cons
    rw [hsum, hint, ih hfloat.2 hdecimal.2, Int.cast_add]
    cases x with
    | int n => rfl
    | float _ => cases hfloat.1
    | decimal _ => cases hdecimal.1

/-- Smaller integers are held by floats as well. -/
lemma overflowsFloat_mono {m n : ℤ} (hm : 0 ≤ m) (hmn : m ≤ n) (h : overflowsFloat n = false) :
    overflowsFloat m = false := by
  unfold overflowsFloat at h ⊢
  rw [decide_eq_false_iff_not, not_le] at h ⊢
  have hcast : (m : ℚ) ≤ n := by exact_mod_cast hmn
  have hpos : (0 : ℚ) ≤ m := by exact_mod_cast hm
  rw [abs_of_nonneg hpos]
  rw [abs_of_nonneg (hpos.trans hcast)] at h
  exact hcast.trans_lt h

/-- One summand: the sum stays the exact sum of what was added. -/
lemma summed_add {x : Number}
    (hfloat : xs.any Number.isFloat = true → x.isDecimal = false)
    (hdecimal : xs.any Number.isDecimal = true → x.isFloat = false)
    (hover : x.isFloat = true → overflowsFloat (integerSum xs) = false)
    (hover' : xs.any Number.isFloat = true → overflowsFloat x.integer = false) :
    (summed xs).add x = .ok (summed (xs ++ [x])) := by
  have hany : ∀ p : Number → Bool, (xs ++ [x]).any p = (xs.any p || p x) := by
    intro p
    rw [List.any_append, List.any_cons, List.any_nil, Bool.or_false]
  rw [summed, summed, hany, hany, exactSum_append, integerSum_append, exactSum_singleton,
    integerSum_singleton]
  cases hd : xs.any Number.isDecimal with
  | true =>
    cases x with
    | int n => rfl
    | float q => cases hdecimal hd
    | decimal q => rfl
  | false =>
    cases hf : xs.any Number.isFloat with
    | true =>
      cases x with
      | int n => exact if_neg (Bool.eq_false_iff.mp (hover' hf))
      | float q => rfl
      | decimal q => cases hfloat hf
    | false =>
      cases x with
      | int n => rfl
      | float q =>
        rw [exactSum_integers hf hd, add_comm]
        exact if_neg (Bool.eq_false_iff.mp (hover rfl))
      | decimal q =>
        rw [exactSum_integers hf hd, add_comm]
        rfl

/-- The whole sum. -/
lemma sumNumbers_eq (hnonneg : ∀ x ∈ xs, 0 ≤ x.integer)
    (hkinds : xs.any Number.isFloat = true → xs.any Number.isDecimal = false)
    (hfloats : xs.any Number.isFloat = true → overflowsFloat (integerSum xs) = false) :
    sumNumbers .ok xs = .ok (summed xs) := by
  have hrun : ∀ rest done, done ++ rest = xs →
      rest.foldlM (fun acc x => do acc.add (← Except.ok x)) (summed done) = .ok (summed xs) := by
    intro rest
    induction rest with
    | nil =>
      intro done hdone
      rw [List.foldlM_nil, ← hdone, List.append_nil]
      rfl
    | cons x rest ih =>
      intro done hdone
      have hany : ∀ p : Number → Bool, xs.any p = (done.any p || (p x || rest.any p)) := by
        intro p
        rw [← hdone, List.any_append, List.any_cons]
      have htotal : integerSum xs = integerSum done + (x.integer + integerSum rest) := by
        rw [← hdone, integerSum_append]
        rfl
      have hpos : 0 ≤ integerSum done ∧ 0 ≤ x.integer ∧ 0 ≤ integerSum rest := by
        rw [← hdone] at hnonneg
        refine ⟨integerSum_nonneg fun y hy => ?_, ?_, integerSum_nonneg fun y hy => ?_⟩
        · exact hnonneg y (List.mem_append_left _ hy)
        · exact hnonneg x (List.mem_append_right _ List.mem_cons_self)
        · exact hnonneg y (List.mem_append_right _ (List.mem_cons_of_mem _ hy))
      have hdoneFloat : done.any Number.isFloat = true → xs.any Number.isFloat = true := by
        intro h
        rw [hany, h, Bool.true_or]
      have hstep := @summed_add done x ?_ ?_ ?_ ?_
      · rw [List.foldlM_cons, ok_bind, hstep, ok_bind]
        refine ih (done ++ [x]) ?_
        rw [List.append_assoc, ← hdone]
        rfl
      · intro h
        have hnone := hkinds (hdoneFloat h)
        rw [hany] at hnone
        exact (Bool.or_eq_false_iff.mp (Bool.or_eq_false_iff.mp hnone).2).1
      · intro h
        cases hx : x.isFloat with
        | false => rfl
        | true =>
          have hnone := hkinds (by rw [hany, hx, Bool.true_or, Bool.or_true])
          rw [hany, h, Bool.true_or] at hnone
          cases hnone
      · intro hx
        refine overflowsFloat_mono hpos.1 ?_ (hfloats (by rw [hany, hx, Bool.true_or, Bool.or_true]))
        linarith [hpos.2.1, hpos.2.2]
      · intro h
        refine overflowsFloat_mono hpos.2.1 ?_ (hfloats (hdoneFloat h))
        linarith [hpos.1, hpos.2.2]
  rw [sumNumbers, ← summed_nil]
  exact hrun xs [] rfl

/-- Neither a float nor a `Decimal` is lost in a sum. -/
lemma add_kinds {x y z : Number} (h : x.add y = .ok z) :
    (x.isFloat = true ∨ y.isFloat = true → z.isFloat = true) ∧
      (x.isDecimal = true ∨ y.isDecimal = true → z.isDecimal = true) := by
  cases x with
  | int m =>
    cases y with
    | int n =>
      obtain rfl := Except.ok.inj h
      exact ⟨fun hor => hor.elim id id, fun hor => hor.elim id id⟩
    | float q =>
      rw [Number.add] at h
      split_ifs at h
      obtain rfl := Except.ok.inj h
      exact ⟨fun _ => rfl, fun hor => hor.elim id id⟩
    | decimal q =>
      obtain rfl := Except.ok.inj h
      exact ⟨fun hor => hor.elim id id, fun _ => rfl⟩
  | float p =>
    cases y with
    | int n =>
      rw [Number.add] at h
      split_ifs at h
      obtain rfl := Except.ok.inj h
      exact ⟨fun _ => rfl, fun hor => hor.elim id id⟩
    | float q =>
      obtain rfl := Except.ok.inj h
      exact ⟨fun _ => rfl, fun hor => hor.elim id id⟩
    | decimal q => cases h
  | decimal p =>
    cases y with
    | int n =>
      obtain rfl := Except.ok.inj h
      exact ⟨fun hor => hor.elim id id, fun _ => rfl⟩
    | float q => cases h
    | decimal q =>
      obtain rfl := Except.ok.inj h
      exact ⟨fun hor => hor.elim id id, fun _ => rfl⟩

/-- A sum that exists does not mix the two kinds. -/
lemma sumNumbers_kinds {s : Number} (h : sumNumbers .ok xs = .ok s)
    (hfloat : xs.any Number.isFloat = true) : xs.any Number.isDecimal = false := by
  have hrun : ∀ (xs : List Number) (acc : Number), xs.foldlM (fun acc x => do acc.add (← Except.ok x)) acc =
      .ok s → (acc.isFloat = true ∨ xs.any Number.isFloat = true → s.isFloat = true) ∧
        (acc.isDecimal = true ∨ xs.any Number.isDecimal = true → s.isDecimal = true) := by
    intro xs
    induction xs with
    | nil =>
      intro acc hacc
      obtain rfl := Except.ok.inj hacc
      exact ⟨fun hor => hor.elim id (absurd · Bool.false_ne_true),
        fun hor => hor.elim id (absurd · Bool.false_ne_true)⟩
    | cons x xs ih =>
      intro acc hacc
      rw [List.foldlM_cons, ok_bind] at hacc
      obtain ⟨next, hadd, hrest⟩ := bind_ok.mp hacc
      have hkinds := add_kinds hadd
      have hnext := ih next hrest
      simp only [List.any_cons, Bool.or_eq_true, ← or_assoc]
      exact ⟨fun hor => hnext.1 (hor.imp_left hkinds.1), fun hor => hnext.2 (hor.imp_left hkinds.2)⟩
  have hs := hrun xs (.int 0) h
  cases hdecimal : xs.any Number.isDecimal with
  | false => rfl
  | true =>
    have h₁ := hs.1 (.inr hfloat)
    have h₂ := hs.2 (.inr hdecimal)
    cases s with
    | int _ | float _ => cases h₂
    | decimal _ => cases h₁

/-- When the integers come first, a float behind them converts their total. -/
lemma overflowsFloat_of_sum {s y : Number} (hnonneg : ∀ x ∈ xs, 0 ≤ x.integer)
    (hfloat : xs.any Number.isFloat = false) (hdecimal : xs.any Number.isDecimal = false)
    (hy : y.isFloat = true) (h : sumNumbers .ok (xs ++ y :: ys) = .ok s) :
    overflowsFloat (integerSum xs) = false := by
  have hints : summed xs = .int (integerSum xs) := by
    rw [summed, hdecimal, hfloat]
    rfl
  have hprefix := sumNumbers_eq hnonneg (fun _ => hdecimal) (fun hany => by
    rw [hfloat] at hany
    cases hany)
  unfold sumNumbers at h hprefix
  rw [List.foldlM_append, hprefix, ok_bind, List.foldlM_cons, ok_bind, hints] at h
  obtain ⟨acc, hadd, -⟩ := bind_ok.mp h
  cases y with
  | int _ | decimal _ => cases hy
  | float q =>
    rw [Number.add] at hadd
    split_ifs at hadd with hover
    exact Bool.eq_false_iff.mpr hover

/-! ### Averages -/

lemma not_ok_error {α : Type} {e : PyException} :
    ¬∃ a : α, (Except.error e : Except PyException α) = .ok a := by
  rintro ⟨a, ha⟩
  cases ha

/-- A `Decimal` of the context is rounded to four places within its digits. -/
lemma decimal_mean_iff (q : ℚ) : (∃ m, decimalResult q >>= Number.roundFour = .ok m) ↔
    |q| < 10 ^ 24 - 1 / 20000 := by
  rw [← four_places_iff]
  cases hq : contextResult q with
  | none =>
    have hlarge : ¬|q| ≤ 10 ^ (999998 : ℤ) := by
      intro hle
      rw [contextResult_of_small hle] at hq
      cases hq
    have herror : decimalResult q = .error decimalOverflow := by
      rw [decimalResult, inContext, hq]
      rfl
    rw [herror, error_bind, four_places_iff]
    refine iff_of_false not_ok_error (fun hlt => hlarge (hlt.le.trans ?_))
    calc (10 : ℚ) ^ 24 - 1 / 20000 ≤ 10 ^ (24 : ℤ) := by norm_num
      _ ≤ 10 ^ (999998 : ℤ) := zpow_le_zpow_right₀ (by norm_num) (by norm_num)
  | some r =>
    have hok : decimalResult q = .ok (.decimal (roundSignificant 28 q)) := by
      rw [decimalResult, inContext, hq, contextResult_eq hq]
      rfl
    rw [hok, ok_bind, Number.roundFour]
    by_cases hover : 10 ^ 28 ≤ roundHalfEven (|roundSignificant 28 q| * 10 ^ 4)
    · rw [if_pos hover]
      exact iff_of_false not_ok_error (not_lt.mpr hover)
    · rw [if_neg hover]
      exact iff_of_true ⟨_, rfl⟩ (not_le.mp hover)

/-- The mean of a sum that exists. -/
lemma average_ok_iff (hsum : sumNumbers .ok xs = .ok (summed xs)) (hne : xs ≠ []) :
    (∃ m, average .ok xs = .ok m) ↔
      (xs.any Number.isFloat = false → xs.any Number.isDecimal = false →
        overflowsFloat (exactSum xs / xs.length) = false) ∧
      (xs.any Number.isDecimal = true → |exactSum xs / xs.length| < 10 ^ 24 - 1 / 20000) := by
  have hempty : ¬xs.isEmpty = true := fun h => hne (List.isEmpty_iff.mp h)
  have hmean : (∃ m, average .ok xs = .ok m) ↔
      ∃ m, (summed xs).overLength xs.length >>= Number.roundFour = .ok m := by
    rw [average, if_neg hempty, hsum, ok_bind]
    cases (summed xs).overLength xs.length with
    | error e =>
      rw [error_bind, error_bind]
      exact iff_of_false not_ok_error not_ok_error
    | ok x =>
      rw [ok_bind, ok_bind]
      cases x.roundFour with
      | error e => exact iff_of_false not_ok_error not_ok_error
      | ok y => exact iff_of_true ⟨_, rfl⟩ ⟨_, rfl⟩
  rw [hmean, summed]
  cases hd : xs.any Number.isDecimal with
  | true =>
    refine (decimal_mean_iff _).trans ?_
    simp
  | false =>
    cases hf : xs.any Number.isFloat with
    | true => simp [Number.overLength, Number.roundFour, ok_bind]
    | false =>
      rw [exactSum_integers hf hd, if_neg Bool.false_ne_true, if_neg Bool.false_ne_true,
        Number.overLength]
      by_cases hover : overflowsFloat ((integerSum xs : ℚ) / xs.length) = true
      · rw [if_pos hover, error_bind]
        exact iff_of_false not_ok_error (fun h => Bool.eq_false_iff.mp (h.1 rfl rfl) hover)
      · rw [if_neg hover]
        exact iff_of_true ⟨_, rfl⟩
          ⟨fun _ _ => Bool.eq_false_iff.mpr hover, fun h => absurd h Bool.false_ne_true⟩

lemma exactSum_perm (h : ys.Perm xs) : exactSum ys = exactSum xs := (h.map _).sum_eq

lemma integerSum_perm (h : ys.Perm xs) : integerSum ys = integerSum xs := (h.map _).sum_eq

lemma averageable_nil : Averageable [] where
  kinds _ := rfl
  floats _ := overflowsFloat_of_small (by norm_num [integerSum])
  integers _ _ := overflowsFloat_of_small (by norm_num [exactSum])
  decimals h := absurd h Bool.false_ne_true

lemma Averageable.perm (h : Averageable xs) (hperm : ys.Perm xs) : Averageable ys := by
  constructor
  all_goals
    simp only [hperm.any_eq, exactSum_perm hperm, integerSum_perm hperm, hperm.length_eq]
  · exact h.kinds
  · exact h.floats
  · exact h.integers
  · exact h.decimals

lemma Averageable.exists_average (hnonneg : ∀ x ∈ xs, 0 ≤ x.integer) (h : Averageable xs) :
    ∃ m, average .ok xs = .ok m := by
  by_cases hne : xs = []
  · exact ⟨none, if_pos (List.isEmpty_iff.mpr hne)⟩
  · exact (average_ok_iff (sumNumbers_eq hnonneg h.kinds h.floats) hne).mpr
      ⟨h.integers, h.decimals⟩

/-- Every order has the same average. -/
lemma average_perm (hnonneg : ∀ x ∈ xs, 0 ≤ x.integer) (h : Averageable xs) (hperm : ys.Perm xs) :
    average .ok ys = average .ok xs := by
  have hnonneg' : ∀ y ∈ ys, 0 ≤ y.integer := fun y hy => hnonneg y (hperm.mem_iff.mp hy)
  have hys := h.perm hperm
  have hsummed : summed ys = summed xs := by
    rw [summed, summed, hperm.any_eq, hperm.any_eq, exactSum_perm hperm,
      integerSum_perm hperm]
  have hempty : ys.isEmpty = xs.isEmpty := by
    rw [Bool.eq_iff_iff, List.isEmpty_iff, List.isEmpty_iff]
    exact ⟨fun hnil => (hnil ▸ hperm).nil_eq.symm, fun hnil => (hnil ▸ hperm).eq_nil⟩
  rw [average, average, sumNumbers_eq hnonneg h.kinds h.floats,
    sumNumbers_eq hnonneg' hys.kinds hys.floats, hsummed, hempty, hperm.length_eq]

lemma sum_of_average {m : Option Number} (hne : xs ≠ []) (h : average .ok xs = .ok m) :
    ∃ s, sumNumbers .ok xs = .ok s := by
  rw [average, if_neg (fun hnil => hne (List.isEmpty_iff.mp hnil))] at h
  obtain ⟨s, hs, -⟩ := bind_ok.mp h
  exact ⟨s, hs⟩

/-- With the integers first, their whole total meets a float. -/
lemma overflowsFloat_of_orders {α : Type} {f : α → Option Number} {records : List α}
    (hnonneg : ∀ r ∈ records, ∀ x, f r = some x → 0 ≤ x.integer)
    (h : ∀ rs : List α, rs.Perm records → ∃ m, average .ok (rs.filterMap f) = .ok m)
    (hdecimal : (records.filterMap f).any Number.isDecimal = false)
    (hfloat : (records.filterMap f).any Number.isFloat = true) :
    overflowsFloat (integerSum (records.filterMap f)) = false := by
  set float : α → Bool := fun r => (f r).any Number.isFloat with hdef
  have hperm : (records.filter (fun r => !float r) ++ records.filter float).Perm records := by
    refine List.perm_append_comm.trans ?_
    exact List.filter_append_perm float records
  obtain ⟨m, hm⟩ := h _ hperm
  rw [← integerSum_perm (hperm.filterMap f), List.filterMap_append, integerSum_append]
  rw [List.filterMap_append] at hm
  have hints : ∀ x ∈ (records.filter (fun r => !float r)).filterMap f,
      x ∈ records.filterMap f ∧ x.isFloat = false := by
    intro x hx
    obtain ⟨r, hr, hfr⟩ := List.mem_filterMap.mp hx
    obtain ⟨hr, hnot⟩ := List.mem_filter.mp hr
    refine ⟨List.mem_filterMap.mpr ⟨r, hr, hfr⟩, ?_⟩
    simpa [hdef, hfr] using hnot
  have hfloats : ∀ x ∈ (records.filter float).filterMap f, x.isFloat = true := by
    intro x hx
    obtain ⟨r, hr, hfr⟩ := List.mem_filterMap.mp hx
    simpa [hdef, hfr] using (List.mem_filter.mp hr).2
  obtain ⟨x, hx, hxfloat⟩ := List.any_eq_true.mp hfloat
  obtain ⟨r, hr, hfr⟩ := List.mem_filterMap.mp hx
  have hmem : x ∈ (records.filter float).filterMap f :=
    List.mem_filterMap.mpr ⟨r, List.mem_filter.mpr ⟨hr, by simp [hdef, hfr, hxfloat]⟩, hfr⟩
  have hzero : integerSum ((records.filter float).filterMap f) = 0 := by
    refine List.sum_eq_zero fun n hn => ?_
    obtain ⟨y, hy, rfl⟩ := List.mem_map.mp hn
    cases y with
    | float _ => rfl
    | int _ | decimal _ => cases hfloats _ hy
  rw [hzero, add_zero]
  obtain ⟨y, ys, hys⟩ := List.exists_cons_of_ne_nil (List.ne_nil_of_mem hmem)
  rw [hys] at hm hfloats
  obtain ⟨s, hs⟩ := sum_of_average (List.append_ne_nil_of_right_ne_nil _ (List.cons_ne_nil y ys)) hm
  refine overflowsFloat_of_sum ?_ ?_ ?_ (hfloats y List.mem_cons_self) hs
  · intro z hz
    obtain ⟨r, hr, hfr⟩ := List.mem_filterMap.mp (hints z hz).1
    exact hnonneg r hr z hfr
  · exact List.any_eq_false.mpr fun z hz => Bool.eq_false_iff.mp (hints z hz).2
  · exact List.any_eq_false.mpr fun z hz =>
      List.any_eq_false.mp hdecimal z (hints z hz).1

/-- The averages of all orders of the records, where `f` is the number of a record. -/
theorem averages_iff {α : Type} {f : α → Option Number} {records : List α}
    (hnonneg : ∀ r ∈ records, ∀ x, f r = some x → 0 ≤ x.integer) :
    (∀ rs : List α, rs.Perm records → ∃ m, average .ok (rs.filterMap f) = .ok m) ↔
      Averageable (records.filterMap f) := by
  have hmem : ∀ rs : List α, rs.Perm records → ∀ x ∈ rs.filterMap f, 0 ≤ x.integer := by
    intro rs hrs x hx
    obtain ⟨r, hr, hfr⟩ := List.mem_filterMap.mp hx
    exact hnonneg r (hrs.mem_iff.mp hr) x hfr
  constructor
  · intro h
    by_cases hne : records.filterMap f = []
    · rw [hne]
      exact averageable_nil
    obtain ⟨m, hm⟩ := h records (.refl _)
    obtain ⟨s, hs⟩ := sum_of_average hne hm
    have hkinds := sumNumbers_kinds hs
    have hfloats : (records.filterMap f).any Number.isFloat = true →
        overflowsFloat (integerSum (records.filterMap f)) = false := by
      exact fun hfloat => overflowsFloat_of_orders hnonneg h (hkinds hfloat) hfloat
    have hsummed := sumNumbers_eq (hmem records (.refl _)) hkinds hfloats
    obtain ⟨hintegers, hdecimals⟩ := (average_ok_iff hsummed hne).mp ⟨m, hm⟩
    exact ⟨hkinds, hfloats, hintegers, hdecimals⟩
  · intro h rs hrs
    exact (h.perm (hrs.filterMap f)).exists_average (hmem rs hrs)

end Sums

end OpsCopilot
