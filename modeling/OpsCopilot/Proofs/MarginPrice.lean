import OpsCopilot.Model.Detector
import OpsCopilot.Proofs.PriceSteps

/-!
# Prices that restore a margin

The rule divides the recipe cost by the share that the target margin leaves for it, and snaps the
quotient to the price step, halves up. Snapping may end below the quotient: the margin is restored
when it does not.
-/

namespace OpsCopilot

open Python Sql Fallible

variable {O : Outside}

/-! ### Detected opportunities -/

lemma Opportunity.make_ok {id tenantId : String} {kind : OpportunityType} {title cause : String}
    {affected : List String} {impact : PyFloat} {confidence : FiniteFloat} {evidence : Dict}
    {o : Opportunity}
    (h : Opportunity.make id tenantId kind title cause affected impact confidence evidence = .ok o) :
    o.opportunityType = kind ∧ o.affectedEntityIds = affected ∧ o.evidence = evidence := by
  unfold Opportunity.make at h
  cases impact with
  | finite impact =>
    split_ifs at h
    cases h
    exact ⟨rfl, rfl, rfl⟩
  | nan | inf _ => split_ifs at h

/-- What the evidence of a deteriorated margin says. -/
lemma marginOpportunity_ok {T : Tables} {tenantId : String} {now : Timestamp} {item : MenuItem}
    {o : Opportunity} (h : marginOpportunity O T tenantId now item = .ok (some o)) :
    0 < item.currentPrice.toRat ∧ o.affectedEntityIds = [item.id] ∧
      o.evidence.get "menu_item_id" = .str item.id ∧
      o.evidence.get "current_price" = .float (money O item.currentPrice.toRat) ∧
      ∃ cost, o.evidence.get "recipe_cost" = .float (money O cost) := by
  unfold marginOpportunity at h
  obtain ⟨cost, -, h⟩ := bind_ok.mp h
  cases cost with
  | none => cases h
  | some cost =>
    dsimp only at h
    by_cases hnan : item.currentPrice.isNan
    · rw [if_pos hnan] at h
      cases h
    rw [if_neg hnan] at h
    by_cases hprice : item.currentPrice.toRat ≤ 0
    · rw [if_pos hprice] at h
      cases h
    · rw [if_neg hprice] at h
      obtain ⟨cost, -, h⟩ := bind_ok.mp h
      obtain ⟨profit, -, h⟩ := bind_ok.mp h
      obtain ⟨margin, -, h⟩ := bind_ok.mp h
      obtain ⟨shortfall, -, h⟩ := bind_ok.mp h
      by_cases hshortfall : shortfall < minMarginShortfall
      · rw [if_pos hshortfall] at h
        cases h
      · rw [if_neg hshortfall] at h
        obtain ⟨monthlyUnits, -, h⟩ := bind_ok.mp h
        obtain ⟨targetProfit, -, h⟩ := bind_ok.mp h
        obtain ⟨gap, -, h⟩ := bind_ok.mp h
        obtain ⟨monthlyLoss, -, h⟩ := bind_ok.mp h
        obtain ⟨o', ho', h⟩ := bind_ok.mp h
        obtain ⟨-, haffected, hevidence⟩ := Opportunity.make_ok ho'
        rw [← Option.some.inj (pure_ok.mp h), haffected, hevidence]
        exact ⟨not_le.mp hprice, rfl, rfl, rfl, cost, rfl⟩

lemma stockoutOpportunity_type {T : Tables} {tenantId : String} {name : String → String}
    {level : InventoryLevel} {o : Opportunity}
    (h : stockoutOpportunity O T tenantId name level = .ok (some o)) :
    o.opportunityType = .stockoutExposure := by
  unfold stockoutOpportunity at h
  split_ifs at h
  · cases h
  · split at h
    · cases h
    · obtain ⟨o', ho', h⟩ := map_ok.mp h
      rw [← Option.some.inj h]
      exact (Opportunity.make_ok ho').1

lemma demandOpportunity_type {T : Tables} {tenantId : String} {now : Timestamp} {item : MenuItem}
    {o : Opportunity} (h : demandOpportunity O T tenantId now item = .ok (some o)) :
    o.opportunityType = .demandDecline := by
  unfold demandOpportunity at h
  dsimp only at h
  split_ifs at h
  · cases h
  · cases h
  · cases hprice : item.currentPrice with
    | nan =>
      rw [hprice] at h
      obtain ⟨o', ho', h⟩ := bind_ok.mp h
      rw [← Option.some.inj (pure_ok.mp h)]
      exact (Opportunity.make_ok ho').1
    | number price =>
      rw [hprice] at h
      obtain ⟨lost, -, h⟩ := bind_ok.mp h
      obtain ⟨monthly, -, h⟩ := bind_ok.mp h
      obtain ⟨o', ho', h⟩ := bind_ok.mp h
      rw [← Option.some.inj (pure_ok.mp h)]
      exact (Opportunity.make_ok ho').1

/-- A detected deterioration is about an active dish of the tenant. -/
theorem exists_item_of_detected {T : Tables} {tenantId : String} {now : Timestamp}
    {name : String → String} {os : List Opportunity}
    (hdetect : detectOpportunities O T tenantId name now = .ok os) {o : Opportunity} (ho : o ∈ os)
    (htype : o.opportunityType = .marginDeterioration) :
    ∃ item ∈ T.menuItems, item.tenantId = tenantId ∧
      marginOpportunity O T tenantId now item = .ok (some o) := by
  unfold detectOpportunities at hdetect
  obtain ⟨margins, hmargins, hdetect⟩ := bind_ok.mp hdetect
  obtain ⟨stockouts, hstockouts, hdetect⟩ := bind_ok.mp hdetect
  obtain ⟨demands, hdemands, hdetect⟩ := bind_ok.mp hdetect
  rw [← pure_ok.mp hdetect, List.mem_insertionSort, List.mem_filterMap] at ho
  obtain ⟨found, hfound, heq⟩ := ho
  rw [id_eq] at heq
  rw [heq, List.mem_append, List.mem_append] at hfound
  rcases hfound with (hfound | hfound) | hfound
  · obtain ⟨item, hitem, hmargin⟩ := exists_of_mem_mapM hmargins hfound
    obtain ⟨hmem, hprops⟩ := List.mem_filter.mp hitem
    exact ⟨item, hmem, (of_decide_eq_true hprops).1, hmargin⟩
  · obtain ⟨level, -, hstockout⟩ := exists_of_mem_mapM hstockouts hfound
    rw [stockoutOpportunity_type hstockout] at htype
    cases htype
  · obtain ⟨item, -, hdemand⟩ := exists_of_mem_mapM hdemands hfound
    rw [demandOpportunity_type hdemand] at htype
    cases htype

/-! ### Money -/

lemma roundHalfEven_of_near {q : ℚ} {n : ℤ} (h : |q - n| < 1 / 2) : roundHalfEven q = n := by
  have hround := abs_le.mp (roundHalfEven_near q)
  have hnear := abs_lt.mp h
  have hlt : (roundHalfEven q : ℚ) < n + 1 := by linarith
  have hgt : (n : ℚ) < roundHalfEven q + 1 := by linarith
  have hlt' : roundHalfEven q < n + 1 := by exact_mod_cast hlt
  have hgt' : n < roundHalfEven q + 1 := by exact_mod_cast hgt
  omega

lemma decimalRat_contextDecimal {q : ℚ} (hq : 0 ≤ q) :
    decimalRat (q < 0) (roundHalfEven (|q| / 10 ^ lastExponent 28 q)).natAbs (lastExponent 28 q) =
      roundSignificant 28 q := by
  have hround := roundHalfEven_nonneg
    (div_nonneg (abs_nonneg q) (zpow_nonneg (by norm_num : (0 : ℚ) ≤ 10) (lastExponent 28 q)))
  rw [decide_eq_false (not_lt.mpr hq), decimalRat, roundSignificant, Nat.cast_natAbs,
    abs_of_nonneg hround, abs_of_nonneg hq, if_neg (by simp), one_mul]

/-- A positive amount in cents is read as it is. -/
lemma money_cents (hfloat : FloatReading O.floatOfDecimal) {j : ℕ} (hpos : 0 < j)
    (hlt : j < 10 ^ 10) : ∃ x, money O (j / 100) = .finite x ∧ x.toRat = j / 100 := by
  have hvalue : (j / 100 : ℚ) = (j : ℤ) * 10 ^ (-2 : ℤ) := by
    norm_num
    ring
  have hcents : decimalRat false j (-2) = j / 100 := by
    rw [decimalRat, if_neg (by simp), one_mul]
    norm_num
    ring
  have hq : (0 : ℚ) < j / 100 := by positivity
  have hkept : roundSignificant 28 (j / 100 : ℚ) = j / 100 :=
    roundSignificant_exact hvalue (by rw [Int.natAbs_natCast]; omega) (by norm_num)
  have hsign : decide ((j / 100 : ℚ) < 0) = false := decide_eq_false (not_lt.mpr hq.le)
  obtain ⟨y, hy, hyrat⟩ := hfloat.exact _ _ _ j (-2)
    ((decimalRat_contextDecimal hq.le).trans (hkept.trans (by rw [hsign]; exact hcents.symm)))
    (by omega) (by norm_num) (by norm_num)
  rw [hsign, hcents] at hyrat
  have hneg : y.neg = false := by
    by_contra hneg
    have hle : y.toRat ≤ 0 := by
      rw [FiniteFloat.toRat, decimalRat, Bool.eq_true_of_not_eq_false hneg, if_pos rfl, neg_one_mul]
      exact neg_nonpos.mpr (mul_nonneg (Nat.cast_nonneg _) (by positivity))
    linarith
  have hunits : roundHalfEven (|binary64 y.toRat| * 10 ^ 2) = (j : ℤ) := by
    have hnear := abs_le.mp (binary64_near y.toRat)
    rw [hyrat, abs_of_pos hq] at hnear
    have hj : (j : ℚ) < 10000000000 := by exact_mod_cast hlt
    have hj1 : (1 : ℚ) ≤ j := by exact_mod_cast hpos
    have htiny : (2 : ℚ) ^ (-1075 : ℤ) ≤ 2 ^ (-60 : ℤ) :=
      zpow_le_zpow_right₀ (by norm_num) (by norm_num)
    generalize (2 : ℚ) ^ (-1075 : ℤ) = tiny at hnear htiny
    norm_num at hnear htiny
    apply roundHalfEven_of_near
    have hbpos : 0 ≤ binary64 (j / 100 : ℚ) := by linarith
    rw [hyrat, abs_of_nonneg hbpos, abs_lt]
    constructor
    · push_cast
      linarith
    · push_cast
      linarith
  obtain ⟨x, hx, hxrat⟩ := hfloat.exact false j (-2) j (-2) rfl (by omega) (by norm_num)
    (by norm_num)
  refine ⟨x, ?_, hxrat.trans hcents⟩
  unfold money floatOf contextDecimal
  rw [hy, roundFloat, hneg, hunits, Int.natAbs_natCast]
  exact hx

/-- An amount that is not enormous is read in cents. -/
lemma cents_of_money (hfloat : FloatReading O.floatOfDecimal) {q : ℚ} {x : FiniteFloat}
    (h : money O q = .finite x) (hpos : 0 ≤ x.toRat) (hlt : x.toRat < 10 ^ 11) :
    ∃ k : ℕ, x.toRat = k / 100 := by
  unfold money at h
  cases hy : floatOf O q with
  | nan =>
    rw [hy] at h
    cases h
  | inf neg =>
    rw [hy] at h
    cases h
  | finite y =>
    rw [hy, roundFloat] at h
    generalize (roundHalfEven (|binary64 y.toRat| * 10 ^ 2)).natAbs = n at h
    have hd : |decimalRat y.neg n (-2)| = n / 100 := by
      rw [abs_decimalRat]
      norm_num
      ring
    by_cases hn : n < 10 ^ 15
    · obtain ⟨x', hx', hrat⟩ := hfloat.exact y.neg n (-2) n (-2) rfl hn (by norm_num) (by norm_num)
      have hxx : x' = x := PyFloat.finite.inj (hx'.symm.trans h)
      rw [hxx] at hrat
      refine ⟨n, ?_⟩
      rw [← hd, ← hrat, abs_of_nonneg hpos]
    · have hbig : (1000000000000000 : ℚ) ≤ n := by exact_mod_cast not_lt.mp hn
      have hnear := hfloat.near y.neg n (-2) x h (by
        rw [hd]
        refine (zpow_le_one_of_nonpos₀ (by norm_num) (by norm_num)).trans ?_
        linarith)
      have htriangle := abs_sub_abs_le_abs_sub (decimalRat y.neg n (-2)) x.toRat
      rw [abs_sub_comm, abs_of_nonneg hpos] at htriangle
      rw [hd] at hnear htriangle
      norm_num at hnear hlt
      linarith

/-! ### The price that restores the margin -/

/-- The price at which the recipe cost leaves exactly the target margin. -/
def targetPrice (cost : ℚ) : ℚ := cost / (1 - targetContributionMargin)

/-- Snapping the target price to the price step does not end below it: the price exceeds the target
already, or the target is a number of steps, or it lies in the upper half of its step, or in the
first half of the first step, where nothing is proposed. From costs of `10 ^ 11` on it is the float
next to the snapped price that must not lie below the target. -/
def RestoresTarget (O : Outside) (price cost : ℚ) : Prop :=
  targetPrice cost ≤ price ∨
    if cost < 10 ^ 11 then
      targetPrice cost / priceStep < 1 / 2 ∨ Int.fract (targetPrice cost / priceStep) = 0 ∨
        1 / 2 ≤ Int.fract (targetPrice cost / priceStep)
    else
      ∀ q n x, contextResult (targetPrice cost) = some q → SnapsTo q n →
        O.floatOfDecimal (roundContext (n < 0) (25 * n.natAbs) (-2)) = .finite x →
          targetPrice cost ≤ x.toRat

section Target

variable {price cost q : ℚ} {j k : ℕ}

lemma targetPrice_cents (hcost : cost = k / 100) : targetPrice cost = k / 65 := by
  rw [targetPrice, targetContributionMargin, hcost]
  ring

lemma div_priceStep (q : ℚ) : q / priceStep = 4 * q := by
  unfold priceStep
  ring

/-- The error of the division, for costs that are not enormous. -/
lemma target_near (hcost : cost = k / 100) (hlt : cost < 10 ^ 11)
    (hq : contextResult (targetPrice cost) = some q) :
    0 ≤ q ∧ |q - targetPrice cost| ≤ 10 ^ (-15 : ℤ) := by
  have htarget := targetPrice_cents hcost
  have hk : (k : ℚ) < 10000000000000 := by
    rw [hcost] at hlt
    norm_num at hlt
    linarith
  have hnonneg : 0 ≤ targetPrice cost := by
    rw [htarget]
    positivity
  refine ⟨contextResult_nonneg hq hnonneg, (contextResult_near hq).trans ?_⟩
  have htiny : (10 : ℚ) ^ (-1000026 : ℤ) ≤ 10 ^ (-30 : ℤ) :=
    zpow_le_zpow_right₀ (by norm_num) (by norm_num)
  rw [abs_of_nonneg hnonneg, htarget]
  generalize (10 : ℚ) ^ (-1000026 : ℤ) = tiny at htiny
  norm_num at htiny ⊢
  linarith

/-- Rounding the target does not carry it across the price. -/
lemma restored_le_iff (hprice : price = j / 100) (hj : j < 10 ^ 10) (hcost : cost = k / 100)
    (hlt : cost < 10 ^ 11) (hq : contextResult (targetPrice cost) = some q) :
    q ≤ price ↔ targetPrice cost ≤ price := by
  have hnear := abs_le.mp (target_near hcost hlt hq).2
  have htarget := targetPrice_cents hcost
  norm_num at hnear
  rcases lt_trichotomy (20 * k) (13 * j) with h | h | h
  · have hgap : (20 * k + 1 : ℚ) ≤ 13 * j := by exact_mod_cast h
    rw [htarget] at hnear ⊢
    rw [hprice]
    constructor <;> intro <;> linarith
  · have heq : (20 * k : ℚ) = 13 * j := by exact_mod_cast h
    have hsame : targetPrice cost = price := by
      rw [htarget, hprice]
      linarith
    have hexact : targetPrice cost = (j : ℤ) * 10 ^ (-2 : ℤ) := by
      rw [hsame, hprice]
      norm_num
      ring
    rw [contextResult_exact hq hexact (by rw [Int.natAbs_natCast]; omega) (by norm_num)]
  · have hgap : (13 * j + 1 : ℚ) ≤ 20 * k := by exact_mod_cast h
    rw [htarget] at hnear ⊢
    rw [hprice]
    constructor <;> intro <;> linarith

/-- How many steps the target is snapped to. -/
lemma snapsTo_target (hcost : cost = k / 100) (hlt : cost < 10 ^ 11)
    (hq : contextResult (targetPrice cost) = some q) :
    SnapsTo q ⌊targetPrice cost / priceStep + 1 / 2⌋ := by
  obtain ⟨hq0, hnear⟩ := target_near hcost hlt hq
  have htarget := targetPrice_cents hcost
  have hk : (k : ℚ) < 10000000000000 := by
    rw [hcost] at hlt
    norm_num at hlt
    linarith
  have hnear' := abs_le.mp hnear
  rw [htarget] at hnear'
  norm_num at hnear'
  have habs : |q / priceStep| < 10 ^ 28 := by
    rw [div_priceStep, abs_of_nonneg (by positivity)]
    norm_num
    linarith
  have hs := contextResult_of_lt habs
  have hs0 := contextResult_nonneg hs (by rw [div_priceStep]; positivity)
  have hsnear := abs_le.mp (contextResult_near hs)
  refine ⟨_, hs, ?_⟩
  generalize roundSignificant 28 (q / priceStep) = s at hs0 hsnear
  rw [div_priceStep, abs_of_nonneg (by positivity : 0 ≤ 4 * q)] at hsnear
  have htiny : (10 : ℚ) ^ (-1000026 : ℤ) ≤ 10 ^ (-30 : ℤ) :=
    zpow_le_zpow_right₀ (by norm_num) (by norm_num)
  generalize (10 : ℚ) ^ (-1000026 : ℤ) = tiny at hsnear htiny
  norm_num at hsnear htiny
  -- Half a step above the target is an odd multiple of 1 / 130, and no whole number.
  obtain ⟨N, hN⟩ : ∃ N, N = ⌊targetPrice cost / priceStep + 1 / 2⌋ := ⟨_, rfl⟩
  have hfloor := (Int.floor_eq_iff).mp hN.symm
  rw [div_priceStep, htarget] at hfloor
  have hlow : 130 * N ≤ 8 * k + 65 := by
    have h : (130 * N : ℚ) ≤ 8 * k + 65 := by linarith [hfloor.1]
    exact_mod_cast h
  have hhigh : 8 * (k : ℤ) + 65 < 130 * N + 130 := by
    have h : (8 * k + 65 : ℚ) < 130 * N + 130 := by linarith [hfloor.2]
    exact_mod_cast h
  have hlow' : (130 * N + 1 : ℚ) ≤ 8 * k + 65 := by
    exact_mod_cast (by omega : 130 * N + 1 ≤ 8 * k + 65)
  have hhigh' : (8 * k + 65 + 1 : ℚ) ≤ 130 * N + 130 := by
    exact_mod_cast (by omega : 8 * (k : ℤ) + 65 + 1 ≤ 130 * N + 130)
  have hsame : ⌊s + 1 / 2⌋ = N := by
    rw [Int.floor_eq_iff]
    constructor <;> linarith
  have hbound : (N : ℚ) < 10 ^ 28 := by
    norm_num
    linarith
  rw [← hN, ← hsame]
  exact quantizeUnits_of_nonneg hs0 (by rw [hsame]; exact_mod_cast hbound)

lemma steps_lt (hnonneg : 0 ≤ cost) (hlt : cost < 10 ^ 11) :
    ⌊targetPrice cost / priceStep + 1 / 2⌋.natAbs < 10 ^ 13 := by
  have htarget : targetPrice cost / priceStep = 80 / 13 * cost := by
    rw [div_priceStep, targetPrice, targetContributionMargin]
    ring
  rw [htarget]
  have hpos : 0 ≤ ⌊80 / 13 * cost + 1 / 2⌋ := Int.floor_nonneg.mpr (by positivity)
  have hfloor : ⌊80 / 13 * cost + 1 / 2⌋ < 10 ^ 13 := by
    rw [Int.floor_lt]
    norm_num at hlt ⊢
    linarith
  omega

/-- Halves up does not round down. -/
lemma le_floor_add_half_iff (y : ℚ) :
    y ≤ ⌊y + 1 / 2⌋ ↔ Int.fract y = 0 ∨ 1 / 2 ≤ Int.fract y := by
  have hsplit := Int.floor_add_fract y
  have hpos := Int.fract_nonneg y
  have hlt := Int.fract_lt_one y
  rcases lt_or_ge (Int.fract y) (1 / 2) with h | h
  · have hfloor : ⌊y + 1 / 2⌋ = ⌊y⌋ := by
      rw [Int.floor_eq_iff]
      constructor <;> linarith
    rw [hfloor]
    constructor
    · intro hle
      left
      linarith
    · rintro (hzero | hhalf)
      · linarith
      · linarith
  · have hfloor : ⌊y + 1 / 2⌋ = ⌊y⌋ + 1 := by
      rw [Int.floor_eq_iff]
      push_cast
      constructor <;> linarith
    rw [hfloor]
    push_cast
    exact ⟨fun _ => .inr h, fun _ => by linarith⟩

/-- An enormous target stays large. -/
lemma large_near (hcost : 10 ^ 11 ≤ cost) (hq : contextResult (targetPrice cost) = some q) :
    10 ^ 11 < q := by
  have htarget : targetPrice cost = 20 / 13 * cost := by
    rw [targetPrice, targetContributionMargin]
    ring
  have hnear := abs_le.mp (contextResult_near hq)
  have hpos : 0 ≤ targetPrice cost := by
    rw [htarget]
    linarith
  have htiny : (10 : ℚ) ^ (-1000026 : ℤ) ≤ 1 :=
    zpow_le_one_of_nonpos₀ (by norm_num) (by norm_num)
  rw [abs_of_nonneg hpos, htarget] at hnear
  generalize (10 : ℚ) ^ (-1000026 : ℤ) = tiny at hnear htiny
  norm_num at hnear hcost ⊢
  linarith

lemma snapsTo_pos_of_large (hq : 10 ^ 11 < q) {n : ℤ} (hn : SnapsTo q n) : 0 < n := by
  obtain ⟨s, hs, hunits⟩ := hn
  rw [div_priceStep] at hs
  have hnear := abs_le.mp (contextResult_near hs)
  have htiny : (10 : ℚ) ^ (-1000026 : ℤ) ≤ 1 :=
    zpow_le_one_of_nonpos₀ (by norm_num) (by norm_num)
  rw [abs_of_pos (by linarith : 0 < 4 * q)] at hnear
  generalize (10 : ℚ) ^ (-1000026 : ℤ) = tiny at hnear htiny
  norm_num at hnear hq
  have hs1 : 1 ≤ s := by linarith
  rw [quantizeUnits_eq (by linarith) hunits]
  exact Int.floor_pos.mpr (by linarith)

/-- Rounding the target does not carry it down to the price. -/
lemma lt_restored (hprice : price = j / 100) (hj : j < 10 ^ 10)
    (hcents : cost < 10 ^ 11 → ∃ k : ℕ, cost = k / 100) (hlt : price < targetPrice cost)
    (hq : contextResult (targetPrice cost) = some q) : price < q := by
  by_cases hsmall : cost < 10 ^ 11
  · obtain ⟨k, hk⟩ := hcents hsmall
    exact not_le.mp (fun h => absurd ((restored_le_iff hprice hj hk hsmall hq).mp h) (not_le.mpr hlt))
  · have hlarge := large_near (not_lt.mp hsmall) hq
    have hj' : (j : ℚ) < 10000000000 := by exact_mod_cast hj
    rw [hprice]
    norm_num at hlarge
    linarith

end Target

/-! ### The rule -/

section Rule

variable {o : Opportunity} {menuItemId : String} {price cost : ℚ} {j : ℕ}

lemma marginCandidate_of_evidence (hitem : o.namedItem = some menuItemId)
    (hprice : finiteDecimal (o.evidence.get "current_price") = some price)
    (hcost : finiteDecimal (o.evidence.get "recipe_cost") = some cost)
    (hpos : 0 < price) (hnonneg : 0 ≤ cost) :
    marginCandidate O o = (inContext (targetPrice cost) >>= fun restored =>
      (if restored ≤ price then inContext (price + priceStep) else .ok restored) >>= fun proposed =>
        priceCandidate O o menuItemId proposed
          ("Raise price only enough to restore the configured contribution-margin target; " ++
            "Component 2 must estimate demand impact.") []) := by
  unfold marginCandidate
  rw [hitem, hprice, hcost]
  dsimp only
  rw [if_neg (not_or.mpr ⟨not_le.mpr hpos, not_lt.mpr hnonneg⟩)]
  refine congrArg (inContext (targetPrice cost) >>= ·) (funext fun restored => ?_)
  split_ifs
  · rfl
  · rfl

/-- A price that meets the target already is raised by a step, and snapping keeps most of it. -/
lemma raised_gt (hprice : price = j / 100) (hj : j < 10 ^ 10) {q : ℚ}
    (hq : contextResult (price + priceStep) = some q) {n : ℤ} {x : FiniteFloat}
    (hn : SnapsTo q n) (hx : Snapped O n x) : price < x.toRat := by
  have hj' : (j : ℚ) < 10000000000 := by exact_mod_cast hj
  have hqeq : q = price + priceStep := by
    refine contextResult_exact (n := j + 25) (e := -2) hq ?_ (by omega) (by norm_num)
    rw [hprice, priceStep]
    push_cast
    norm_num
    ring
  obtain ⟨s, hs, hunits⟩ := hn
  have hseq : s = 4 * price + 1 := by
    rw [hqeq, div_priceStep] at hs
    rw [contextResult_exact (n := 4 * j + 100) (e := -2) hs ?_ (by omega) (by norm_num), priceStep]
    · ring
    · rw [hprice, priceStep]
      push_cast
      norm_num
      ring
  have hpos : 0 ≤ price := by
    rw [hprice]
    positivity
  have hfloor := quantizeUnits_eq (by linarith) hunits
  have hlow := Int.sub_one_lt_floor (s + 1 / 2)
  have hhigh := Int.floor_le (s + 1 / 2)
  rw [← hfloor, hseq] at hlow hhigh
  have hsmall : n.natAbs < 10 ^ 13 := by
    have hlt : (n : ℚ) < 10000000000000 := by
      rw [hprice] at hhigh
      linarith
    have hgt : (-1 : ℚ) < n := by linarith
    have hlt' : n < 10000000000000 := by exact_mod_cast hlt
    have hgt' : -1 < n := by exact_mod_cast hgt
    omega
  rw [hx.exact hsmall]
  linarith

/-- The proposal for a price below the target, from the snapped target. -/
lemma marginCandidate_of_snaps (hfloat : FloatReading O.floatOfDecimal)
    (hitem : o.namedItem = some menuItemId)
    (hprice : finiteDecimal (o.evidence.get "current_price") = some price)
    (hcost : finiteDecimal (o.evidence.get "recipe_cost") = some cost)
    (hpos : 0 < price) (hnonneg : 0 ≤ cost) {q : ℚ}
    (hq : contextResult (targetPrice cost) = some q) (hlt : price < q) {n : ℤ} (hn : SnapsTo q n)
    (hnpos : 0 < n) : ∃ c x, marginCandidate O o = .ok [c] ∧
      c.payload.get "new_price" = .float (.finite x) ∧ Snapped O n x := by
  rcases priceCandidate_of_snaps hfloat hn marginRationale_reasoned with
    ⟨hnone, -⟩ | ⟨-, c, x, hc, hx, hsnapped⟩
  · omega
  · refine ⟨c, x, ?_, hx, hsnapped⟩
    rw [marginCandidate_of_evidence hitem hprice hcost hpos hnonneg, inContext_ok.mpr hq]
    change ((if q ≤ price then inContext (price + priceStep) else .ok q) >>= _) = _
    rw [if_neg (not_le.mpr hlt)]
    exact hc

/-- The rule meets its target for the prices and costs it is told, under the condition. -/
theorem marginCandidate_meets (hfloat : FloatReading O.floatOfDecimal)
    (hitem : o.namedItem = some menuItemId)
    (hprice : finiteDecimal (o.evidence.get "current_price") = some price)
    (hcost : finiteDecimal (o.evidence.get "recipe_cost") = some cost)
    (hj : price = j / 100) (hjpos : 0 < price) (hjlt : j < 10 ^ 10)
    (hcents : 0 ≤ cost → cost < 10 ^ 11 → ∃ k : ℕ, cost = k / 100)
    (h : RestoresTarget O price cost) {cs : List CandidateAction}
    (hcs : marginCandidate O o = .ok cs) : ∀ c ∈ cs, ∃ x,
      c.payload.get "new_price" = .float (.finite x) ∧
        price < x.toRat ∧ targetPrice cost ≤ x.toRat := by
  by_cases hnonneg : 0 ≤ cost
  · rw [marginCandidate_of_evidence hitem hprice hcost hjpos hnonneg] at hcs
    obtain ⟨q, hq, hcs⟩ := bind_ok.mp hcs
    have hq := inContext_ok.mp hq
    by_cases hle : targetPrice cost ≤ price
    · have hsmall : cost < 10 ^ 11 := by
        have hj' : (j : ℚ) < 10000000000 := by exact_mod_cast hjlt
        rw [targetPrice, targetContributionMargin, hj] at hle
        norm_num at hle ⊢
        linarith
      obtain ⟨k, hk⟩ := hcents hnonneg hsmall
      rw [if_pos ((restored_le_iff hj hjlt hk hsmall hq).mpr hle)] at hcs
      obtain ⟨raised, hraised, hcs⟩ := bind_ok.mp hcs
      refine priceCandidate_forall (Q := fun r => price < r ∧ targetPrice cost ≤ r) hfloat
        marginRationale_reasoned ?_ hcs
      intro n x hn hnpos hx
      have hgt := raised_gt hj hjlt (inContext_ok.mp hraised) hn hx
      exact ⟨hgt, hle.trans hgt.le⟩
    · rw [not_le] at hle
      rw [if_neg (not_le.mpr (lt_restored hj hjlt (hcents hnonneg) hle hq))] at hcs
      refine priceCandidate_forall (Q := fun r => price < r ∧ targetPrice cost ≤ r) hfloat
        marginRationale_reasoned ?_ hcs
      intro n x hn hnpos hx
      suffices hx : targetPrice cost ≤ x.toRat from ⟨hle.trans_le hx, hx⟩
      have hcase := h.resolve_left (not_le.mpr hle)
      split_ifs at hcase with hsmall
      · obtain ⟨k, hk⟩ := hcents hnonneg hsmall
        have hneq := hn.unique (snapsTo_target hk hsmall hq)
        have hupper := hcase.resolve_left (fun hhalf => by
          have hzero : ⌊targetPrice cost / priceStep + 1 / 2⌋ < 1 := by
            rw [Int.floor_lt]
            push_cast
            linarith
          omega)
        have hround := (le_floor_add_half_iff _).mpr hupper
        rw [← hneq] at hround
        rw [hx.exact (hneq ▸ steps_lt hnonneg hsmall)]
        rw [div_priceStep] at hround
        linarith
      · exact hcase q n x hq hn hx.read
  · unfold marginCandidate at hcs
    rw [hitem, hprice, hcost] at hcs
    dsimp only at hcs
    rw [if_pos (.inr (not_le.mp hnonneg))] at hcs
    rw [← Except.ok.inj hcs]
    exact List.forall_mem_nil _

/-- Where the condition fails the rule proposes a price below its target. -/
theorem restoresTarget_of_meets (hfloat : FloatReading O.floatOfDecimal)
    (hitem : o.namedItem = some menuItemId)
    (hprice : finiteDecimal (o.evidence.get "current_price") = some price)
    (hcost : finiteDecimal (o.evidence.get "recipe_cost") = some cost)
    (hj : price = j / 100) (hjpos : 0 < price) (hjlt : j < 10 ^ 10)
    (hcents : 0 ≤ cost → cost < 10 ^ 11 → ∃ k : ℕ, cost = k / 100)
    (h : ∀ cs, marginCandidate O o = .ok cs → ∀ c ∈ cs, ∃ x,
      c.payload.get "new_price" = .float (.finite x) ∧
        price < x.toRat ∧ targetPrice cost ≤ x.toRat) : RestoresTarget O price cost := by
  by_cases hle : targetPrice cost ≤ price
  · exact .inl hle
  · rw [not_le] at hle
    have htarget : targetPrice cost = 20 / 13 * cost := by
      rw [targetPrice, targetContributionMargin]
      ring
    have hnonneg : 0 ≤ cost := by
      rw [htarget] at hle
      linarith
    -- A number of steps that is reached is proposed, and meets the target.
    have hmeets : ∀ q n, contextResult (targetPrice cost) = some q → SnapsTo q n → 0 < n →
        ∃ x, Snapped O n x ∧ targetPrice cost ≤ x.toRat := by
      intro q n hq hn hnpos
      obtain ⟨c, x, hc, hx, hsnapped⟩ := marginCandidate_of_snaps hfloat hitem hprice hcost hjpos
        hnonneg hq (lt_restored hj hjlt (hcents hnonneg) hle hq) hn hnpos
      obtain ⟨y, hy, -, hge⟩ := h [c] hc c List.mem_cons_self
      rw [hx] at hy
      cases hy
      exact ⟨x, hsnapped, hge⟩
    right
    split_ifs with hsmall
    · obtain ⟨k, hk⟩ := hcents hnonneg hsmall
      by_cases hhalf : targetPrice cost / priceStep < 1 / 2
      · exact .inl hhalf
      · right
        have hlt28 : |targetPrice cost| < 10 ^ 28 := by
          rw [htarget, abs_of_nonneg (by positivity)]
          norm_num at hsmall ⊢
          linarith
        have hq := contextResult_of_lt hlt28
        obtain ⟨x, hsnapped, hge⟩ := hmeets _ _ hq (snapsTo_target hk hsmall hq)
          (Int.floor_pos.mpr (by linarith))
        rw [hsnapped.exact (steps_lt hnonneg hsmall)] at hge
        refine (le_floor_add_half_iff _).mp ?_
        rw [div_priceStep] at hge ⊢
        linarith
    · intro q n x hq hn hx
      obtain ⟨y, hsnapped, hge⟩ := hmeets q n hq hn
        (snapsTo_pos_of_large (large_near (not_lt.mp hsmall) hq) hn)
      rw [PyFloat.finite.inj (hx.symm.trans hsnapped.read)]
      exact hge

end Rule

/-! ### Detected deteriorations -/

/-- Every candidate for a detected deterioration raises the price of the dish to the target or
above if and only if snapping the target of the recipe cost does not end below it. -/
theorem margin_candidate_restores_target (hfloat : FloatReading O.floatOfDecimal) {T : Tables}
    {tenantId : String} {name : String → String} {now : Timestamp} {os : List Opportunity}
    (hdetect : detectOpportunities O T tenantId name now = .ok os) {o : Opportunity} (ho : o ∈ os)
    (htype : o.opportunityType = .marginDeterioration) :
    ∃ item ∈ T.menuItems, item.tenantId = tenantId ∧
      o.evidence.get "menu_item_id" = .str item.id ∧
      ((finiteDecimal (o.evidence.get "recipe_cost") = none ∧ marginCandidate O o = .ok []) ∨
        ∃ cost, finiteDecimal (o.evidence.get "recipe_cost") = some cost ∧
          ((∀ cs, marginCandidate O o = .ok cs → ∀ c ∈ cs, ∃ x,
              c.payload.get "new_price" = .float (.finite x) ∧
                item.currentPrice.toRat < x.toRat ∧ cost / (1 - targetContributionMargin) ≤ x.toRat) ↔
            RestoresTarget O item.currentPrice.toRat cost)) := by
  obtain ⟨item, hmem, htenant, hmargin⟩ := exists_item_of_detected hdetect ho htype
  obtain ⟨hpos, haffected, hid, hprice, charge, hcost⟩ := marginOpportunity_ok hmargin
  refine ⟨item, hmem, htenant, hid, ?_⟩
  have hitem : o.namedItem = some item.id := by
    unfold Opportunity.namedItem
    rw [hid]
    have hstrip := o.affects.2 item.id (by rw [haffected]; exact List.mem_singleton_self _)
    exact if_neg (not_or.mpr ⟨hstrip, not_not.mpr (by rw [haffected]; exact List.mem_singleton_self _)⟩)
  obtain ⟨stored, hstored⟩ := Column.number_of_nonneg hpos.le
  obtain ⟨j, hj⟩ : ∃ j : ℕ, stored.coeff = j := by
    refine ⟨stored.coeff.toNat, (Int.toNat_of_nonneg ?_).symm⟩
    by_contra hneg
    have hcoeff : (stored.coeff : ℚ) < 0 := by exact_mod_cast not_le.mp hneg
    rw [hstored, Column.toRat_number, Numeric.toRat] at hpos
    linarith [div_neg_of_neg_of_pos hcoeff (by norm_num : (0 : ℚ) < 10 ^ 2)]
  have hcents : item.currentPrice.toRat = j / 100 := by
    rw [hstored, Column.toRat_number, Numeric.toRat, hj]
    norm_num
  have hjlt : j < 10 ^ 10 := by
    have hfits := stored.fits
    rw [hj] at hfits
    simpa using hfits
  have hjpos : 0 < j := by
    rcases Nat.eq_zero_or_pos j with h0 | h0
    · rw [hcents, h0] at hpos
      norm_num at hpos
    · exact h0
  obtain ⟨x, hx, hxrat⟩ := money_cents hfloat hjpos hjlt
  have hread : finiteDecimal (o.evidence.get "current_price") = some item.currentPrice.toRat := by
    rw [hprice, hcents, hx, ← hxrat]
    rfl
  cases hcase : money O charge with
  | nan =>
    left
    rw [hcost, hcase]
    refine ⟨rfl, ?_⟩
    unfold marginCandidate
    rw [hitem, hread, hcost, hcase]
    rfl
  | inf neg =>
    left
    rw [hcost, hcase]
    refine ⟨rfl, ?_⟩
    unfold marginCandidate
    rw [hitem, hread, hcost, hcase]
    rfl
  | finite y =>
    right
    have hcharge : finiteDecimal (o.evidence.get "recipe_cost") = some y.toRat := by
      rw [hcost, hcase]
      rfl
    refine ⟨y.toRat, hcharge, ?_⟩
    constructor
    · exact restoresTarget_of_meets hfloat hitem hread hcharge hcents hpos hjlt
        (cents_of_money hfloat hcase)
    · intro h cs hcs
      exact marginCandidate_meets hfloat hitem hread hcharge hcents hpos hjlt
        (cents_of_money hfloat hcase) h hcs

/-! ### A price that is lowered -/

/-- A bisque for 1.03 with half a unit of lobster at 1.46. -/
def bisqueTables : Tables :=
  { Tables.empty with
    ingredients := [⟨"lobster", "t", .number ⟨146, by decide⟩, none, .number ⟨70000, by decide⟩⟩]
    menuItems := [⟨"bisque", "t", "Bisque", .number ⟨103, by decide⟩, true⟩]
    recipes := [⟨"bisque-recipe", "t", "bisque", true⟩]
    recipeIngredients := [⟨"t", "bisque-recipe", "lobster", ⟨5000, by decide⟩⟩] }

lemma bisque_detected :
    (detectOpportunities (Outside.prescribed []) bisqueTables "t" id 0).toOption.map (fun os =>
      os.map (fun o => (o.opportunityType, finiteDecimal (o.evidence.get "recipe_cost"),
        (marginCandidate (Outside.prescribed []) o).toOption.map (fun cs => cs.map (fun c =>
          finiteDecimal (c.payload.get "new_price")))))) =
      some [(.marginDeterioration, some (73 / 100), some [some 1])] := by
  decide +kernel

/-- The proposal against the deterioration of the margin lowers the price. -/
theorem bisque_lowered :
    (detectOpportunities (Outside.prescribed []) bisqueTables "t" id 0).toOption.map (fun os =>
      os.map (fun o => (o.opportunityType, finiteDecimal (o.evidence.get "recipe_cost"),
        (marginCandidate (Outside.prescribed []) o).toOption.map (fun cs => cs.map (fun c =>
          finiteDecimal (c.payload.get "new_price")))))) =
      some [(.marginDeterioration, some (73 / 100), some [some 1])] ∧
    bisqueTables.menuItems.map (fun m => m.currentPrice.toRat) = [103 / 100] ∧
    ¬(103 / 100 : ℚ) < 1 ∧ ¬(73 / 100 / (1 - targetContributionMargin) : ℚ) ≤ 1 := by
  refine ⟨bisque_detected, by decide +kernel, by norm_num, ?_⟩
  unfold targetContributionMargin
  norm_num

theorem bisque_restores_iff :
    ∃ os, detectOpportunities (Outside.prescribed []) bisqueTables "t" id 0 = .ok os ∧
      os.length = 1 ∧ ∀ o ∈ os, ∃ item ∈ bisqueTables.menuItems, item.tenantId = "t" ∧
        o.evidence.get "menu_item_id" = .str item.id ∧
        ((finiteDecimal (o.evidence.get "recipe_cost") = none ∧
            marginCandidate (Outside.prescribed []) o = .ok []) ∨
          ∃ cost, finiteDecimal (o.evidence.get "recipe_cost") = some cost ∧
            ((∀ cs, marginCandidate (Outside.prescribed []) o = .ok cs → ∀ c ∈ cs, ∃ x,
                c.payload.get "new_price" = .float (.finite x) ∧
                  item.currentPrice.toRat < x.toRat ∧
                  cost / (1 - targetContributionMargin) ≤ x.toRat) ↔
              RestoresTarget (Outside.prescribed []) item.currentPrice.toRat cost)) := by
  obtain ⟨os, hos, hmap⟩ := exists_ok_of_toOption bisque_detected
  have hlen := congrArg List.length hmap
  rw [List.length_map] at hlen
  refine ⟨os, hos, hlen, fun o ho => ?_⟩
  have hfound := List.mem_map_of_mem (f := fun o : Opportunity => (o.opportunityType,
    finiteDecimal (o.evidence.get "recipe_cost"),
    (marginCandidate (Outside.prescribed []) o).toOption.map (fun cs => cs.map (fun c =>
      finiteDecimal (c.payload.get "new_price"))))) ho
  rw [hmap] at hfound
  have htype := congrArg Prod.fst (List.mem_singleton.mp hfound)
  exact margin_candidate_restores_target (Outside.prescribed_floatReading []) hos ho htype

end OpsCopilot
