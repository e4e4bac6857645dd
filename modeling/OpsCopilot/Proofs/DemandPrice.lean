import OpsCopilot.Proofs.PriceSteps

/-!
# Prices against a decline in demand

The rule cuts a price by 5 percent and snaps it to the price step. The result is below the price
unless the price lies under a step that the snapping reaches, which only happens to small prices.
-/

namespace OpsCopilot

open Python Fallible

/-! ### Room for a cut -/

/-- No number of steps that amounts to the price or more is as near to 95 percent of it, in
`Decimal`s, as half a step. -/
def LeavesRoom (p : ℚ) : Prop :=
  ∀ q s, contextResult (p * (1 - demandRecoveryDiscount)) = some q →
    contextResult (q / priceStep) = some s → ∀ n : ℕ, p ≤ n / 4 → s + 1 / 2 < n

section Room

variable {p q s : ℚ}

/-- The rounding of both operations. -/
lemma recovered_near (hp : 0 < p)
    (hq : contextResult (p * (1 - demandRecoveryDiscount)) = some q)
    (hs : contextResult (q / priceStep) = some s) :
    0 ≤ q ∧ 0 ≤ s ∧ |s - 19 / 5 * p| ≤ 10 ^ (-26 : ℤ) * p + 10 ^ (-26 : ℤ) := by
  have hcut : p * (1 - demandRecoveryDiscount) = 19 / 20 * p := by
    unfold demandRecoveryDiscount
    ring
  have hstep : q / priceStep = 4 * q := by
    unfold priceStep
    ring
  rw [hcut] at hq
  rw [hstep] at hs
  have hq0 : 0 ≤ q := contextResult_nonneg hq (by positivity)
  have hs0 : 0 ≤ s := contextResult_nonneg hs (by positivity)
  refine ⟨hq0, hs0, ?_⟩
  have hqnear := abs_le.mp (contextResult_near hq)
  have hsnear := abs_le.mp (contextResult_near hs)
  have htiny : (10 : ℚ) ^ (-1000026 : ℤ) ≤ 10 ^ (-30 : ℤ) :=
    zpow_le_zpow_right₀ (by norm_num) (by norm_num)
  rw [abs_of_nonneg (by positivity : (0 : ℚ) ≤ 19 / 20 * p)] at hqnear
  rw [abs_of_nonneg (by positivity : (0 : ℚ) ≤ 4 * q)] at hsnear
  generalize (10 : ℚ) ^ (-1000026 : ℤ) = tiny at hqnear hsnear htiny
  norm_num at hqnear hsnear htiny ⊢
  rw [abs_le]
  constructor <;> linarith

/-- Every price above ten steps leaves room. -/
theorem leavesRoom_of_gt (hp : 5 / 2 < p) : LeavesRoom p := by
  intro q s hq hs n hn
  obtain ⟨-, -, hnear⟩ := recovered_near (by linarith) hq hs
  have hnear' := (abs_le.mp hnear).2
  have h10 : (10 : ℚ) < n := by linarith
  have h11 : (11 : ℚ) ≤ n := by exact_mod_cast h10
  norm_num at hnear'
  linarith

/-- For a price of up to 26 digits nothing is rounded. -/
theorem leavesRoom_iff {m e : ℤ} (hp : 0 < p) (hm : p = m * 10 ^ e) (hfew : m.natAbs < 10 ^ 26)
    (he : -1000024 ≤ e) : LeavesRoom p ↔ ∀ n : ℕ, p ≤ n / 4 → 19 / 20 * p + 1 / 8 < n / 4 := by
  by_cases hgt : 5 / 2 < p
  · refine ⟨fun _ n hn => ?_, fun _ => leavesRoom_of_gt hgt⟩
    linarith
  · have hq : contextResult (p * (1 - demandRecoveryDiscount)) =
        some (p * (1 - demandRecoveryDiscount)) := by
      refine contextResult_of_exact (n := 95 * m) (e := e - 2) ?_ (by omega) (by omega) ?_
      · rw [hm, zpow_sub₀ (by norm_num)]
        unfold demandRecoveryDiscount
        push_cast
        norm_num
        ring
      · unfold demandRecoveryDiscount
        rw [abs_of_pos (by linarith)]
        linarith
    have hs : contextResult (p * (1 - demandRecoveryDiscount) / priceStep) =
        some (p * (1 - demandRecoveryDiscount) / priceStep) := by
      refine contextResult_of_exact (n := 38 * m) (e := e - 1) ?_ (by omega) (by omega) ?_
      · rw [hm, zpow_sub₀ (by norm_num)]
        unfold demandRecoveryDiscount priceStep
        push_cast
        norm_num
        ring
      · unfold demandRecoveryDiscount priceStep
        rw [abs_of_pos (by linarith)]
        linarith
    have hvalue : p * (1 - demandRecoveryDiscount) / priceStep = 19 / 5 * p := by
      unfold demandRecoveryDiscount priceStep
      ring
    constructor
    · intro h n hn
      have hlt := h _ _ hq hs n hn
      rw [hvalue] at hlt
      linarith
    · intro h q s hq' hs' n hn
      have hqeq := Option.some.inj (hq'.symm.trans hq)
      rw [hqeq] at hs'
      have hseq := Option.some.inj (hs'.symm.trans hs)
      rw [hseq, hvalue]
      linarith [h n hn]

end Room

/-! ### The rule -/

variable {O : Outside} {o : Opportunity} {p : ℚ}

lemma demandCandidate_of_price (hp : finiteDecimal (o.evidence.get "current_price") = some p)
    (hpos : 0 < p) {menuItemId : String} (hitem : o.namedItem = some menuItemId) :
    demandCandidate O o = (inContext (p * (1 - demandRecoveryDiscount)) >>= fun proposed =>
      if proposed ≤ 0 then .ok []
      else
        priceCandidate O o menuItemId proposed
          "Test a small, reversible price decrease against the detected demand decline."
          ["Demand decline is price-sensitive; simulate the proposed price change with " ++
            "Component 2 before execution."]) := by
  unfold demandCandidate
  rw [hitem, hp]
  exact if_neg (not_le.mpr hpos)

/-- The snapped price is below the price when that leaves room. -/
lemma snapped_lt (hpos : 0 < p) (hroom : LeavesRoom p) {q : ℚ}
    (hq : contextResult (p * (1 - demandRecoveryDiscount)) = some q) {n : ℤ} {x : FiniteFloat}
    (hn : SnapsTo q n) (hnpos : 0 < n) (hx : Snapped O n x) : x.toRat < p := by
  obtain ⟨s, hs, hunits⟩ := hn
  obtain ⟨-, hs0, hnear⟩ := recovered_near hpos hq hs
  have hfloor : (n : ℚ) ≤ s + 1 / 2 := by
    rw [quantizeUnits_eq hs0 hunits]
    exact Int.floor_le (s + 1 / 2)
  by_cases hsmall : n.natAbs < 10 ^ 13
  · rw [hx.exact hsmall]
    by_contra hge
    have hcast : ((n.toNat : ℕ) : ℚ) = n := by exact_mod_cast Int.toNat_of_nonneg hnpos.le
    have hlt := hroom q s hq hs n.toNat (by rw [hcast]; exact not_lt.mp hge)
    rw [hcast] at hlt
    linarith
  · have hbig : (10 : ℚ) ^ 13 ≤ n := by exact_mod_cast (by omega : (10 : ℤ) ^ 13 ≤ n)
    have habove := (abs_le.mp hx.near).2
    have hnear' := (abs_le.mp hnear).2
    rw [abs_of_pos (by linarith : (0 : ℚ) < n / 4)] at habove
    norm_num at habove hnear' hbig
    linarith

lemma demandCandidate_of_unnamed (hitem : o.namedItem = none) : demandCandidate O o = .ok [] := by
  unfold demandCandidate
  rw [hitem]

/-- Without room the rule proposes the price itself or a higher one. -/
lemma demandCandidate_of_no_room (hfloat : FloatReading O.floatOfDecimal)
    (hp : finiteDecimal (o.evidence.get "current_price") = some p) (hpos : 0 < p)
    {menuItemId : String} (hitem : o.namedItem = some menuItemId) (hroom : ¬LeavesRoom p) :
    ∃ c x, demandCandidate O o = .ok [c] ∧ c.payload.get "new_price" = .float (.finite x) ∧
      p ≤ x.toRat := by
  have hsmall : p ≤ 5 / 2 := not_lt.mp (fun hgt => hroom (leavesRoom_of_gt hgt))
  unfold LeavesRoom at hroom
  push Not at hroom
  obtain ⟨q, s, hq, hs, n, hn, hge⟩ := hroom
  obtain ⟨hq0, hs0, hnear⟩ := recovered_near hpos hq hs
  have hnpos : 0 < n := by
    rcases Nat.eq_zero_or_pos n with hn0 | hn0
    · rw [hn0, Nat.cast_zero, zero_div] at hn
      linarith
    · exact hn0
  have hqpos : 0 < q := by
    refine hq0.lt_of_ne (fun hq0' => ?_)
    rw [← hq0', zero_div, contextResult_of_exact (n := 0) (e := 0) (by norm_num) (by norm_num)
      (by norm_num) (by norm_num)] at hs
    have hone : (1 : ℚ) ≤ n := by exact_mod_cast hnpos
    linarith [Option.some.inj hs]
  have hfloor : (n : ℤ) ≤ ⌊s + 1 / 2⌋ := Int.le_floor.mpr (by exact_mod_cast hge)
  have hten : ⌊s + 1 / 2⌋ < 11 := by
    rw [Int.floor_lt]
    have hnear' := (abs_le.mp hnear).2
    norm_num at hnear' ⊢
    linarith
  have hsnaps : SnapsTo q ⌊s + 1 / 2⌋ := ⟨s, hs, quantizeUnits_of_nonneg hs0 (by omega)⟩
  rcases priceCandidate_of_snaps hfloat hsnaps demandRationale_reasoned with
    ⟨hnone, -⟩ | ⟨-, c, x, hc, hx, hsnapped⟩
  · omega
  · refine ⟨c, x, ?_, hx, ?_⟩
    · rw [demandCandidate_of_price hp hpos hitem, inContext_ok.mpr hq]
      exact (if_neg (not_le.mpr hqpos)).trans hc
    · have hcast : (n : ℚ) ≤ (⌊s + 1 / 2⌋ : ℤ) := by exact_mod_cast hfloor
      rw [hsnapped.exact (by omega)]
      linarith

/-- Every candidate of the rule lowers the price if and only if the price leaves room for it. -/
theorem demand_candidate_lowers_price (hfloat : FloatReading O.floatOfDecimal)
    (hp : finiteDecimal (o.evidence.get "current_price") = some p) (hpos : 0 < p) :
    ((∀ cs, demandCandidate O o = .ok cs → ∀ c ∈ cs, ∃ x,
        c.payload.get "new_price" = .float (.finite x) ∧ 0 < x.toRat ∧ x.toRat < p) ↔
      o.namedItem = none ∨ LeavesRoom p) ∧
    (5 / 2 < p → LeavesRoom p) ∧
    ∀ m e : ℤ, p = m * 10 ^ e → m.natAbs < 10 ^ 26 → -1000024 ≤ e →
      (LeavesRoom p ↔ ∀ n : ℕ, p ≤ n / 4 → 19 / 20 * p + 1 / 8 < n / 4) := by
  refine ⟨⟨fun h => ?_, ?_⟩, leavesRoom_of_gt, fun m e hm hfew he => leavesRoom_iff hpos hm hfew he⟩
  · cases hitem : o.namedItem with
    | none => exact .inl rfl
    | some menuItemId =>
      right
      by_contra hroom
      obtain ⟨c, x, hc, hx, hge⟩ := demandCandidate_of_no_room hfloat hp hpos hitem hroom
      obtain ⟨y, hy, -, hlt⟩ := h [c] hc c List.mem_cons_self
      rw [hx] at hy
      cases hy
      exact absurd hlt (not_lt.mpr hge)
  · intro hcase cs hcs
    cases hitem : o.namedItem with
    | none =>
      rw [← Except.ok.inj ((demandCandidate_of_unnamed hitem).symm.trans hcs)]
      exact List.forall_mem_nil _
    | some menuItemId =>
      have hroom := hcase.resolve_left (by rw [hitem]; exact Option.some_ne_none _)
      rw [demandCandidate_of_price hp hpos hitem] at hcs
      obtain ⟨q, hq, hcs⟩ := bind_ok.mp hcs
      split_ifs at hcs
      · rw [← Except.ok.inj hcs]
        exact List.forall_mem_nil _
      · refine priceCandidate_forall (Q := fun r => 0 < r ∧ r < p) hfloat
          demandRationale_reasoned ?_ hcs
        intro n x hn hnpos hx
        exact ⟨hx.pos_iff.mpr hnpos, snapped_lt hpos hroom (inContext_ok.mp hq) hn hnpos hx⟩

/-! ### A price without room -/

lemma affects_broth : ["broth"] ≠ [] ∧ ∀ e ∈ ["broth"], strip e ≠ "" := by decide +kernel

/-- A broth for one dollar is ordered less and less. -/
def dollarBroth : Opportunity where
  id := "demand_decline:broth"
  tenantId := "t"
  opportunityType := .demandDecline
  title := "Broth demand declined materially"
  cause := "Recent order volume is materially below the preceding equal-length baseline."
  affectedEntityIds := ["broth"]
  estimatedMonthlyImpact := .ofDigits true 3 1
  confidence := .ofDigits false 75 (-2)
  evidence := [(.str "menu_item_id", .str "broth"),
    (.str "current_price", .float (.finite (.ofDigits false 1 0)))]
  identified := by decide +kernel
  explained := by decide +kernel
  affects := affects_broth
  confidence_in_range := by decide +kernel

/-- The price against the decline is the old price. -/
theorem dollarBroth_not_lowered :
    (demandCandidate (Outside.prescribed []) dollarBroth).toOption.map (fun cs => cs.map (fun c =>
      (finiteDecimal (c.payload.get "new_price"),
        finiteDecimal (dollarBroth.evidence.get "current_price")))) = some [(some 1, some 1)] ∧
    ¬(1 : ℚ) < 1 := by
  refine ⟨by decide +kernel, lt_irrefl 1⟩

theorem dollarBroth_leaves_no_room :
    (∀ cs, demandCandidate (Outside.prescribed []) dollarBroth = .ok cs → ∀ c ∈ cs, ∃ x,
      c.payload.get "new_price" = .float (.finite x) ∧ 0 < x.toRat ∧ x.toRat < 1) ↔
    dollarBroth.namedItem = none ∨ LeavesRoom 1 :=
  (demand_candidate_lowers_price (Outside.prescribed_floatReading [])
    (by decide +kernel : finiteDecimal (dollarBroth.evidence.get "current_price") = some 1)
    one_pos).1

end OpsCopilot
