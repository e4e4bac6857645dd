import Mathlib.Algebra.Order.BigOperators.Group.List
import OpsCopilot.Model.Reports

/-!
# Reports on price changes

The demand of an item cancels in the prediction of a price change, so that the order history is
inert. The reported demand change fits the reported margin change up to the price at which the
predicted demand would fall below zero.
-/

namespace OpsCopilot

open Python Sql Fallible

/-- The share of a price that a change makes up. -/
def priceShare (newPrice oldPrice : ℚ) : ℚ := (newPrice - oldPrice) / oldPrice

lemma demand_pos (T : Tables) (t id : String) : 0 < (loadDemandBaseline T t id).getD 1 := by
  unfold loadDemandBaseline
  dsimp only
  split_ifs with hnone
  · exact zero_lt_one
  · rw [Option.getD_some]
    refine div_pos ?_ ?_
    · exact_mod_cast List.sum_pos _ (fun n hn => of_decide_eq_true (List.mem_filter.mp hn).2) hnone
    · exact_mod_cast List.length_pos_iff.mpr hnone

section Demand

variable {oldContribution newContribution demand demandChangePct : ℚ}

/-- The demand before the change cancels. -/
lemma valueChange_eq (hdemand : 0 < demand) :
    valueChange oldContribution newContribution demand demandChangePct =
      (newContribution * max 0 (1 + demandChangePct) - oldContribution) / oldContribution := by
  have hmax : max 0 (demand * (1 + demandChangePct)) = max 0 (1 + demandChangePct) * demand := by
    rw [mul_comm demand, max_mul_of_nonneg _ _ hdemand.le, zero_mul]
  rw [valueChange, hmax, ← mul_assoc, ← sub_mul]
  exact mul_div_mul_right _ _ hdemand.ne'

end Demand

section Outcome

variable {old new pct change cost demand : ℚ} (confidence : ℚ)

/-- The margin change with a known cost below the price. -/
lemma priceChangeByRecipe_margin (hmargin : 0 < old - cost) (hdemand : 0 < demand) :
    (priceChangeByRecipe old new pct change confidence cost demand).1 =
      ((new - cost) * max 0 (1 + change) - (old - cost)) / (old - cost) := by
  rw [priceChangeByRecipe, if_pos hmargin, if_pos (mul_pos hmargin hdemand)]
  exact valueChange_eq hdemand

/-- The margin change with the fallback cost. -/
lemma priceChangeByRatio_margin (hmargin : 0 < old - old * fallbackFoodCostRatio)
    (hdemand : 0 < demand) :
    (priceChangeByRatio old new pct change confidence demand).1 =
      ((new - old * fallbackFoodCostRatio) * max 0 (1 + change) -
        (old - old * fallbackFoodCostRatio)) / (old - old * fallbackFoodCostRatio) := by
  unfold priceChangeByRatio
  dsimp only
  rw [if_pos hmargin]
  exact valueChange_eq hdemand

lemma priceChangeByRecipe_demand {demand' : ℚ} (hdemand : 0 < demand) (hdemand' : 0 < demand') :
    priceChangeByRecipe old new pct change confidence cost demand =
      priceChangeByRecipe old new pct change confidence cost demand' := by
  by_cases hmargin : 0 < old - cost
  · refine Prod.ext ?_ ?_
    · rw [priceChangeByRecipe_margin confidence hmargin hdemand,
        priceChangeByRecipe_margin confidence hmargin hdemand']
    · rw [priceChangeByRecipe, priceChangeByRecipe, if_pos hmargin, if_pos hmargin]
  · rw [priceChangeByRecipe, priceChangeByRecipe, if_neg hmargin, if_neg hmargin]

lemma priceChangeByRatio_demand {demand' : ℚ} (hdemand : 0 < demand) (hdemand' : 0 < demand') :
    priceChangeByRatio old new pct change confidence demand =
      priceChangeByRatio old new pct change confidence demand' := by
  by_cases hmargin : 0 < old - old * fallbackFoodCostRatio
  · refine Prod.ext ?_ rfl
    rw [priceChangeByRatio_margin confidence hmargin hdemand,
      priceChangeByRatio_margin confidence hmargin hdemand']
  · unfold priceChangeByRatio
    dsimp only
    rw [if_neg hmargin, if_neg hmargin]

end Outcome

section History

variable (T : Tables) (t : String)

/-- Two order histories lead to the same prediction of a price change. -/
theorem price_report_of_history (history history' : List OrderVolume) (menuItemId newPrice : Value) :
    reportPriceChange { T with orderVolume := history } t menuItemId newPrice =
      reportPriceChange { T with orderVolume := history' } t menuItemId newPrice := by
  unfold reportPriceChange
  congr 1
  funext id
  congr 1
  funext n
  have hitem : validateMenuItem { T with orderVolume := history } t id =
      validateMenuItem { T with orderVolume := history' } t id := rfl
  rw [hitem]
  congr 1
  funext item
  dsimp only
  congr 1
  funext _
  congr 1
  funext _
  have hcost : loadRecipeCost { T with orderVolume := history } t id =
      loadRecipeCost { T with orderVolume := history' } t id := rfl
  rw [hcost]
  congr 1
  funext cost
  have hdemand := demand_pos { T with orderVolume := history } t id
  have hdemand' := demand_pos { T with orderVolume := history' } t id
  cases cost with
  | none =>
    dsimp only
    rw [priceChangeByRatio_demand _ hdemand hdemand']
  | some cost =>
    dsimp only
    rw [priceChangeByRecipe_demand _ hdemand hdemand']

/-- The order history affects neither the numbers of a price prediction nor what is published. -/
theorem order_history_inert (history history' : List OrderVolume) (menuItemId newPrice : Value) :
    reportPriceChange { T with orderVolume := history } t menuItemId newPrice =
        reportPriceChange { T with orderVolume := history' } t menuItemId newPrice ∧
      simulatePriceChange { T with orderVolume := history } t menuItemId newPrice =
        simulatePriceChange { T with orderVolume := history' } t menuItemId newPrice := by
  have hreport := price_report_of_history T t history history' menuItemId newPrice
  refine ⟨hreport, ?_⟩
  rw [simulatePriceChange_report, simulatePriceChange_report, hreport]

end History

/-! ### Margin against demand -/

section Consistency

variable {T : Tables} {t name : String} {menuItemId newPrice : Value} {n : ℚ} {item : MenuItem}
  {recipeCost : Option ℚ}

/-- The food cost that a prediction rests on: that of the recipe, or a share of the price. -/
def foodCost (oldPrice : ℚ) (recipeCost : Option ℚ) : ℚ :=
  recipeCost.getD (oldPrice * fallbackFoodCostRatio)

/-- The reported demand change and the reported margin change fit each other. -/
def Report.Consistent (r : Report) (oldPrice newPrice cost : ℚ) : Prop :=
  -1 ≤ r.demandChangePct ∧
    1 + r.marginChangePct =
      (newPrice - cost) * (1 + r.demandChangePct) / (oldPrice - cost)

/-- What is reported of an item above its food cost. -/
lemma reportPriceChange_above_cost
    (hname : validateIdentifier menuItemId "menu_item_id" = .ok name)
    (hnew : toPositiveDecimal newPrice "new_price" = .ok n)
    (hitem : T.menuItem? t name = some item) (hold : 0 < item.currentPrice.toRat)
    (hrecipe : loadRecipeCost T t name = .ok recipeCost)
    (hcost : foodCost item.currentPrice.toRat recipeCost < item.currentPrice.toRat) :
    ∃ r, reportPriceChange T t menuItemId newPrice = .ok r ∧
      r.demandChangePct = priceElasticity * priceShare n item.currentPrice.toRat ∧
      r.marginChangePct =
        ((n - foodCost item.currentPrice.toRat recipeCost) * max 0 (1 + r.demandChangePct) -
          (item.currentPrice.toRat - foodCost item.currentPrice.toRat recipeCost)) /
            (item.currentPrice.toRat - foodCost item.currentPrice.toRat recipeCost) := by
  have hfound : validateMenuItem T t name = .ok item := by
    rw [validateMenuItem, hitem, Option.elim]
  have hnumber : ¬item.currentPrice.isNan = true := by
    rw [Column.isNan_of_nonneg hold.le]
    exact Bool.false_ne_true
  have hdemand := demand_pos T t name
  cases recipeCost with
  | none =>
    exact ⟨_, bind_ok.mpr ⟨_, hname, bind_ok.mpr ⟨_, hnew, bind_ok.mpr ⟨_, hfound,
      bind_ok.mpr ⟨(), raiseIf_ok.mpr hnumber, bind_ok.mpr ⟨(), raiseIf_ok.mpr (not_le.mpr hold),
        bind_ok.mpr ⟨_, hrecipe, rfl⟩⟩⟩⟩⟩⟩, rfl,
      priceChangeByRatio_margin
        (max (3 / 10) (1 - |priceShare n item.currentPrice.toRat| * (3 / 2)))
        (sub_pos.mpr hcost) hdemand⟩
  | some cost =>
    exact ⟨_, bind_ok.mpr ⟨_, hname, bind_ok.mpr ⟨_, hnew, bind_ok.mpr ⟨_, hfound,
      bind_ok.mpr ⟨(), raiseIf_ok.mpr hnumber, bind_ok.mpr ⟨(), raiseIf_ok.mpr (not_le.mpr hold),
        bind_ok.mpr ⟨_, hrecipe, rfl⟩⟩⟩⟩⟩⟩, rfl,
      priceChangeByRecipe_margin _ (sub_pos.mpr hcost) hdemand⟩

/-- Predicted demand stays above zero up to eleven sixths of the price. -/
lemma demandChange_ge_iff {old : ℚ} (hold : 0 < old) :
    -1 ≤ priceElasticity * priceShare n old ↔ n ≤ 11 / 6 * old := by
  have hshare : priceShare n old ≤ 5 / 6 ↔ n ≤ 11 / 6 * old := by
    rw [priceShare, div_le_iff₀ hold]
    constructor
    · intro h
      linarith
    · intro h
      linarith
  rw [← hshare, priceElasticity]
  constructor
  · intro h
    linarith
  · intro h
    linarith

/-- The report on an item above its food cost is consistent exactly when the new price does not
exceed eleven sixths of the old one. -/
theorem price_report_consistent_iff
    (hname : validateIdentifier menuItemId "menu_item_id" = .ok name)
    (hnew : toPositiveDecimal newPrice "new_price" = .ok n)
    (hitem : T.menuItem? t name = some item) (hold : 0 < item.currentPrice.toRat)
    (hrecipe : loadRecipeCost T t name = .ok recipeCost)
    (hcost : foodCost item.currentPrice.toRat recipeCost < item.currentPrice.toRat) :
    ∃ r, reportPriceChange T t menuItemId newPrice = .ok r ∧
      simulatePriceChange T t menuItemId newPrice = r.publishPrice ∧
      (r.Consistent item.currentPrice.toRat n (foodCost item.currentPrice.toRat recipeCost) ↔
        n ≤ 11 / 6 * item.currentPrice.toRat) := by
  obtain ⟨r, hr, hdemand, hmargin⟩ :=
    reportPriceChange_above_cost hname hnew hitem hold hrecipe hcost
  refine ⟨r, hr, ?_, ?_⟩
  · rw [simulatePriceChange_report, hr, ok_bind]
  · rw [Report.Consistent, ← demandChange_ge_iff hold, ← hdemand]
    refine ⟨And.left, fun h => ⟨h, ?_⟩⟩
    have hgap := sub_pos.mpr hcost
    rw [hmargin, max_eq_right (by linarith), sub_div, div_self hgap.ne']
    ring

end Consistency

/-- A soup for 12.00 without a recipe. -/
def soupTables : Tables :=
  { Tables.empty with menuItems := [⟨"m", "t", "Soup", .number ⟨1200, by decide⟩, true⟩] }

/-- Tripling the price is reported to lose more than all of the demand. -/
theorem price_report_inconsistent :
    (∃ predicted, simulatePriceChange soupTables "t" (.str "m") (.int 36) = .ok predicted ∧
      predicted.demandChangePct = -12 / 5) ∧
    ∃ r, reportPriceChange soupTables "t" (.str "m") (.int 36) = .ok r ∧ ¬r.Consistent 12 36 (18 / 5) := by
  have hreport : reportPriceChange soupTables "t" (.str "m") (.int 36) =
      .ok ⟨-1, -12 / 5, 1 / 20, 3 / 10⟩ := by
    decide +kernel
  refine ⟨exists_ok_of_toOption (by decide +kernel), _, hreport, fun h => ?_⟩
  exact absurd h.1 (by norm_num)

theorem price_report_consistent_soup :
    ∃ r, reportPriceChange soupTables "t" (.str "m") (.int 13) = .ok r ∧
      simulatePriceChange soupTables "t" (.str "m") (.int 13) = r.publishPrice ∧
      (r.Consistent 12 13 (18 / 5) ↔ (13 : ℚ) ≤ 11 / 6 * 12) := by
  have hprice : (Column.number ⟨1200, by decide⟩ : Column 10 2).toRat = 12 := by decide +kernel
  have hitem : soupTables.menuItem? "t" "m" =
      some ⟨"m", "t", "Soup", .number ⟨1200, by decide⟩, true⟩ := by
    decide +kernel
  have hname : validateIdentifier (.str "m") "menu_item_id" = .ok "m" := by decide +kernel
  have hnew : toPositiveDecimal (.int 13) "new_price" = .ok 13 := by decide +kernel
  have hrecipe : loadRecipeCost soupTables "t" "m" = .ok none := by decide +kernel
  obtain ⟨r, hr, hpublish, hiff⟩ := price_report_consistent_iff hname hnew hitem
    (by decide +kernel) hrecipe (by decide +kernel)
  refine ⟨r, hr, hpublish, ?_⟩
  rw [foodCost, Option.getD_none, hprice, fallbackFoodCostRatio] at hiff
  norm_num at hiff ⊢
  exact hiff

end OpsCopilot
