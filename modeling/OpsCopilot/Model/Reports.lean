import OpsCopilot.Model.Simulator

/-!
# Predictions before they are rounded

`simulate_price_change` and `simulate_supplier_switch` up to the numbers that they hand to
`PredictedOutcome`, as the exact rationals that they compute.
-/

namespace OpsCopilot

open Python Sql Fallible

/-- The numbers of a prediction. -/
structure Report where
  marginChangePct : ℚ
  demandChangePct : ℚ
  stockoutRisk : ℚ
  confidence : ℚ
deriving DecidableEq

/-- What `simulate_price_change` makes of its numbers. -/
def Report.publishPrice (r : Report) : Except PyException PredictedOutcome :=
  PredictedOutcome.make (pyRound 4 r.marginChangePct) (pyRound 4 r.demandChangePct) r.stockoutRisk
    (pyRound 3 r.confidence)

/-- What `simulate_supplier_switch` makes of them. -/
def Report.publishSwitch (r : Report) : Except PyException PredictedOutcome :=
  PredictedOutcome.make (pyRound 4 r.marginChangePct) r.demandChangePct (pyRound 3 r.stockoutRisk)
    r.confidence

section Reports

variable (T : Tables) (tenantId : String)

def reportPriceChange (menuItemId newPrice : Value) : Except PyException Report := do
  let menuItemId ← validateIdentifier menuItemId "menu_item_id"
  let newPrice ← toPositiveDecimal newPrice "new_price"
  let item ← validateMenuItem T tenantId menuItemId
  let oldPrice := item.currentPrice.toRat
  raiseIf (item.currentPrice.isNan = true) (simulatorInput "menu item current price must be finite")
  raiseIf (oldPrice ≤ 0) (simulatorInput "menu item current price must be greater than zero")
  let pctChange := (newPrice - oldPrice) / oldPrice
  let demandChangePct := priceElasticity * pctChange
  let recipeCost ← loadRecipeCost T tenantId menuItemId
  let demand := (loadDemandBaseline T tenantId menuItemId).getD 1
  let confidence := max (3 / 10) (1 - |pctChange| * (3 / 2))
  let outcome :=
    match recipeCost with
    | some cost =>
      priceChangeByRecipe oldPrice newPrice pctChange demandChangePct confidence cost demand
    | none => priceChangeByRatio oldPrice newPrice pctChange demandChangePct confidence demand
  return ⟨outcome.1, demandChangePct, baselineStockoutRisk, outcome.2⟩

/-- The margin change that a supplier switch is predicted to bring. -/
def switchMargin (id : String) (newPrice oldPrice : ℚ) : ℚ :=
  let usages := (usageRows T tenantId id).map (fun row =>
    let demand := (loadDemandBaseline T tenantId row.1).getD 1
    (-(row.2.1 * (newPrice - oldPrice)) * demand, row.2.2.toRat * demand))
  if 0 < (usages.map Prod.snd).sum then (usages.map Prod.fst).sum / (usages.map Prod.snd).sum else 0

def reportSupplierSwitch (ingredientId newSupplierPrice : Value) : Except PyException Report := do
  let ingredientId ← validateIdentifier ingredientId "ingredient_id"
  let newPrice ← toPositiveDecimal newSupplierPrice "new_supplier_price"
  let ingredient ← validateIngredient T tenantId ingredientId
  let oldPrice := ingredient.currentPrice.toRat
  raiseIf (ingredient.currentPrice.isNan = true)
    (simulatorInput "ingredient current price must be finite")
  raiseIf (oldPrice ≤ 0) (simulatorInput "ingredient current price must be greater than zero")
  raiseIf ((usageRows T tenantId ingredientId).any (fun row => row.2.2.isNan) = true)
    (simulatorInput "menu item current price must be finite")
  let stockoutRisk := min 1 (supplierSwitchBaseRisk + supplierSwitchReliabilityDelta)
  let depleted := (← loadInventoryLevel T tenantId ingredientId).any (fun level => level ≤ 0)
  let stockoutRisk := if depleted then min 1 (stockoutRisk + 1 / 10) else stockoutRisk
  let confidence := if depleted then min (1 / 2) (2 / 5) else (1 / 2 : ℚ)
  return ⟨switchMargin T tenantId ingredientId newPrice oldPrice, 0, stockoutRisk, confidence⟩

/-- `simulate_price_change` rounds its report. -/
theorem simulatePriceChange_report (menuItemId newPrice : Value) :
    simulatePriceChange T tenantId menuItemId newPrice =
      reportPriceChange T tenantId menuItemId newPrice >>= Report.publishPrice := by
  unfold simulatePriceChange reportPriceChange
  simp only [bind_assoc, pure_bind]
  rfl

/-- `simulate_supplier_switch` rounds its report. -/
theorem simulateSupplierSwitch_report (ingredientId newSupplierPrice : Value) :
    simulateSupplierSwitch T tenantId ingredientId newSupplierPrice =
      reportSupplierSwitch T tenantId ingredientId newSupplierPrice >>= Report.publishSwitch := by
  unfold simulateSupplierSwitch reportSupplierSwitch
  simp only [bind_assoc, pure_bind]
  rfl

end Reports

end OpsCopilot
