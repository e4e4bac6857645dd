import OpsCopilot.Lib.Fallible
import OpsCopilot.Lib.PyRound
import OpsCopilot.Model.EventStore

/-!
# The simulator

`simulate` of Component 2: what an action is predicted to do, and with what confidence. Numbers
are exact rationals where the source computes with `Decimal` and rounds a float at the end.
-/

namespace OpsCopilot

open Python Sql Fallible

/-! ### Assumptions -/

def priceElasticity : ℚ := -6 / 5

def fallbackFoodCostRatio : ℚ := 3 / 10

def supplierSwitchReliabilityDelta : ℚ := 3 / 20

def supplierSwitchBaseRisk : ℚ := 1 / 10

def menuRemovalDemandTransfer : ℚ := 3 / 5

def staffingChangeCapacityFactor : ℚ := 2 / 25

def staffingMinRisk : ℚ := 1 / 50

def staffingMaxRisk : ℚ := 9 / 10

def baselineStockoutRisk : ℚ := 1 / 20

def validMenuActions : List String := ["add", "remove"]

def simulatorInput (message : String) : PyException := ⟨.simulatorInputError, message⟩

/-- `PredictedOutcome(...)` with the checks of `__post_init__`. -/
def PredictedOutcome.make (marginChangePct demandChangePct stockoutRisk confidence : ℚ) :
    Except PyException PredictedOutcome :=
  if overflowsFloat marginChangePct then
    .error (simulatorInput "margin_change_pct must be finite")
  else if overflowsFloat demandChangePct then
    .error (simulatorInput "demand_change_pct must be finite")
  else if hstockout : 0 ≤ stockoutRisk ∧ stockoutRisk ≤ 1 then
    if hconfidence : 0 ≤ confidence ∧ confidence ≤ 1 then
      .ok ⟨marginChangePct, demandChangePct, stockoutRisk, confidence, hstockout, hconfidence⟩
    else .error (simulatorInput "confidence must be between 0 and 1")
  else .error (simulatorInput "stockout_risk must be between 0 and 1")

/-! ### Validation -/

def validateIdentifier (value : Value) (fieldName : String) : Except PyException String :=
  match value with
  | .str s =>
    if strip s = "" then .error (simulatorInput (fieldName ++ " must not be empty"))
    else if '\x00' ∈ (strip s).toList then
      .error (simulatorInput (fieldName ++ " contains invalid null bytes"))
    else .ok (strip s)
  | _ => .error ⟨.typeError, fieldName ++ " must be a string"⟩

def toPositiveDecimal (value : Value) (fieldName : String) : Except PyException ℚ :=
  match value with
  | .bool _ => .error (simulatorInput (fieldName ++ " must be numeric"))
  | v =>
    match v.toDecimal with
    | none => .error (simulatorInput (fieldName ++ " must be a valid numeric value"))
    | some d =>
      match d.toRat? with
      | none => .error (simulatorInput (fieldName ++ " must be finite"))
      | some q =>
        if q ≤ 0 then .error (simulatorInput (fieldName ++ " must be greater than zero"))
        else .ok q

def requirePayloadValue (payload : Dict) (fieldName : String) : Except PyException Value :=
  (payload.find? fieldName).elim
    (.error (simulatorInput ("payload is missing required field: " ++ fieldName))) .ok

/-! ### Operational state -/

section State

variable (T : Tables) (tenantId : String)

/-- The quantities and prices of the ingredients in the active recipes of a menu item. -/
def recipeRows (menuItemId : String) : List (ℚ × Column 10 2) :=
  (T.recipes.filter (fun r => r.tenantId = tenantId ∧ r.menuItemId = menuItemId ∧ r.active)).flatMap
    (fun r =>
      (T.recipeIngredients.filter (fun u => u.recipeId = r.id ∧ u.tenantId = tenantId)).flatMap
        (fun u =>
          (T.ingredients.filter (fun i => i.id = u.ingredientId ∧ i.tenantId = tenantId)).map
            (fun i => (u.quantity.toRat, i.currentPrice))))

def loadRecipeCost (menuItemId : String) : Except PyException (Option ℚ) :=
  match recipeRows T tenantId menuItemId with
  | [] => .ok none
  | rows => do
    let total ← rows.foldlM (fun total row => do
      raiseIf (row.2.isNan = true) (simulatorInput "ingredient current price must be finite")
      raiseIf (row.1 ≤ 0) (simulatorInput "recipe ingredient quantity must be greater than zero")
      raiseIf (row.2.toRat < 0) (simulatorInput "ingredient current price must not be negative")
      return total + row.1 * row.2.toRat) 0
    return some total

/-- The average of the positive order quantities. -/
def loadDemandBaseline (menuItemId : String) : Option ℚ :=
  let quantities := ((T.orderVolume.filter
    (fun r => r.tenantId = tenantId ∧ r.menuItemId = menuItemId)).map
      (fun r => r.quantity)).filter (fun n => 0 < n)
  if quantities = [] then none else some (quantities.sum / quantities.length)

def loadInventoryLevel (ingredientId : String) : Except PyException (Option ℚ) := do
  let level := (T.inventory? tenantId ingredientId).map InventoryLevel.quantity
  raiseIf (level.any Column.isNan = true) (simulatorInput "inventory quantity must be finite")
  return level.map Column.toRat

def validateMenuItem (menuItemId : String) : Except PyException MenuItem :=
  (T.menuItem? tenantId menuItemId).elim
    (.error (simulatorInput "menu item not found for this tenant")) .ok

def validateIngredient (ingredientId : String) : Except PyException Ingredient :=
  (T.ingredient? tenantId ingredientId).elim
    (.error (simulatorInput "ingredient not found for this tenant")) .ok

/-! ### Price changes -/

/-- The value an item brings in after the change, relative to what it brought in before. -/
def valueChange (oldContribution newContribution demand demandChangePct : ℚ) : ℚ :=
  let predicted := newContribution * max 0 (demand * (1 + demandChangePct))
  (predicted - oldContribution * demand) / (oldContribution * demand)

/-- The margin change and the confidence when the recipe cost is known. -/
def priceChangeByRecipe (oldPrice newPrice pctChange demandChangePct confidence cost demand : ℚ) :
    ℚ × ℚ :=
  if 0 < oldPrice - cost then
    (if 0 < (oldPrice - cost) * demand then
      valueChange (oldPrice - cost) (newPrice - cost) demand demandChangePct
    else pctChange, confidence)
  -- An item below its food cost is poorly modelled: no precision is made up for it.
  else (pctChange, min confidence (9 / 20))

/-- The same from the fallback cost ratio. -/
def priceChangeByRatio (oldPrice newPrice pctChange demandChangePct confidence demand : ℚ) :
    ℚ × ℚ :=
  let cost := oldPrice * fallbackFoodCostRatio
  (if 0 < oldPrice - cost then
    valueChange (oldPrice - cost) (newPrice - cost) demand demandChangePct
  else pctChange, min confidence (11 / 20))

def simulatePriceChange (menuItemId newPrice : Value) : Except PyException PredictedOutcome := do
  let menuItemId ← validateIdentifier menuItemId "menu_item_id"
  let newPrice ← toPositiveDecimal newPrice "new_price"
  let item ← validateMenuItem T tenantId menuItemId
  let oldPrice := item.currentPrice.toRat
  raiseIf (item.currentPrice.isNan = true) (simulatorInput "menu item current price must be finite")
  raiseIf (oldPrice ≤ 0) (simulatorInput "menu item current price must be greater than zero")
  let pctChange := (newPrice - oldPrice) / oldPrice
  let demandChangePct := priceElasticity * pctChange
  let recipeCost ← loadRecipeCost T tenantId menuItemId
  let demand := (loadDemandBaseline T tenantId menuItemId).getD 1
  let confidence := max (3 / 10) (1 - |pctChange| * (3 / 2))
  let outcome :=
    match recipeCost with
    | some cost =>
      priceChangeByRecipe oldPrice newPrice pctChange demandChangePct confidence cost demand
    | none => priceChangeByRatio oldPrice newPrice pctChange demandChangePct confidence demand
  PredictedOutcome.make (pyRound 4 outcome.1) (pyRound 4 demandChangePct) baselineStockoutRisk
    (pyRound 3 outcome.2)

/-! ### Supplier switches -/

/-- The menu items whose active recipes use an ingredient, with the quantity and the price. -/
def usageRows (ingredientId : String) : List (String × ℚ × Column 10 2) :=
  (T.recipes.filter (fun r => r.tenantId = tenantId ∧ r.active)).flatMap (fun r =>
    (T.recipeIngredients.filter (fun u =>
      u.recipeId = r.id ∧ u.tenantId = tenantId ∧ u.ingredientId = ingredientId)).flatMap (fun u =>
        (T.menuItems.filter (fun m =>
          m.id = r.menuItemId ∧ m.tenantId = tenantId ∧ m.active)).map
            (fun m => (r.menuItemId, u.quantity.toRat, m.currentPrice))))

def simulateSupplierSwitch (ingredientId newSupplierPrice : Value) :
    Except PyException PredictedOutcome := do
  let ingredientId ← validateIdentifier ingredientId "ingredient_id"
  let newPrice ← toPositiveDecimal newSupplierPrice "new_supplier_price"
  let ingredient ← validateIngredient T tenantId ingredientId
  let oldPrice := ingredient.currentPrice.toRat
  raiseIf (ingredient.currentPrice.isNan = true)
    (simulatorInput "ingredient current price must be finite")
  raiseIf (oldPrice ≤ 0) (simulatorInput "ingredient current price must be greater than zero")
  raiseIf ((usageRows T tenantId ingredientId).any (fun row => row.2.2.isNan) = true)
    (simulatorInput "menu item current price must be finite")
  let usages := (usageRows T tenantId ingredientId).map (fun row =>
    let demand := (loadDemandBaseline T tenantId row.1).getD 1
    (-(row.2.1 * (newPrice - oldPrice)) * demand, row.2.2.toRat * demand))
  let totalMarginImpact := (usages.map Prod.fst).sum
  let totalBaselineValue := (usages.map Prod.snd).sum
  let marginChangePct :=
    if 0 < totalBaselineValue then totalMarginImpact / totalBaselineValue else 0
  let stockoutRisk := min 1 (supplierSwitchBaseRisk + supplierSwitchReliabilityDelta)
  let depleted := (← loadInventoryLevel T tenantId ingredientId).any (fun level => level ≤ 0)
  let stockoutRisk := if depleted then min 1 (stockoutRisk + 1 / 10) else stockoutRisk
  let confidence := if depleted then min (1 / 2) (2 / 5) else (1 / 2 : ℚ)
  PredictedOutcome.make (pyRound 4 marginChangePct) 0 (pyRound 3 stockoutRisk) confidence

/-! ### Menu and staffing changes -/

def simulateMenuSwap (menuItemId action : Value) : Except PyException PredictedOutcome := do
  let menuItemId ← validateIdentifier menuItemId "menu_item_id"
  match action with
  | .str action =>
    let action := lower (strip action)
    raiseIf (action ∉ validMenuActions) (simulatorInput "action must be either 'add' or 'remove'")
    let _ ← validateMenuItem T tenantId menuItemId
    if action = "remove" then
      PredictedOutcome.make 0 (pyRound 4 (-(1 - menuRemovalDemandTransfer))) baselineStockoutRisk
        (2 / 5)
    else PredictedOutcome.make 0 (1 / 20) baselineStockoutRisk (1 / 4)
  | _ => throw ⟨.typeError, "action must be a string"⟩

def simulateStaffingChange (headcountDelta : Value) : Except PyException PredictedOutcome :=
  match headcountDelta with
  | .int delta =>
    if overflowsFloat delta then .error (.ofStd .overflowError)
    else
      let capacityChangePct := staffingChangeCapacityFactor * delta
      let stockoutRisk :=
        if 0 ≤ delta then max staffingMinRisk (baselineStockoutRisk - capacityChangePct * (3 / 10))
        else min staffingMaxRisk (baselineStockoutRisk + |capacityChangePct| * (1 / 2))
      PredictedOutcome.make (pyRound 4 (-delta * (1 / 100))) 0 (pyRound 3 stockoutRisk) (9 / 20)
  | _ => .error ⟨.typeError, "headcount_delta must be an integer"⟩

/-! ### Dispatch -/

def simulate (actionType : ActionType) (payload : Dict) : Except PyException PredictedOutcome := do
  match actionType with
  | .priceChange =>
    let menuItemId ← requirePayloadValue payload "menu_item_id"
    let newPrice ← requirePayloadValue payload "new_price"
    simulatePriceChange T tenantId menuItemId newPrice
  | .supplierSwitch =>
    let ingredientId ← requirePayloadValue payload "ingredient_id"
    let newSupplierPrice ← requirePayloadValue payload "new_supplier_price"
    simulateSupplierSwitch T tenantId ingredientId newSupplierPrice
  | .menuSwap =>
    let menuItemId ← requirePayloadValue payload "menu_item_id"
    simulateMenuSwap T tenantId menuItemId ((payload.find? "action").getD (.str "remove"))
  | .staffingChange =>
    let headcountDelta ← requirePayloadValue payload "headcount_delta"
    simulateStaffingChange headcountDelta

end State

end OpsCopilot
