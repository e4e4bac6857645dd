import Mathlib.Data.List.Sort
import OpsCopilot.Lib.PyFloat
import OpsCopilot.Model.Reasoning

/-!
# Detection of opportunities

The reading side of Component 3: what a tenant's tables say about its margins, its stock and the
demand for its dishes. `Decimal`s of the default context are their rational values.
-/

namespace OpsCopilot

open Python Sql Fallible

/-! ### Thresholds -/

def minMarginShortfall : ℚ := 1 / 20

def stockoutQuantityThreshold : ℚ := 1

def demandDeclineThreshold : ℚ := 1 / 5

def lookbackDays : ℕ := 14

def monthDays : ℕ := 30

/-- `timedelta(days=LOOKBACK_DAYS)`. -/
def lookback : ℤ := 14 * 86400 * 10 ^ 6

/-! ### Opportunities with their checks -/

/-- The constructor with the checks of `__post_init__`. -/
def Opportunity.make (id tenantId : String) (opportunityType : OpportunityType)
    (title cause : String) (affectedEntityIds : List String) (estimatedMonthlyImpact : PyFloat)
    (confidence : FiniteFloat) (evidence : Dict) : Except PyException Opportunity :=
  if identified : strip id ≠ "" ∧ strip tenantId ≠ "" then
    if explained : strip title ≠ "" ∧ strip cause ≠ "" then
      if affects : affectedEntityIds ≠ [] ∧ ∀ e ∈ affectedEntityIds, strip e ≠ "" then
        match estimatedMonthlyImpact with
        | .finite impact =>
          if confidenceInRange : 0 ≤ confidence.toRat ∧ confidence.toRat ≤ 1 then
            .ok ⟨id, tenantId, opportunityType, title, cause, affectedEntityIds, impact, confidence,
              evidence, identified, explained, affects, confidenceInRange⟩
          else .error ⟨.valueError, "confidence must be between 0 and 1"⟩
        | _ => .error ⟨.valueError, "estimated_monthly_impact must be finite"⟩
      else .error ⟨.valueError, "affected_entity_ids must contain non-empty strings"⟩
    else .error ⟨.valueError, "opportunity title is required"⟩
  else .error ⟨.valueError, "opportunity id and tenant_id are required"⟩

section Detector

variable (O : Outside)

/-- `float(d)` of a `Decimal` with the value `q`. -/
def floatOf (q : ℚ) : PyFloat := O.floatOfDecimal (contextDecimal q)

/-- `_money`. -/
def money (q : ℚ) : PyFloat := roundFloat O.floatOfDecimal 2 (floatOf O q)

/-- `_to_monthly` of what was observed in the window. -/
def toMonthly (value : ℚ) : Except PyException ℚ := do
  let scaled ← inContext (value * monthDays)
  inContext (scaled / lookbackDays)

def opportunityId (kind : OpportunityType) (entityId : String) : String :=
  kind.value ++ ":" ++ entityId

variable (T : Tables) (tenantId : String)

/-! ### Recipes and demand -/

/-- The quantity and the unit price of every ingredient of an active recipe of the dish. -/
def costRows (menuItemId : String) : List (ℚ × Column 10 2) :=
  T.recipes.flatMap (fun r =>
    if r.tenantId = tenantId ∧ r.active ∧ r.menuItemId = menuItemId then
      T.recipeIngredients.flatMap (fun ri =>
        if ri.recipeId = r.id ∧ ri.tenantId = r.tenantId then
          (T.ingredients.filter (fun i => i.id = ri.ingredientId ∧ i.tenantId = ri.tenantId)).map
            (fun i => (ri.quantity.toRat, i.currentPrice))
        else [])
    else [])

/-- What one ingredient adds to a cost. A price that is NaN makes it NaN, which is `none`. -/
def addCost (cost : Option ℚ) (row : ℚ × Column 10 2) : Except PyException (Option ℚ) :=
  match row.2 with
  | .nan => .ok none
  | .number price => do
    let product ← inContext (row.1 * price.toRat)
    match cost with
    | none => return none
    | some cost => return some (← inContext (cost + product))

/-- `_recipe_costs` of one dish; a dish without rows has none. -/
def recipeCost (menuItemId : String) : Except PyException (Option (Option ℚ)) :=
  match costRows T tenantId menuItemId with
  | [] => .ok none
  | rows => (rows.foldlM addCost (some 0)).map some

/-- The units of a dish ordered from `start` on, and before `stop` where there is one. -/
def unitsOrdered (menuItemId : String) (start : Timestamp) (stop : Option Timestamp) : ℤ :=
  ((T.orderVolume.filter (fun v => v.tenantId = tenantId ∧ v.menuItemId = menuItemId ∧
    start ≤ v.timestamp ∧ stop.all (fun s => v.timestamp < s))).map OrderVolume.quantity).sum

def activeItems : List MenuItem :=
  T.menuItems.filter (fun m => m.tenantId = tenantId ∧ m.active)

/-! ### The three kinds -/

/-- What `_margin_opportunities` yields for one dish. -/
def marginOpportunity (now : Timestamp) (item : MenuItem) :
    Except PyException (Option Opportunity) := do
  let price := item.currentPrice.toRat
  match ← recipeCost T tenantId item.id with
  | none => return none
  | some cost =>
    -- NaN cannot be compared, neither as the price nor, below, as the shortfall.
    if item.currentPrice.isNan then throw (.ofStd .invalidOperation)
    else if price ≤ 0 then return none
    else
      let cost ← cost.elim (.error (.ofStd .invalidOperation)) .ok
      let profit ← inContext (price - cost)
      let margin ← inContext (profit / price)
      let shortfall ← inContext (targetContributionMargin - margin)
      if shortfall < minMarginShortfall then return none
      else
        let windowUnits := unitsOrdered T tenantId item.id (now - lookback) none
        let monthlyUnits ← toMonthly (max windowUnits 1)
        let targetProfit ← inContext (targetContributionMargin * price)
        let gap ← inContext (targetProfit - profit)
        let monthlyLoss ← inContext (max 0 gap * monthlyUnits)
        let o ← Opportunity.make (opportunityId .marginDeterioration item.id) tenantId
          .marginDeterioration (item.name ++ " contribution margin is below target")
          "Recipe-derived ingredient cost exceeds the configured contribution-margin target."
          [item.id] (money O monthlyLoss).negate
          (.ofDigits false (if windowUnits = 0 then 65 else 85) (-2))
          [(.str "menu_item_id", .str item.id), (.str "current_price", .float (money O price)),
            (.str "recipe_cost", .float (money O cost)),
            (.str "contribution_margin_pct",
              .float (roundFloat O.floatOfDecimal 4 (floatOf O margin))),
            (.str "target_contribution_margin_pct",
              .float (floatOf O targetContributionMargin)),
            (.str "observed_units", .int windowUnits),
            (.str "observed_window_days", .int lookbackDays),
            (.str "estimated_monthly_units", .float (money O monthlyUnits))]
        return some o

/-- The dishes that an ingredient goes into. -/
def affectedItems (ingredientId : String) : List String :=
  T.recipes.flatMap (fun r =>
    if r.tenantId = tenantId ∧ r.active then
      T.recipeIngredients.flatMap (fun ri =>
        if ri.recipeId = r.id ∧ ri.tenantId = tenantId ∧ ri.ingredientId = ingredientId then
          (T.menuItems.filter (fun m => m.id = r.menuItemId ∧ m.tenantId = r.tenantId ∧ m.active)).map
            MenuItem.id
        else [])
    else [])

/-- What `_stockout_opportunities` yields for one inventory level; `name` is the name of the
ingredient. -/
def stockoutOpportunity (name : String → String) (level : InventoryLevel) :
    Except PyException (Option Opportunity) :=
  if level.quantity.isNan ∨ stockoutQuantityThreshold < level.quantity.toRat then .ok none
  else
    match affectedItems T tenantId level.ingredientId with
    | [] => .ok none
    | items => (Opportunity.make (opportunityId .stockoutExposure level.ingredientId) tenantId
        .stockoutExposure (name level.ingredientId ++ " is at stockout exposure")
        "Current inventory is at or below the configured low-stock threshold."
        (level.ingredientId :: items) (.finite (.ofDigits false 0 0)) (.ofDigits false 9 (-1))
        [(.str "ingredient_id", .str level.ingredientId),
          (.str "inventory_quantity", .float (money O level.quantity.toRat)),
          (.str "threshold", .float (floatOf O stockoutQuantityThreshold)),
          (.str "affected_menu_item_ids", .list (items.map .str))]).map some

/-- The opportunity of a decline: the monthly impact, the price and the revenue lost in the window
as floats. -/
def declined (item : MenuItem) (recent baseline : ℤ) (decline : ℚ) (impact price lost : PyFloat) :
    Except PyException Opportunity :=
  Opportunity.make (opportunityId .demandDecline item.id) tenantId .demandDecline
    (item.name ++ " demand declined materially")
    "Recent order volume is materially below the preceding equal-length baseline."
    [item.id] impact (.ofDigits false 75 (-2))
    [(.str "menu_item_id", .str item.id), (.str "current_price", .float price),
      (.str "recent_units", .int recent), (.str "baseline_units", .int baseline),
      (.str "demand_change_pct", .float (roundFloat O.floatOfDecimal 4 (floatOf O (-decline)))),
      (.str "window_days", .int lookbackDays), (.str "window_lost_revenue", .float lost)]

/-- What `_demand_opportunities` yields for one dish. -/
def demandOpportunity (now : Timestamp) (item : MenuItem) :
    Except PyException (Option Opportunity) := do
  let recent := unitsOrdered T tenantId item.id (now - lookback) none
  let baseline :=
    unitsOrdered T tenantId item.id (now - lookback - lookback) (some (now - lookback))
  if baseline ≤ 0 then return none
  else
    let decline : ℚ := (baseline - recent) / baseline
    if decline < demandDeclineThreshold then return none
    else
      match item.currentPrice with
      | .nan => return some (← declined O tenantId item recent baseline decline .nan .nan .nan)
      | .number price =>
        let windowLostRevenue ← inContext (price.toRat * (baseline - recent))
        let monthlyLostRevenue ← toMonthly windowLostRevenue
        return some (← declined O tenantId item recent baseline decline
          (money O monthlyLostRevenue).negate (money O price.toRat) (money O windowLostRevenue))

/-! ### All of them -/

/-- `(-abs(impact), -confidence, id)`. -/
def Opportunity.before (a b : Opportunity) : Prop :=
  |b.estimatedMonthlyImpact.toRat| < |a.estimatedMonthlyImpact.toRat| ∨
    |b.estimatedMonthlyImpact.toRat| = |a.estimatedMonthlyImpact.toRat| ∧
      (b.confidence.toRat < a.confidence.toRat ∨
        b.confidence.toRat = a.confidence.toRat ∧ a.id ≤ b.id)

instance : DecidableRel Opportunity.before := fun a b => by
  unfold Opportunity.before
  infer_instance

def detectOpportunities (name : String → String) (now : Timestamp) :
    Except PyException (List Opportunity) := do
  let margins ← (activeItems T tenantId).mapM (marginOpportunity O T tenantId now)
  let stockouts ← (T.inventoryLevels.filter (fun l => l.tenantId = tenantId ∧
    (T.ingredient? tenantId l.ingredientId).isSome)).mapM (stockoutOpportunity O T tenantId name)
  let demands ← (activeItems T tenantId).mapM (demandOpportunity O T tenantId now)
  return ((margins ++ stockouts ++ demands).filterMap id).insertionSort Opportunity.before

end Detector

end OpsCopilot
