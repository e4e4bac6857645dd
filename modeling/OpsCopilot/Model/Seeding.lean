import OpsCopilot.Lib.PyDatetime
import OpsCopilot.Lib.PyRepr
import OpsCopilot.Model.Credentials
import OpsCopilot.Model.Decisions

/-!
# Seeding

`seed`: the configured tenants that are not there yet, each with all its tables, in one
transaction. Prices and stock levels are the decimals that are written for the floats of the
configuration.
-/

namespace OpsCopilot

open Python Sql Fallible

/-! ### The configuration -/

structure IngredientConfig where
  name : String
  price : ℚ
  stock : ℚ

structure MenuItemConfig where
  name : String
  price : ℚ

structure TenantConfig where
  name : String
  suppliers : List String
  ingredients : List IngredientConfig
  menuItems : List MenuItemConfig

structure SeedError where
  message : String

section Validation

variable (printable : Char → Bool)

/-- One round of the loop over the suppliers: `seen` are their names so far. -/
def validateSupplier (tenant : String) (seen : List String) (supplier : String) :
    Except SeedError (List String) := do
  raiseIf (strip supplier = "")
    ⟨"tenant " ++ quoted printable tenant ++ " contains an empty supplier"⟩
  raiseIf (supplier ∈ seen) ⟨"duplicate supplier " ++ quoted printable supplier ++
    " for tenant " ++ quoted printable tenant⟩
  return seen ++ [supplier]

def validateIngredientConfig (tenant : String) (seen : List String)
    (ingredient : IngredientConfig) : Except SeedError (List String) := do
  raiseIf (strip ingredient.name = "") ⟨"ingredient name must not be empty"⟩
  raiseIf (ingredient.name ∈ seen) ⟨"duplicate ingredient " ++ quoted printable ingredient.name ++
    " for tenant " ++ quoted printable tenant⟩
  raiseIf (ingredient.price ≤ 0)
    ⟨"ingredient price must be greater than zero: " ++ quoted printable ingredient.name⟩
  raiseIf (ingredient.stock < 0)
    ⟨"ingredient stock cannot be negative: " ++ quoted printable ingredient.name⟩
  return seen ++ [ingredient.name]

def validateMenuItemConfig (tenant : String) (seen : List String) (item : MenuItemConfig) :
    Except SeedError (List String) := do
  raiseIf (strip item.name = "") ⟨"menu item name must not be empty"⟩
  raiseIf (item.name ∈ seen) ⟨"duplicate menu item " ++ quoted printable item.name ++
    " for tenant " ++ quoted printable tenant⟩
  raiseIf (item.price ≤ 0)
    ⟨"menu item price must be greater than zero: " ++ quoted printable item.name⟩
  return seen ++ [item.name]

def validateTenantConfig (seen : List String) (tenant : TenantConfig) :
    Except SeedError (List String) := do
  raiseIf (strip tenant.name = "") ⟨"tenant name must not be empty"⟩
  raiseIf (tenant.name ∈ seen) ⟨"duplicate tenant name: " ++ tenant.name⟩
  raiseIf (tenant.suppliers = [])
    ⟨"tenant " ++ quoted printable tenant.name ++ " must have at least one supplier"⟩
  let _ ← tenant.suppliers.foldlM (validateSupplier printable tenant.name) []
  let _ ← tenant.ingredients.foldlM (validateIngredientConfig printable tenant.name) []
  let _ ← tenant.menuItems.foldlM (validateMenuItemConfig printable tenant.name) []
  return seen ++ [tenant.name]

/-- `_validate_config`. -/
def validateConfig (configs : List TenantConfig) : Except SeedError Unit := do
  raiseIf (configs.isEmpty) ⟨"tenant configuration must not be empty"⟩
  let _ ← configs.foldlM (validateTenantConfig printable) []
  return ()

end Validation

/-! ### One tenant -/

/-- What is drawn for a tenant: the identifiers of its rows, and the times at which the columns
that default to the present are filled. -/
structure SeedDraw where
  tenant : String
  supplier : ℕ → String
  ingredient : ℕ → String
  sku : ℕ → String
  menuItem : ℕ → String
  recipe : ℕ → String
  invoice : String
  order : ℕ → String
  shift : ℕ → String
  filledAt : ℕ → Timestamp
  now : Timestamp

/-- The tenants by name, and their tables. -/
structure SeedStore where
  tenants : List Tenant
  tables : Tables

def dayLength : ℤ := 24 * 60 * 60 * 1000000

section Rows

variable (draw : SeedDraw)

/-- A row whose key must be new. -/
def insertNew {α κ : Type} [DecidableEq κ] (key : α → κ) (rows : List α) (row : α) :
    Except PyException (List α) := do
  raiseIf (rows.any (fun r => key r = key row)) duplicateKey
  return rows ++ [row]

def seedSupplier (T : Tables) (entry : String × ℕ) : Except PyException Tables := do
  let _ ← bindText entry.1
  let suppliers ← insertNew Supplier.id T.suppliers ⟨draw.supplier entry.2, draw.tenant⟩
  return { T with suppliers := suppliers }

/-- `f"SEED-{index:03d}"`; the ingredients are counted from one. -/
def seedSkuCode (index : ℕ) : String := "SEED-" ++ String.ofList (padded 3 (index + 1))

/-- An ingredient with its inventory, its product and the price of it. -/
def seedIngredient (T : Tables) (entry : IngredientConfig × ℕ) : Except PyException Tables := do
  let _ ← bindText entry.1.name
  let price ← storeRat 10 2 entry.1.price
  let stock ← storeRat 12 4 entry.1.stock
  let ingredients ← insertNew Ingredient.id T.ingredients
    ⟨draw.ingredient entry.2, draw.tenant, .number price, some (draw.supplier 0), .number stock⟩
  let levels ← insertNew (fun r : InventoryLevel => (r.tenantId, r.ingredientId))
    T.inventoryLevels ⟨draw.tenant, draw.ingredient entry.2, .number stock, draw.filledAt entry.2⟩
  let sku : SupplierSKU := ⟨draw.sku entry.2, draw.tenant, draw.supplier 0, draw.ingredient entry.2,
    seedSkuCode entry.2⟩
  raiseIf (T.supplierSkus.any (fun r => r.id = sku.id ∨ r.tenantId = sku.tenantId ∧
    r.supplierId = sku.supplierId ∧ r.skuCode = sku.skuCode)) duplicateKey
  return { T with
    ingredients := ingredients
    inventoryLevels := levels
    supplierSkus := T.supplierSkus ++ [sku]
    supplierPrices := T.supplierPrices ++
      [⟨draw.tenant, draw.sku entry.2, .number price, draw.filledAt entry.2⟩] }

/-- The ingredients of the recipe of the item at an index: the next two, going round. -/
def recipeShares (ingredients index : ℕ) : List (ℕ × ℚ) :=
  (List.range (min 2 ingredients)).map
    (fun offset => ((index + offset) % ingredients, if offset = 0 then 1 / 5 else 1 / 10))

def seedRecipeIngredient (index : ℕ) (T : Tables) (row : ℕ × ℚ) : Except PyException Tables := do
  let quantity ← storeRat 12 4 row.2
  let rows ← insertNew (fun r : RecipeIngredient => (r.tenantId, r.recipeId, r.ingredientId))
    T.recipeIngredients ⟨draw.tenant, draw.recipe index, draw.ingredient row.1, quantity⟩
  return { T with recipeIngredients := rows }

/-- A menu item with its recipe. -/
def seedMenuItem (ingredients : ℕ) (T : Tables) (entry : MenuItemConfig × ℕ) :
    Except PyException Tables := do
  let name ← bindText entry.1.name
  let price ← storeRat 10 2 entry.1.price
  let menuItems ← insertNew MenuItem.id T.menuItems
    ⟨draw.menuItem entry.2, draw.tenant, name, .number price, true⟩
  let recipes ← insertNew Recipe.id T.recipes
    ⟨draw.recipe entry.2, draw.tenant, draw.menuItem entry.2, true⟩
  (recipeShares ingredients entry.2).foldlM (seedRecipeIngredient draw entry.2)
    { T with menuItems := menuItems, recipes := recipes }

def seedInvoiceLine (T : Tables) (entry : IngredientConfig × ℕ) : Except PyException Tables := do
  let quantity ← storeRat 12 4 10
  let price ← storeRat 10 2 entry.1.price
  return { T with
    invoiceLines := T.invoiceLines ++
      [⟨draw.tenant, draw.invoice, draw.sku entry.2, .number quantity, .number price⟩] }

def seedInvoice (ingredients : List IngredientConfig) (T : Tables) : Except PyException Tables := do
  let total ← storeRat 12 2 ((ingredients.map (fun i => i.price * 10)).sum)
  let number := "SEED-" ++ String.ofList (draw.tenant.toList.take 8)
  raiseIf (T.invoices.any (fun r => r.id = draw.invoice ∨
    r.tenantId = draw.tenant ∧ r.invoiceNumber = number)) duplicateKey
  ingredients.zipIdx.foldlM (seedInvoiceLine draw) { T with
    invoices := T.invoices ++ [⟨draw.invoice, draw.tenant, draw.supplier 0, number,
      draw.now - 7 * dayLength, .number total⟩] }

/-- What was sold of an item on a day. -/
def soldOn (daysAgo index : ℕ) : ℤ := 8 + ((daysAgo + index) % 5 : ℕ)

def seedOrderLine (daysAgo : ℕ) (T : Tables) (entry : MenuItemConfig × ℕ) :
    Except PyException Tables := do
  let price ← storeRat 10 2 entry.1.price
  return { T with
    salesOrderLines := T.salesOrderLines ++ [⟨draw.tenant, draw.order daysAgo,
      draw.menuItem entry.2, soldOn daysAgo entry.2, .number price⟩]
    orderVolume := T.orderVolume ++ [⟨draw.tenant, draw.menuItem entry.2,
      draw.now - daysAgo * dayLength, soldOn daysAgo entry.2⟩] }

/-- The order of one of the last 28 days. -/
def seedOrder (menuItems : List MenuItemConfig) (T : Tables) (daysAgo : ℕ) :
    Except PyException Tables := do
  let orders ← insertNew SalesOrder.id T.salesOrders
    ⟨draw.order daysAgo, draw.tenant, draw.now - daysAgo * dayLength⟩
  menuItems.zipIdx.foldlM (seedOrderLine draw daysAgo) { T with salesOrders := orders }

/-- A tenant without ingredients has no `ingredient_objects[0]`. `seed` reports this failed lookup
like every other error. -/
def seedWaste (ingredients : List IngredientConfig) (T : Tables) : Except PyException Tables := do
  raiseIf (ingredients.isEmpty) ⟨.indexError, "list index out of range"⟩
  let quantity ← storeRat 12 4 (1 / 4)
  return { T with
    wasteRecords := T.wasteRecords ++ [⟨draw.tenant, draw.ingredient 0, .number quantity,
      "synthetic prep waste", draw.now - 2 * dayLength⟩] }

/-- The shifts of a week: the role and the headcount on every day. -/
def seedShifts : List (ℕ × String × ℤ) :=
  (List.range 7).flatMap (fun day => [(day, "line cook", 2), (day, "server", 3)])

def seedShift (T : Tables) (entry : (ℕ × String × ℤ) × ℕ) : Except PyException Tables := do
  let shifts ← insertNew StaffShift.id T.staffShifts
    ⟨draw.shift entry.2, draw.tenant, entry.1.2.1, entry.1.1, entry.1.2.2⟩
  return { T with staffShifts := shifts }

/-- `_seed_tenant`. -/
def seedTenant (config : TenantConfig) (st : SeedStore) : Except PyException SeedStore := do
  let name ← bindText config.name
  let tenants ← insertNew Tenant.id st.tenants ⟨draw.tenant, name⟩
  let T ← config.suppliers.zipIdx.foldlM (seedSupplier draw) st.tables
  let T ← config.ingredients.zipIdx.foldlM (seedIngredient draw) T
  let T ← config.menuItems.zipIdx.foldlM (seedMenuItem draw config.ingredients.length) T
  let T ← seedInvoice draw config.ingredients T
  let T ← ((List.range 28).map (· + 1)).foldlM (seedOrder draw config.menuItems) T
  let T ← seedWaste draw config.ingredients T
  let T ← seedShifts.zipIdx.foldlM (seedShift draw) T
  return ⟨tenants, T⟩

end Rows

/-! ### All tenants -/

/-- `existing[name]`: of two tenants with one name the later one. -/
def SeedStore.existing (st : SeedStore) (name : String) : Option String :=
  (st.tenants.reverse.find? (fun t => t.name = name)).map Tenant.id

/-- One round of the loop of `seed`, for the tenants that were there before it. -/
def seedConfig (before : SeedStore) (done : SeedStore × List (String × String))
    (config : TenantConfig × SeedDraw) : Except PyException (SeedStore × List (String × String)) :=
  match before.existing config.1.name with
  | some id => .ok (done.1, done.2 ++ [(id, config.1.name)])
  | none =>
    (seedTenant config.2 config.1 done.1).map
      (fun st => (st, done.2 ++ [(config.2.tenant, config.1.name)]))

def seedFailed : SeedError := ⟨"failed to seed synthetic restaurant state"⟩

/-- `seed`: what it commits, and the tenants of the configuration. -/
def seed (printable : Char → Bool) (configs : List (TenantConfig × SeedDraw)) (st : SeedStore) :
    Except SeedError (SeedStore × List (String × String)) := do
  validateConfig printable (configs.map Prod.fst)
  (configs.foldlM (seedConfig st) (st, [])).mapError (fun _ => seedFailed)

end OpsCopilot
