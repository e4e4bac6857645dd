import OpsCopilot.Lib.SqlNumeric
import OpsCopilot.Lib.PyDecimal
import OpsCopilot.Model.Basic

/-!
# The database

The tables of Component 1, all tenants together, as lists of rows in insertion order. Numbers
live in fixed-point columns. A transaction is a function on the database that may fail, and
then leaves it as it was.
-/

namespace OpsCopilot

open Python Sql

/-! ### Rows -/

structure Supplier where
  id : String
  tenantId : String
deriving DecidableEq

structure Ingredient where
  id : String
  tenantId : String
  currentPrice : Column 10 2
  currentSupplierId : Option String
  currentStockLevel : Column 12 4
deriving DecidableEq

structure SupplierSKU where
  id : String
  tenantId : String
  supplierId : String
  ingredientId : String
  skuCode : String
deriving DecidableEq

structure SupplierPrice where
  tenantId : String
  supplierSkuId : String
  price : Column 10 2
  effectiveAt : Timestamp
deriving DecidableEq

structure MenuItem where
  id : String
  tenantId : String
  name : String
  currentPrice : Column 10 2
  active : Bool
deriving DecidableEq

structure Recipe where
  id : String
  tenantId : String
  menuItemId : String
  active : Bool
deriving DecidableEq

structure RecipeIngredient where
  tenantId : String
  recipeId : String
  ingredientId : String
  quantity : Numeric 12 4
deriving DecidableEq

structure InventoryLevel where
  tenantId : String
  ingredientId : String
  quantity : Column 12 4
  updatedAt : Timestamp
deriving DecidableEq

structure Invoice where
  id : String
  tenantId : String
  supplierId : String
  invoiceNumber : String
  invoiceDate : Timestamp
  totalAmount : Column 12 2
deriving DecidableEq

structure InvoiceLine where
  tenantId : String
  invoiceId : String
  supplierSkuId : String
  quantity : Column 12 4
  unitPrice : Column 10 2
deriving DecidableEq

structure SalesOrder where
  id : String
  tenantId : String
  orderedAt : Timestamp
deriving DecidableEq

structure SalesOrderLine where
  tenantId : String
  orderId : String
  menuItemId : String
  quantity : ℤ
  unitPrice : Column 10 2
deriving DecidableEq

structure OrderVolume where
  tenantId : String
  menuItemId : String
  timestamp : Timestamp
  quantity : ℤ
deriving DecidableEq

structure WasteRecord where
  tenantId : String
  ingredientId : String
  quantity : Column 12 4
  reason : String
  recordedAt : Timestamp
deriving DecidableEq

structure StaffShift where
  id : String
  tenantId : String
  role : String
  dayOfWeek : ℤ
  headcount : ℤ
deriving DecidableEq

inductive EventType where
  | supplierPriceChange
  | supplierSwitch
  | stockout
  | restock
  | inventoryAdjustment
  | wasteRecorded
  | demandSpike
  | orderRecorded
  | menuItemAdded
  | menuItemRemoved
  | menuPriceChange
  | staffingChange
  | invoiceRecorded
deriving DecidableEq

def EventType.value : EventType → String
  | .supplierPriceChange => "supplier_price_change"
  | .supplierSwitch => "supplier_switch"
  | .stockout => "stockout"
  | .restock => "restock"
  | .inventoryAdjustment => "inventory_adjustment"
  | .wasteRecorded => "waste_recorded"
  | .demandSpike => "demand_spike"
  | .orderRecorded => "order_recorded"
  | .menuItemAdded => "menu_item_added"
  | .menuItemRemoved => "menu_item_removed"
  | .menuPriceChange => "menu_price_change"
  | .staffingChange => "staffing_change"
  | .invoiceRecorded => "invoice_recorded"

structure Event where
  id : String
  tenantId : String
  eventType : EventType
  timestamp : Timestamp
  payload : Value
  source : String
  hash : String
  previousHash : String

/-- The operational tables, which the events are projected to. -/
structure Tables where
  suppliers : List Supplier
  ingredients : List Ingredient
  supplierSkus : List SupplierSKU
  supplierPrices : List SupplierPrice
  menuItems : List MenuItem
  recipes : List Recipe
  recipeIngredients : List RecipeIngredient
  inventoryLevels : List InventoryLevel
  invoices : List Invoice
  invoiceLines : List InvoiceLine
  salesOrders : List SalesOrder
  salesOrderLines : List SalesOrderLine
  orderVolume : List OrderVolume
  wasteRecords : List WasteRecord
  staffShifts : List StaffShift
deriving DecidableEq

def Tables.empty : Tables := ⟨[], [], [], [], [], [], [], [], [], [], [], [], [], [], []⟩

/-! ### Decisions and their audit -/

inductive DecisionStatus where
  | proposed
  | simulated
  | heldLowConfidence
  | executed
  | evaluated
deriving DecidableEq

/-- Changes are fractions: `1 / 20` stands for five per cent. -/
structure PredictedOutcome where
  marginChangePct : ℚ
  demandChangePct : ℚ
  stockoutRisk : ℚ
  confidence : ℚ
  stockout_in_range : 0 ≤ stockoutRisk ∧ stockoutRisk ≤ 1
  confidence_in_range : 0 ≤ confidence ∧ confidence ≤ 1
deriving DecidableEq

structure ActualOutcome where
  marginChangePct : ℚ
  demandChangePct : ℚ
  stockoutOccurred : Bool
deriving DecidableEq

structure Decision where
  id : String
  tenantId : String
  actionType : ActionType
  actionPayload : Value
  predictedOutcome : PredictedOutcome
  confidence : Numeric 5 4
  confidenceThresholdCleared : Bool
  actualOutcome : Option ActualOutcome
  calibrationError : Option (Numeric 8 4)
  status : DecisionStatus
  evaluatedAt : Option Timestamp

structure ToolExecutionLog where
  tenantId : String
  decisionId : Option String
  toolCategory : String
  actionType : ActionType
  confidenceGatePassed : Bool
  criticApproved : Option Bool
  criticReason : Option String
  executed : Bool
  payload : Value
  createdAt : Timestamp

inductive ApprovalStatus where
  | pending
  | approved
  | rejected
deriving DecidableEq

structure ApprovalRequestRecord where
  id : String
  tenantId : String
  decisionId : String
  reason : String
  status : ApprovalStatus
  reviewerId : Option String
  overrideReason : Option String

structure Db where
  tenants : List String
  tables : Tables
  events : List Event
  decisions : List Decision
  toolExecutionLog : List ToolExecutionLog
  approvalRequests : List ApprovalRequestRecord

/-! ### Values on their way into a statement -/

def nulError : PyException := ⟨.valueError, "A string literal cannot contain NUL (0x00) characters."⟩

/-- A string written into a text column. -/
def bindText (s : String) : Except PyException String :=
  if '\x00' ∈ s.toList then .error nulError else .ok s

def cannotAdapt : PyException := ⟨.programmingError, "can't adapt type 'dict'"⟩

mutual

/-- Why the driver refuses to write a value inside an array. -/
def arrayItemError : Value → Option PyException
  | .str s => if '\x00' ∈ s.toList then some nulError else none
  | .list vs => arrayError vs
  | .dict _ => some cannotAdapt
  | _ => none

/-- Why it refuses a list, which it writes as an array: the first refused item counts. -/
def arrayError : List Value → Option PyException
  | [] => none
  | v :: vs => (arrayItemError v).or (arrayError vs)

end

/-- The value a text column is compared with: `None` matches no row, and what is not a string
cannot be compared. -/
def filterText : Value → Except PyException (Option String)
  | .none => .ok Option.none
  | .str s => (bindText s).map some
  | .list vs => .error ((arrayError vs).getD
      ⟨.programmingError, "operator does not exist: character varying"⟩)
  | _ => .error ⟨.programmingError, "operator does not exist: character varying"⟩

/-- A value written into a text column. -/
def storeText (O : Outside) : Value → Except PyException String
  | .str s => bindText s
  | .list vs => (arrayError vs).elim ((O.columnText (.list vs)).elim (.error cannotAdapt) .ok) .error
  | v => (O.columnText v).elim (.error cannotAdapt) .ok

/-- A number written into a fixed-point column. The driver writes a `Decimal` that is not finite
as NaN, which every such column takes. -/
def storeNumeric (precision scale : ℕ) (d : PyDecimal) :
    Except PyException (Column precision scale) :=
  match d.toRat? with
  | some q =>
    (Numeric.store? precision scale q).elim (.error ⟨.dataError, "numeric field overflow"⟩)
      (fun x => .ok (.number x))
  | none => .ok .nan

/-- A number written into an `INTEGER` column. -/
def storeInteger (n : ℤ) : Except PyException ℤ :=
  if -2 ^ 31 ≤ n ∧ n < 2 ^ 31 then .ok n else .error ⟨.dataError, "integer out of range"⟩

/-- A value written into a JSON column. -/
def storeJson (v : Value) : Except PyException Value :=
  (loadsDumps v).mapError (fun _ => ⟨.statementError, "Object of type Decimal is not JSON serializable"⟩)

/-- `Query.one_or_none()`. -/
def oneOrNone {α : Type} : List α → Except PyException (Option α)
  | [] => .ok none
  | [row] => .ok (some row)
  | _ => .error ⟨.multipleResultsFound, "Multiple rows were found when one or none was required"⟩

/-- The `Decimal` that a number of a fixed-point column is read as. -/
def numericDecimal {precision scale : ℕ} (x : Numeric precision scale) : PyDecimal :=
  .finite (x.coeff < 0) x.coeff.natAbs (-scale)

/-- The `Decimal` that a fixed-point column is read as. -/
def columnDecimal {precision scale : ℕ} : Column precision scale → PyDecimal
  | .number x => numericDecimal x
  | .nan => .nan

/-- `str(v)`. -/
def pyStr (O : Outside) : Value → String
  | .none => "None"
  | .bool b => if b then "True" else "False"
  | .int n => String.ofList (intText n)
  | .float .nan => "nan"
  | .float (.inf neg) => if neg then "-inf" else "inf"
  | .float (.finite x) => String.ofList x.text
  | .decimal d => String.ofList d.text
  | .str s => s
  | v => O.containerText v

/-! ### Lookups within a tenant -/

section Lookup

variable (T : Tables) (tenantId : String)

def Tables.menuItem? (id : String) : Option MenuItem :=
  T.menuItems.find? (fun r => r.id = id ∧ r.tenantId = tenantId)

def Tables.ingredient? (id : String) : Option Ingredient :=
  T.ingredients.find? (fun r => r.id = id ∧ r.tenantId = tenantId)

def Tables.supplier? (id : String) : Option Supplier :=
  T.suppliers.find? (fun r => r.id = id ∧ r.tenantId = tenantId)

def Tables.supplierSku? (id : String) : Option SupplierSKU :=
  T.supplierSkus.find? (fun r => r.id = id ∧ r.tenantId = tenantId)

def Tables.inventory? (ingredientId : String) : Option InventoryLevel :=
  T.inventoryLevels.find? (fun r => r.tenantId = tenantId ∧ r.ingredientId = ingredientId)

end Lookup

/-! ### Changes to single rows -/

section Change

variable (T : Tables) (tenantId id : String)

def Tables.changeMenuItem (f : MenuItem → MenuItem) : Tables :=
  { T with menuItems := T.menuItems.map (fun r => if r.id = id ∧ r.tenantId = tenantId then f r else r) }

def Tables.changeIngredient (f : Ingredient → Ingredient) : Tables :=
  { T with
    ingredients := T.ingredients.map (fun r => if r.id = id ∧ r.tenantId = tenantId then f r else r) }

def Tables.changeStaffShift (f : StaffShift → StaffShift) : Tables :=
  { T with
    staffShifts := T.staffShifts.map (fun r => if r.id = id ∧ r.tenantId = tenantId then f r else r) }

/-- Sets the inventory of an ingredient, in a new row if it has none. -/
def Tables.setInventory (ingredientId : String) (quantity : Column 12 4) (now : Timestamp) :
    Tables :=
  match T.inventory? tenantId ingredientId with
  | none =>
    { T with inventoryLevels := T.inventoryLevels ++ [⟨tenantId, ingredientId, quantity, now⟩] }
  | some _ =>
    { T with
      inventoryLevels := T.inventoryLevels.map (fun r =>
        if r.tenantId = tenantId ∧ r.ingredientId = ingredientId then
          { r with quantity := quantity, updatedAt := now }
        else r) }

end Change

end OpsCopilot
