import OpsCopilot.Lib.Fallible
import OpsCopilot.Model.Database

/-!
# Projections of events

The handlers of `event_store.py` that carry an event over to the operational tables. A handler
sees the payload as it was passed in, before the column turns it into JSON.
-/

namespace OpsCopilot

open Python Sql Fallible

def invalidEvent (message : String) : PyException := ⟨.invalidEventError, message⟩

def liftStd {α : Type} (r : Except StdError α) : Except PyException α := r.mapError .ofStd

/-- `_decimal`. -/
def decimalField (value : Value) (fieldName : String) : Except PyException PyDecimal :=
  value.toDecimal.elim (.error (invalidEvent (fieldName ++ " must be a valid numeric value."))) .ok

/-- `_require_payload_field`. -/
def requirePayloadField (payload : Dict) (fieldName : String) : Except PyException Value :=
  match payload.get fieldName with
  | .none => .error (invalidEvent ("Event payload requires '" ++ fieldName ++ "'."))
  | v => .ok v

/-- `line.get` is a method of dictionaries only. -/
def lineDict : Value → Except PyException Dict
  | .dict d => .ok d
  | _ => .error ⟨.attributeError, "object has no attribute 'get'"⟩

/-- Raises when `decimal < 0`. -/
def refuseNegative (d : PyDecimal) (message : String) : Except PyException Unit := do
  let negative ← liftStd d.isNegative
  raiseIf negative (invalidEvent message)

/-- Raises when `decimal <= 0`. -/
def refuseNonpositive (d : PyDecimal) (message : String) : Except PyException Unit := do
  let nonpositive ← liftStd d.isNonpositive
  raiseIf nonpositive (invalidEvent message)

/-- `x + y` in the context, whose range ends with `Overflow`. -/
def addInContext (x y : PyDecimal) : Except PyException PyDecimal := do
  let sum ← liftStd (x.add y)
  raiseIf (sum.beyondContext = true) decimalOverflow
  return sum

/-- `x - y` in the context. -/
def subInContext (x y : PyDecimal) : Except PyException PyDecimal := do
  let difference ← liftStd (x.sub y)
  raiseIf (difference.beyondContext = true) decimalOverflow
  return difference

/-- The check constraint `quantity > 0`. -/
def checkPositive {precision scale : ℕ} (x : Column precision scale) : Except PyException Unit :=
  raiseIf (x.positive = false) ⟨.integrityError, "violates check constraint"⟩

def duplicateKey : PyException :=
  ⟨.integrityError, "duplicate key value violates unique constraint"⟩

/-! ### Tenant-scoped lookups -/

/-- A lookup by primary key within a tenant. -/
def getRow {α : Type} (label : String) (find : String → Option α) (tenantId : String) (id : Value) :
    Except PyException α := do
  let key ← filterText id
  match key.bind find with
  | some row => return row
  | none =>
    throw (invalidEvent (label ++ " " ++ key.getD "None" ++ " does not belong to tenant " ++
      tenantId ++ "."))

section Lookups

variable (T : Tables) (tenantId : String)

def getIngredient (id : Value) : Except PyException Ingredient :=
  getRow "Ingredient" (T.ingredient? tenantId) tenantId id

def getMenuItem (id : Value) : Except PyException MenuItem :=
  getRow "Menu item" (T.menuItem? tenantId) tenantId id

def getSupplier (id : Value) : Except PyException Supplier :=
  getRow "Supplier" (T.supplier? tenantId) tenantId id

def getSupplierSku (id : Value) : Except PyException SupplierSKU :=
  getRow "Supplier SKU" (T.supplierSku? tenantId) tenantId id

end Lookups

/-! ### Handlers -/

/-- What a handler reads besides the tables: `rowId` is the identifier drawn for a row that gets
none from the payload. -/
structure Projection where
  tenantId : String
  payload : Dict
  timestamp : Timestamp
  rowId : String

section Handlers

variable (O : Outside) (e : Projection) (T : Tables)

def updateInventoryProjection (ingredientId : Value) (newQuantity : PyDecimal) :
    Except PyException Tables := do
  let ingredient ← getIngredient T e.tenantId ingredientId
  let quantity ← storeNumeric 12 4 newQuantity
  return T.setInventory e.tenantId ingredient.id quantity e.timestamp

/-- The inventory of an ingredient and the compatibility field of the ingredient itself. -/
def setStock (ingredientId : Value) (newQuantity : PyDecimal) : Except PyException Tables := do
  let T' ← updateInventoryProjection e T ingredientId newQuantity
  let ingredient ← getIngredient T' e.tenantId ingredientId
  let level ← storeNumeric 12 4 newQuantity
  return T'.changeIngredient e.tenantId ingredient.id (fun r => { r with currentStockLevel := level })

/-- The stock that a relative change starts from. -/
def currentQuantity (ingredient : Ingredient) : PyDecimal :=
  match T.inventory? e.tenantId ingredient.id with
  | some inventory => columnDecimal inventory.quantity
  | none => columnDecimal ingredient.currentStockLevel

def applySupplierPriceChange : Except PyException Tables := do
  let supplierSkuId ← requirePayloadField e.payload "supplier_sku_id"
  let newPrice ← decimalField (← requirePayloadField e.payload "new_price") "new_price"
  refuseNegative newPrice "new_price cannot be negative."
  let sku ← getSupplierSku T e.tenantId supplierSkuId
  let ingredient ← getIngredient T e.tenantId (.str sku.ingredientId)
  let price ← storeNumeric 10 2 newPrice
  let priced : Tables := { T with
    supplierPrices := T.supplierPrices ++ [⟨e.tenantId, sku.id, price, e.timestamp⟩] }
  return priced.changeIngredient e.tenantId ingredient.id (fun r => { r with currentPrice := price })

def applySupplierSwitch : Except PyException Tables := do
  let ingredientId ← requirePayloadField e.payload "ingredient_id"
  let newSupplierId ← requirePayloadField e.payload "new_supplier_id"
  let supplier ← getSupplier T e.tenantId newSupplierId
  let ingredient ← getIngredient T e.tenantId ingredientId
  return T.changeIngredient e.tenantId ingredient.id
    (fun r => { r with currentSupplierId := some supplier.id })

def applyStockout : Except PyException Tables := do
  let ingredientId ← requirePayloadField e.payload "ingredient_id"
  setStock e T ingredientId (.finite false 0 0)

def applyRestock : Except PyException Tables := do
  let ingredientId ← requirePayloadField e.payload "ingredient_id"
  let newQuantity ←
    decimalField (← requirePayloadField e.payload "new_stock_level") "new_stock_level"
  refuseNegative newQuantity "new_stock_level cannot be negative."
  setStock e T ingredientId newQuantity

def applyInventoryAdjustment : Except PyException Tables := do
  let ingredientId ← requirePayloadField e.payload "ingredient_id"
  let ingredient ← getIngredient T e.tenantId ingredientId
  let newQuantity ←
    match e.payload.find? "new_stock_level", e.payload.find? "stock_delta" with
    | some level, _ => decimalField level "new_stock_level"
    | none, some change => do
      let delta ← decimalField change "stock_delta"
      addInContext (currentQuantity e T ingredient) delta
    | none, none =>
      throw (invalidEvent
        "inventory_adjustment requires either 'new_stock_level' or 'stock_delta'.")
  refuseNegative newQuantity "Inventory quantity cannot become negative."
  setStock e T ingredientId newQuantity

def applyWaste : Except PyException Tables := do
  let ingredientId ← requirePayloadField e.payload "ingredient_id"
  let quantity ← decimalField (← requirePayloadField e.payload "quantity") "quantity"
  let reason ← requirePayloadField e.payload "reason"
  refuseNonpositive quantity "Waste quantity must be greater than zero."
  let ingredient ← getIngredient T e.tenantId ingredientId
  let newQuantity ← subInContext (currentQuantity e T ingredient) quantity
  refuseNegative newQuantity "Waste quantity exceeds current inventory."
  -- The driver writes the text before the database sees the numbers of the statement.
  let text ← bindText (pyStr O reason)
  let wasted ← storeNumeric 12 4 quantity
  checkPositive wasted
  let T' : Tables := { T with
    wasteRecords := T.wasteRecords ++ [⟨e.tenantId, ingredient.id, wasted, text, e.timestamp⟩] }
  setStock e T' ingredientId newQuantity

def applyMenuPriceChange : Except PyException Tables := do
  let menuItemId ← requirePayloadField e.payload "menu_item_id"
  let newPrice ← decimalField (← requirePayloadField e.payload "new_price") "new_price"
  refuseNegative newPrice "Menu price cannot be negative."
  let menuItem ← getMenuItem T e.tenantId menuItemId
  let price ← storeNumeric 10 2 newPrice
  return T.changeMenuItem e.tenantId menuItem.id (fun r => { r with currentPrice := price })

/-- `payload.get("active", True)`. -/
def activeField (payload : Dict) : Except PyException Bool :=
  match (payload.find? "active").getD (.bool true) with
  | .bool b => .ok b
  | _ => .error (invalidEvent "Menu item active must be a boolean.")

def applyMenuItemAdded : Except PyException Tables := do
  let menuItemId ← requirePayloadField e.payload "menu_item_id"
  let name ← requirePayloadField e.payload "name"
  let currentPrice ←
    decimalField (← requirePayloadField e.payload "current_price") "current_price"
  refuseNegative currentPrice "Menu item current_price cannot be negative."
  let active ← activeField e.payload
  let key ← filterText menuItemId
  let id := key.getD ""
  let text ← bindText (pyStr O name)
  let price ← storeNumeric 10 2 currentPrice
  match T.menuItem? e.tenantId id with
  | some existing =>
    return T.changeMenuItem e.tenantId existing.id
      (fun r => { r with name := text, currentPrice := price, active := active })
  | none =>
    raiseIf (T.menuItems.any (fun r => r.id = id)) duplicateKey
    return { T with menuItems := T.menuItems ++ [⟨id, e.tenantId, text, price, active⟩] }

def applyMenuItemRemoved : Except PyException Tables := do
  let menuItemId ← requirePayloadField e.payload "menu_item_id"
  let menuItem ← getMenuItem T e.tenantId menuItemId
  return T.changeMenuItem e.tenantId menuItem.id (fun r => { r with active := false })

/-- The checks of a line of an order: the item, the quantity and the price of its rows. -/
def readOrderLine (line : Value) : Except PyException (String × ℤ × PyDecimal) := do
  let line ← lineDict line
  let menuItemId ← requirePayloadField line "menu_item_id"
  let quantity ← liftStd (← requirePayloadField line "quantity").toInt
  let unitPrice ← decimalField (← requirePayloadField line "unit_price") "unit_price"
  raiseIf (quantity ≤ 0) (invalidEvent "Order quantity must be greater than zero.")
  refuseNegative unitPrice "Order unit price cannot be negative."
  let menuItem ← getMenuItem T e.tenantId menuItemId
  return (menuItem.id, quantity, unitPrice)

def storeOrderLine (orderId : String) (line : String × ℤ × PyDecimal) :
    Except PyException Tables := do
  let count ← storeInteger line.2.1
  let price ← storeNumeric 10 2 line.2.2
  return { T with
    salesOrderLines := T.salesOrderLines ++ [⟨e.tenantId, orderId, line.1, count, price⟩]
    orderVolume := T.orderVolume ++ [⟨e.tenantId, line.1, e.timestamp, count⟩] }

/-- The lines of an order. Their rows are pending until all lines are read. -/
def recordOrderLines (orderId : String) (lines : List Value) : Except PyException Tables := do
  let read ← lines.mapM (readOrderLine e T)
  read.foldlM (fun T line => storeOrderLine e T orderId line) T

def applyOrderRecorded : Except PyException Tables := do
  match e.payload.get "lines" with
  | .list (line :: lines) =>
    let orderId := e.payload.get "order_id"
    let id ← if orderId.truthy then storeText O orderId else pure e.rowId
    raiseIf (T.salesOrders.any (fun r => r.id = id)) duplicateKey
    let ordered : Tables := { T with salesOrders := T.salesOrders ++ [⟨id, e.tenantId, e.timestamp⟩] }
    recordOrderLines e ordered id (line :: lines)
  | _ => throw (invalidEvent "order_recorded requires a non-empty 'lines' list.")

/-- The checks of a line of an invoice: the product, the quantity and the price of its row. -/
def readInvoiceLine (supplierId : String) (line : Value) :
    Except PyException (String × PyDecimal × PyDecimal) := do
  let line ← lineDict line
  let supplierSkuId ← requirePayloadField line "supplier_sku_id"
  let quantity ← decimalField (← requirePayloadField line "quantity") "quantity"
  let unitPrice ← decimalField (← requirePayloadField line "unit_price") "unit_price"
  refuseNonpositive quantity "Invoice quantity must be greater than zero."
  refuseNegative unitPrice "Invoice unit price cannot be negative."
  let sku ← getSupplierSku T e.tenantId supplierSkuId
  raiseIf (sku.supplierId ≠ supplierId)
    (invalidEvent "Invoice SKU belongs to a different supplier.")
  return (sku.id, quantity, unitPrice)

def storeInvoiceLine (invoiceId : String) (line : String × PyDecimal × PyDecimal) :
    Except PyException Tables := do
  let amount ← storeNumeric 12 4 line.2.1
  checkPositive amount
  let price ← storeNumeric 10 2 line.2.2
  return { T with
    invoiceLines := T.invoiceLines ++ [⟨e.tenantId, invoiceId, line.1, amount, price⟩] }

/-- The lines of an invoice. -/
def recordInvoiceLines (supplierId invoiceId : String) (lines : List Value) :
    Except PyException Tables := do
  let read ← lines.mapM (readInvoiceLine e T supplierId)
  read.foldlM (fun T line => storeInvoiceLine e T invoiceId line) T

/-- The identifier of a new row: the one in the payload, or the one drawn for it. -/
def givenId (id : Value) (drawn : String) : Except PyException String :=
  match id with
  | .none => .ok drawn
  | v => storeText O v

def applyInvoiceRecorded : Except PyException Tables := do
  let supplierId ← requirePayloadField e.payload "supplier_id"
  let invoiceNumber ← requirePayloadField e.payload "invoice_number"
  let supplier ← getSupplier T e.tenantId supplierId
  let totalAmount ←
    decimalField ((e.payload.find? "total_amount").getD (.str "0")) "total_amount"
  refuseNegative totalAmount "Invoice total cannot be negative."
  let id ← givenId O (e.payload.get "invoice_id") e.rowId
  let number ← bindText (pyStr O invoiceNumber)
  let total ← storeNumeric 12 2 totalAmount
  raiseIf (T.invoices.any (fun r => r.id = id ∨ r.tenantId = e.tenantId ∧ r.invoiceNumber = number))
    duplicateKey
  let invoiced : Tables := { T with
    invoices := T.invoices ++ [⟨id, e.tenantId, supplier.id, number, e.timestamp, total⟩] }
  match (e.payload.find? "lines").getD (.list []) with
  | .list lines => recordInvoiceLines e invoiced supplier.id id lines
  | _ => throw (invalidEvent "Invoice 'lines' must be a list.")

/-- `int(v)` of a staffing field; only `TypeError` and `ValueError` are reported as such. -/
def staffingInt (v : Value) : Except PyException ℤ :=
  match v.toInt with
  | .ok n => .ok n
  | .error .overflowError => .error (.ofStd .overflowError)
  | .error _ => .error (invalidEvent "day_of_week and headcount must be integers.")

/-- The shift that a staffing change is about. -/
def findShift (staffShiftId : Value) (role : String) (dayOfWeek : ℤ) :
    Except PyException (Option StaffShift) := do
  if staffShiftId.truthy then
    let key ← filterText staffShiftId
    return key.bind (fun id => T.staffShifts.find? (fun r => r.id = id ∧ r.tenantId = e.tenantId))
  else
    let role ← bindText role
    oneOrNone (T.staffShifts.filter
      (fun r => r.tenantId = e.tenantId ∧ r.role = role ∧ r.dayOfWeek = dayOfWeek))

def applyStaffingChange : Except PyException Tables := do
  let staffShiftId := e.payload.get "staff_shift_id"
  let role := pyStr O (← requirePayloadField e.payload "role")
  raiseIf (e.payload.get "day_of_week" matches .none)
    (invalidEvent "staffing_change requires 'day_of_week'.")
  raiseIf (e.payload.get "headcount" matches .none)
    (invalidEvent "staffing_change requires 'headcount'.")
  let dayOfWeek ← staffingInt (e.payload.get "day_of_week")
  let headcount ← staffingInt (e.payload.get "headcount")
  raiseIf (dayOfWeek < 0 ∨ 6 < dayOfWeek) (invalidEvent "day_of_week must be between 0 and 6.")
  raiseIf (headcount < 0) (invalidEvent "headcount cannot be negative.")
  let shift ← findShift e T staffShiftId role dayOfWeek
  let role ← bindText role
  let count ← storeInteger headcount
  match shift with
  | some existing =>
    return T.changeStaffShift e.tenantId existing.id
      (fun r => { r with role := role, dayOfWeek := dayOfWeek, headcount := count })
  | none =>
    let id ← givenId O staffShiftId e.rowId
    raiseIf (T.staffShifts.any (fun r => r.id = id)) duplicateKey
    return { T with staffShifts := T.staffShifts ++ [⟨id, e.tenantId, role, dayOfWeek, count⟩] }

/-- `_apply_to_current_state`: a demand spike has no handler. -/
def applyToCurrentState (eventType : EventType) : Except PyException Tables :=
  match eventType with
  | .supplierPriceChange => applySupplierPriceChange e T
  | .supplierSwitch => applySupplierSwitch e T
  | .stockout => applyStockout e T
  | .restock => applyRestock e T
  | .inventoryAdjustment => applyInventoryAdjustment e T
  | .wasteRecorded => applyWaste O e T
  | .menuItemAdded => applyMenuItemAdded O e T
  | .menuItemRemoved => applyMenuItemRemoved e T
  | .menuPriceChange => applyMenuPriceChange e T
  | .orderRecorded => applyOrderRecorded O e T
  | .invoiceRecorded => applyInvoiceRecorded O e T
  | .staffingChange => applyStaffingChange O e T
  | .demandSpike => .ok T

end Handlers

end OpsCopilot
