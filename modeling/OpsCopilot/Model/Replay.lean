import OpsCopilot.Lib.PyDict
import OpsCopilot.Model.EventStore

/-!
# Point-in-time reconstruction

`reconstruct_state_at` of `event_store.py`: the stored events of a tenant up to a moment are
interpreted again, in memory, starting from nothing.
-/

namespace OpsCopilot

open Python Sql Fallible

/-! ### The state that is rebuilt -/

/-- An entry of `state["ingredients"]`, whose fields appear as events set them. -/
structure IngredientState where
  currentPrice : Option Value
  supplierId : Option Value
  stockLevel : Option PyFloat

/-- An entry of `state["menu_items"]`. -/
structure MenuItemState where
  currentPrice : Option Value
  active : Option Bool
  name : Option Value

structure SupplierPriceState where
  price : Value
  effectiveAt : Timestamp

structure OrderState where
  orderId : Value
  orderedAt : Timestamp
  lines : Value

structure WasteState where
  ingredientId : Value
  quantity : Value
  reason : Value
  timestamp : Timestamp

structure InvoiceState where
  invoiceId : Value
  supplierId : Value
  invoiceNumber : Value
  totalAmount : Value
  lines : Value
  invoiceDate : Timestamp

structure StaffingState where
  role : Value
  dayOfWeek : Value
  headcount : Value

structure InformationalEvent where
  timestamp : Timestamp
  payload : Dict

structure ReplayState where
  ingredients : Mapping IngredientState
  menuItems : Mapping MenuItemState
  inventory : Mapping PyDecimal
  supplierPrices : Mapping SupplierPriceState
  orders : List OrderState
  waste : List WasteState
  invoices : List InvoiceState
  staffing : Mapping StaffingState
  informationalEvents : Mapping (List InformationalEvent)

def IngredientState.empty : IngredientState := ⟨none, none, none⟩

def MenuItemState.empty : MenuItemState := ⟨none, none, none⟩

def ReplayState.empty : ReplayState := ⟨[], [], [], [], [], [], [], [], []⟩

/-! ### One event -/

def unhashable (kind : String) : PyException :=
  ⟨.typeError, "unhashable type: '" ++ kind ++ "'"⟩

/-- Only a hashable value can be used as a key. -/
def checkHashable : Value → Except PyException Unit
  | .list _ => .error (unhashable "list")
  | .dict _ => .error (unhashable "dict")
  | _ => .ok ()

/-- `event.payload or {}`, of which `get` is called. -/
def eventPayload (payload : Value) : Except PyException Dict :=
  match payload with
  | .dict d => .ok d
  | v => if v.truthy then .error ⟨.attributeError, "object has no attribute 'get'"⟩ else .ok []

/-- The loop variables that outlive an iteration: `inventory` keeps the level of the last event
that named an ingredient. -/
structure ReplayLoop where
  state : ReplayState
  inventory : Option PyDecimal

section Events

variable (O : Outside) (payload : Dict) (timestamp : Timestamp)

def replaySupplierPriceChange (skuToIngredient : Mapping String) (s : ReplayState) :
    Except PyException ReplayState :=
  match payload.get "supplier_sku_id" with
  | .none => .ok s
  | supplierSkuId => do
    checkHashable supplierSkuId
    let priced := { s with
      supplierPrices := s.supplierPrices.set supplierSkuId ⟨payload.get "new_price", timestamp⟩ }
    match skuToIngredient.find? supplierSkuId, payload.find? "new_price" with
    | some ingredientId, some price =>
      return { priced with
        ingredients := s.ingredients.update (.str ingredientId) .empty
          (fun r => { r with currentPrice := some price }) }
    | _, _ => return priced

def replaySupplierSwitch (s : ReplayState) : Except PyException ReplayState :=
  match payload.get "ingredient_id" with
  | .none => .ok s
  | ingredientId => do
    checkHashable ingredientId
    return { s with
      ingredients := s.ingredients.update ingredientId .empty (fun r =>
        match payload.find? "new_supplier_id" with
        | some supplierId => { r with supplierId := some supplierId }
        | none => r) }

/-- The level that a stock event leads to from `inventory`. -/
def replayedLevel (eventType : EventType) (inventory : PyDecimal) : Except PyException PyDecimal :=
  match eventType with
  | .stockout => .ok (.finite false 0 0)
  | .restock =>
    match payload.find? "new_stock_level" with
    | some level => decimalField level "new_stock_level"
    | none => .ok inventory
  | .inventoryAdjustment =>
    match payload.find? "new_stock_level", payload.find? "stock_delta" with
    | some level, _ => decimalField level "new_stock_level"
    | none, some change => do
      let delta ← decimalField change "stock_delta"
      liftStd (inventory.add delta)
    | none, none => .ok inventory
  | .wasteRecorded => do
    let quantity ← decimalField ((payload.find? "quantity").getD (.int 0)) "quantity"
    liftStd (inventory.sub quantity)
  | _ => .ok inventory

/-- The part of a stock event that is skipped when the event names no ingredient. -/
def replayLevel (eventType : EventType) (r : ReplayLoop) : Except PyException ReplayLoop :=
  match payload.get "ingredient_id" with
  | .none => .ok r
  | ingredientId => do
    checkHashable ingredientId
    let inventory ← replayedLevel payload eventType
      ((r.state.inventory.find? ingredientId).getD (.finite false 0 0))
    let waste :=
      if eventType = .wasteRecorded then
        r.state.waste ++ [⟨ingredientId, payload.get "quantity", payload.get "reason", timestamp⟩]
      else r.state.waste
    return ⟨{ r.state with waste := waste }, some inventory⟩

def replayStock (eventType : EventType) (r : ReplayLoop) : Except PyException ReplayLoop := do
  let r ← replayLevel payload timestamp eventType r
  match r.inventory with
  | none =>
    throw ⟨.unboundLocalError,
      "cannot access local variable 'inventory' where it is not associated with a value"⟩
  | some level =>
    let ingredientId := payload.get "ingredient_id"
    return { r with
      state := { r.state with
        inventory := r.state.inventory.set ingredientId level
        ingredients := r.state.ingredients.update ingredientId .empty
          (fun i => { i with stockLevel := some (O.floatOfDecimal level) }) } }

/-- The menu item that an event names, changed by the event. -/
def replayMenuItem (f : MenuItemState → MenuItemState) (s : ReplayState) :
    Except PyException ReplayState :=
  match payload.get "menu_item_id" with
  | .none => .ok s
  | menuItemId => do
    checkHashable menuItemId
    return { s with menuItems := s.menuItems.update menuItemId .empty f }

def replayMenuPriceChange (s : ReplayState) : Except PyException ReplayState :=
  replayMenuItem payload (fun r =>
    match payload.find? "new_price" with
    | some price => { r with currentPrice := some price }
    | none => r) s

def replayMenuItemRemoved (s : ReplayState) : Except PyException ReplayState :=
  replayMenuItem payload (fun r => { r with active := some false }) s

def replayMenuItemAdded (s : ReplayState) : Except PyException ReplayState :=
  replayMenuItem payload (fun r =>
    { currentPrice := ((payload.find? "current_price").or (payload.find? "price")).or r.currentPrice
      active := some true
      name := (payload.find? "name").or r.name }) s

def replayOrderRecorded (s : ReplayState) : ReplayState :=
  { s with
    orders := s.orders ++
      [⟨payload.get "order_id", timestamp, (payload.find? "lines").getD (.list [])⟩] }

def replayInvoiceRecorded (s : ReplayState) : ReplayState :=
  { s with
    invoices := s.invoices ++
      [⟨payload.get "invoice_id", payload.get "supplier_id", payload.get "invoice_number",
        payload.get "total_amount", (payload.find? "lines").getD (.list []), timestamp⟩] }

def replayStaffingChange (s : ReplayState) : ReplayState :=
  match payload.get "role", payload.get "day_of_week" with
  | .none, _ | _, .none => s
  | role, day =>
    { s with
      staffing := s.staffing.set (.str (pyStr O role ++ ":" ++ pyStr O day))
        ⟨role, day, payload.get "headcount"⟩ }

def replayDemandSpike (s : ReplayState) : ReplayState :=
  { s with
    informationalEvents := s.informationalEvents.update (.str EventType.demandSpike.value) []
      (fun events => events ++ [⟨timestamp, payload⟩]) }

end Events

/-- One iteration of the loop. -/
def replayEvent (O : Outside) (skuToIngredient : Mapping String) (r : ReplayLoop) (e : Event) :
    Except PyException ReplayLoop := do
  let payload ← eventPayload e.payload
  match e.eventType with
  | .supplierPriceChange =>
    return { r with
      state := ← replaySupplierPriceChange payload e.timestamp skuToIngredient r.state }
  | .supplierSwitch => return { r with state := ← replaySupplierSwitch payload r.state }
  | .stockout | .restock | .inventoryAdjustment | .wasteRecorded =>
    replayStock O payload e.timestamp e.eventType r
  | .menuPriceChange => return { r with state := ← replayMenuPriceChange payload r.state }
  | .menuItemRemoved => return { r with state := ← replayMenuItemRemoved payload r.state }
  | .menuItemAdded => return { r with state := ← replayMenuItemAdded payload r.state }
  | .orderRecorded => return { r with state := replayOrderRecorded payload e.timestamp r.state }
  | .invoiceRecorded => return { r with state := replayInvoiceRecorded payload e.timestamp r.state }
  | .staffingChange => return { r with state := replayStaffingChange O payload r.state }
  | .demandSpike => return { r with state := replayDemandSpike payload e.timestamp r.state }

/-! ### The loop -/

/-- The SKUs of a tenant as they are now, whatever the moment asked for. -/
def Tables.skuToIngredient (T : Tables) (tenantId : String) : Mapping String :=
  (T.supplierSkus.filter (fun r => r.tenantId = tenantId)).foldl
    (fun d r => d.set (.str r.id) r.ingredientId) []

/-- What `reconstruct_state_at` returns. -/
structure Reconstruction where
  state : ReplayState
  eventCountReplayed : ℕ

def reconstructStateAt (O : Outside) (tenantId : String) (target : Timestamp) (db : Db) :
    Except PyException Reconstruction := do
  let events := db.replayed tenantId target
  let r ← events.foldlM (replayEvent O (db.tables.skuToIngredient tenantId))
    ⟨ReplayState.empty, none⟩
  return ⟨r.state, events.length⟩

end OpsCopilot
