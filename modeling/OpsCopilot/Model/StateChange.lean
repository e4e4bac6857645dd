import OpsCopilot.Model.EventStore

/-!
# From an executed action to its event

`_apply_state_change` and the two lookups that complete a payload to what the event store asks for.
-/

namespace OpsCopilot

open Python Sql Fallible

def toolFrameworkError (message : String) : PyException := ⟨.toolFrameworkError, message⟩

def negativeHeadcount : PyException :=
  toolFrameworkError "STAFFING_CHANGE would result in a negative headcount."

/-- `payload[field]`. -/
def payloadItem (payload : Dict) (field : String) : Except PyException Value :=
  (payload.find? field).elim (.error ⟨.keyError, "'" ++ field ++ "'"⟩) .ok

section Lookup

variable (O : Outside) (T : Tables) (tenantId : String) (payload : Dict)

/-! ### Supplier switches -/

/-- The SKU that the caller names, which has to belong to the ingredient. -/
def explicitSku (skuId : Value) : Except PyException String := do
  let key ← filterText skuId
  match key.bind (T.supplierSku? tenantId) with
  | none =>
    throw (toolFrameworkError ("Supplier SKU " ++ pyStr O skuId ++ " does not belong to tenant " ++
      tenantId ++ "."))
  | some sku =>
    match payload.get "ingredient_id" with
    | .none => return sku.id
    | .str ingredientId =>
      raiseIf (sku.ingredientId ≠ ingredientId)
        (toolFrameworkError "supplier_sku_id does not belong to the requested ingredient.")
      return sku.id
    | _ => throw (toolFrameworkError "supplier_sku_id does not belong to the requested ingredient.")

/-- The first SKU of the current supplier for the ingredient, else the first SKU for it. -/
def ingredientSku (ingredient : Ingredient) : Option SupplierSKU :=
  let skus := T.supplierSkus.filter
    (fun r => r.tenantId = tenantId ∧ r.ingredientId = ingredient.id)
  (skus.find? (fun r => some r.supplierId = ingredient.currentSupplierId)).or skus.head?

def resolveSupplierSkuId : Except PyException String :=
  match payload.get "supplier_sku_id" with
  | .none =>
    match payload.get "ingredient_id" with
    | .none => .error (toolFrameworkError "SUPPLIER_SWITCH requires ingredient_id.")
    | ingredientId => do
      let key ← filterText ingredientId
      match key.bind (T.ingredient? tenantId) with
      | none =>
        throw (toolFrameworkError ("Ingredient " ++ key.getD "None" ++
          " does not belong to tenant " ++ tenantId ++ "."))
      | some ingredient =>
        match ingredientSku T tenantId ingredient with
        | some sku => return sku.id
        | none =>
          throw (toolFrameworkError ("No SupplierSKU exists for ingredient " ++ ingredient.id ++
            " within tenant " ++ tenantId ++ "."))
  | skuId => explicitSku O T tenantId payload skuId

/-! ### Staffing changes -/

/-- `int(v)` with `TypeError` and `ValueError` reported under the field's name. -/
def toolInt (v : Value) (field : String) : Except PyException ℤ :=
  match v.toInt with
  | .ok n => .ok n
  | .error .overflowError => .error (.ofStd .overflowError)
  | .error _ => .error (toolFrameworkError (field ++ " must be an integer."))

def optionalInt (v : Value) (field : String) : Except PyException (Option ℤ) :=
  match v with
  | .none => .ok none
  | v => (toolInt v field).map some

/-- The event payload for an existing shift or, without one, for a new one. -/
def staffingEvent (shift : Option StaffShift) (shiftId : Option Value) (role : Option String)
    (dayOfWeek headcount : Option ℤ) (delta : ℤ) : Except PyException Dict := do
  let role := role.getD ((shift.map StaffShift.role).getD "general")
  let dayOfWeek := dayOfWeek.getD ((shift.map StaffShift.dayOfWeek).getD 0)
  let headcount := headcount.getD ((shift.map StaffShift.headcount).getD 0 + delta)
  raiseIf (headcount < 0) negativeHeadcount
  return (shiftId.elim [] (fun id => [(Key.str "staff_shift_id", id)])) ++
    [(.str "role", .str role), (.str "day_of_week", .int dayOfWeek),
      (.str "headcount", .int headcount)]

def tenantShifts : List StaffShift := T.staffShifts.filter (fun r => r.tenantId = tenantId)

def resolveStaffingEventPayload : Except PyException Dict := do
  let delta ←
    match payload.find? "headcount_delta" with
    | none => throw (toolFrameworkError "STAFFING_CHANGE requires headcount_delta.")
    | some (.bool _) => throw (toolFrameworkError "headcount_delta must be an integer.")
    | some v => toolInt v "headcount_delta"
  let role :=
    match payload.get "role" with
    | .none => none
    | v => some (pyStr O v)
  let dayOfWeek ← optionalInt (payload.get "day_of_week") "day_of_week"
  let headcount ← optionalInt (payload.get "headcount") "headcount"
  match payload.get "staff_shift_id" with
  | .none =>
    match role, dayOfWeek with
    | some role, some day =>
      let role ← bindText role
      let shift ← oneOrNone ((tenantShifts T tenantId).filter
        (fun r => r.role = role ∧ r.dayOfWeek = day))
      staffingEvent shift (shift.map (fun s => Value.str s.id)) (some role) (some day) headcount
        delta
    | _, _ =>
      let shift := (tenantShifts T tenantId).head?
      staffingEvent shift (shift.map (fun s => Value.str s.id)) role dayOfWeek headcount delta
  | shiftId =>
    let key ← filterText shiftId
    match (tenantShifts T tenantId).find? (fun r => some r.id = key) with
    | none =>
      throw (toolFrameworkError ("Staff shift " ++ key.getD "None" ++
        " does not belong to tenant " ++ tenantId ++ "."))
    | some shift => staffingEvent (some shift) (some shiftId) role dayOfWeek headcount delta

/-! ### Events -/

def agentSource : String := "agent_action"

/-- The event that `_apply_state_change` appends for an action. -/
def stateChangeEvent (actionType : ActionType) : Except PyException (EventType × Dict) := do
  match actionType with
  | .priceChange =>
    let menuItemId ← payloadItem payload "menu_item_id"
    let newPrice ← payloadItem payload "new_price"
    return (.menuPriceChange, [(.str "menu_item_id", menuItemId), (.str "new_price", newPrice)])
  | .supplierSwitch =>
    let skuId ← resolveSupplierSkuId O T tenantId payload
    let ingredientId ← payloadItem payload "ingredient_id"
    let newPrice ← payloadItem payload "new_supplier_price"
    return (.supplierPriceChange, [(.str "supplier_sku_id", .str skuId),
      (.str "ingredient_id", ingredientId), (.str "new_price", newPrice)])
  | .menuSwap =>
    match payload.find? "action" with
    | some (.str "remove") =>
      let menuItemId ← payloadItem payload "menu_item_id"
      return (.menuItemRemoved, [(.str "menu_item_id", menuItemId)])
    | _ =>
      throw ⟨.unsupportedToolActionError,
        "No event-sourced state change is implemented for menu_swap"⟩
  | .staffingChange =>
    let staffing ← resolveStaffingEventPayload O T tenantId payload
    let delta ← payloadItem payload "headcount_delta"
    return (.staffingChange, staffing ++ [(.str "headcount_delta", delta)])

end Lookup

/-- `_apply_state_change` with nothing in between: it completes the payload and appends the event. -/
def applyStateChange (O : Outside) (tenantId : String) (actionType : ActionType) (payload : Dict)
    (draw : Draw) (db : Db) : Except PyException Db := do
  let event ← stateChangeEvent O db.tables tenantId payload actionType
  appendEvent O tenantId (.member event.1) event.2 agentSource draw db

end OpsCopilot
