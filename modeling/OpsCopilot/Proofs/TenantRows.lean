import OpsCopilot.Lib.Noninterference
import OpsCopilot.Proofs.StockStep

/-!
# Handlers and the rows of one tenant

Every handler looks rows up within the tenant of its event, and changes or adds rows of that
tenant. The one thing that it sees of the other tenants is that an identifier is taken.
-/

namespace OpsCopilot

open Python Sql Fallible Noninterference

/-- The rows of a tenant. -/
def Tables.rowsOf (T : Tables) (t : String) : Tables where
  suppliers := T.suppliers.filter (fun r => r.tenantId = t)
  ingredients := T.ingredients.filter (fun r => r.tenantId = t)
  supplierSkus := T.supplierSkus.filter (fun r => r.tenantId = t)
  supplierPrices := T.supplierPrices.filter (fun r => r.tenantId = t)
  menuItems := T.menuItems.filter (fun r => r.tenantId = t)
  recipes := T.recipes.filter (fun r => r.tenantId = t)
  recipeIngredients := T.recipeIngredients.filter (fun r => r.tenantId = t)
  inventoryLevels := T.inventoryLevels.filter (fun r => r.tenantId = t)
  invoices := T.invoices.filter (fun r => r.tenantId = t)
  invoiceLines := T.invoiceLines.filter (fun r => r.tenantId = t)
  salesOrders := T.salesOrders.filter (fun r => r.tenantId = t)
  salesOrderLines := T.salesOrderLines.filter (fun r => r.tenantId = t)
  orderVolume := T.orderVolume.filter (fun r => r.tenantId = t)
  wasteRecords := T.wasteRecords.filter (fun r => r.tenantId = t)
  staffShifts := T.staffShifts.filter (fun r => r.tenantId = t)

/-- The tables as a tenant sees them. -/
abbrev rowsView (t : String) (T : Tables) : Tables := T.rowsOf t

/-! ### Lookups -/

section Lookups

variable (T : Tables) (t id : String)

lemma find?_filter_own {α : Type} (rows : List α) (own key : α → Prop) [DecidablePred own]
    [DecidablePred key] : (rows.filter (fun r => own r)).find? (fun r => key r ∧ own r) =
      rows.find? (fun r => key r ∧ own r) := by
  rw [List.find?_filter]
  congr 1
  funext r
  by_cases hr : own r <;> simp [hr]

lemma Tables.menuItem?_rowsOf : (T.rowsOf t).menuItem? t id = T.menuItem? t id :=
  find?_filter_own T.menuItems (fun r => r.tenantId = t) (fun r => r.id = id)

lemma Tables.ingredient?_rowsOf : (T.rowsOf t).ingredient? t id = T.ingredient? t id :=
  find?_filter_own T.ingredients (fun r => r.tenantId = t) (fun r => r.id = id)

lemma Tables.supplier?_rowsOf : (T.rowsOf t).supplier? t id = T.supplier? t id :=
  find?_filter_own T.suppliers (fun r => r.tenantId = t) (fun r => r.id = id)

lemma Tables.supplierSku?_rowsOf : (T.rowsOf t).supplierSku? t id = T.supplierSku? t id :=
  find?_filter_own T.supplierSkus (fun r => r.tenantId = t) (fun r => r.id = id)

lemma Tables.inventory?_rowsOf : (T.rowsOf t).inventory? t id = T.inventory? t id := by
  have h := find?_filter_own T.inventoryLevels (fun r => r.tenantId = t) (fun r => r.ingredientId = id)
  simp only [and_comm] at h
  exact h

end Lookups

section Same

variable {t : String} {T T' : Tables}

/-- A lookup within the tenant sees what the tenant sees. -/
lemma lookup_same {α : Type} {f : Tables → String → String → Option α}
    (hf : ∀ T t id, f (Tables.rowsOf T t) t id = f T t id) (h : SameView rowsView t T T') :
    f T t = f T' t := by
  funext id
  rw [← hf T t id, ← hf T' t id]
  exact congrArg (fun U => f U t id) h

lemma getMenuItem_same (h : SameView rowsView t T T') (id : Value) :
    getMenuItem T t id = getMenuItem T' t id := by
  rw [getMenuItem, getMenuItem, lookup_same Tables.menuItem?_rowsOf h]

lemma getIngredient_same (h : SameView rowsView t T T') (id : Value) :
    getIngredient T t id = getIngredient T' t id := by
  rw [getIngredient, getIngredient, lookup_same Tables.ingredient?_rowsOf h]

lemma getSupplier_same (h : SameView rowsView t T T') (id : Value) :
    getSupplier T t id = getSupplier T' t id := by
  rw [getSupplier, getSupplier, lookup_same Tables.supplier?_rowsOf h]

lemma getSupplierSku_same (h : SameView rowsView t T T') (id : Value) :
    getSupplierSku T t id = getSupplierSku T' t id := by
  rw [getSupplierSku, getSupplierSku, lookup_same Tables.supplierSku?_rowsOf h]

end Same

/-! ### Changes -/

section Changes

variable {α : Type} {tenant : α → String} {t o : String} {g : α → α} {rows : List α}

/-- Rows that are changed one by one keep their tenant. -/
lemma filter_change (hg : ∀ r, tenant (g r) = tenant r) :
    (rows.map g).filter (fun r => tenant r = t) = (rows.filter (fun r => tenant r = t)).map g := by
  rw [List.filter_map]
  congr 2
  funext r
  rw [Function.comp_apply, hg]

lemma filter_change_other (hg : ∀ r, tenant (g r) = tenant r) (ho : ∀ r, tenant r = o → g r = r) :
    (rows.map g).filter (fun r => tenant r = o) = rows.filter (fun r => tenant r = o) := by
  rw [filter_change hg]
  refine (List.map_congr_left (fun r hr => ?_)).trans (List.map_id _)
  exact ho r (of_decide_eq_true (List.mem_filter.mp hr).2)

lemma change_tenant {c : α → Prop} [DecidablePred c] {f : α → α}
    (hf : ∀ r, tenant (f r) = tenant r) (r : α) : tenant (if c r then f r else r) = tenant r := by
  split_ifs
  · exact hf r
  · rfl

lemma change_other {c : α → Prop} [DecidablePred c] {f : α → α} (hc : ∀ r, c r → tenant r = t)
    (ho : o ≠ t) (r : α) (hr : tenant r = o) : (if c r then f r else r) = r :=
  if_neg (fun h => ho (hr.symm.trans (hc r h)))

end Changes

/-- A handler that sees and changes the rows of its tenant only. -/
abbrev OwnRows (t : String) (op : Tables → Except PyException Tables) : Prop :=
  Confined rowsView t (SameView rowsView t) op

section Rows

variable {t : String}

lemma ownRows_changeMenuItem (id : String) {f : MenuItem → MenuItem}
    (hf : ∀ r, (f r).tenantId = r.tenantId) :
    OwnRows t (fun T => pure (T.changeMenuItem t id f)) := by
  refine .change (fun V => V.changeMenuItem t id f) (fun _ _ h => h) (fun T => ?_) (fun T o ho => ?_)
  · simp only [Tables.changeMenuItem, Tables.rowsOf]
    rw [filter_change (change_tenant hf)]
  · simp only [Tables.changeMenuItem, Tables.rowsOf]
    rw [filter_change_other (change_tenant hf) (change_other (fun _ h => h.2) ho)]

lemma ownRows_changeIngredient (id : String) {f : Ingredient → Ingredient}
    (hf : ∀ r, (f r).tenantId = r.tenantId) :
    OwnRows t (fun T => pure (T.changeIngredient t id f)) := by
  refine .change (fun V => V.changeIngredient t id f) (fun _ _ h => h) (fun T => ?_)
    (fun T o ho => ?_)
  · simp only [Tables.changeIngredient, Tables.rowsOf]
    rw [filter_change (change_tenant hf)]
  · simp only [Tables.changeIngredient, Tables.rowsOf]
    rw [filter_change_other (change_tenant hf) (change_other (fun _ h => h.2) ho)]

lemma ownRows_changeStaffShift (id : String) {f : StaffShift → StaffShift}
    (hf : ∀ r, (f r).tenantId = r.tenantId) :
    OwnRows t (fun T => pure (T.changeStaffShift t id f)) := by
  refine .change (fun V => V.changeStaffShift t id f) (fun _ _ h => h) (fun T => ?_)
    (fun T o ho => ?_)
  · simp only [Tables.changeStaffShift, Tables.rowsOf]
    rw [filter_change (change_tenant hf)]
  · simp only [Tables.changeStaffShift, Tables.rowsOf]
    rw [filter_change_other (change_tenant hf) (change_other (fun _ h => h.2) ho)]

lemma ownRows_setInventory (id : String) (x : Column 12 4) (now : Timestamp) :
    OwnRows t (fun T => pure (T.setInventory t id x now)) := by
  have hg : ∀ r : InventoryLevel, (if r.tenantId = t ∧ r.ingredientId = id then
      { r with quantity := x, updatedAt := now } else r).tenantId = r.tenantId :=
    change_tenant (fun _ => rfl)
  refine .change (fun V => V.setInventory t id x now) (fun _ _ h => h) (fun T => ?_)
    (fun T o ho => ?_)
  · rw [Tables.setInventory, Tables.setInventory, T.inventory?_rowsOf]
    cases T.inventory? t id with
    | none => simp only [Tables.rowsOf, List.filter_append]; simp
    | some _ =>
      simp only [Tables.rowsOf]
      rw [filter_change hg]
  · rw [Tables.setInventory]
    cases T.inventory? t id with
    | none => simp only [Tables.rowsOf, List.filter_append]; simp [ho.symm]
    | some _ =>
      simp only [Tables.rowsOf]
      rw [filter_change_other hg (change_other (fun _ h => h.1) ho)]

end Rows

/-! ### Handlers -/

section Handlers

variable (O : Outside) (e : Projection)

/-- What does not depend on the tables is the same in all of them. -/
lemma ownRows_const {α : Type} {t : String} {x : Except PyException α}
    {f : α → Tables → Except PyException Tables} (hf : ∀ a, x = .ok a → OwnRows t (f a)) :
    OwnRows t (fun T => x >>= fun a => f a T) :=
  .read (fun _ _ _ => rfl) (fun a ⟨_, ha⟩ => hf a ha)

lemma ownRows_menuPriceChange : OwnRows e.tenantId (fun T => applyMenuPriceChange e T) := by
  unfold applyMenuPriceChange
  refine ownRows_const fun menuItemId _ => ownRows_const fun value _ => ownRows_const fun d _ =>
    ownRows_const fun _ _ => .read (fun T T' h => getMenuItem_same h menuItemId) fun row _ => ?_
  exact ownRows_const fun price _ => ownRows_changeMenuItem row.id (by exact fun _ => rfl)

lemma ownRows_menuItemRemoved : OwnRows e.tenantId (fun T => applyMenuItemRemoved e T) := by
  unfold applyMenuItemRemoved
  refine ownRows_const fun menuItemId _ =>
    .read (fun T T' h => getMenuItem_same h menuItemId) fun row _ => ?_
  exact ownRows_changeMenuItem row.id (by exact fun _ => rfl)

lemma ownRows_supplierPriceChange : OwnRows e.tenantId (fun T => applySupplierPriceChange e T) := by
  unfold applySupplierPriceChange
  refine ownRows_const fun supplierSkuId _ => ownRows_const fun value _ => ownRows_const fun d _ =>
    ownRows_const fun _ _ => .read (fun T T' h => getSupplierSku_same h supplierSkuId) fun sku _ =>
    .read (fun T T' h => getIngredient_same h _) fun ingredient _ => ownRows_const fun price _ => ?_
  have hadd : OwnRows e.tenantId (fun T => pure ({ T with
      supplierPrices := T.supplierPrices ++ [⟨e.tenantId, sku.id, price, e.timestamp⟩] } : Tables)) := by
    refine .change (fun V => { V with
      supplierPrices := V.supplierPrices ++ [⟨e.tenantId, sku.id, price, e.timestamp⟩] })
      (fun _ _ h => h) (fun T => ?_) (fun T o ho => ?_)
    · simp [Tables.rowsOf]
    · simp [Tables.rowsOf, ho.symm]
  exact hadd.andThen (ownRows_changeIngredient ingredient.id (by exact fun _ => rfl))

lemma ownRows_supplierSwitch : OwnRows e.tenantId (fun T => applySupplierSwitch e T) := by
  unfold applySupplierSwitch
  refine ownRows_const fun ingredientId _ => ownRows_const fun newSupplierId _ =>
    .read (fun T T' h => getSupplier_same h newSupplierId) fun supplier _ =>
    .read (fun T T' h => getIngredient_same h ingredientId) fun ingredient _ => ?_
  exact ownRows_changeIngredient ingredient.id (by exact fun _ => rfl)

lemma ownRows_setStock (v : Value) (d : PyDecimal) :
    OwnRows e.tenantId (fun T => setStock e T v d) := by
  unfold setStock updateInventoryProjection
  have hset : OwnRows e.tenantId (fun T => do
      let ingredient ← getIngredient T e.tenantId v
      let quantity ← storeNumeric 12 4 d
      return T.setInventory e.tenantId ingredient.id quantity e.timestamp) :=
    .read (fun T T' h => getIngredient_same h v) fun ingredient _ =>
      ownRows_const fun quantity _ => ownRows_setInventory ingredient.id quantity e.timestamp
  refine hset.andThen (.read (fun T T' h => getIngredient_same h v) fun ingredient _ => ?_)
  exact ownRows_const fun level _ => ownRows_changeIngredient ingredient.id (by exact fun _ => rfl)

lemma currentQuantity_same {T T' : Tables} (h : SameView rowsView e.tenantId T T')
    (ingredient : Ingredient) : currentQuantity e T ingredient = currentQuantity e T' ingredient := by
  rw [currentQuantity, currentQuantity, lookup_same Tables.inventory?_rowsOf h]

lemma ownRows_stockout : OwnRows e.tenantId (fun T => applyStockout e T) := by
  unfold applyStockout
  exact ownRows_const fun ingredientId _ => ownRows_setStock e ingredientId _

lemma ownRows_restock : OwnRows e.tenantId (fun T => applyRestock e T) := by
  unfold applyRestock
  exact ownRows_const fun ingredientId _ => ownRows_const fun value _ => ownRows_const fun d _ =>
    ownRows_const fun _ _ => ownRows_setStock e ingredientId d

lemma ownRows_inventoryAdjustment :
    OwnRows e.tenantId (fun T => applyInventoryAdjustment e T) := by
  unfold applyInventoryAdjustment
  refine ownRows_const fun ingredientId _ =>
    .read (fun T T' h => getIngredient_same h ingredientId) fun ingredient _ => ?_
  have hlast : ∀ d, OwnRows e.tenantId (fun T => do
      refuseNegative d "Inventory quantity cannot become negative."
      setStock e T ingredientId d) :=
    fun d => ownRows_const fun _ _ => ownRows_setStock e ingredientId d
  cases e.payload.find? "new_stock_level" with
  | some level => exact ownRows_const fun d _ => hlast d
  | none =>
    cases e.payload.find? "stock_delta" with
    | some change =>
      refine ownRows_const fun delta _ => .read (fun T T' h => ?_) fun d _ => hlast d
      rw [currentQuantity_same e h]
    | none => exact .fail _

lemma ownRows_waste : OwnRows e.tenantId (fun T => applyWaste O e T) := by
  unfold applyWaste
  refine ownRows_const fun ingredientId _ => ownRows_const fun value _ =>
    ownRows_const fun quantity _ => ownRows_const fun reason _ => ownRows_const fun _ _ =>
    .read (fun T T' h => getIngredient_same h ingredientId) fun ingredient _ =>
    .read (fun T T' h => by rw [currentQuantity_same e h]) fun level _ => ownRows_const fun _ _ =>
    ownRows_const fun text _ => ownRows_const fun wasted _ => ownRows_const fun _ _ => ?_
  have hadd : OwnRows e.tenantId (fun T => pure ({ T with
      wasteRecords := T.wasteRecords ++
        [⟨e.tenantId, ingredient.id, wasted, text, e.timestamp⟩] } : Tables)) := by
    refine .change (fun V => { V with
      wasteRecords := V.wasteRecords ++ [⟨e.tenantId, ingredient.id, wasted, text, e.timestamp⟩] })
      (fun _ _ h => h) (fun T => ?_) (fun T o ho => ?_)
    · simp [Tables.rowsOf]
    · simp [Tables.rowsOf, ho.symm]
  exact hadd.andThen (ownRows_setStock e ingredientId level)

lemma readOrderLine_same {T T' : Tables} (h : SameView rowsView e.tenantId T T') (line : Value) :
    readOrderLine e T line = readOrderLine e T' line := by
  unfold readOrderLine
  simp only [getMenuItem_same h]

lemma ownRows_orderLines (orderId : String) (lines : List Value) :
    OwnRows e.tenantId (fun T => recordOrderLines e T orderId lines) := by
  unfold recordOrderLines
  refine .read (fun T T' h => mapM_congr_mem fun line _ => readOrderLine_same e h line) fun read _ =>
    Confined.foldlM fun line => ?_
  unfold storeOrderLine
  refine ownRows_const fun count _ => ownRows_const fun price _ => ?_
  refine .change (fun V => { V with
    salesOrderLines := V.salesOrderLines ++ [⟨e.tenantId, orderId, line.1, count, price⟩]
    orderVolume := V.orderVolume ++ [⟨e.tenantId, line.1, e.timestamp, count⟩] })
    (fun _ _ h => h) (fun T => ?_) (fun T o ho => ?_)
  · simp [Tables.rowsOf]
  · simp [Tables.rowsOf, ho.symm]

lemma readInvoiceLine_same {T T' : Tables} (h : SameView rowsView e.tenantId T T')
    (supplierId : String) (line : Value) :
    readInvoiceLine e T supplierId line = readInvoiceLine e T' supplierId line := by
  unfold readInvoiceLine
  simp only [getSupplierSku_same h]

lemma ownRows_invoiceLines (supplierId invoiceId : String) (lines : List Value) :
    OwnRows e.tenantId (fun T => recordInvoiceLines e T supplierId invoiceId lines) := by
  unfold recordInvoiceLines
  refine .read (fun T T' h => mapM_congr_mem fun line _ => readInvoiceLine_same e h supplierId line)
    fun read _ => Confined.foldlM fun line => ?_
  unfold storeInvoiceLine
  refine ownRows_const fun amount _ => ownRows_const fun _ _ => ownRows_const fun price _ => ?_
  refine .change (fun V => { V with
    invoiceLines := V.invoiceLines ++ [⟨e.tenantId, invoiceId, line.1, amount, price⟩] })
    (fun _ _ h => h) (fun T => ?_) (fun T o ho => ?_)
  · simp [Tables.rowsOf]
  · simp [Tables.rowsOf, ho.symm]

end Handlers

/-! ### New rows under an identifier -/

section Ids

variable (O : Outside) (e : Projection) (T T' : Tables) (id : String)

/-- A row of the table that the event adds a row to has the identifier. -/
def Tables.holdsId : EventType → Bool
  | .menuItemAdded => T.menuItems.any (fun r => r.id = id)
  | .orderRecorded => T.salesOrders.any (fun r => r.id = id)
  | .invoiceRecorded => T.invoices.any (fun r => r.id = id)
  | .staffingChange => T.staffShifts.any (fun r => r.id = id)
  | _ => false

/-- A row of another tenant has it. -/
def Tables.heldElsewhere (tenantId : String) : EventType → Bool
  | .menuItemAdded => T.menuItems.any (fun r => r.id = id ∧ r.tenantId ≠ tenantId)
  | .orderRecorded => T.salesOrders.any (fun r => r.id = id ∧ r.tenantId ≠ tenantId)
  | .invoiceRecorded => T.invoices.any (fun r => r.id = id ∧ r.tenantId ≠ tenantId)
  | .staffingChange => T.staffShifts.any (fun r => r.id = id ∧ r.tenantId ≠ tenantId)
  | _ => false

/-- The identifier that the event gives to a new row, chosen by the caller or drawn. -/
def Projection.GivesId (eventType : EventType) : Prop :=
  match eventType with
  | .menuItemAdded => e.payload.get "menu_item_id" = .str id
  | .orderRecorded =>
    (if (e.payload.get "order_id").truthy then storeText O (e.payload.get "order_id")
      else .ok e.rowId) = .ok id
  | .invoiceRecorded => givenId O (e.payload.get "invoice_id") e.rowId = .ok id
  | .staffingChange => givenId O (e.payload.get "staff_shift_id") e.rowId = .ok id
  | _ => False

/-- The tenant sees the same rows, and the identifier of a new row is taken in both or in
neither. -/
structure AgreeFor (eventType : EventType) : Prop where
  same : SameView rowsView e.tenantId T T'
  ids : ∀ id, e.GivesId O id eventType → T.holdsId id eventType = T'.holdsId id eventType

end Ids

section Inserts

variable (O : Outside) (e : Projection)

/-- A required field that is compared with a text column is a string. -/
lemma filterText_field {payload : Dict} {field : String} {v : Value} {key : Option String}
    (hv : requirePayloadField payload field = .ok v) (hkey : filterText v = .ok key) :
    ∃ id, key = some id := by
  cases v with
  | none =>
    rw [requirePayloadField, requirePayloadField_ok hv] at hv
    cases hv
  | str s =>
    obtain ⟨id, -, hid⟩ := map_ok.mp hkey
    exact ⟨id, hid.symm⟩
  | bool _ | int _ | float _ | decimal _ | list _ | dict _ => cases hkey

/-- The row of an added item, which is one that is there or a new one. -/
def storeMenuItem (id text : String) (price : Column 10 2) (active : Bool)
    (found : Option MenuItem) (T : Tables) : Except PyException Tables :=
  match found with
  | some existing => pure (T.changeMenuItem e.tenantId existing.id
      (fun r => { r with name := text, currentPrice := price, active := active }))
  | none => do
    raiseIf (T.menuItems.any (fun r => r.id = id)) duplicateKey
    return { T with menuItems := T.menuItems ++ [⟨id, e.tenantId, text, price, active⟩] }

lemma confined_menuItemAdded :
    Confined rowsView e.tenantId (fun T T' => AgreeFor O e T T' .menuItemAdded)
      (fun T => applyMenuItemAdded O e T) := by
  unfold applyMenuItemAdded
  refine .read (fun _ _ _ => rfl) fun menuItemId hid => .read (fun _ _ _ => rfl) fun name _ =>
    .read (fun _ _ _ => rfl) fun value _ => .read (fun _ _ _ => rfl) fun d _ =>
    .read (fun _ _ _ => rfl) fun _ _ => .read (fun _ _ _ => rfl) fun active _ =>
    .read (fun _ _ _ => rfl) fun key hkey => .read (fun _ _ _ => rfl) fun text _ =>
    .read (fun _ _ _ => rfl) fun price _ => ?_
  obtain ⟨_, hid⟩ := hid
  obtain ⟨_, hkey⟩ := hkey
  obtain ⟨id, rfl⟩ := filterText_field hid hkey
  obtain rfl := filterText_some hkey
  refine .look (x := fun T : Tables => T.menuItem? e.tenantId id)
    (f := storeMenuItem e id text price active)
    (fun T T' h => congrFun (lookup_same Tables.menuItem?_rowsOf h.same) id) (fun found _ => ?_)
  cases found with
  | some existing =>
    exact (ownRows_changeMenuItem existing.id (by exact fun _ => rfl)).mono (fun _ _ h => h.same)
  | none =>
    refine .read (fun T T' h => ?_) fun _ _ => ?_
    · have hany : T.menuItems.any (fun r => r.id = id) = T'.menuItems.any (fun r => r.id = id) :=
        h.ids id (requirePayloadField_ok hid)
      rw [hany]
    · refine .change (fun V => { V with
        menuItems := V.menuItems ++ [⟨id, e.tenantId, text, price, active⟩] })
        (fun _ _ h => h.same) (fun T => ?_) (fun T o ho => ?_)
      · simp [Tables.rowsOf]
      · simp [Tables.rowsOf, ho.symm]

/-- The order and its lines, once it has an identifier. -/
lemma confined_order {id : String} {lines : List Value} (hid : e.GivesId O id .orderRecorded) :
    Confined rowsView e.tenantId (fun T T' => AgreeFor O e T T' .orderRecorded) (fun T => do
      raiseIf (T.salesOrders.any (fun r => r.id = id)) duplicateKey
      recordOrderLines e
        { T with salesOrders := T.salesOrders ++ [⟨id, e.tenantId, e.timestamp⟩] } id lines) := by
  refine .read (fun T T' h => ?_) fun _ _ => ?_
  · have hany : T.salesOrders.any (fun r => r.id = id) = T'.salesOrders.any (fun r => r.id = id) :=
      h.ids id hid
    rw [hany]
  · have hadd : OwnRows e.tenantId (fun T => pure ({ T with
        salesOrders := T.salesOrders ++ [⟨id, e.tenantId, e.timestamp⟩] } : Tables)) := by
      refine .change (fun V => { V with
        salesOrders := V.salesOrders ++ [⟨id, e.tenantId, e.timestamp⟩] })
        (fun _ _ h => h) (fun T => ?_) (fun T o ho => ?_)
      · simp [Tables.rowsOf]
      · simp [Tables.rowsOf, ho.symm]
    have hlines := hadd.andThen (ownRows_orderLines e id lines)
    exact hlines.mono (fun _ _ h => h.same)

lemma confined_orderRecorded :
    Confined rowsView e.tenantId (fun T T' => AgreeFor O e T T' .orderRecorded)
      (fun T => applyOrderRecorded O e T) := by
  unfold applyOrderRecorded
  cases hlines : e.payload.get "lines" with
  | list l =>
    cases l with
    | nil => exact .fail _
    | cons line lines =>
      dsimp only
      split_ifs with htruthy
      · refine .read (fun _ _ _ => rfl) fun id hread => confined_order O e ?_
        obtain ⟨_, hid⟩ := hread
        rw [Projection.GivesId, if_pos htruthy]
        exact hid
      · refine .read (fun _ _ _ => rfl) fun id hread => confined_order O e ?_
        obtain ⟨_, hid⟩ := hread
        rw [Projection.GivesId, if_neg htruthy]
        exact hid
  | none | bool _ | int _ | float _ | decimal _ | str _ | dict _ => exact .fail _

lemma any_invoices (T : Tables) (t id number : String) :
    T.invoices.any (fun r => r.id = id ∨ r.tenantId = t ∧ r.invoiceNumber = number) =
      (T.invoices.any (fun r => r.id = id) ||
        (T.rowsOf t).invoices.any (fun r => r.invoiceNumber = number)) := by
  rw [Tables.rowsOf, List.any_filter, Bool.eq_iff_iff, Bool.or_eq_true]
  simp only [List.any_eq_true, decide_eq_true_eq, Bool.and_eq_true, ← exists_or, ← and_or_left]

lemma confined_invoiceRecorded :
    Confined rowsView e.tenantId (fun T T' => AgreeFor O e T T' .invoiceRecorded)
      (fun T => applyInvoiceRecorded O e T) := by
  unfold applyInvoiceRecorded
  refine .read (fun _ _ _ => rfl) fun supplierId _ => .read (fun _ _ _ => rfl) fun number _ =>
    .read (fun T T' h => getSupplier_same h.same supplierId) fun supplier _ =>
    .read (fun _ _ _ => rfl) fun totalAmount _ => .read (fun _ _ _ => rfl) fun _ _ =>
    .read (fun _ _ _ => rfl) fun id ⟨_, hid⟩ => .read (fun _ _ _ => rfl) fun text _ =>
    .read (fun _ _ _ => rfl) fun total _ => .read (fun T T' h => ?_) fun _ _ => ?_
  · have hany : T.invoices.any (fun r => r.id = id) = T'.invoices.any (fun r => r.id = id) :=
      h.ids id hid
    have hnumber : (T.rowsOf e.tenantId).invoices.any (fun r => r.invoiceNumber = text) =
        (T'.rowsOf e.tenantId).invoices.any (fun r => r.invoiceNumber = text) :=
      congrArg (fun U => List.any (Tables.invoices U) _) h.same
    rw [any_invoices, any_invoices, hany, hnumber]
  · have hadd : OwnRows e.tenantId (fun T => pure ({ T with invoices := T.invoices ++
        [⟨id, e.tenantId, supplier.id, text, e.timestamp, total⟩] } : Tables)) := by
      refine .change (fun V => { V with
        invoices := V.invoices ++ [⟨id, e.tenantId, supplier.id, text, e.timestamp, total⟩] })
        (fun _ _ h => h) (fun T => ?_) (fun T o ho => ?_)
      · simp [Tables.rowsOf]
      · simp [Tables.rowsOf, ho.symm]
    cases (e.payload.find? "lines").getD (.list []) with
    | list lines =>
      have hlines := hadd.andThen (ownRows_invoiceLines e supplier.id id lines)
      exact hlines.mono (fun _ _ h => h.same)
    | none | bool _ | int _ | float _ | decimal _ | str _ | dict _ => exact .fail _

lemma findShift_same {t : String} {T T' : Tables} (h : SameView rowsView t T T')
    (ht : e.tenantId = t) (v : Value) (role : String) (day : ℤ) :
    findShift e T v role day = findShift e T' v role day := by
  subst ht
  have hid := lookup_same (f := fun T t id =>
    T.staffShifts.find? (fun r => r.id = id ∧ r.tenantId = t)) (fun T t id =>
    find?_filter_own T.staffShifts (fun r => r.tenantId = t) (fun r => r.id = id)) h
  have hkey : ∀ U : Tables, ∀ role, U.staffShifts.filter (fun r =>
      r.tenantId = e.tenantId ∧ r.role = role ∧ r.dayOfWeek = day) =
      (U.rowsOf e.tenantId).staffShifts.filter (fun r => r.role = role ∧ r.dayOfWeek = day) := by
    intro U role
    rw [Tables.rowsOf, List.filter_filter]
    congr 1
    funext r
    simp only [Bool.decide_and, Bool.and_comm]
  have hrows : ∀ role, T.staffShifts.filter (fun r =>
      r.tenantId = e.tenantId ∧ r.role = role ∧ r.dayOfWeek = day) =
      T'.staffShifts.filter (fun r =>
        r.tenantId = e.tenantId ∧ r.role = role ∧ r.dayOfWeek = day) := by
    intro role
    rw [hkey, hkey]
    exact congrArg (fun U => List.filter _ (Tables.staffShifts U)) h
  unfold findShift
  simp only [hrows]
  simp only [funext_iff] at hid
  simp only [hid]

lemma confined_staffingChange :
    Confined rowsView e.tenantId (fun T T' => AgreeFor O e T T' .staffingChange)
      (fun T => applyStaffingChange O e T) := by
  unfold applyStaffingChange
  refine .read (fun _ _ _ => rfl) fun role _ => .read (fun _ _ _ => rfl) fun _ _ =>
    .read (fun _ _ _ => rfl) fun _ _ => .read (fun _ _ _ => rfl) fun day _ =>
    .read (fun _ _ _ => rfl) fun headcount _ => .read (fun _ _ _ => rfl) fun _ _ =>
    .read (fun _ _ _ => rfl) fun _ _ =>
    .read (fun T T' h => findShift_same e h.same rfl _ _ _) fun shift _ =>
    .read (fun _ _ _ => rfl) fun text _ => .read (fun _ _ _ => rfl) fun count _ => ?_
  cases shift with
  | some existing =>
    exact (ownRows_changeStaffShift existing.id (by exact fun _ => rfl)).mono
      (fun _ _ h => h.same)
  | none =>
    refine .read (fun _ _ _ => rfl) fun id ⟨_, hid⟩ => .read (fun T T' h => ?_) fun _ _ => ?_
    · have hany : T.staffShifts.any (fun r => r.id = id) = T'.staffShifts.any (fun r => r.id = id) :=
        h.ids id hid
      rw [hany]
    · refine .change (fun V => { V with
        staffShifts := V.staffShifts ++ [⟨id, e.tenantId, text, day, count⟩] })
        (fun _ _ h => h.same) (fun T => ?_) (fun T o ho => ?_)
      · simp [Tables.rowsOf]
      · simp [Tables.rowsOf, ho.symm]

/-- An event sees and changes the rows of its tenant, and sees whether the identifier of a new row
is taken. -/
theorem confined_apply (eventType : EventType) :
    Confined rowsView e.tenantId (fun T T' => AgreeFor O e T T' eventType)
      (fun T => applyToCurrentState O e T eventType) := by
  have hown : ∀ {op}, OwnRows e.tenantId op →
      Confined rowsView e.tenantId (fun T T' => AgreeFor O e T T' eventType) op :=
    fun h => h.mono (fun _ _ h => h.same)
  cases eventType with
  | supplierPriceChange => exact hown (ownRows_supplierPriceChange e)
  | supplierSwitch => exact hown (ownRows_supplierSwitch e)
  | stockout => exact hown (ownRows_stockout e)
  | restock => exact hown (ownRows_restock e)
  | inventoryAdjustment => exact hown (ownRows_inventoryAdjustment e)
  | wasteRecorded => exact hown (ownRows_waste O e)
  | menuItemAdded => exact confined_menuItemAdded O e
  | menuItemRemoved => exact hown (ownRows_menuItemRemoved e)
  | menuPriceChange => exact hown (ownRows_menuPriceChange e)
  | orderRecorded => exact confined_orderRecorded O e
  | invoiceRecorded => exact confined_invoiceRecorded O e
  | staffingChange => exact confined_staffingChange O e
  | demandSpike => exact hown (.change id (fun _ _ h => h) (fun _ => rfl) (fun _ _ _ => rfl))

end Inserts

end OpsCopilot
