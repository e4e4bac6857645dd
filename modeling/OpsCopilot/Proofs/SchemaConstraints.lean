import OpsCopilot.Lib.KeyedRows
import OpsCopilot.Proofs.StockStep
import OpsCopilot.Proofs.SupplierSwitch

/-!
# The constraints of the schema

The foreign keys of every table, each within one tenant, its check constraints, which NaN passes as
in the database, and its unique keys. The handlers of the events keep all of them by their own checks, so that the database never has to
refuse a write of theirs for one of them.
-/

namespace OpsCopilot

open Python Sql Fallible KeyedRows

/-! ### Constraints -/

/-- The rows that other rows refer to, by tenant and identifier. -/
structure Keys where
  supplier : String → String → Prop
  ingredient : String → String → Prop
  sku : String → String → Prop
  menuItem : String → String → Prop
  recipe : String → String → Prop
  invoice : String → String → Prop
  order : String → String → Prop

def Tables.keys (T : Tables) : Keys where
  supplier t id := HasKey (fun r : Supplier => (r.tenantId, r.id)) T.suppliers (t, id)
  ingredient t id := HasKey (fun r : Ingredient => (r.tenantId, r.id)) T.ingredients (t, id)
  sku t id := HasKey (fun r : SupplierSKU => (r.tenantId, r.id)) T.supplierSkus (t, id)
  menuItem t id := HasKey (fun r : MenuItem => (r.tenantId, r.id)) T.menuItems (t, id)
  recipe t id := HasKey (fun r : Recipe => (r.tenantId, r.id)) T.recipes (t, id)
  invoice t id := HasKey (fun r : Invoice => (r.tenantId, r.id)) T.invoices (t, id)
  order t id := HasKey (fun r : SalesOrder => (r.tenantId, r.id)) T.salesOrders (t, id)

/-- No key is lost. -/
structure Keys.Grow (K K' : Keys) : Prop where
  supplier : ∀ t id, K.supplier t id → K'.supplier t id
  ingredient : ∀ t id, K.ingredient t id → K'.ingredient t id
  sku : ∀ t id, K.sku t id → K'.sku t id
  menuItem : ∀ t id, K.menuItem t id → K'.menuItem t id
  recipe : ∀ t id, K.recipe t id → K'.recipe t id
  invoice : ∀ t id, K.invoice t id → K'.invoice t id
  order : ∀ t id, K.order t id → K'.order t id

section Rows

variable (tenants : List String) (K : Keys)

structure Ingredient.Ok (r : Ingredient) : Prop where
  tenant : r.tenantId ∈ tenants
  supplier : ∀ s, r.currentSupplierId = some s → K.supplier r.tenantId s
  price : r.currentPrice.nonneg = true
  stock : r.currentStockLevel.nonneg = true

structure SupplierSKU.Ok (r : SupplierSKU) : Prop where
  tenant : r.tenantId ∈ tenants
  supplier : K.supplier r.tenantId r.supplierId
  ingredient : K.ingredient r.tenantId r.ingredientId

structure SupplierPrice.Ok (r : SupplierPrice) : Prop where
  tenant : r.tenantId ∈ tenants
  sku : K.sku r.tenantId r.supplierSkuId
  price : r.price.nonneg = true

structure MenuItem.Ok (r : MenuItem) : Prop where
  tenant : r.tenantId ∈ tenants
  price : r.currentPrice.nonneg = true

structure Recipe.Ok (r : Recipe) : Prop where
  tenant : r.tenantId ∈ tenants
  menuItem : K.menuItem r.tenantId r.menuItemId

structure RecipeIngredient.Ok (r : RecipeIngredient) : Prop where
  tenant : r.tenantId ∈ tenants
  recipe : K.recipe r.tenantId r.recipeId
  ingredient : K.ingredient r.tenantId r.ingredientId
  quantity : 0 < r.quantity.toRat

structure InventoryLevel.Ok (r : InventoryLevel) : Prop where
  tenant : r.tenantId ∈ tenants
  ingredient : K.ingredient r.tenantId r.ingredientId
  quantity : r.quantity.nonneg = true

structure Invoice.Ok (r : Invoice) : Prop where
  tenant : r.tenantId ∈ tenants
  supplier : K.supplier r.tenantId r.supplierId
  total : r.totalAmount.nonneg = true

structure InvoiceLine.Ok (r : InvoiceLine) : Prop where
  tenant : r.tenantId ∈ tenants
  invoice : K.invoice r.tenantId r.invoiceId
  sku : K.sku r.tenantId r.supplierSkuId
  quantity : r.quantity.positive = true
  price : r.unitPrice.nonneg = true

structure SalesOrderLine.Ok (r : SalesOrderLine) : Prop where
  tenant : r.tenantId ∈ tenants
  order : K.order r.tenantId r.orderId
  menuItem : K.menuItem r.tenantId r.menuItemId
  quantity : 0 < r.quantity
  price : r.unitPrice.nonneg = true

structure OrderVolume.Ok (r : OrderVolume) : Prop where
  tenant : r.tenantId ∈ tenants
  menuItem : K.menuItem r.tenantId r.menuItemId
  quantity : 0 < r.quantity

structure WasteRecord.Ok (r : WasteRecord) : Prop where
  tenant : r.tenantId ∈ tenants
  ingredient : K.ingredient r.tenantId r.ingredientId
  quantity : r.quantity.positive = true

structure StaffShift.Ok (r : StaffShift) : Prop where
  tenant : r.tenantId ∈ tenants
  day : 0 ≤ r.dayOfWeek ∧ r.dayOfWeek ≤ 6
  headcount : 0 ≤ r.headcount

end Rows

/-- The foreign keys and check constraints of all rows, for given keys. -/
structure RowsOk (tenants : List String) (K : Keys) (T : Tables) : Prop where
  suppliers : ∀ r ∈ T.suppliers, r.tenantId ∈ tenants
  ingredients : ∀ r ∈ T.ingredients, r.Ok tenants K
  supplierSkus : ∀ r ∈ T.supplierSkus, r.Ok tenants K
  supplierPrices : ∀ r ∈ T.supplierPrices, r.Ok tenants K
  menuItems : ∀ r ∈ T.menuItems, r.Ok tenants
  recipes : ∀ r ∈ T.recipes, r.Ok tenants K
  recipeIngredients : ∀ r ∈ T.recipeIngredients, r.Ok tenants K
  inventoryLevels : ∀ r ∈ T.inventoryLevels, r.Ok tenants K
  invoices : ∀ r ∈ T.invoices, r.Ok tenants K
  invoiceLines : ∀ r ∈ T.invoiceLines, r.Ok tenants K
  salesOrders : ∀ r ∈ T.salesOrders, r.tenantId ∈ tenants
  salesOrderLines : ∀ r ∈ T.salesOrderLines, r.Ok tenants K
  orderVolume : ∀ r ∈ T.orderVolume, r.Ok tenants K
  wasteRecords : ∀ r ∈ T.wasteRecords, r.Ok tenants K
  staffShifts : ∀ r ∈ T.staffShifts, r.Ok tenants

/-- The primary keys and the unique constraints. -/
structure KeysUnique (T : Tables) : Prop where
  suppliers : UniqueKeys Supplier.id T.suppliers
  ingredients : UniqueKeys Ingredient.id T.ingredients
  supplierSkus : UniqueKeys SupplierSKU.id T.supplierSkus
  supplierSkuCodes : UniqueKeys
    (fun r : SupplierSKU => (r.tenantId, r.supplierId, r.skuCode)) T.supplierSkus
  menuItems : UniqueKeys MenuItem.id T.menuItems
  recipes : UniqueKeys Recipe.id T.recipes
  recipeIngredients : UniqueKeys
    (fun r : RecipeIngredient => (r.tenantId, r.recipeId, r.ingredientId)) T.recipeIngredients
  inventoryLevels : UniqueKeys
    (fun r : InventoryLevel => (r.tenantId, r.ingredientId)) T.inventoryLevels
  invoices : UniqueKeys Invoice.id T.invoices
  invoiceNumbers : UniqueKeys (fun r : Invoice => (r.tenantId, r.invoiceNumber)) T.invoices
  salesOrders : UniqueKeys SalesOrder.id T.salesOrders
  staffShifts : UniqueKeys StaffShift.id T.staffShifts

structure SchemaHolds (tenants : List String) (T : Tables) : Prop where
  rows : RowsOk tenants T.keys T
  unique : KeysUnique T

section Grow

variable {tenants tenants' : List String} {K K' : Keys} {T : Tables}

/-- More tenants and more keys do no harm. -/
lemma RowsOk.mono (h : RowsOk tenants K T) (ht : tenants ⊆ tenants') (hK : K.Grow K') :
    RowsOk tenants' K' T where
  suppliers r hr := ht (h.suppliers r hr)
  ingredients r hr := by
    obtain ⟨htenant, hsupplier, hprice, hstock⟩ := h.ingredients r hr
    exact ⟨ht htenant, fun s hs => hK.supplier _ _ (hsupplier s hs), hprice, hstock⟩
  supplierSkus r hr := by
    obtain ⟨htenant, hsupplier, hingredient⟩ := h.supplierSkus r hr
    exact ⟨ht htenant, hK.supplier _ _ hsupplier, hK.ingredient _ _ hingredient⟩
  supplierPrices r hr := by
    obtain ⟨htenant, hsku, hprice⟩ := h.supplierPrices r hr
    exact ⟨ht htenant, hK.sku _ _ hsku, hprice⟩
  menuItems r hr := by
    obtain ⟨htenant, hprice⟩ := h.menuItems r hr
    exact ⟨ht htenant, hprice⟩
  recipes r hr := by
    obtain ⟨htenant, hitem⟩ := h.recipes r hr
    exact ⟨ht htenant, hK.menuItem _ _ hitem⟩
  recipeIngredients r hr := by
    obtain ⟨htenant, hrecipe, hingredient, hquantity⟩ := h.recipeIngredients r hr
    exact ⟨ht htenant, hK.recipe _ _ hrecipe, hK.ingredient _ _ hingredient, hquantity⟩
  inventoryLevels r hr := by
    obtain ⟨htenant, hingredient, hquantity⟩ := h.inventoryLevels r hr
    exact ⟨ht htenant, hK.ingredient _ _ hingredient, hquantity⟩
  invoices r hr := by
    obtain ⟨htenant, hsupplier, htotal⟩ := h.invoices r hr
    exact ⟨ht htenant, hK.supplier _ _ hsupplier, htotal⟩
  invoiceLines r hr := by
    obtain ⟨htenant, hinvoice, hsku, hquantity, hprice⟩ := h.invoiceLines r hr
    exact ⟨ht htenant, hK.invoice _ _ hinvoice, hK.sku _ _ hsku, hquantity, hprice⟩
  salesOrders r hr := ht (h.salesOrders r hr)
  salesOrderLines r hr := by
    obtain ⟨htenant, horder, hitem, hquantity, hprice⟩ := h.salesOrderLines r hr
    exact ⟨ht htenant, hK.order _ _ horder, hK.menuItem _ _ hitem, hquantity, hprice⟩
  orderVolume r hr := by
    obtain ⟨htenant, hitem, hquantity⟩ := h.orderVolume r hr
    exact ⟨ht htenant, hK.menuItem _ _ hitem, hquantity⟩
  wasteRecords r hr := by
    obtain ⟨htenant, hingredient, hquantity⟩ := h.wasteRecords r hr
    exact ⟨ht htenant, hK.ingredient _ _ hingredient, hquantity⟩
  staffShifts r hr := by
    obtain ⟨htenant, hday, hheadcount⟩ := h.staffShifts r hr
    exact ⟨ht htenant, hday, hheadcount⟩

lemma Keys.Grow.refl (K : Keys) : K.Grow K where
  supplier _ _ := id
  ingredient _ _ := id
  sku _ _ := id
  menuItem _ _ := id
  recipe _ _ := id
  invoice _ _ := id
  order _ _ := id

lemma SchemaHolds.mono (h : SchemaHolds tenants T) (ht : tenants ⊆ tenants') :
    SchemaHolds tenants' T := ⟨h.rows.mono ht (.refl T.keys), h.unique⟩

lemma schemaHolds_empty : SchemaHolds tenants Tables.empty := by
  constructor
  · constructor
    all_goals exact fun r hr => absurd hr List.not_mem_nil
  · constructor
    all_goals exact uniqueKeys_nil

end Grow

/-! ### Changes of rows -/

section Change

variable {tenants : List String} {T : Tables} {t id : String}

lemma keys_changeIngredient {f : Ingredient → Ingredient}
    (hf : ∀ r, (f r).id = r.id ∧ (f r).tenantId = r.tenantId) :
    (T.changeIngredient t id f).keys = T.keys := by
  unfold Tables.keys
  congr 1
  funext t' id'
  exact propext (hasKey_change (fun r => Prod.ext (hf r).2 (hf r).1))

lemma keys_changeMenuItem {f : MenuItem → MenuItem}
    (hf : ∀ r, (f r).id = r.id ∧ (f r).tenantId = r.tenantId) :
    (T.changeMenuItem t id f).keys = T.keys := by
  unfold Tables.keys
  congr 1
  funext t' id'
  exact propext (hasKey_change (fun r => Prod.ext (hf r).2 (hf r).1))

lemma SchemaHolds.changeIngredient (h : SchemaHolds tenants T) {f : Ingredient → Ingredient}
    (hf : ∀ r, (f r).id = r.id ∧ (f r).tenantId = r.tenantId)
    (hok : ∀ r, r.tenantId = t → r.Ok tenants T.keys → (f r).Ok tenants T.keys) :
    SchemaHolds tenants (T.changeIngredient t id f) where
  rows := by
    rw [keys_changeIngredient hf]
    exact { h.rows with
      ingredients := forall_change h.rows.ingredients
        (fun r _ hselected hr => hok r hselected.2 hr) }
  unique := { h.unique with ingredients := h.unique.ingredients.change (fun r => (hf r).1) }

lemma SchemaHolds.changeMenuItem (h : SchemaHolds tenants T) {f : MenuItem → MenuItem}
    (hf : ∀ r, (f r).id = r.id ∧ (f r).tenantId = r.tenantId)
    (hok : ∀ r, r.Ok tenants → (f r).Ok tenants) :
    SchemaHolds tenants (T.changeMenuItem t id f) where
  rows := by
    rw [keys_changeMenuItem hf]
    exact { h.rows with
      menuItems := forall_change h.rows.menuItems (fun r _ _ hr => hok r hr) }
  unique := { h.unique with menuItems := h.unique.menuItems.change (fun r => (hf r).1) }

lemma SchemaHolds.changeStaffShift (h : SchemaHolds tenants T) {f : StaffShift → StaffShift}
    (hf : ∀ r, (f r).id = r.id) (hok : ∀ r, r.Ok tenants → (f r).Ok tenants) :
    SchemaHolds tenants (T.changeStaffShift t id f) where
  rows := { h.rows with
    staffShifts := forall_change h.rows.staffShifts (fun r _ _ hr => hok r hr) }
  unique := { h.unique with staffShifts := h.unique.staffShifts.change hf }

lemma SchemaHolds.setInventory (h : SchemaHolds tenants T) {x : Column 12 4} (now : Timestamp)
    (hx : x.nonneg = true) (htenant : t ∈ tenants) (hkey : T.keys.ingredient t id) :
    SchemaHolds tenants (T.setInventory t id x now) := by
  unfold Tables.setInventory
  cases hfound : T.inventory? t id with
  | none =>
    have hnew : ∀ r ∈ T.inventoryLevels, (r.tenantId, r.ingredientId) ≠ (t, id) := by
      intro r hr heq
      have hother := List.find?_eq_none.mp hfound r hr
      exact hother (decide_eq_true (Prod.mk.inj heq))
    exact ⟨{ h.rows with
        inventoryLevels := forall_append h.rows.inventoryLevels ⟨htenant, hkey, hx⟩ },
      { h.unique with inventoryLevels := h.unique.inventoryLevels.append hnew }⟩
  | some _ =>
    exact ⟨{ h.rows with
        inventoryLevels := forall_change h.rows.inventoryLevels
          (fun r _ _ hr => ⟨hr.tenant, hr.ingredient, hx⟩) },
      { h.unique with inventoryLevels := h.unique.inventoryLevels.change (fun _ => rfl) }⟩

end Change

/-! ### New rows -/

section New

variable {tenants : List String} {T : Tables}

lemma SchemaHolds.addSupplier (h : SchemaHolds tenants T) {r : Supplier}
    (hr : r.tenantId ∈ tenants) (hnew : ∀ x ∈ T.suppliers, x.id ≠ r.id) :
    SchemaHolds tenants { T with suppliers := T.suppliers ++ [r] } where
  rows := by
    have hgrow : T.keys.Grow ({ T with suppliers := T.suppliers ++ [r] } : Tables).keys :=
      { Keys.Grow.refl T.keys with supplier := fun _ _ hkey => hasKey_append hkey }
    have hrows := h.rows.mono (fun _ ht => ht) hgrow
    exact { hrows with
      suppliers := forall_append hrows.suppliers hr }
  unique := { h.unique with suppliers := h.unique.suppliers.append hnew }

lemma SchemaHolds.addIngredient (h : SchemaHolds tenants T) {r : Ingredient}
    (hr : r.Ok tenants T.keys) (hnew : ∀ x ∈ T.ingredients, x.id ≠ r.id) :
    SchemaHolds tenants { T with ingredients := T.ingredients ++ [r] } where
  rows := by
    have hgrow : T.keys.Grow ({ T with ingredients := T.ingredients ++ [r] } : Tables).keys :=
      { Keys.Grow.refl T.keys with ingredient := fun _ _ hkey => hasKey_append hkey }
    have hrows := h.rows.mono (fun _ ht => ht) hgrow
    exact { hrows with
      ingredients := forall_append hrows.ingredients ⟨hr.tenant, hr.supplier, hr.price, hr.stock⟩ }
  unique := { h.unique with ingredients := h.unique.ingredients.append hnew }

lemma SchemaHolds.addSupplierSku (h : SchemaHolds tenants T) {r : SupplierSKU}
    (hr : r.Ok tenants T.keys) (hnew : ∀ x ∈ T.supplierSkus, ¬(x.id = r.id ∨
      x.tenantId = r.tenantId ∧ x.supplierId = r.supplierId ∧ x.skuCode = r.skuCode)) :
    SchemaHolds tenants { T with supplierSkus := T.supplierSkus ++ [r] } where
  rows := by
    have hgrow : T.keys.Grow ({ T with supplierSkus := T.supplierSkus ++ [r] } : Tables).keys :=
      { Keys.Grow.refl T.keys with sku := fun _ _ hkey => hasKey_append hkey }
    have hrows := h.rows.mono (fun _ ht => ht) hgrow
    exact { hrows with
      supplierSkus := forall_append hrows.supplierSkus ⟨hr.tenant, hr.supplier, hr.ingredient⟩ }
  unique := { h.unique with
    supplierSkus := h.unique.supplierSkus.append (fun x hx heq => hnew x hx (.inl heq))
    supplierSkuCodes := h.unique.supplierSkuCodes.append (fun x hx heq =>
      hnew x hx (.inr ⟨(Prod.mk.inj heq).1, Prod.mk.inj (Prod.mk.inj heq).2⟩)) }

lemma SchemaHolds.addSupplierPrice (h : SchemaHolds tenants T) {r : SupplierPrice}
    (hr : r.Ok tenants T.keys) :
    SchemaHolds tenants { T with supplierPrices := T.supplierPrices ++ [r] } where
  rows := { h.rows with supplierPrices := forall_append h.rows.supplierPrices hr }
  unique := { h.unique with }

lemma SchemaHolds.addInventoryLevel (h : SchemaHolds tenants T) {r : InventoryLevel}
    (hr : r.Ok tenants T.keys)
    (hnew : ∀ x ∈ T.inventoryLevels, (x.tenantId, x.ingredientId) ≠ (r.tenantId, r.ingredientId)) :
    SchemaHolds tenants { T with inventoryLevels := T.inventoryLevels ++ [r] } where
  rows := { h.rows with inventoryLevels := forall_append h.rows.inventoryLevels hr }
  unique := { h.unique with inventoryLevels := h.unique.inventoryLevels.append hnew }

lemma SchemaHolds.addMenuItem (h : SchemaHolds tenants T) {r : MenuItem}
    (hr : r.Ok tenants) (hnew : ∀ x ∈ T.menuItems, x.id ≠ r.id) :
    SchemaHolds tenants { T with menuItems := T.menuItems ++ [r] } where
  rows := by
    have hgrow : T.keys.Grow ({ T with menuItems := T.menuItems ++ [r] } : Tables).keys :=
      { Keys.Grow.refl T.keys with menuItem := fun _ _ hkey => hasKey_append hkey }
    have hrows := h.rows.mono (fun _ ht => ht) hgrow
    exact { hrows with
      menuItems := forall_append hrows.menuItems hr }
  unique := { h.unique with menuItems := h.unique.menuItems.append hnew }

lemma SchemaHolds.addRecipe (h : SchemaHolds tenants T) {r : Recipe}
    (hr : r.Ok tenants T.keys) (hnew : ∀ x ∈ T.recipes, x.id ≠ r.id) :
    SchemaHolds tenants { T with recipes := T.recipes ++ [r] } where
  rows := by
    have hgrow : T.keys.Grow ({ T with recipes := T.recipes ++ [r] } : Tables).keys :=
      { Keys.Grow.refl T.keys with recipe := fun _ _ hkey => hasKey_append hkey }
    have hrows := h.rows.mono (fun _ ht => ht) hgrow
    exact { hrows with
      recipes := forall_append hrows.recipes ⟨hr.tenant, hr.menuItem⟩ }
  unique := { h.unique with recipes := h.unique.recipes.append hnew }

lemma SchemaHolds.addRecipeIngredient (h : SchemaHolds tenants T) {r : RecipeIngredient}
    (hr : r.Ok tenants T.keys)
    (hnew : ∀ x ∈ T.recipeIngredients,
      (x.tenantId, x.recipeId, x.ingredientId) ≠ (r.tenantId, r.recipeId, r.ingredientId)) :
    SchemaHolds tenants { T with recipeIngredients := T.recipeIngredients ++ [r] } where
  rows := { h.rows with recipeIngredients := forall_append h.rows.recipeIngredients hr }
  unique := { h.unique with recipeIngredients := h.unique.recipeIngredients.append hnew }

lemma SchemaHolds.addInvoice (h : SchemaHolds tenants T) {r : Invoice}
    (hr : r.Ok tenants T.keys) (hnew : ∀ x ∈ T.invoices,
      ¬(x.id = r.id ∨ x.tenantId = r.tenantId ∧ x.invoiceNumber = r.invoiceNumber)) :
    SchemaHolds tenants { T with invoices := T.invoices ++ [r] } where
  rows := by
    have hgrow : T.keys.Grow ({ T with invoices := T.invoices ++ [r] } : Tables).keys :=
      { Keys.Grow.refl T.keys with invoice := fun _ _ hkey => hasKey_append hkey }
    have hrows := h.rows.mono (fun _ ht => ht) hgrow
    exact { hrows with
      invoices := forall_append hrows.invoices ⟨hr.tenant, hr.supplier, hr.total⟩ }
  unique := { h.unique with
    invoices := h.unique.invoices.append (fun x hx heq => hnew x hx (.inl heq))
    invoiceNumbers := h.unique.invoiceNumbers.append
      (fun x hx heq => hnew x hx (.inr (Prod.mk.inj heq))) }

lemma SchemaHolds.addInvoiceLine (h : SchemaHolds tenants T) {r : InvoiceLine}
    (hr : r.Ok tenants T.keys) :
    SchemaHolds tenants { T with invoiceLines := T.invoiceLines ++ [r] } where
  rows := { h.rows with invoiceLines := forall_append h.rows.invoiceLines hr }
  unique := { h.unique with }

lemma SchemaHolds.addSalesOrder (h : SchemaHolds tenants T) {r : SalesOrder}
    (hr : r.tenantId ∈ tenants) (hnew : ∀ x ∈ T.salesOrders, x.id ≠ r.id) :
    SchemaHolds tenants { T with salesOrders := T.salesOrders ++ [r] } where
  rows := by
    have hgrow : T.keys.Grow ({ T with salesOrders := T.salesOrders ++ [r] } : Tables).keys :=
      { Keys.Grow.refl T.keys with order := fun _ _ hkey => hasKey_append hkey }
    have hrows := h.rows.mono (fun _ ht => ht) hgrow
    exact { hrows with
      salesOrders := forall_append hrows.salesOrders hr }
  unique := { h.unique with salesOrders := h.unique.salesOrders.append hnew }

lemma SchemaHolds.addSalesOrderLine (h : SchemaHolds tenants T) {r : SalesOrderLine}
    (hr : r.Ok tenants T.keys) :
    SchemaHolds tenants { T with salesOrderLines := T.salesOrderLines ++ [r] } where
  rows := { h.rows with salesOrderLines := forall_append h.rows.salesOrderLines hr }
  unique := { h.unique with }

lemma SchemaHolds.addOrderVolume (h : SchemaHolds tenants T) {r : OrderVolume}
    (hr : r.Ok tenants T.keys) :
    SchemaHolds tenants { T with orderVolume := T.orderVolume ++ [r] } where
  rows := { h.rows with orderVolume := forall_append h.rows.orderVolume hr }
  unique := { h.unique with }

lemma SchemaHolds.addWasteRecord (h : SchemaHolds tenants T) {r : WasteRecord}
    (hr : r.Ok tenants T.keys) :
    SchemaHolds tenants { T with wasteRecords := T.wasteRecords ++ [r] } where
  rows := { h.rows with wasteRecords := forall_append h.rows.wasteRecords hr }
  unique := { h.unique with }

lemma SchemaHolds.addStaffShift (h : SchemaHolds tenants T) {r : StaffShift}
    (hr : r.Ok tenants)
    (hnew : ∀ x ∈ T.staffShifts, x.id ≠ r.id) :
    SchemaHolds tenants { T with staffShifts := T.staffShifts ++ [r] } where
  rows := { h.rows with staffShifts := forall_append h.rows.staffShifts hr }
  unique := { h.unique with staffShifts := h.unique.staffShifts.append hnew }

end New

end OpsCopilot
