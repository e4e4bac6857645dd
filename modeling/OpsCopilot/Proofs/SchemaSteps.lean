import OpsCopilot.Proofs.SchemaConstraints

/-!
# The handlers keep the schema

One lemma for each handler, and from them that every accepted event keeps all constraints.
-/

namespace OpsCopilot

open Python Sql Fallible KeyedRows

section Handlers

variable {O : Outside} {tenants : List String} {e : Projection} {T T' : Tables} {t : String}
  {v : Value}

/-! ### Rows that are found -/

lemma getIngredient_key {row : Ingredient} (h : getIngredient T t v = .ok row) :
    v = .str row.id ∧ T.keys.ingredient t row.id := by
  obtain ⟨id, rfl, hfound⟩ := getRow_ok h
  obtain ⟨hmem, rfl, rfl⟩ := Tables.ingredient?_spec hfound
  exact ⟨rfl, row, hmem, rfl⟩

lemma getMenuItem_key {row : MenuItem} (h : getMenuItem T t v = .ok row) :
    T.keys.menuItem t row.id := by
  obtain ⟨id, -, hfound⟩ := getRow_ok h
  obtain ⟨hmem, -, rfl⟩ := Tables.menuItem?_spec hfound
  exact ⟨row, hmem, rfl⟩

lemma getSupplier_key {row : Supplier} (h : getSupplier T t v = .ok row) :
    T.keys.supplier t row.id := by
  obtain ⟨id, -, hfound⟩ := getRow_ok h
  have hmem := List.mem_of_find?_eq_some hfound
  have hp := List.find?_some hfound
  simp only [decide_eq_true_eq] at hp
  exact ⟨row, hmem, Prod.ext hp.2 rfl⟩

lemma getSupplierSku_key {row : SupplierSKU} (h : getSupplierSku T t v = .ok row) :
    T.keys.sku t row.id := by
  obtain ⟨id, -, hfound⟩ := getRow_ok h
  obtain ⟨hmem, -, rfl⟩ := Tables.supplierSku?_spec hfound
  exact ⟨row, hmem, rfl⟩

lemma checkPositive_ok {precision scale : ℕ} {x : Column precision scale} {u : Unit}
    (h : checkPositive x = .ok u) : x.positive = true :=
  Bool.eq_true_of_not_eq_false (raiseIf_ok.mp h)

/-- What is stored for what is not negative passes the check of the database. -/
lemma storeNumeric_check {precision scale : ℕ} {d : PyDecimal} {x : Column precision scale}
    (hd : d.isNegative = .ok false) (h : storeNumeric precision scale d = .ok x) :
    x.nonneg = true := by
  rcases storeNumeric_ok h with ⟨q, y, hq, hstore, rfl⟩ | ⟨-, rfl⟩
  · exact decide_eq_true (Numeric.store?_coeff_nonneg (nonneg_of_isNegative hd hq) hstore)
  · rfl

lemma storeInteger_ok {n m : ℤ} (h : storeInteger n = .ok m) : m = n := by
  unfold storeInteger at h
  split_ifs at h
  exact (Except.ok.inj h).symm

/-! ### Stock -/

section Step

variable (hT : SchemaHolds tenants T) (ht : e.tenantId ∈ tenants)

include hT ht

lemma SchemaHolds.setStock {d : PyDecimal} (hd : d.isNegative = .ok false)
    (h : setStock e T v d = .ok T') : SchemaHolds tenants T' := by
  obtain ⟨i, x, hv, hx, rfl⟩ := setStock_ok h
  obtain ⟨_, hupdate, -⟩ := bind_ok.mp h
  obtain ⟨row, hrow, -⟩ := bind_ok.mp hupdate
  obtain ⟨hid, hkey⟩ := getIngredient_key hrow
  obtain rfl := Value.str.inj (hv.symm.trans hid)
  have hx := storeNumeric_check hd hx
  exact (hT.setInventory e.timestamp hx ht hkey).changeIngredient (fun r => ⟨rfl, rfl⟩)
    (fun r _ hr => ⟨hr.tenant, hr.supplier, hr.price, hx⟩)

lemma schema_stockout (h : applyStockout e T = .ok T') : SchemaHolds tenants T' := by
  obtain ⟨_, -, h⟩ := bind_ok.mp h
  exact hT.setStock ht rfl h

lemma schema_restock (h : applyRestock e T = .ok T') : SchemaHolds tenants T' := by
  obtain ⟨_, -, h⟩ := bind_ok.mp h
  obtain ⟨_, -, h⟩ := bind_ok.mp h
  obtain ⟨_, -, h⟩ := bind_ok.mp h
  obtain ⟨_, hnegative, h⟩ := bind_ok.mp h
  exact hT.setStock ht (refuseNegative_ok hnegative) h

lemma schema_inventoryAdjustment (h : applyInventoryAdjustment e T = .ok T') :
    SchemaHolds tenants T' := by
  obtain ⟨v, -, h⟩ := bind_ok.mp h
  obtain ⟨row, -, h⟩ := bind_ok.mp h
  have hlast : ∃ level, (do
      refuseNegative level "Inventory quantity cannot become negative."
      OpsCopilot.setStock e T v level) = .ok T' := by
    split at h
    · obtain ⟨level, -, h⟩ := bind_ok.mp h
      exact ⟨level, h⟩
    · obtain ⟨delta, -, h⟩ := bind_ok.mp h
      obtain ⟨level, -, h⟩ := bind_ok.mp h
      exact ⟨level, h⟩
    · exact absurd h (by simp [throw, throwThe, MonadExceptOf.throw, bind, Except.bind])
  obtain ⟨level, h⟩ := hlast
  obtain ⟨_, hnegative, h⟩ := bind_ok.mp h
  exact hT.setStock ht (refuseNegative_ok hnegative) h

lemma schema_waste (h : applyWaste O e T = .ok T') : SchemaHolds tenants T' := by
  obtain ⟨_, -, h⟩ := bind_ok.mp h
  obtain ⟨_, -, h⟩ := bind_ok.mp h
  obtain ⟨_, -, h⟩ := bind_ok.mp h
  obtain ⟨_, -, h⟩ := bind_ok.mp h
  obtain ⟨_, -, h⟩ := bind_ok.mp h
  obtain ⟨ingredient, hfound, h⟩ := bind_ok.mp h
  obtain ⟨_, -, h⟩ := bind_ok.mp h
  obtain ⟨_, hnegative, h⟩ := bind_ok.mp h
  obtain ⟨text, -, h⟩ := bind_ok.mp h
  obtain ⟨wasted, -, h⟩ := bind_ok.mp h
  obtain ⟨_, hpositive, h⟩ := bind_ok.mp h
  have hrow : (⟨e.tenantId, ingredient.id, wasted, text, e.timestamp⟩ : WasteRecord).Ok tenants
      T.keys := ⟨ht, (getIngredient_key hfound).2, checkPositive_ok hpositive⟩
  exact (hT.addWasteRecord hrow).setStock ht (refuseNegative_ok hnegative) h

/-! ### Suppliers and prices -/

lemma schema_supplierPriceChange (h : applySupplierPriceChange e T = .ok T') :
    SchemaHolds tenants T' := by
  obtain ⟨_, -, h⟩ := bind_ok.mp h
  obtain ⟨_, -, h⟩ := bind_ok.mp h
  obtain ⟨_, -, h⟩ := bind_ok.mp h
  obtain ⟨_, hnegative, h⟩ := bind_ok.mp h
  obtain ⟨sku, hsku, h⟩ := bind_ok.mp h
  obtain ⟨ingredient, -, h⟩ := bind_ok.mp h
  obtain ⟨price, hprice, h⟩ := bind_ok.mp h
  obtain rfl := pure_ok.mp h
  have hprice := storeNumeric_check (refuseNegative_ok hnegative) hprice
  have hrow : (⟨e.tenantId, sku.id, price, e.timestamp⟩ : SupplierPrice).Ok tenants T.keys :=
    ⟨ht, getSupplierSku_key hsku, hprice⟩
  exact (hT.addSupplierPrice hrow).changeIngredient (fun r => ⟨rfl, rfl⟩)
    (fun r _ hr => ⟨hr.tenant, hr.supplier, hprice, hr.stock⟩)

omit ht in
lemma schema_supplierSwitch (h : applySupplierSwitch e T = .ok T') : SchemaHolds tenants T' := by
  obtain ⟨_, -, h⟩ := bind_ok.mp h
  obtain ⟨_, -, h⟩ := bind_ok.mp h
  obtain ⟨supplier, hsupplier, h⟩ := bind_ok.mp h
  obtain ⟨ingredient, -, h⟩ := bind_ok.mp h
  obtain rfl := pure_ok.mp h
  refine hT.changeIngredient (fun r => ⟨rfl, rfl⟩) (fun r hr hok => ?_)
  refine ⟨hok.tenant, fun s hs => ?_, hok.price, hok.stock⟩
  obtain rfl := Option.some.inj hs
  exact hr ▸ getSupplier_key hsupplier

/-! ### The menu -/

omit ht in
lemma schema_menuPriceChange (h : applyMenuPriceChange e T = .ok T') : SchemaHolds tenants T' := by
  obtain ⟨_, -, h⟩ := bind_ok.mp h
  obtain ⟨_, -, h⟩ := bind_ok.mp h
  obtain ⟨_, -, h⟩ := bind_ok.mp h
  obtain ⟨_, hnegative, h⟩ := bind_ok.mp h
  obtain ⟨item, -, h⟩ := bind_ok.mp h
  obtain ⟨price, hprice, h⟩ := bind_ok.mp h
  obtain rfl := pure_ok.mp h
  have hprice := storeNumeric_check (refuseNegative_ok hnegative) hprice
  exact hT.changeMenuItem (fun r => ⟨rfl, rfl⟩) (fun r hr => ⟨hr.tenant, hprice⟩)

omit ht in
lemma schema_menuItemRemoved (h : applyMenuItemRemoved e T = .ok T') : SchemaHolds tenants T' := by
  obtain ⟨_, -, h⟩ := bind_ok.mp h
  obtain ⟨item, -, h⟩ := bind_ok.mp h
  obtain rfl := pure_ok.mp h
  exact hT.changeMenuItem (fun r => ⟨rfl, rfl⟩) (fun r hr => ⟨hr.tenant, hr.price⟩)

lemma schema_menuItemAdded (h : applyMenuItemAdded O e T = .ok T') : SchemaHolds tenants T' := by
  obtain ⟨_, -, h⟩ := bind_ok.mp h
  obtain ⟨_, -, h⟩ := bind_ok.mp h
  obtain ⟨_, -, h⟩ := bind_ok.mp h
  obtain ⟨_, -, h⟩ := bind_ok.mp h
  obtain ⟨_, hnegative, h⟩ := bind_ok.mp h
  obtain ⟨active, -, h⟩ := bind_ok.mp h
  obtain ⟨key, -, h⟩ := bind_ok.mp h
  obtain ⟨text, -, h⟩ := bind_ok.mp h
  obtain ⟨price, hprice, h⟩ := bind_ok.mp h
  have hprice := storeNumeric_check (refuseNegative_ok hnegative) hprice
  split at h
  · obtain rfl := pure_ok.mp h
    exact hT.changeMenuItem (fun r => ⟨rfl, rfl⟩) (fun r hr => ⟨hr.tenant, hprice⟩)
  · obtain ⟨_, hfresh, h⟩ := bind_ok.mp h
    obtain rfl := pure_ok.mp h
    have hnew : ∀ x ∈ T.menuItems, x.id ≠ key.getD "" := fun x hx heq =>
      raiseIf_ok.mp hfresh (List.any_eq_true.mpr ⟨x, hx, decide_eq_true heq⟩)
    exact hT.addMenuItem ⟨ht, hprice⟩ hnew

/-! ### Orders -/

omit hT ht in
lemma readOrderLine_spec {line : Value} {read : String × ℤ × PyDecimal}
    (h : readOrderLine e T line = .ok read) :
    T.keys.menuItem e.tenantId read.1 ∧ 0 < read.2.1 ∧ read.2.2.isNegative = .ok false := by
  obtain ⟨_, -, h⟩ := bind_ok.mp h
  obtain ⟨_, -, h⟩ := bind_ok.mp h
  obtain ⟨_, -, h⟩ := bind_ok.mp h
  obtain ⟨_, -, h⟩ := bind_ok.mp h
  obtain ⟨_, -, h⟩ := bind_ok.mp h
  obtain ⟨_, -, h⟩ := bind_ok.mp h
  obtain ⟨_, hquantity, h⟩ := bind_ok.mp h
  obtain ⟨_, hnegative, h⟩ := bind_ok.mp h
  obtain ⟨item, hitem, h⟩ := bind_ok.mp h
  obtain rfl := pure_ok.mp h
  exact ⟨getMenuItem_key hitem, not_le.mp (raiseIf_ok.mp hquantity), refuseNegative_ok hnegative⟩

/-- The lines of an order that is there. The invariant of the loop is that the order and the items
of all lines stay there. -/
lemma schema_orderLines {id : String} {lines : List Value} (hid : T.keys.order e.tenantId id)
    (h : recordOrderLines e T id lines = .ok T') : SchemaHolds tenants T' := by
  obtain ⟨read, hread, h⟩ := bind_ok.mp h
  have hlines : ∀ line ∈ read, T.keys.menuItem e.tenantId line.1 ∧ 0 < line.2.1 ∧
      line.2.2.isNegative = .ok false := by
    intro line hline
    obtain ⟨_, -, hspec⟩ := exists_of_mem_mapM hread hline
    exact readOrderLine_spec hspec
  have hloop : ∀ line ∈ read, ∀ T₁ T₂, (SchemaHolds tenants T₁ ∧ T₁.keys = T.keys) →
      storeOrderLine e T₁ id line = .ok T₂ → SchemaHolds tenants T₂ ∧ T₂.keys = T.keys := by
    rintro line hline T₁ T₂ ⟨hT₁, hkeys⟩ hstep
    obtain ⟨count, hcount, hstep⟩ := bind_ok.mp hstep
    obtain ⟨price, hprice, hstep⟩ := bind_ok.mp hstep
    obtain rfl := pure_ok.mp hstep
    obtain ⟨hitem, hquantity, hnegative⟩ := hlines line hline
    rw [← storeInteger_ok hcount] at hquantity
    have hrow : (⟨e.tenantId, id, line.1, count, price⟩ : SalesOrderLine).Ok tenants T₁.keys :=
      ⟨ht, hkeys ▸ hid, hkeys ▸ hitem, hquantity, storeNumeric_check hnegative hprice⟩
    have hvolume : (⟨e.tenantId, line.1, e.timestamp, count⟩ : OrderVolume).Ok tenants T₁.keys :=
      ⟨ht, hkeys ▸ hitem, hquantity⟩
    exact ⟨(hT₁.addSalesOrderLine hrow).addOrderVolume hvolume, hkeys⟩
  exact (foldlM_keeps hloop ⟨hT, rfl⟩ h).1

lemma schema_orderRecorded (h : applyOrderRecorded O e T = .ok T') : SchemaHolds tenants T' := by
  unfold applyOrderRecorded at h
  split at h
  · rename_i line lines _
    have hplaced : ∃ id, (do
        raiseIf (T.salesOrders.any (fun r => r.id = id)) duplicateKey
        recordOrderLines e
          { T with salesOrders := T.salesOrders ++ [(⟨id, e.tenantId, e.timestamp⟩ : SalesOrder)] }
          id (line :: lines)) = .ok T' := by
      dsimp only at h
      split_ifs at h
      · obtain ⟨id, -, h⟩ := bind_ok.mp h
        exact ⟨id, h⟩
      · obtain ⟨id, -, h⟩ := bind_ok.mp h
        exact ⟨id, h⟩
    obtain ⟨id, h⟩ := hplaced
    obtain ⟨_, hfresh, h⟩ := bind_ok.mp h
    have hnew : ∀ x ∈ T.salesOrders, x.id ≠ id := fun x hx heq =>
      raiseIf_ok.mp hfresh (List.any_eq_true.mpr ⟨x, hx, decide_eq_true heq⟩)
    have hordered := hT.addSalesOrder (r := ⟨id, e.tenantId, e.timestamp⟩) ht hnew
    exact schema_orderLines hordered ht hasKey_new h
  · exact absurd h (by simp [throw, throwThe, MonadExceptOf.throw])

/-! ### Invoices -/

omit hT ht in
lemma readInvoiceLine_spec {supplierId : String} {line : Value}
    {read : String × PyDecimal × PyDecimal}
    (h : readInvoiceLine e T supplierId line = .ok read) :
    T.keys.sku e.tenantId read.1 ∧ read.2.2.isNegative = .ok false := by
  obtain ⟨_, -, h⟩ := bind_ok.mp h
  obtain ⟨_, -, h⟩ := bind_ok.mp h
  obtain ⟨_, -, h⟩ := bind_ok.mp h
  obtain ⟨_, -, h⟩ := bind_ok.mp h
  obtain ⟨_, -, h⟩ := bind_ok.mp h
  obtain ⟨_, -, h⟩ := bind_ok.mp h
  obtain ⟨_, -, h⟩ := bind_ok.mp h
  obtain ⟨_, hnegative, h⟩ := bind_ok.mp h
  obtain ⟨sku, hsku, h⟩ := bind_ok.mp h
  obtain ⟨_, -, h⟩ := bind_ok.mp h
  obtain rfl := pure_ok.mp h
  exact ⟨getSupplierSku_key hsku, refuseNegative_ok hnegative⟩

/-- The lines of an invoice that is there. -/
lemma schema_invoiceLines {supplierId id : String} {lines : List Value}
    (hid : T.keys.invoice e.tenantId id)
    (h : recordInvoiceLines e T supplierId id lines = .ok T') : SchemaHolds tenants T' := by
  obtain ⟨read, hread, h⟩ := bind_ok.mp h
  have hlines : ∀ line ∈ read, T.keys.sku e.tenantId line.1 ∧
      line.2.2.isNegative = .ok false := by
    intro line hline
    obtain ⟨_, -, hspec⟩ := exists_of_mem_mapM hread hline
    exact readInvoiceLine_spec hspec
  have hloop : ∀ line ∈ read, ∀ T₁ T₂, (SchemaHolds tenants T₁ ∧ T₁.keys = T.keys) →
      storeInvoiceLine e T₁ id line = .ok T₂ → SchemaHolds tenants T₂ ∧ T₂.keys = T.keys := by
    rintro line hline T₁ T₂ ⟨hT₁, hkeys⟩ hstep
    obtain ⟨amount, -, hstep⟩ := bind_ok.mp hstep
    obtain ⟨_, hpositive, hstep⟩ := bind_ok.mp hstep
    obtain ⟨price, hprice, hstep⟩ := bind_ok.mp hstep
    obtain rfl := pure_ok.mp hstep
    obtain ⟨hsku, hnegative⟩ := hlines line hline
    have hrow : (⟨e.tenantId, id, line.1, amount, price⟩ : InvoiceLine).Ok tenants T₁.keys :=
      ⟨ht, hkeys ▸ hid, hkeys ▸ hsku, checkPositive_ok hpositive,
        storeNumeric_check hnegative hprice⟩
    exact ⟨hT₁.addInvoiceLine hrow, hkeys⟩
  exact (foldlM_keeps hloop ⟨hT, rfl⟩ h).1

lemma schema_invoiceRecorded (h : applyInvoiceRecorded O e T = .ok T') :
    SchemaHolds tenants T' := by
  obtain ⟨_, -, h⟩ := bind_ok.mp h
  obtain ⟨_, -, h⟩ := bind_ok.mp h
  obtain ⟨supplier, hsupplier, h⟩ := bind_ok.mp h
  obtain ⟨_, -, h⟩ := bind_ok.mp h
  obtain ⟨_, hnegative, h⟩ := bind_ok.mp h
  obtain ⟨id, -, h⟩ := bind_ok.mp h
  obtain ⟨number, -, h⟩ := bind_ok.mp h
  obtain ⟨total, htotal, h⟩ := bind_ok.mp h
  obtain ⟨_, hfresh, h⟩ := bind_ok.mp h
  have hrow : (⟨id, e.tenantId, supplier.id, number, e.timestamp, total⟩ : Invoice).Ok tenants
      T.keys := ⟨ht, getSupplier_key hsupplier,
        storeNumeric_check (refuseNegative_ok hnegative) htotal⟩
  have hnew : ∀ x ∈ T.invoices, ¬(x.id = id ∨ x.tenantId = e.tenantId ∧
      x.invoiceNumber = number) := fun x hx heq =>
    raiseIf_ok.mp hfresh (List.any_eq_true.mpr ⟨x, hx, decide_eq_true heq⟩)
  have hinvoiced := hT.addInvoice hrow hnew
  split at h
  · exact schema_invoiceLines hinvoiced ht hasKey_new h
  · exact absurd h (by simp [throw, throwThe, MonadExceptOf.throw])

/-! ### Shifts -/

lemma schema_staffingChange (h : applyStaffingChange O e T = .ok T') : SchemaHolds tenants T' := by
  obtain ⟨_, -, h⟩ := bind_ok.mp h
  obtain ⟨_, -, h⟩ := bind_ok.mp h
  obtain ⟨_, -, h⟩ := bind_ok.mp h
  obtain ⟨day, -, h⟩ := bind_ok.mp h
  obtain ⟨headcount, -, h⟩ := bind_ok.mp h
  obtain ⟨_, hday, h⟩ := bind_ok.mp h
  obtain ⟨_, hheadcount, h⟩ := bind_ok.mp h
  obtain ⟨shift, -, h⟩ := bind_ok.mp h
  obtain ⟨role, -, h⟩ := bind_ok.mp h
  obtain ⟨count, hcount, h⟩ := bind_ok.mp h
  have hday : 0 ≤ day ∧ day ≤ 6 := by
    have hrange := raiseIf_ok.mp hday
    omega
  have hheadcount : 0 ≤ count := storeInteger_ok hcount ▸ not_lt.mp (raiseIf_ok.mp hheadcount)
  split at h
  · obtain rfl := pure_ok.mp h
    exact hT.changeStaffShift (fun r => rfl) (fun r hr => ⟨hr.tenant, hday, hheadcount⟩)
  · obtain ⟨id, -, h⟩ := bind_ok.mp h
    obtain ⟨_, hfresh, h⟩ := bind_ok.mp h
    obtain rfl := pure_ok.mp h
    have hnew : ∀ x ∈ T.staffShifts, x.id ≠ id := fun x hx heq =>
      raiseIf_ok.mp hfresh (List.any_eq_true.mpr ⟨x, hx, decide_eq_true heq⟩)
    exact hT.addStaffShift ⟨ht, hday, hheadcount⟩ hnew

/-- Whatever the event, the handler leaves tables that satisfy the schema. -/
theorem schema_apply {eventType : EventType} (h : applyToCurrentState O e T eventType = .ok T') :
    SchemaHolds tenants T' := by
  cases eventType with
  | supplierPriceChange => exact schema_supplierPriceChange hT ht h
  | supplierSwitch => exact schema_supplierSwitch hT h
  | stockout => exact schema_stockout hT ht h
  | restock => exact schema_restock hT ht h
  | inventoryAdjustment => exact schema_inventoryAdjustment hT ht h
  | wasteRecorded => exact schema_waste hT ht h
  | menuItemAdded => exact schema_menuItemAdded hT ht h
  | menuItemRemoved => exact schema_menuItemRemoved hT h
  | menuPriceChange => exact schema_menuPriceChange hT h
  | orderRecorded => exact schema_orderRecorded hT ht h
  | invoiceRecorded => exact schema_invoiceRecorded hT ht h
  | staffingChange => exact schema_staffingChange hT ht h
  | demandSpike => exact Except.ok.inj h ▸ hT

end Step

end Handlers

end OpsCopilot
