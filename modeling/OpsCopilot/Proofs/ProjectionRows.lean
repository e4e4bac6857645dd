import OpsCopilot.Lib.PyDecimalSum
import OpsCopilot.Proofs.EventAppend

/-!
# What the handlers do to their rows

One specification for each handler that writes a menu item, an ingredient or an inventory level;
the other handlers leave these tables alone.
-/

namespace OpsCopilot

open Python Sql Fallible

/-! ### Checked fields -/

section Fields

variable {payload : Dict} {v : Value} {field message label t : String} {d : PyDecimal}

lemma filterText_some {key : String} (h : filterText v = .ok (some key)) : v = .str key := by
  unfold filterText at h
  split at h
  · exact absurd h (by simp)
  · obtain ⟨s, hs, heq⟩ := map_ok.mp h
    rw [← Option.some.inj heq, bindText_ok hs]
  · exact absurd h (by simp)
  · exact absurd h (by simp)

lemma getRow_ok {α : Type} {find : String → Option α} {row : α}
    (h : getRow label find t v = .ok row) : ∃ key, v = .str key ∧ find key = some row := by
  obtain ⟨key, hkey, hrest⟩ := bind_ok.mp h
  cases key with
  | none => exact absurd hrest (by simp [throw, throwThe, MonadExceptOf.throw])
  | some key =>
    refine ⟨key, filterText_some hkey, ?_⟩
    split at hrest
    · rename_i found hfound
      obtain rfl := pure_ok.mp hrest
      exact hfound
    · exact absurd hrest (by simp [throw, throwThe, MonadExceptOf.throw])

lemma requirePayloadField_ok (h : requirePayloadField payload field = .ok v) :
    payload.get field = v := by
  unfold requirePayloadField at h
  split at h
  · exact absurd h (by simp)
  · exact Except.ok.inj h

lemma decimalField_ok (h : decimalField v field = .ok d) : v.toDecimal = some d := by
  unfold decimalField at h
  cases hd : v.toDecimal with
  | none =>
    rw [hd] at h
    exact absurd h (by simp)
  | some d' =>
    rw [hd] at h
    exact congrArg some (Except.ok.inj h)

lemma refuseNegative_ok {u : Unit} (h : refuseNegative d message = .ok u) :
    d.isNegative = .ok false := by
  obtain ⟨negative, hnegative, hrest⟩ := bind_ok.mp h
  have hfalse := raiseIf_ok.mp hrest
  rw [mapError_ok.mp hnegative]
  exact congrArg Except.ok (Bool.eq_false_iff.mpr hfalse)

/-- What a column takes: the rounded number, or NaN for what is not finite. -/
lemma storeNumeric_ok {precision scale : ℕ} {x : Column precision scale}
    (h : storeNumeric precision scale d = .ok x) :
    (∃ q y, d.toRat? = some q ∧ Numeric.store? precision scale q = some y ∧ x = .number y) ∨
      d.toRat? = none ∧ x = .nan := by
  unfold storeNumeric at h
  cases hq : d.toRat? with
  | none =>
    rw [hq] at h
    exact .inr ⟨rfl, (Except.ok.inj h).symm⟩
  | some q =>
    rw [hq] at h
    dsimp only at h
    cases hstore : Numeric.store? precision scale q with
    | none =>
      rw [hstore] at h
      exact absurd h (by simp)
    | some y =>
      rw [hstore] at h
      exact .inl ⟨q, y, rfl, hstore, (Except.ok.inj h).symm⟩

lemma storeNumeric_finite {precision scale : ℕ} {x : Column precision scale} {q : ℚ}
    (hq : d.toRat? = some q) (h : storeNumeric precision scale d = .ok x) :
    ∃ y, Numeric.store? precision scale q = some y ∧ x = .number y := by
  rcases storeNumeric_ok h with ⟨q', y, hq', hstore, hx⟩ | ⟨hnone, -⟩
  · obtain rfl := Option.some.inj (hq.symm.trans hq')
    exact ⟨y, hstore, hx⟩
  · exact absurd (hq.symm.trans hnone) (Option.some_ne_none q)

/-- A number of a column is read back as it is. -/
lemma numericDecimal_toRat? {precision scale : ℕ} (x : Numeric precision scale) :
    (numericDecimal x).toRat? = some x.toRat := by
  rw [numericDecimal, PyDecimal.toRat?, decimalRat_natAbs, Numeric.toRat, zpow_neg, zpow_natCast]
  rfl

lemma nonneg_of_isNegative {d : PyDecimal} {q : ℚ} (h : d.isNegative = .ok false)
    (hq : d.toRat? = some q) : 0 ≤ q := by
  cases d with
  | nan => exact absurd hq (by simp [PyDecimal.toRat?])
  | inf neg => exact absurd hq (by simp [PyDecimal.toRat?])
  | finite neg coeff exp =>
    obtain rfl := Option.some.inj hq
    have hsign := Except.ok.inj h
    cases neg with
    | false =>
      rw [decimalRat, if_neg (by simp), one_mul]
      exact mul_nonneg (Nat.cast_nonneg coeff) (zpow_nonneg (by norm_num) exp)
    | true =>
      simp only [Bool.true_and, decide_eq_false_iff_not, not_not] at hsign
      simp [decimalRat, hsign]

end Fields

/-! ### Rows found by their key -/

section Rows

variable {T : Tables} {t t' id id' : String}

lemma Tables.menuItem?_spec {row : MenuItem} (h : T.menuItem? t id = some row) :
    row ∈ T.menuItems ∧ row.id = id ∧ row.tenantId = t := by
  have hmem := List.mem_of_find?_eq_some h
  have hp := List.find?_some h
  simp only [decide_eq_true_eq] at hp
  exact ⟨hmem, hp.1, hp.2⟩

lemma Tables.ingredient?_spec {row : Ingredient} (h : T.ingredient? t id = some row) :
    row ∈ T.ingredients ∧ row.id = id ∧ row.tenantId = t := by
  have hmem := List.mem_of_find?_eq_some h
  have hp := List.find?_some h
  simp only [decide_eq_true_eq] at hp
  exact ⟨hmem, hp.1, hp.2⟩

/-- A change of the rows with one key shows in the lookup of that key only. -/
lemma find?_change {α κ : Type*} [DecidableEq κ] (rows : List α) (key : α → κ) (f : α → α)
    (hf : ∀ r, key (f r) = key r) (k k' : κ) :
    (rows.map (fun r => if key r = k then f r else r)).find? (fun r => key r = k') =
      if k' = k then (rows.find? (fun r => key r = k')).map f
      else rows.find? (fun r => key r = k') := by
  induction rows with
  | nil => simp
  | cons r rows ih =>
    have hkey : key (if key r = k then f r else r) = key r := by
      split_ifs
      · exact hf r
      · rfl
    rw [List.map_cons, List.find?_cons, List.find?_cons, hkey]
    by_cases hr : key r = k'
    · simp only [hr, decide_true]
      split_ifs <;> rfl
    · simp only [hr, decide_false]
      exact ih

lemma Tables.menuItem?_changeMenuItem {f : MenuItem → MenuItem}
    (hf : ∀ r, (f r).id = r.id ∧ (f r).tenantId = r.tenantId) :
    (T.changeMenuItem t id f).menuItem? t' id' =
      if id' = id ∧ t' = t then (T.menuItem? t' id').map f else T.menuItem? t' id' := by
  have hchange := find?_change T.menuItems (fun r => (r.id, r.tenantId)) f
    (fun r => Prod.ext (hf r).1 (hf r).2) (id, t) (id', t')
  simp only [Prod.mk.injEq] at hchange
  exact hchange

lemma Tables.ingredient?_changeIngredient {f : Ingredient → Ingredient}
    (hf : ∀ r, (f r).id = r.id ∧ (f r).tenantId = r.tenantId) :
    (T.changeIngredient t id f).ingredient? t' id' =
      if id' = id ∧ t' = t then (T.ingredient? t' id').map f else T.ingredient? t' id' := by
  have hchange := find?_change T.ingredients (fun r => (r.id, r.tenantId)) f
    (fun r => Prod.ext (hf r).1 (hf r).2) (id, t) (id', t')
  simp only [Prod.mk.injEq] at hchange
  exact hchange

end Rows

/-! ### Handlers -/

section Handlers

variable {O : Outside} {e : Projection} {T T' : Tables}

theorem applyMenuPriceChange_spec (h : applyMenuPriceChange e T = .ok T') :
    ∃ id newPrice row price, e.payload.get "menu_item_id" = .str id ∧
      (e.payload.get "new_price").toDecimal = some newPrice ∧ newPrice.isNegative = .ok false ∧
      T.menuItem? e.tenantId id = some row ∧ storeNumeric 10 2 newPrice = .ok price ∧
      T' = T.changeMenuItem e.tenantId id (fun r => { r with currentPrice := price }) := by
  obtain ⟨menuItemId, hid, hrest⟩ := bind_ok.mp h
  obtain ⟨value, hvalue, hrest⟩ := bind_ok.mp hrest
  obtain ⟨newPrice, hprice, hrest⟩ := bind_ok.mp hrest
  obtain ⟨_, hnegative, hrest⟩ := bind_ok.mp hrest
  obtain ⟨row, hrow, hrest⟩ := bind_ok.mp hrest
  obtain ⟨price, hstored, hlast⟩ := bind_ok.mp hrest
  obtain ⟨id, rfl, hfound⟩ := getRow_ok hrow
  obtain ⟨-, hrowid, -⟩ := Tables.menuItem?_spec hfound
  refine ⟨id, newPrice, row, price, requirePayloadField_ok hid, ?_, refuseNegative_ok hnegative,
    hfound, hstored, ?_⟩
  · rw [requirePayloadField_ok hvalue]
    exact decimalField_ok hprice
  · rw [← hrowid]
    exact (pure_ok.mp hlast).symm

theorem applyMenuItemRemoved_spec (h : applyMenuItemRemoved e T = .ok T') :
    ∃ id row, e.payload.get "menu_item_id" = .str id ∧ T.menuItem? e.tenantId id = some row ∧
      T' = T.changeMenuItem e.tenantId id (fun r => { r with active := false }) := by
  obtain ⟨menuItemId, hid, hrest⟩ := bind_ok.mp h
  obtain ⟨row, hrow, hlast⟩ := bind_ok.mp hrest
  obtain ⟨id, rfl, hfound⟩ := getRow_ok hrow
  obtain ⟨-, hrowid, -⟩ := Tables.menuItem?_spec hfound
  refine ⟨id, row, requirePayloadField_ok hid, hfound, ?_⟩
  rw [← hrowid]
  exact (pure_ok.mp hlast).symm

theorem applySupplierPriceChange_spec (h : applySupplierPriceChange e T = .ok T') :
    ∃ skuId newPrice sku ingredient price, e.payload.get "supplier_sku_id" = .str skuId ∧
      (e.payload.get "new_price").toDecimal = some newPrice ∧ newPrice.isNegative = .ok false ∧
      T.supplierSku? e.tenantId skuId = some sku ∧
      T.ingredient? e.tenantId sku.ingredientId = some ingredient ∧
      storeNumeric 10 2 newPrice = .ok price ∧
      T' = ({ T with supplierPrices := T.supplierPrices ++
          [⟨e.tenantId, sku.id, price, e.timestamp⟩] } : Tables).changeIngredient e.tenantId
        sku.ingredientId (fun r => { r with currentPrice := price }) := by
  obtain ⟨supplierSkuId, hid, hrest⟩ := bind_ok.mp h
  obtain ⟨value, hvalue, hrest⟩ := bind_ok.mp hrest
  obtain ⟨newPrice, hprice, hrest⟩ := bind_ok.mp hrest
  obtain ⟨_, hnegative, hrest⟩ := bind_ok.mp hrest
  obtain ⟨sku, hsku, hrest⟩ := bind_ok.mp hrest
  obtain ⟨ingredient, hingredient, hrest⟩ := bind_ok.mp hrest
  obtain ⟨price, hstored, hlast⟩ := bind_ok.mp hrest
  obtain ⟨skuId, rfl, hfound⟩ := getRow_ok hsku
  obtain ⟨ingredientId, hingredientId, hfoundIngredient⟩ := getRow_ok hingredient
  obtain rfl := Value.str.inj hingredientId
  obtain ⟨-, hrowid, -⟩ := Tables.ingredient?_spec hfoundIngredient
  refine ⟨skuId, newPrice, sku, ingredient, price, requirePayloadField_ok hid, ?_,
    refuseNegative_ok hnegative, hfound, hfoundIngredient, hstored, ?_⟩
  · rw [requirePayloadField_ok hvalue]
    exact decimalField_ok hprice
  · rw [hrowid] at hlast
    exact (pure_ok.mp hlast).symm

theorem applySupplierSwitch_spec (h : applySupplierSwitch e T = .ok T') :
    ∃ id supplierId supplier ingredient, e.payload.get "ingredient_id" = .str id ∧
      e.payload.get "new_supplier_id" = .str supplierId ∧
      T.supplier? e.tenantId supplierId = some supplier ∧
      T.ingredient? e.tenantId id = some ingredient ∧
      T' = T.changeIngredient e.tenantId id
        (fun r => { r with currentSupplierId := some supplierId }) := by
  obtain ⟨ingredientId, hid, hrest⟩ := bind_ok.mp h
  obtain ⟨newSupplierId, hnew, hrest⟩ := bind_ok.mp hrest
  obtain ⟨supplier, hsupplier, hrest⟩ := bind_ok.mp hrest
  obtain ⟨ingredient, hingredient, hlast⟩ := bind_ok.mp hrest
  obtain ⟨supplierId, rfl, hfoundSupplier⟩ := getRow_ok hsupplier
  obtain ⟨id, rfl, hfound⟩ := getRow_ok hingredient
  obtain ⟨-, hrowid, -⟩ := Tables.ingredient?_spec hfound
  have hsupplierId : supplier.id = supplierId := by
    have hp := List.find?_some hfoundSupplier
    simp only [decide_eq_true_eq] at hp
    exact hp.1
  refine ⟨id, supplierId, supplier, ingredient, requirePayloadField_ok hid,
    requirePayloadField_ok hnew, hfoundSupplier, hfound, ?_⟩
  rw [hrowid, hsupplierId] at hlast
  exact (pure_ok.mp hlast).symm

end Handlers

/-! ### Handlers of the other tables -/

/-- Two states of the tables with the same dishes and the same stock. -/
structure Tables.SameRows (T T' : Tables) : Prop where
  menuItems_eq : T'.menuItems = T.menuItems
  ingredients_eq : T'.ingredients = T.ingredients
  inventoryLevels_eq : T'.inventoryLevels = T.inventoryLevels
  supplierSkus_eq : T'.supplierSkus = T.supplierSkus

lemma Tables.SameRows.refl (T : Tables) : T.SameRows T := ⟨rfl, rfl, rfl, rfl⟩

lemma Tables.SameRows.trans {T T' T'' : Tables} (h : T.SameRows T') (h' : T'.SameRows T'') :
    T.SameRows T'' :=
  ⟨h'.menuItems_eq.trans h.menuItems_eq, h'.ingredients_eq.trans h.ingredients_eq,
    h'.inventoryLevels_eq.trans h.inventoryLevels_eq, h'.supplierSkus_eq.trans h.supplierSkus_eq⟩

section Others

variable {O : Outside} {e : Projection} {T T' : Tables}

lemma sameRows_foldlM {α : Type} {step : Tables → α → Except PyException Tables}
    (hstep : ∀ T line T', step T line = .ok T' → T.SameRows T') {lines : List α}
    (h : lines.foldlM step T = .ok T') : T.SameRows T' := by
  induction lines generalizing T with
  | nil =>
    obtain rfl := pure_ok.mp h
    exact .refl _
  | cons line lines ih =>
    rw [List.foldlM_cons] at h
    obtain ⟨T'', hline, hlines⟩ := bind_ok.mp h
    exact (hstep T line T'' hline).trans (ih hlines)

lemma storeOrderLine_sameRows {orderId : String} {line : String × ℤ × PyDecimal}
    (h : storeOrderLine e T orderId line = .ok T') : T.SameRows T' := by
  obtain ⟨count, -, h⟩ := bind_ok.mp h
  obtain ⟨price, -, h⟩ := bind_ok.mp h
  rw [← pure_ok.mp h]
  exact ⟨rfl, rfl, rfl, rfl⟩

lemma recordOrderLines_sameRows {id : String} {orders : List SalesOrder} {lines : List Value}
    (h : recordOrderLines e { T with salesOrders := orders } id lines = .ok T') :
    T.SameRows T' := by
  obtain ⟨read, -, h⟩ := bind_ok.mp h
  have hlines := sameRows_foldlM (fun T line T' => storeOrderLine_sameRows) h
  exact ⟨hlines.menuItems_eq, hlines.ingredients_eq, hlines.inventoryLevels_eq,
    hlines.supplierSkus_eq⟩

lemma applyOrderRecorded_sameRows (h : applyOrderRecorded O e T = .ok T') : T.SameRows T' := by
  unfold applyOrderRecorded at h
  split at h
  · dsimp only at h
    split_ifs at h
    · obtain ⟨id, -, h⟩ := bind_ok.mp h
      obtain ⟨_, -, h⟩ := bind_ok.mp h
      exact recordOrderLines_sameRows h
    · obtain ⟨id, -, h⟩ := bind_ok.mp h
      obtain ⟨_, -, h⟩ := bind_ok.mp h
      exact recordOrderLines_sameRows h
  · exact absurd h (by simp [throw, throwThe, MonadExceptOf.throw])

lemma storeInvoiceLine_sameRows {invoiceId : String} {line : String × PyDecimal × PyDecimal}
    (h : storeInvoiceLine e T invoiceId line = .ok T') : T.SameRows T' := by
  obtain ⟨amount, -, h⟩ := bind_ok.mp h
  obtain ⟨_, -, h⟩ := bind_ok.mp h
  obtain ⟨price, -, h⟩ := bind_ok.mp h
  rw [← pure_ok.mp h]
  exact ⟨rfl, rfl, rfl, rfl⟩

lemma applyInvoiceRecorded_sameRows (h : applyInvoiceRecorded O e T = .ok T') :
    T.SameRows T' := by
  obtain ⟨supplierId, -, h⟩ := bind_ok.mp h
  obtain ⟨invoiceNumber, -, h⟩ := bind_ok.mp h
  obtain ⟨supplier, -, h⟩ := bind_ok.mp h
  obtain ⟨totalAmount, -, h⟩ := bind_ok.mp h
  obtain ⟨_, -, h⟩ := bind_ok.mp h
  obtain ⟨id, -, h⟩ := bind_ok.mp h
  obtain ⟨number, -, h⟩ := bind_ok.mp h
  obtain ⟨total, -, h⟩ := bind_ok.mp h
  obtain ⟨_, -, h⟩ := bind_ok.mp h
  split at h
  · obtain ⟨read, -, h⟩ := bind_ok.mp h
    have hinvoiced := sameRows_foldlM (fun T line T' => storeInvoiceLine_sameRows) h
    exact ⟨hinvoiced.menuItems_eq, hinvoiced.ingredients_eq, hinvoiced.inventoryLevels_eq,
      hinvoiced.supplierSkus_eq⟩
  · exact absurd h (by simp [throw, throwThe, MonadExceptOf.throw])

lemma applyStaffingChange_sameRows (h : applyStaffingChange O e T = .ok T') : T.SameRows T' := by
  obtain ⟨role, -, h⟩ := bind_ok.mp h
  obtain ⟨_, -, h⟩ := bind_ok.mp h
  obtain ⟨_, -, h⟩ := bind_ok.mp h
  obtain ⟨dayOfWeek, -, h⟩ := bind_ok.mp h
  obtain ⟨headcount, -, h⟩ := bind_ok.mp h
  obtain ⟨_, -, h⟩ := bind_ok.mp h
  obtain ⟨_, -, h⟩ := bind_ok.mp h
  obtain ⟨shift, -, h⟩ := bind_ok.mp h
  obtain ⟨text, -, h⟩ := bind_ok.mp h
  obtain ⟨count, -, h⟩ := bind_ok.mp h
  cases shift with
  | some existing =>
    rw [← pure_ok.mp h]
    exact ⟨rfl, rfl, rfl, rfl⟩
  | none =>
    obtain ⟨id, -, h⟩ := bind_ok.mp h
    obtain ⟨_, -, h⟩ := bind_ok.mp h
    rw [← pure_ok.mp h]
    exact ⟨rfl, rfl, rfl, rfl⟩

end Others

end OpsCopilot
