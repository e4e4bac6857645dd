import OpsCopilot.Model.Replay
import OpsCopilot.Proofs.ProjectionRows

/-!
# The rows of one tenant

The dishes and the stock of a tenant as functions of their identifiers, and what an accepted
event changes in them. The events of other tenants change nothing.
-/

namespace OpsCopilot

open Python Sql Fallible

/-- What the projections hold of a tenant's dishes and stock. -/
structure TenantView where
  ingredient : String → Option Ingredient
  inventory : String → Option InventoryLevel
  menuItem : String → Option MenuItem

def Tables.view (T : Tables) (tenantId : String) : TenantView :=
  ⟨T.ingredient? tenantId, T.inventory? tenantId, T.menuItem? tenantId⟩

lemma Tables.SameRows.view_eq {T T' : Tables} (h : T.SameRows T') (t : String) :
    T'.view t = T.view t := by
  unfold Tables.view Tables.ingredient? Tables.inventory? Tables.menuItem?
  rw [h.menuItems_eq, h.ingredients_eq, h.inventoryLevels_eq]

/-! ### Changes of single rows -/

section Changes

variable {T : Tables} {t t' i j : String}

lemma Tables.inventory?_spec {row : InventoryLevel} (h : T.inventory? t i = some row) :
    row ∈ T.inventoryLevels ∧ row.tenantId = t ∧ row.ingredientId = i := by
  have hmem := List.mem_of_find?_eq_some h
  have hp := List.find?_some h
  simp only [decide_eq_true_eq] at hp
  exact ⟨hmem, hp.1, hp.2⟩

lemma Tables.inventory?_setInventory (x : Column 12 4) (now : Timestamp) :
    (T.setInventory t i x now).inventory? t' j =
      if j = i ∧ t' = t then some ⟨t, i, x, now⟩ else T.inventory? t' j := by
  unfold Tables.setInventory
  cases hfound : T.inventory? t i with
  | none =>
    dsimp only
    rw [Tables.inventory?, List.find?_append]
    change (T.inventory? t' j).or _ = _
    by_cases hkey : j = i ∧ t' = t
    · obtain ⟨rfl, rfl⟩ := hkey
      rw [hfound, if_pos ⟨rfl, rfl⟩]
      simp
    · have hnew : ¬(t = t' ∧ i = j) := fun h => hkey ⟨h.2.symm, h.1.symm⟩
      rw [if_neg hkey]
      simp [hnew]
  | some row =>
    have hchange := find?_change T.inventoryLevels (fun r => (r.tenantId, r.ingredientId))
      (fun r => { r with quantity := x, updatedAt := now }) (fun _ => rfl) (t, i) (t', j)
    simp only [Prod.mk.injEq] at hchange
    refine hchange.trans ?_
    by_cases hkey : j = i ∧ t' = t
    · obtain ⟨rfl, rfl⟩ := hkey
      obtain ⟨-, htenant, hingredient⟩ := Tables.inventory?_spec hfound
      rw [if_pos ⟨rfl, rfl⟩, if_pos ⟨rfl, rfl⟩]
      change (T.inventory? t' j).map _ = _
      rw [hfound, Option.map_some, htenant, hingredient]
    · rw [if_neg hkey, if_neg (fun h => hkey ⟨h.2, h.1⟩)]
      rfl

lemma Tables.view_changeIngredient {f : Ingredient → Ingredient} {row : Ingredient}
    (hf : ∀ r, (f r).id = r.id ∧ (f r).tenantId = r.tenantId) (hrow : T.ingredient? t i = some row) :
    (T.changeIngredient t i f).view t =
      { T.view t with ingredient := Function.update (T.view t).ingredient i (some (f row)) } := by
  unfold Tables.view
  congr 1
  funext j
  rw [Tables.ingredient?_changeIngredient hf]
  by_cases hj : j = i
  · rw [if_pos ⟨hj, rfl⟩, hj, hrow, Function.update_self]
    rfl
  · rw [if_neg (fun h => hj h.1), Function.update_of_ne hj]

lemma Tables.view_changeIngredient_other {f : Ingredient → Ingredient}
    (hf : ∀ r, (f r).id = r.id ∧ (f r).tenantId = r.tenantId) (hother : t ≠ t') :
    (T.changeIngredient t i f).view t' = T.view t' := by
  unfold Tables.view
  congr 1
  funext j
  rw [Tables.ingredient?_changeIngredient hf, if_neg (fun h => hother h.2.symm)]

lemma Tables.view_changeMenuItem {f : MenuItem → MenuItem} {row : MenuItem}
    (hf : ∀ r, (f r).id = r.id ∧ (f r).tenantId = r.tenantId) (hrow : T.menuItem? t i = some row) :
    (T.changeMenuItem t i f).view t =
      { T.view t with menuItem := Function.update (T.view t).menuItem i (some (f row)) } := by
  unfold Tables.view
  congr 1
  funext j
  rw [Tables.menuItem?_changeMenuItem hf]
  by_cases hj : j = i
  · rw [if_pos ⟨hj, rfl⟩, hj, hrow, Function.update_self]
    rfl
  · rw [if_neg (fun h => hj h.1), Function.update_of_ne hj]

lemma Tables.view_changeMenuItem_other {f : MenuItem → MenuItem}
    (hf : ∀ r, (f r).id = r.id ∧ (f r).tenantId = r.tenantId) (hother : t ≠ t') :
    (T.changeMenuItem t i f).view t' = T.view t' := by
  unfold Tables.view
  congr 1
  funext j
  rw [Tables.menuItem?_changeMenuItem hf, if_neg (fun h => hother h.2.symm)]

lemma Tables.view_setInventory (x : Column 12 4) (now : Timestamp) :
    (T.setInventory t i x now).view t =
      { T.view t with inventory := Function.update (T.view t).inventory i (some ⟨t, i, x, now⟩) } := by
  have hrows : (T.setInventory t i x now).ingredients = T.ingredients ∧
      (T.setInventory t i x now).menuItems = T.menuItems := by
    unfold Tables.setInventory
    split <;> exact ⟨rfl, rfl⟩
  have hinventory : (T.setInventory t i x now).inventory? t =
      Function.update (T.inventory? t) i (some ⟨t, i, x, now⟩) := by
    funext j
    rw [Tables.inventory?_setInventory]
    by_cases hj : j = i
    · rw [if_pos ⟨hj, rfl⟩, hj, Function.update_self]
    · rw [if_neg (fun h => hj h.1), Function.update_of_ne hj]
  unfold Tables.view
  rw [hinventory]
  unfold Tables.ingredient? Tables.menuItem?
  rw [hrows.1, hrows.2]

lemma Tables.view_setInventory_other (x : Column 12 4) (now : Timestamp) (hother : t ≠ t') :
    (T.setInventory t i x now).view t' = T.view t' := by
  have hrows : (T.setInventory t i x now).ingredients = T.ingredients ∧
      (T.setInventory t i x now).menuItems = T.menuItems := by
    unfold Tables.setInventory
    split <;> exact ⟨rfl, rfl⟩
  have hinventory : (T.setInventory t i x now).inventory? t' = T.inventory? t' := by
    funext j
    rw [Tables.inventory?_setInventory, if_neg (fun h => hother h.2.symm)]
  unfold Tables.view
  rw [hinventory]
  unfold Tables.ingredient? Tables.menuItem?
  rw [hrows.1, hrows.2]

end Changes

/-! ### Stock -/

section Stock

variable {O : Outside} {e : Projection} {T T' : Tables}

lemma requirePayloadField_find? {payload : Dict} {field : String} {v : Value}
    (h : requirePayloadField payload field = .ok v) : payload.find? field = some v := by
  have hget := requirePayloadField_ok h
  rw [Dict.get] at hget
  cases hfound : payload.find? field with
  | none =>
    rw [requirePayloadField, Dict.get, hfound] at h
    exact absurd h (by simp)
  | some w =>
    rw [hfound] at hget
    exact congrArg some hget

/-- The row of an ingredient and its inventory hold a new quantity. -/
structure StockSet (e : Projection) (T T' : Tables) (i : String) (row : Ingredient)
    (x : Column 12 4) : Prop where
  view_eq : T'.view e.tenantId =
    { T.view e.tenantId with
      ingredient := Function.update (T.view e.tenantId).ingredient i
        (some { row with currentStockLevel := x })
      inventory := Function.update (T.view e.tenantId).inventory i
        (some ⟨e.tenantId, i, x, e.timestamp⟩) }
  other : ∀ t, e.tenantId ≠ t → T'.view t = T.view t
  supplierSkus_eq : T'.supplierSkus = T.supplierSkus

lemma setStock_spec {i : String} {row : Ingredient} {d : PyDecimal}
    (hrow : T.ingredient? e.tenantId i = some row) (h : setStock e T (.str i) d = .ok T') :
    ∃ x, storeNumeric 12 4 d = .ok x ∧ StockSet e T T' i row x := by
  obtain ⟨T₁, hupdate, h⟩ := bind_ok.mp h
  obtain ⟨row₁, hrow₁, hupdate⟩ := bind_ok.mp hupdate
  obtain ⟨x, hx, hupdate⟩ := bind_ok.mp hupdate
  obtain ⟨row₂, hrow₂, h⟩ := bind_ok.mp h
  obtain ⟨x', hx', h⟩ := bind_ok.mp h
  obtain rfl := Except.ok.inj (hx.symm.trans hx')
  obtain ⟨_, hkey₁, hfound₁⟩ := getRow_ok hrow₁
  obtain rfl := Value.str.inj hkey₁
  obtain ⟨_, hkey₂, hfound₂⟩ := getRow_ok hrow₂
  obtain rfl := Value.str.inj hkey₂
  rw [(Tables.ingredient?_spec hfound₁).2.1] at hupdate
  rw [(Tables.ingredient?_spec hfound₂).2.1] at h
  obtain rfl := pure_ok.mp hupdate
  obtain rfl := pure_ok.mp h
  have hview := Tables.view_setInventory (T := T) (t := e.tenantId) (i := i) x e.timestamp
  have hsame : row₂ = row := by
    have hingredient := congrFun (congrArg TenantView.ingredient hview) i
    exact Option.some.inj (hfound₂.symm.trans (hingredient.trans hrow))
  obtain rfl := hsame
  refine ⟨x, hx, ?_, ?_, ?_⟩
  · rw [Tables.view_changeIngredient (by exact fun r => ⟨rfl, rfl⟩) hfound₂, hview]
  · intro t hother
    rw [Tables.view_changeIngredient_other (by exact fun r => ⟨rfl, rfl⟩) hother,
      Tables.view_setInventory_other _ _ hother]
  · unfold Tables.changeIngredient Tables.setInventory
    dsimp only
    split <;> rfl

def EventType.isStock : EventType → Bool
  | .stockout | .restock | .inventoryAdjustment | .wasteRecorded => true
  | _ => false

/-- The four stock events compute the new level as the replay does, from the level that the
projection holds. -/
structure StockApplied (e : Projection) (T T' : Tables) (eventType : EventType) (i : String)
    (row : Ingredient) (level : PyDecimal) (x : Column 12 4) : Prop where
  ingredient_id : e.payload.find? "ingredient_id" = some (.str i)
  row_eq : T.ingredient? e.tenantId i = some row
  level_eq : replayedLevel e.payload eventType (currentQuantity e T row) = .ok level
  nonneg : level.isNegative = .ok false
  stored : storeNumeric 12 4 level = .ok x
  set : StockSet e T T' i row x

lemma applyStockout_spec (h : applyStockout e T = .ok T') :
    ∃ i row level x, StockApplied e T T' .stockout i row level x := by
  obtain ⟨ingredientId, hid, h⟩ := bind_ok.mp h
  obtain ⟨_, hupdate, -⟩ := bind_ok.mp h
  obtain ⟨row, hrow, -⟩ := bind_ok.mp hupdate
  obtain ⟨i, rfl, hfound⟩ := getRow_ok hrow
  obtain ⟨x, hx, hset⟩ := setStock_spec hfound h
  exact ⟨i, row, _, x, requirePayloadField_find? hid, hfound, rfl, rfl, hx, hset⟩

lemma applyRestock_spec (h : applyRestock e T = .ok T') :
    ∃ i row level x, StockApplied e T T' .restock i row level x := by
  obtain ⟨ingredientId, hid, h⟩ := bind_ok.mp h
  obtain ⟨v, hv, h⟩ := bind_ok.mp h
  obtain ⟨level, hlevel, h⟩ := bind_ok.mp h
  obtain ⟨_, hnegative, h⟩ := bind_ok.mp h
  obtain ⟨_, hupdate, -⟩ := bind_ok.mp h
  obtain ⟨row, hrow, -⟩ := bind_ok.mp hupdate
  obtain ⟨i, rfl, hfound⟩ := getRow_ok hrow
  obtain ⟨x, hx, hset⟩ := setStock_spec hfound h
  refine ⟨i, row, level, x, requirePayloadField_find? hid, hfound, ?_, refuseNegative_ok hnegative,
    hx, hset⟩
  rw [replayedLevel, requirePayloadField_find? hv]
  exact hlevel

lemma addInContext_ok {x y z : PyDecimal} (h : addInContext x y = .ok z) :
    liftStd (x.add y) = .ok z := by
  obtain ⟨sum, hsum, h⟩ := bind_ok.mp h
  obtain ⟨_, -, h⟩ := bind_ok.mp h
  rw [hsum, pure_ok.mp h]

lemma subInContext_ok {x y z : PyDecimal} (h : subInContext x y = .ok z) :
    liftStd (x.sub y) = .ok z := by
  obtain ⟨difference, hdifference, h⟩ := bind_ok.mp h
  obtain ⟨_, -, h⟩ := bind_ok.mp h
  rw [hdifference, pure_ok.mp h]

lemma applyInventoryAdjustment_spec (h : applyInventoryAdjustment e T = .ok T') :
    ∃ i row level x, StockApplied e T T' .inventoryAdjustment i row level x := by
  obtain ⟨ingredientId, hid, h⟩ := bind_ok.mp h
  obtain ⟨row, hrow, h⟩ := bind_ok.mp h
  obtain ⟨i, rfl, hfound⟩ := getRow_ok hrow
  have hlevel : ∃ level,
      replayedLevel e.payload .inventoryAdjustment (currentQuantity e T row) = .ok level ∧
        (do refuseNegative level "Inventory quantity cannot become negative."
            setStock e T (.str i) level) = .ok T' := by
    rw [replayedLevel]
    cases hlevel : e.payload.find? "new_stock_level" with
    | some v =>
      rw [hlevel] at h
      obtain ⟨level, hv, h⟩ := bind_ok.mp h
      exact ⟨level, hv, h⟩
    | none =>
      cases hdelta : e.payload.find? "stock_delta" with
      | some v =>
        rw [hlevel, hdelta] at h
        obtain ⟨delta, hv, h⟩ := bind_ok.mp h
        obtain ⟨level, hsum, h⟩ := bind_ok.mp h
        exact ⟨level, bind_ok.mpr ⟨delta, hv, addInContext_ok hsum⟩, h⟩
      | none =>
        rw [hlevel, hdelta] at h
        exact absurd h (by simp [throw, throwThe, MonadExceptOf.throw, bind, Except.bind])
  obtain ⟨level, hlevel, h⟩ := hlevel
  obtain ⟨_, hnegative, h⟩ := bind_ok.mp h
  obtain ⟨x, hx, hset⟩ := setStock_spec hfound h
  exact ⟨i, row, level, x, requirePayloadField_find? hid, hfound, hlevel,
    refuseNegative_ok hnegative, hx, hset⟩

lemma applyWaste_spec (h : applyWaste O e T = .ok T') :
    ∃ i row level x, StockApplied e T T' .wasteRecorded i row level x := by
  obtain ⟨ingredientId, hid, h⟩ := bind_ok.mp h
  obtain ⟨v, hv, h⟩ := bind_ok.mp h
  obtain ⟨quantity, hquantity, h⟩ := bind_ok.mp h
  obtain ⟨reason, -, h⟩ := bind_ok.mp h
  obtain ⟨_, -, h⟩ := bind_ok.mp h
  obtain ⟨row, hrow, h⟩ := bind_ok.mp h
  obtain ⟨level, hlevel, h⟩ := bind_ok.mp h
  obtain ⟨_, hnegative, h⟩ := bind_ok.mp h
  obtain ⟨text, -, h⟩ := bind_ok.mp h
  obtain ⟨wasted, -, h⟩ := bind_ok.mp h
  obtain ⟨_, -, h⟩ := bind_ok.mp h
  obtain ⟨i, rfl, hfound⟩ := getRow_ok hrow
  obtain ⟨x, hx, hset⟩ := setStock_spec (by exact hfound) h
  refine ⟨i, row, level, x, requirePayloadField_find? hid, hfound, ?_, refuseNegative_ok hnegative,
    hx, ⟨hset.view_eq, hset.other, hset.supplierSkus_eq⟩⟩
  rw [replayedLevel, requirePayloadField_find? hv, Option.getD_some, hquantity]
  exact subInContext_ok hlevel

theorem applyStock_spec {eventType : EventType} (hstock : eventType.isStock = true)
    (h : applyToCurrentState O e T eventType = .ok T') :
    ∃ i row level x, StockApplied e T T' eventType i row level x := by
  cases eventType with
  | stockout => exact applyStockout_spec h
  | restock => exact applyRestock_spec h
  | inventoryAdjustment => exact applyInventoryAdjustment_spec h
  | wasteRecorded => exact applyWaste_spec h
  | supplierPriceChange | supplierSwitch | demandSpike | orderRecorded | menuItemAdded
  | menuItemRemoved | menuPriceChange | staffingChange | invoiceRecorded =>
    exact absurd hstock (by simp [EventType.isStock])

end Stock

/-! ### New dishes -/

section Added

variable {O : Outside} {e : Projection} {T T' : Tables}

/-- An added dish has the row that the event describes, whether there was one before or not. -/
structure ItemAdded (O : Outside) (e : Projection) (T T' : Tables) (row : MenuItem)
    (name price : Value) (d : PyDecimal) : Prop where
  menu_item_id : e.payload.find? "menu_item_id" = some (.str row.id)
  name_eq : e.payload.find? "name" = some name
  current_price : e.payload.find? "current_price" = some price
  decimal : price.toDecimal = some d
  tenant : row.tenantId = e.tenantId
  row_name : row.name = pyStr O name
  stored : storeNumeric 10 2 d = .ok row.currentPrice
  active : activeField e.payload = .ok row.active
  view_eq : T'.view e.tenantId =
    { T.view e.tenantId with
      menuItem := Function.update (T.view e.tenantId).menuItem row.id (some row) }
  other : ∀ t, e.tenantId ≠ t → T'.view t = T.view t
  supplierSkus_eq : T'.supplierSkus = T.supplierSkus

theorem applyMenuItemAdded_spec (h : applyMenuItemAdded O e T = .ok T') :
    ∃ row name price d, ItemAdded O e T T' row name price d := by
  obtain ⟨menuItemId, hid, h⟩ := bind_ok.mp h
  obtain ⟨name, hname, h⟩ := bind_ok.mp h
  obtain ⟨v, hv, h⟩ := bind_ok.mp h
  obtain ⟨d, hd, h⟩ := bind_ok.mp h
  obtain ⟨_, -, h⟩ := bind_ok.mp h
  obtain ⟨active, hactive, h⟩ := bind_ok.mp h
  obtain ⟨key, hkey, h⟩ := bind_ok.mp h
  obtain ⟨text, htext, h⟩ := bind_ok.mp h
  obtain ⟨price, hprice, h⟩ := bind_ok.mp h
  have hfind := requirePayloadField_find? hid
  obtain ⟨id, rfl⟩ : ∃ id, key = some id := by
    cases key with
    | some id => exact ⟨id, rfl⟩
    | none =>
      cases menuItemId with
      | none =>
        rw [requirePayloadField, Dict.get, hfind] at hid
        exact absurd hid (by simp)
      | str s =>
        obtain ⟨_, -, hs⟩ := map_ok.mp hkey
        exact absurd hs (by simp)
      | bool _ | int _ | float _ | decimal _ | list _ | dict _ =>
        exact absurd hkey (by simp [filterText])
  obtain rfl := filterText_some hkey
  obtain rfl := bindText_ok htext
  refine ⟨⟨id, e.tenantId, pyStr O name, price, active⟩, name, v, d, ?_⟩
  rw [Option.getD_some] at h
  have hviews : (∀ t, e.tenantId ≠ t → T'.view t = T.view t) ∧ T'.supplierSkus = T.supplierSkus ∧
      T'.view e.tenantId = { T.view e.tenantId with
        menuItem := Function.update (T.view e.tenantId).menuItem id
          (some ⟨id, e.tenantId, pyStr O name, price, active⟩) } := by
    cases hfound : T.menuItem? e.tenantId id with
    | some row =>
      rw [hfound] at h
      obtain rfl := pure_ok.mp h
      obtain ⟨-, hrowid, htenant⟩ := Tables.menuItem?_spec hfound
      rw [hrowid]
      refine ⟨fun t hother => ?_, rfl, ?_⟩
      · rw [Tables.view_changeMenuItem_other (by exact fun r => ⟨rfl, rfl⟩) hother]
      · rw [Tables.view_changeMenuItem (by exact fun r => ⟨rfl, rfl⟩) hfound, hrowid, htenant]
    | none =>
      rw [hfound] at h
      obtain ⟨_, -, h⟩ := bind_ok.mp h
      obtain rfl := pure_ok.mp h
      refine ⟨fun t hother => ?_, rfl, ?_⟩
      · unfold Tables.view
        congr 1
        funext j
        rw [Tables.menuItem?, List.find?_append]
        simp [hother, Tables.menuItem?]
      · unfold Tables.view
        congr 1
        funext j
        rw [Tables.menuItem?, List.find?_append]
        change (T.menuItem? e.tenantId j).or _ = _
        by_cases hj : j = id
        · rw [hj, hfound, Function.update_self]
          simp
        · rw [Function.update_of_ne hj]
          simp [Ne.symm hj]
  exact ⟨hfind, requirePayloadField_find? hname, requirePayloadField_find? hv,
    decimalField_ok hd, rfl, rfl, hprice, hactive, hviews.2.2, hviews.1, hviews.2.1⟩

end Added

/-! ### Frames -/

/-- The SKUs stay as they are, and so do the rows of the other tenants. -/
theorem applyToCurrentState_frame {O : Outside} {e : Projection} {T T' : Tables}
    {eventType : EventType} (h : applyToCurrentState O e T eventType = .ok T') :
    T'.supplierSkus = T.supplierSkus ∧ ∀ t, e.tenantId ≠ t → T'.view t = T.view t := by
  cases eventType with
  | stockout | restock | inventoryAdjustment | wasteRecorded =>
    obtain ⟨i, row, level, x, happlied⟩ := applyStock_spec (by rfl) h
    exact ⟨happlied.set.supplierSkus_eq, happlied.set.other⟩
  | supplierPriceChange =>
    obtain ⟨skuId, newPrice, sku, ingredient, price, -, -, -, -, -, -, rfl⟩ :=
      applySupplierPriceChange_spec h
    refine ⟨rfl, fun t hother => ?_⟩
    rw [Tables.view_changeIngredient_other (by exact fun r => ⟨rfl, rfl⟩) hother]
    rfl
  | supplierSwitch =>
    obtain ⟨i, supplierId, supplier, ingredient, -, -, -, -, rfl⟩ := applySupplierSwitch_spec h
    refine ⟨rfl, fun t hother => ?_⟩
    rw [Tables.view_changeIngredient_other (by exact fun r => ⟨rfl, rfl⟩) hother]
  | menuPriceChange =>
    obtain ⟨i, newPrice, row, price, -, -, -, -, -, rfl⟩ := applyMenuPriceChange_spec h
    refine ⟨rfl, fun t hother => ?_⟩
    rw [Tables.view_changeMenuItem_other (by exact fun r => ⟨rfl, rfl⟩) hother]
  | menuItemRemoved =>
    obtain ⟨i, row, -, -, rfl⟩ := applyMenuItemRemoved_spec h
    refine ⟨rfl, fun t hother => ?_⟩
    rw [Tables.view_changeMenuItem_other (by exact fun r => ⟨rfl, rfl⟩) hother]
  | menuItemAdded =>
    obtain ⟨row, name, price, d, hadded⟩ := applyMenuItemAdded_spec h
    exact ⟨hadded.supplierSkus_eq, hadded.other⟩
  | orderRecorded =>
    have hsame := applyOrderRecorded_sameRows h
    exact ⟨hsame.supplierSkus_eq, fun t _ => hsame.view_eq t⟩
  | invoiceRecorded =>
    have hsame := applyInvoiceRecorded_sameRows h
    exact ⟨hsame.supplierSkus_eq, fun t _ => hsame.view_eq t⟩
  | staffingChange =>
    have hsame := applyStaffingChange_sameRows h
    exact ⟨hsame.supplierSkus_eq, fun t _ => hsame.view_eq t⟩
  | demandSpike =>
    obtain rfl := Except.ok.inj h
    exact ⟨rfl, fun t _ => rfl⟩

end OpsCopilot
