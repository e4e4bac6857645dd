import OpsCopilot.Proofs.ChainOrder
import OpsCopilot.Proofs.TenantView

/-!
# Two copies of the stock

The stock of an ingredient is kept in its inventory and in the ingredient itself. The four stock
events write both with the same number, and no other event writes either.
-/

namespace OpsCopilot

open Python Sql Fallible

/-- Every inventory row of the tenant equals the stock of its ingredient. -/
structure StocksAgree (t : String) (T : Tables) : Prop where
  agrees : ∀ level ∈ T.inventoryLevels, level.tenantId = t → ∀ row ∈ T.ingredients,
    row.tenantId = t → row.id = level.ingredientId → level.quantity = row.currentStockLevel

/-- They are equal, and no stock is negative. -/
structure StockInStep (t : String) (T : Tables) : Prop extends StocksAgree t T where
  ingredients : ∀ row ∈ T.ingredients, row.tenantId = t → 0 ≤ row.currentStockLevel.toRat
  levels : ∀ level ∈ T.inventoryLevels, level.tenantId = t → 0 ≤ level.quantity.toRat

/-- The row of an ingredient. -/
def Ingredient.isRow (t i : String) (r : Ingredient) : Bool := r.id = i ∧ r.tenantId = t

/-- The inventory row of an ingredient. -/
def InventoryLevel.isRow (t i : String) (r : InventoryLevel) : Bool :=
  r.tenantId = t ∧ r.ingredientId = i

/-- The rows of all other ingredients and their inventory are the same. -/
structure OtherStockKept (t i : String) (T T' : Tables) : Prop where
  ingredients : T'.ingredients.filter (fun r => !r.isRow t i) =
    T.ingredients.filter (fun r => !r.isRow t i)
  levels : T'.inventoryLevels.filter (fun r => !r.isRow t i) =
    T.inventoryLevels.filter (fun r => !r.isRow t i)

/-! ### Rows after a change -/

section Rows

variable {T : Tables} {t i : String}

lemma filter_map_other {α : Type} (p : α → Bool) (f : α → α) (hf : ∀ r, p r → p (f r))
    (rows : List α) :
    (rows.map (fun r => if p r then f r else r)).filter (fun r => !p r) =
      rows.filter (fun r => !p r) := by
  induction rows with
  | nil => rfl
  | cons r rows ih =>
    rw [List.map_cons]
    by_cases hr : p r
    · rw [if_pos hr, List.filter_cons_of_neg (by simp [hf r hr]),
        List.filter_cons_of_neg (by simp [hr]), ih]
    · rw [if_neg hr, List.filter_cons_of_pos (by simp [hr]), List.filter_cons_of_pos (by simp [hr]),
        ih]

lemma changeIngredient_rows (f : Ingredient → Ingredient) :
    (T.changeIngredient t i f).ingredients =
      T.ingredients.map (fun r => if r.isRow t i then f r else r) := by
  simp only [Tables.changeIngredient, Ingredient.isRow, decide_eq_true_eq]

lemma setInventory_rows (x : Column 12 4) (now : Timestamp) :
    (T.setInventory t i x now).inventoryLevels =
      match T.inventory? t i with
      | none => T.inventoryLevels ++ [⟨t, i, x, now⟩]
      | some _ => T.inventoryLevels.map (fun r =>
          if r.isRow t i then { r with quantity := x, updatedAt := now } else r) := by
  unfold Tables.setInventory
  cases T.inventory? t i with
  | none => rfl
  | some _ => simp only [InventoryLevel.isRow, decide_eq_true_eq]

lemma setInventory_ingredients (x : Column 12 4) (now : Timestamp) :
    (T.setInventory t i x now).ingredients = T.ingredients := by
  unfold Tables.setInventory
  split <;> rfl

/-- A row of the inventory after a change is the changed one, or an old one of another key. -/
lemma mem_setInventory {x : Column 12 4} {now : Timestamp} {level : InventoryLevel}
    (h : level ∈ (T.setInventory t i x now).inventoryLevels) :
    level.isRow t i ∧ level.quantity = x ∨ ¬level.isRow t i ∧ level ∈ T.inventoryLevels := by
  rw [setInventory_rows] at h
  cases hfound : T.inventory? t i with
  | none =>
    rw [hfound, List.mem_append, List.mem_singleton] at h
    rcases h with h | rfl
    · have hother := List.find?_eq_none.mp hfound level h
      exact .inr ⟨hother, h⟩
    · exact .inl ⟨by simp [InventoryLevel.isRow], rfl⟩
  | some _ =>
    rw [hfound] at h
    obtain ⟨r, hr, rfl⟩ := List.mem_map.mp h
    by_cases hrow : r.isRow t i
    · rw [if_pos hrow]
      exact .inl ⟨hrow, rfl⟩
    · rw [if_neg hrow]
      exact .inr ⟨hrow, hr⟩

/-- Both copies of the stock set to `x`. -/
def Tables.stock (T : Tables) (t i : String) (x : Column 12 4) (now : Timestamp) : Tables :=
  (T.setInventory t i x now).changeIngredient t i (fun r => { r with currentStockLevel := x })

lemma mem_stock_ingredients {x : Column 12 4} {now : Timestamp} {row : Ingredient}
    (h : row ∈ (T.stock t i x now).ingredients) :
    row.isRow t i ∧ row.currentStockLevel = x ∨ ¬row.isRow t i ∧ row ∈ T.ingredients := by
  rw [Tables.stock, changeIngredient_rows, setInventory_ingredients] at h
  obtain ⟨r, hr, rfl⟩ := List.mem_map.mp h
  by_cases hrow : r.isRow t i
  · rw [if_pos hrow]
    exact .inl ⟨hrow, rfl⟩
  · rw [if_neg hrow]
    exact .inr ⟨hrow, hr⟩

lemma otherStockKept_stock (x : Column 12 4) (now : Timestamp) :
    OtherStockKept t i T (T.stock t i x now) := by
  constructor
  · rw [Tables.stock, changeIngredient_rows, setInventory_ingredients]
    exact filter_map_other (Ingredient.isRow t i) (fun r => { r with currentStockLevel := x })
      (fun _ h => h) T.ingredients
  · change List.filter _ (T.setInventory t i x now).inventoryLevels = _
    rw [setInventory_rows]
    cases T.inventory? t i with
    | none =>
      rw [List.filter_append]
      simp [InventoryLevel.isRow]
    | some _ =>
      exact filter_map_other (InventoryLevel.isRow t i)
        (fun r => { r with quantity := x, updatedAt := now }) (fun _ h => h) T.inventoryLevels

lemma stock_levels (x : Column 12 4) (now : Timestamp) :
    (T.stock t i x now).inventoryLevels = (T.setInventory t i x now).inventoryLevels := rfl

/-- Both copies set to the same content keep every tenant's copies equal. -/
lemma StocksAgree.stock {t' : String} (x : Column 12 4) (now : Timestamp) (h : StocksAgree t' T) :
    StocksAgree t' (T.stock t i x now) := by
  constructor
  intro level hlevel htenant row hrow hrowTenant hid
  rw [stock_levels] at hlevel
  have hsame : level.isRow t i ↔ row.isRow t i := by
    simp only [InventoryLevel.isRow, Ingredient.isRow, decide_eq_true_eq, htenant, hrowTenant, hid]
    exact and_comm
  rcases mem_setInventory hlevel with ⟨hl, hquantity⟩ | ⟨hl, hold⟩
  · rcases mem_stock_ingredients hrow with ⟨-, hstock⟩ | ⟨hr, -⟩
    · rw [hquantity, hstock]
    · exact absurd (hsame.mp hl) hr
  · rcases mem_stock_ingredients hrow with ⟨hr, -⟩ | ⟨-, holdRow⟩
    · exact absurd (hsame.mpr hr) hl
    · exact h.agrees level hold htenant row holdRow hrowTenant hid

/-- Setting both copies to a stock that is not negative keeps every tenant in step. -/
lemma StockInStep.stock {t' : String} {x : Column 12 4} (now : Timestamp)
    (hx : t = t' → 0 ≤ x.toRat) (h : StockInStep t' T) : StockInStep t' (T.stock t i x now) := by
  refine ⟨h.toStocksAgree.stock x now, ?_, ?_⟩
  · intro row hrow htenant
    rcases mem_stock_ingredients hrow with ⟨hr, hstock⟩ | ⟨-, hold⟩
    · simp only [Ingredient.isRow, decide_eq_true_eq] at hr
      exact hstock ▸ hx (hr.2.symm.trans htenant)
    · exact h.ingredients row hold htenant
  · intro level hlevel htenant
    rw [stock_levels] at hlevel
    rcases mem_setInventory hlevel with ⟨hl, hquantity⟩ | ⟨-, hold⟩
    · simp only [InventoryLevel.isRow, decide_eq_true_eq] at hl
      exact hquantity ▸ hx (hl.1.symm.trans htenant)
    · exact h.levels level hold htenant

end Rows

/-! ### Handlers -/

section Handlers

variable {O : Outside} {e : Projection} {T T' : Tables} {t : String} {eventType : EventType}

lemma setStock_ok {v : Value} {d : PyDecimal} (h : setStock e T v d = .ok T') :
    ∃ i x, v = .str i ∧ storeNumeric 12 4 d = .ok x ∧ T' = T.stock e.tenantId i x e.timestamp := by
  obtain ⟨T₁, hupdate, h⟩ := bind_ok.mp h
  obtain ⟨row, hrow, hupdate⟩ := bind_ok.mp hupdate
  obtain ⟨x, hx, hlevels⟩ := bind_ok.mp hupdate
  obtain ⟨row', hrow', h⟩ := bind_ok.mp h
  obtain ⟨x', hx', hrows⟩ := bind_ok.mp h
  obtain rfl := Except.ok.inj (hx.symm.trans hx')
  obtain ⟨i, rfl, hfound⟩ := getRow_ok hrow
  obtain ⟨_, hkey, hfound'⟩ := getRow_ok hrow'
  obtain rfl := Value.str.inj hkey
  obtain rfl := pure_ok.mp hlevels
  obtain rfl := pure_ok.mp hrows
  refine ⟨i, x, rfl, hx, ?_⟩
  rw [(Tables.ingredient?_spec hfound).2.1, (Tables.ingredient?_spec hfound').2.1]
  rfl

/-- The stock that the payload of an event gives, or adds. -/
def givenStock (payload : Dict) : EventType → Value
  | .restock => payload.get "new_stock_level"
  | .inventoryAdjustment => (payload.find? "new_stock_level").getD (payload.get "stock_delta")
  | _ => .none

/-- No infinite stock is given or added. -/
def FiniteStock (payload : Dict) (eventType : EventType) : Prop :=
  (givenStock payload eventType).toDecimal ≠ some (.inf false)

instance (payload : Dict) (eventType : EventType) : Decidable (FiniteStock payload eventType) :=
  inferInstanceAs (Decidable (_ ≠ _))

/-- What is stored for a finite number that is not negative is not negative. -/
lemma storeNumeric_nonneg {precision scale : ℕ} {d : PyDecimal} {x : Column precision scale}
    (hd : d.isNegative = .ok false) (hfinite : d ≠ .inf false)
    (h : storeNumeric precision scale d = .ok x) : 0 ≤ x.toRat := by
  rcases storeNumeric_ok h with ⟨q, y, hq, hstore, rfl⟩ | ⟨hnone, -⟩
  · exact Numeric.store?_nonneg (nonneg_of_isNegative hd hq) hstore
  · cases d with
    | nan => cases hd
    | inf neg =>
      obtain rfl := Except.ok.inj hd
      exact absurd rfl hfinite
    | finite neg coeff exp => cases hnone

/-- Added to the number of a column, only an infinity gives an infinity. -/
lemma columnDecimal_add_ne_inf {precision scale : ℕ} {x : Column precision scale} {d z : PyDecimal}
    (hd : d ≠ .inf false) (h : addInContext (columnDecimal x) d = .ok z) : z ≠ .inf false := by
  obtain ⟨sum, hsum, h⟩ := bind_ok.mp h
  obtain ⟨_, -, h⟩ := bind_ok.mp h
  obtain rfl := pure_ok.mp h
  have hadd := mapError_ok.mp hsum
  rintro rfl
  cases x with
  | nan => cases hadd
  | number x =>
    cases d with
    | nan => cases hadd
    | inf neg =>
      cases hadd
      exact hd rfl
    | finite neg coeff exp =>
      have hround := Except.ok.inj hadd
      dsimp only [roundContext] at hround
      split_ifs at hround

/-- The stock of its ingredient is all that a stock event writes of the two copies. -/
structure StockWritten (e : Projection) (T T' : Tables) (eventType : EventType) (i : String)
    (x : Column 12 4) : Prop where
  ingredient_id : e.payload.get "ingredient_id" = .str i
  nonneg : FiniteStock e.payload eventType → 0 ≤ x.toRat
  written : ∃ wasted, T' =
    ({ T with wasteRecords := wasted } : Tables).stock e.tenantId i x e.timestamp

lemma stockWritten_of_setStock {wasted : List WasteRecord} {v : Value} {d : PyDecimal}
    (hid : requirePayloadField e.payload "ingredient_id" = .ok v) (hd : d.isNegative = .ok false)
    (hfinite : FiniteStock e.payload eventType → d ≠ .inf false)
    (h : setStock e { T with wasteRecords := wasted } v d = .ok T') :
    ∃ i x, StockWritten e T T' eventType i x := by
  obtain ⟨i, x, rfl, hx, hT⟩ := setStock_ok h
  exact ⟨i, x, requirePayloadField_ok hid, fun hgiven => storeNumeric_nonneg hd (hfinite hgiven) hx,
    wasted, hT⟩

lemma applyStock_written (hstock : eventType.isStock = true)
    (h : applyToCurrentState O e T eventType = .ok T') :
    ∃ i x, StockWritten e T T' eventType i x := by
  cases eventType with
  | stockout =>
    obtain ⟨v, hid, h⟩ := bind_ok.mp h
    exact stockWritten_of_setStock hid rfl (by simp) h
  | restock =>
    obtain ⟨v, hid, h⟩ := bind_ok.mp h
    obtain ⟨given, hgiven, h⟩ := bind_ok.mp h
    obtain ⟨level, hlevel, h⟩ := bind_ok.mp h
    obtain ⟨_, hnegative, h⟩ := bind_ok.mp h
    refine stockWritten_of_setStock hid (refuseNegative_ok hnegative) (fun hfinite hinf => ?_) h
    rw [FiniteStock, givenStock, requirePayloadField_ok hgiven, decimalField_ok hlevel, hinf]
      at hfinite
    exact hfinite rfl
  | inventoryAdjustment =>
    obtain ⟨v, hid, h⟩ := bind_ok.mp h
    obtain ⟨row, -, h⟩ := bind_ok.mp h
    have hlast : ∃ level, (FiniteStock e.payload .inventoryAdjustment → level ≠ .inf false) ∧ (do
        refuseNegative level "Inventory quantity cannot become negative."
        setStock e T v level) = .ok T' := by
      cases hlevel : e.payload.find? "new_stock_level" with
      | some given =>
        rw [hlevel] at h
        obtain ⟨level, hgiven, h⟩ := bind_ok.mp h
        refine ⟨level, fun hfinite hinf => ?_, h⟩
        rw [FiniteStock, givenStock, hlevel, Option.getD_some, decimalField_ok hgiven, hinf]
          at hfinite
        exact hfinite rfl
      | none =>
        cases hdelta : e.payload.find? "stock_delta" with
        | some given =>
          rw [hlevel, hdelta] at h
          obtain ⟨delta, hgiven, h⟩ := bind_ok.mp h
          obtain ⟨level, hadd, h⟩ := bind_ok.mp h
          refine ⟨level, fun hfinite => ?_, h⟩
          rw [FiniteStock, givenStock, hlevel, Option.getD_none, Dict.get, hdelta,
            Option.getD_some, decimalField_ok hgiven] at hfinite
          have hsum : ∀ {x : Column 12 4}, addInContext (columnDecimal x) delta = .ok level →
              level ≠ .inf false := columnDecimal_add_ne_inf (fun hinf => hfinite (hinf ▸ rfl))
          unfold currentQuantity at hadd
          cases hinventory : T.inventory? e.tenantId row.id with
          | none =>
            rw [hinventory] at hadd
            exact hsum hadd
          | some inventory =>
            rw [hinventory] at hadd
            exact hsum hadd
        | none =>
          rw [hlevel, hdelta] at h
          exact absurd h (by simp [throw, throwThe, MonadExceptOf.throw, bind, Except.bind])
    obtain ⟨level, hfinite, h⟩ := hlast
    obtain ⟨_, hnegative, h⟩ := bind_ok.mp h
    exact stockWritten_of_setStock hid (refuseNegative_ok hnegative) hfinite h
  | wasteRecorded =>
    obtain ⟨v, hid, h⟩ := bind_ok.mp h
    obtain ⟨_, -, h⟩ := bind_ok.mp h
    obtain ⟨quantity, -, h⟩ := bind_ok.mp h
    obtain ⟨reason, -, h⟩ := bind_ok.mp h
    obtain ⟨_, hpositive, h⟩ := bind_ok.mp h
    obtain ⟨row, -, h⟩ := bind_ok.mp h
    obtain ⟨level, hsub, h⟩ := bind_ok.mp h
    obtain ⟨_, hnegative, h⟩ := bind_ok.mp h
    obtain ⟨wasted, -, h⟩ := bind_ok.mp h
    obtain ⟨_, -, h⟩ := bind_ok.mp h
    obtain ⟨text, -, h⟩ := bind_ok.mp h
    refine stockWritten_of_setStock hid (refuseNegative_ok hnegative) (fun _ => ?_) h
    have hquantity : quantity.negate ≠ .inf false := by
      intro hinf
      cases quantity with
      | nan => cases hinf
      | finite neg coeff exp => cases hinf
      | inf neg =>
        obtain ⟨nonpositive, hnonpositive, hrefused⟩ := bind_ok.mp hpositive
        obtain rfl := Except.ok.inj (mapError_ok.mp hnonpositive)
        exact raiseIf_ok.mp hrefused (by simpa [PyDecimal.negate] using hinf)
    unfold currentQuantity at hsub
    cases hinventory : T.inventory? e.tenantId row.id with
    | none =>
      rw [hinventory] at hsub
      exact columnDecimal_add_ne_inf hquantity hsub
    | some inventory =>
      rw [hinventory] at hsub
      exact columnDecimal_add_ne_inf hquantity hsub
  | supplierPriceChange | supplierSwitch | demandSpike | orderRecorded | menuItemAdded
  | menuItemRemoved | menuPriceChange | staffingChange | invoiceRecorded =>
    exact absurd hstock (by simp [EventType.isStock])

/-- The other events leave the inventory alone, and of the ingredients they change other columns. -/
structure Tables.SameStock (T T' : Tables) : Prop where
  levels : T'.inventoryLevels = T.inventoryLevels
  ingredients : ∀ row' ∈ T'.ingredients, ∃ row ∈ T.ingredients, row'.id = row.id ∧
    row'.tenantId = row.tenantId ∧ row'.currentStockLevel = row.currentStockLevel

lemma Tables.SameStock.of_eq (hlevels : T'.inventoryLevels = T.inventoryLevels)
    (hrows : T'.ingredients = T.ingredients) : T.SameStock T' :=
  ⟨hlevels, fun row hrow => ⟨row, hrows ▸ hrow, rfl, rfl, rfl⟩⟩

lemma sameStock_changeIngredient (i : String) {f : Ingredient → Ingredient}
    (hf : ∀ r, (f r).id = r.id ∧ (f r).tenantId = r.tenantId ∧
      (f r).currentStockLevel = r.currentStockLevel) : T.SameStock (T.changeIngredient t i f) := by
  refine ⟨rfl, fun row' hrow' => ?_⟩
  obtain ⟨row, hrow, rfl⟩ := List.mem_map.mp hrow'
  refine ⟨row, hrow, ?_⟩
  split_ifs
  · exact hf row
  · exact ⟨rfl, rfl, rfl⟩

lemma StocksAgree.of_sameStock (h : StocksAgree t T) (hsame : T.SameStock T') :
    StocksAgree t T' := by
  constructor
  intro level hlevel htenant row' hrow' hrowTenant hid
  rw [hsame.levels] at hlevel
  obtain ⟨row, hrow, hrowId, hrowTenant', hstock⟩ := hsame.ingredients row' hrow'
  rw [hstock]
  exact h.agrees level hlevel htenant row hrow (hrowTenant' ▸ hrowTenant) (hrowId ▸ hid)

lemma StockInStep.of_sameStock (h : StockInStep t T) (hsame : T.SameStock T') :
    StockInStep t T' := by
  refine ⟨h.toStocksAgree.of_sameStock hsame, ?_, ?_⟩
  · intro row' hrow' htenant
    obtain ⟨row, hrow, -, hrowTenant, hstock⟩ := hsame.ingredients row' hrow'
    rw [hstock]
    exact h.ingredients row hrow (hrowTenant ▸ htenant)
  · intro level hlevel
    rw [hsame.levels] at hlevel
    exact h.levels level hlevel

lemma sameStock_of_other (hstock : eventType.isStock = false)
    (h : applyToCurrentState O e T eventType = .ok T') : T.SameStock T' := by
  cases eventType with
  | stockout | restock | inventoryAdjustment | wasteRecorded =>
    exact absurd hstock (by simp [EventType.isStock])
  | supplierPriceChange =>
    obtain ⟨skuId, newPrice, sku, ingredient, price, -, -, -, -, -, -, rfl⟩ :=
      applySupplierPriceChange_spec h
    have hchange := sameStock_changeIngredient (T := T) (t := e.tenantId) sku.ingredientId
      (f := fun r => { r with currentPrice := price }) (fun _ => ⟨rfl, rfl, rfl⟩)
    exact ⟨rfl, hchange.ingredients⟩
  | supplierSwitch =>
    obtain ⟨i, supplierId, supplier, ingredient, -, -, -, -, rfl⟩ := applySupplierSwitch_spec h
    exact sameStock_changeIngredient i (by exact fun _ => ⟨rfl, rfl, rfl⟩)
  | menuPriceChange =>
    obtain ⟨i, newPrice, row, price, -, -, -, -, -, rfl⟩ := applyMenuPriceChange_spec h
    exact .of_eq rfl rfl
  | menuItemRemoved =>
    obtain ⟨i, row, -, -, rfl⟩ := applyMenuItemRemoved_spec h
    exact .of_eq rfl rfl
  | menuItemAdded =>
    obtain ⟨menuItemId, -, h⟩ := bind_ok.mp h
    obtain ⟨name, -, h⟩ := bind_ok.mp h
    obtain ⟨_, -, h⟩ := bind_ok.mp h
    obtain ⟨currentPrice, -, h⟩ := bind_ok.mp h
    obtain ⟨_, -, h⟩ := bind_ok.mp h
    obtain ⟨active, -, h⟩ := bind_ok.mp h
    obtain ⟨key, -, h⟩ := bind_ok.mp h
    obtain ⟨price, -, h⟩ := bind_ok.mp h
    obtain ⟨text, -, h⟩ := bind_ok.mp h
    cases hfound : T.menuItem? e.tenantId (key.getD "") with
    | some existing =>
      rw [hfound] at h
      obtain rfl := pure_ok.mp h
      exact .of_eq rfl rfl
    | none =>
      rw [hfound] at h
      obtain ⟨_, -, h⟩ := bind_ok.mp h
      obtain rfl := pure_ok.mp h
      exact .of_eq rfl rfl
  | orderRecorded =>
    have hsame := applyOrderRecorded_sameRows h
    exact .of_eq hsame.inventoryLevels_eq hsame.ingredients_eq
  | invoiceRecorded =>
    have hsame := applyInvoiceRecorded_sameRows h
    exact .of_eq hsame.inventoryLevels_eq hsame.ingredients_eq
  | staffingChange =>
    have hsame := applyStaffingChange_sameRows h
    exact .of_eq hsame.inventoryLevels_eq hsame.ingredients_eq
  | demandSpike =>
    obtain rfl := Except.ok.inj h
    exact .of_eq rfl rfl

end Handlers

/-! ### Runs -/

section Runs

variable {O : Outside} {t : String} {call : AppendCall} {db db' : Db} {eventType : EventType}

/-- A call of `append_event`, which may be rejected. -/
def AppendCall.attempt (O : Outside) (db : Db) (call : AppendCall) : Db :=
  match call.append O db with
  | .ok db' => db'
  | .error _ => db

/-- A call that gives the tenant no infinite stock. -/
def AppendCall.GivesFiniteStock (t : String) (call : AppendCall) : Prop :=
  call.tenantId = t →
    ∀ eventType, normalizeEventType call.eventType = .ok eventType →
      FiniteStock call.payload eventType

/-- Whatever an event writes of the stock, it writes twice. -/
lemma StocksAgree.append (hstart : StocksAgree t db.tables) (h : call.append O db = .ok db') :
    StocksAgree t db'.tables := by
  obtain ⟨eventType, -, -, happended⟩ := appendEvent_spec h
  have htables := happended.tables
  cases hstock : eventType.isStock with
  | false => exact hstart.of_sameStock (sameStock_of_other hstock htables)
  | true =>
    obtain ⟨i, x, -, -, wasted, hT⟩ := applyStock_written hstock htables
    rw [hT]
    exact StocksAgree.stock x call.draw.now ⟨hstart.agrees⟩

lemma StockInStep.append (hstart : StockInStep t db.tables) (hfinite : call.GivesFiniteStock t)
    (h : call.append O db = .ok db') : StockInStep t db'.tables := by
  obtain ⟨eventType, hmember, -, happended⟩ := appendEvent_spec h
  have htables := happended.tables
  cases hstock : eventType.isStock with
  | false => exact hstart.of_sameStock (sameStock_of_other hstock htables)
  | true =>
    obtain ⟨i, x, -, hx, wasted, hT⟩ := applyStock_written hstock htables
    rw [hT]
    exact StockInStep.stock call.draw.now (fun htenant => hx (hfinite htenant eventType hmember))
      ⟨⟨hstart.agrees⟩, hstart.ingredients, hstart.levels⟩

lemma StockInStep.attempt (hstart : StockInStep t db.tables) (hfinite : call.GivesFiniteStock t) :
    StockInStep t (call.attempt O db).tables := by
  unfold AppendCall.attempt
  cases h : call.append O db with
  | ok db' => exact hstart.append hfinite h
  | error e => exact hstart

/-- The stock event changes its own ingredient only. -/
def OwnStockOnly (O : Outside) (call : AppendCall) (db : Db) : Prop :=
  ∀ eventType db', normalizeEventType call.eventType = .ok eventType → eventType.isStock = true →
    call.append O db = .ok db' →
    ∃ i, call.payload.get "ingredient_id" = .str i ∧
      OtherStockKept call.tenantId i db.tables db'.tables

lemma ownStockOnly (O : Outside) (call : AppendCall) (db : Db) : OwnStockOnly O call db := by
  intro eventType db' hmember hstock h
  obtain ⟨eventType', hmember', -, happended⟩ := appendEvent_spec h
  obtain rfl := Except.ok.inj (hmember.symm.trans hmember')
  obtain ⟨i, x, hid, -, wasted, hT⟩ := applyStock_written hstock happended.tables
  have hkept := otherStockKept_stock (T := { db.tables with wasteRecords := wasted })
    (t := call.tenantId) (i := i) x call.draw.now
  rw [← hT] at hkept
  exact ⟨i, hid, hkept.ingredients, hkept.levels⟩

/-- Over every run of calls, accepted or rejected, that give no infinite stock, the two copies of
the stock stay equal and not negative. Each stock event of any run changes its own ingredient
only. -/
theorem stock_in_step (O : Outside) (t : String) (start : Db) (calls : List AppendCall)
    (hstart : StockInStep t start.tables) :
    ((∀ call ∈ calls, call.GivesFiniteStock t) →
      StockInStep t (calls.foldl (AppendCall.attempt O) start).tables) ∧
      ∀ before call after, calls = before ++ call :: after →
        OwnStockOnly O call (before.foldl (AppendCall.attempt O) start) := by
  refine ⟨fun hfinite => ?_, fun before call _ _ => ownStockOnly O call _⟩
  induction calls generalizing start with
  | nil => exact hstart
  | cons call calls ih =>
    have hattempt := hstart.attempt (O := O) (hfinite call List.mem_cons_self)
    exact ih (call.attempt O start) hattempt (fun c hc => hfinite c (List.mem_cons_of_mem _ hc))

end Runs

def flourTables : Tables := { Tables.empty with
  ingredients := [⟨"flour", "t", .number ⟨153, by decide⟩, none, .number ⟨62570, by decide⟩⟩]
  inventoryLevels := [⟨"t", "flour", .number ⟨62570, by decide⟩, 0⟩] }

lemma flour_start : StockInStep "t" flourTables := by
  refine ⟨⟨?_⟩, ?_, ?_⟩
  · simp [flourTables]
  · simp only [flourTables, List.mem_singleton, forall_eq, Column.toRat, Numeric.toRat]
    norm_num
  · simp only [flourTables, List.mem_singleton, forall_eq, Column.toRat, Numeric.toRat]
    norm_num

/-- Two kilograms are wasted; then a correction asks for more than is left. -/
def flourCalls : List AppendCall :=
  [⟨"t", .member .wasteRecorded, [(.str "ingredient_id", .str "flour"), (.str "quantity", .int 2),
      (.str "reason", .str "burnt")], "api", ⟨1, "e1", "r1"⟩⟩,
    ⟨"t", .member .inventoryAdjustment, [(.str "ingredient_id", .str "flour"),
      (.str "stock_delta", .int (-5))], "api", ⟨2, "e2", "r2"⟩⟩]

def flourEnd : Db :=
  flourCalls.foldl (AppendCall.attempt (.prescribed [])) { oneTenant "t" with tables := flourTables }

theorem flour_in_step : StockInStep "t" flourEnd.tables ∧ flourEnd.events.length = 1 ∧
    flourEnd.tables.ingredients.map Ingredient.currentStockLevel =
      [.number ⟨42570, by decide⟩] := by
  refine ⟨(stock_in_step _ "t" _ flourCalls flour_start).1 ?_, ?_, ?_⟩
  · intro call hcall _ eventType hmember
    simp only [flourCalls, List.mem_cons, List.not_mem_nil, or_false] at hcall
    rcases hcall with rfl | rfl
    · obtain rfl := Except.ok.inj hmember
      decide
    · obtain rfl := Except.ok.inj hmember
      decide
  · decide +kernel
  · decide +kernel

/-- A restock whose text `Decimal` reads as infinity. -/
def endlessRestock : AppendCall :=
  ⟨"t", .member .restock, [(.str "ingredient_id", .str "flour"),
    (.str "new_stock_level", .str "Infinity")], "api", ⟨1, "e1", "r1"⟩⟩

/-- The restock is accepted, and neither copy of the stock is a number then. -/
theorem endless_restock_accepted : StockInStep "t" flourTables ∧
    ∃ db', endlessRestock.append (.prescribed []) { oneTenant "t" with tables := flourTables } =
        .ok db' ∧ db'.tables.ingredients.map Ingredient.currentStockLevel = [.nan] ∧
      db'.tables.inventoryLevels.map InventoryLevel.quantity = [.nan] ∧
      ¬StockInStep "t" db'.tables := by
  refine ⟨flour_start, _, rfl, by decide +kernel, by decide +kernel, fun hstep => ?_⟩
  have hnan := hstep.ingredients ⟨"flour", "t", .number ⟨153, by decide⟩, none, .nan⟩
    (by decide +kernel) rfl
  exact absurd hnan (by norm_num [Column.toRat])

end OpsCopilot
