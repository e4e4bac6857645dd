import OpsCopilot.Lib.PyDecimalSum
import OpsCopilot.Lib.PyJsonField
import OpsCopilot.Proofs.TenantView

/-!
# Two interpreters of one event

An accepted event is interpreted twice: by the handlers, from the payload that was passed in,
and by the replay, from the payload that was stored. `Mirrored` is what the two do side by side.
-/

namespace OpsCopilot

open Python Sql Fallible

/-! ### What the replay holds -/

/-- The dishes and the stock in a state that is being rebuilt. -/
structure ReplayView where
  ingredient : String → Option IngredientState
  inventory : String → Option PyDecimal
  menuItem : String → Option MenuItemState

def ReplayState.view (s : ReplayState) : ReplayView where
  ingredient i := s.ingredients.find? (.str i)
  inventory i := s.inventory.find? (.str i)
  menuItem i := s.menuItems.find? (.str i)

/-- Nothing is kept under a key that is not a string, and no stock is minus infinity. -/
structure ReplayState.Named (s : ReplayState) : Prop where
  inventory : s.inventory.StrKeys
  menuItems : s.menuItems.StrKeys
  stocks : ∀ i level, s.inventory.find? (.str i) = some level → level ≠ .inf true

lemma find?_update_view {α : Type} (d : Mapping α) (i : String) (a : α) (f : α → α) :
    (fun j => (d.update (.str i) a f).find? (.str j)) =
      Function.update (fun j => d.find? (.str j)) i (some (f ((d.find? (.str i)).getD a))) := by
  funext j
  rw [Mapping.find?_update]
  by_cases hj : j = i
  · rw [if_pos hj, hj, Function.update_self]
  · rw [if_neg hj, Function.update_of_ne hj]

lemma find?_set_view {α : Type} (d : Mapping α) (i : String) (a : α) :
    (fun j => (d.set (.str i) a).find? (.str j)) =
      Function.update (fun j => d.find? (.str j)) i (some a) := by
  funext j
  rw [Mapping.find?_set]
  by_cases hj : j = i
  · rw [if_pos hj, hj, Function.update_self]
  · rw [if_neg hj, Function.update_of_ne hj]

/-! ### Fields -/

/-- The fields that both interpreters read. -/
def sharedFields : List String :=
  ["supplier_sku_id", "ingredient_id", "menu_item_id", "new_price", "new_supplier_id",
    "new_stock_level", "stock_delta", "quantity", "name", "current_price"]

lemma fieldName_of_shared {name : String} (h : name ∈ sharedFields) : FieldName name := by
  have hheads : ∀ name ∈ sharedFields,
      name.toList.head?.any (fun c => !c.isDigit && c != '-') = true := by decide
  have hwords : ∀ name ∈ sharedFields, name ≠ "null" ∧ name ≠ "true" ∧ name ≠ "false" := by decide
  obtain ⟨c, hc, hhead⟩ := (Option.any_eq_true _ _).mp (hheads name h)
  rw [Bool.and_eq_true, Bool.not_eq_true', bne_iff_ne] at hhead
  exact fieldName_of_head hc hhead.1 hhead.2 (hwords name h)

/-- What a payload has become in its row. -/
def StoredPayload (stored payload : Dict) : Prop :=
  ∀ name ∈ sharedFields, StoredField stored payload name

lemma get_of_find? {d : Dict} {name : String} {v : Value} (h : d.find? name = some v) :
    d.get name = v := by
  rw [Dict.get, h]
  rfl

lemma find?_of_get {d : Dict} {name : String} {v : Value} (h : d.get name = v)
    (hv : v ≠ .none) : d.find? name = some v := by
  rw [Dict.get] at h
  cases hfound : d.find? name with
  | none =>
    rw [hfound] at h
    exact absurd h.symm hv
  | some w =>
    rw [hfound] at h
    exact congrArg some h

lemma find?_of_decimal {d : Dict} {name : String} {x : PyDecimal}
    (h : (d.get name).toDecimal = some x) : d.find? name = some (d.get name) := by
  refine find?_of_get rfl (fun hnone => ?_)
  rw [hnone] at h
  exact absurd h (by simp [Value.toDecimal])

/-! ### Stock levels -/

/-- The event names the new level itself. -/
def SetsLevel (payload : Dict) (eventType : EventType) : Prop :=
  eventType = .stockout ∨
    (eventType = .restock ∨ eventType = .inventoryAdjustment) ∧
      ∃ v, payload.find? "new_stock_level" = some v

/-- The amount of a relative change. -/
def DeltaOf (payload : Dict) (δ : ℚ) : Prop :=
  δ = 0 ∨ ∃ name ∈ ["stock_delta", "quantity"], ∃ v d, payload.find? name = some v ∧
    v.toDecimal = some d ∧ (d.toRat? = some δ ∨ d.toRat? = some (-δ))

/-- The quantities that a stock event may read are finite. -/
def FiniteQuantities (payload : Dict) : Prop :=
  ∀ name ∈ ["new_stock_level", "stock_delta", "quantity"], ∀ v d, payload.find? name = some v →
    v.toDecimal = some d → ∃ q, d.toRat? = some q

/-- Every level is moved by the same amount, up to the rounding of long sums. -/
structure Shifts (f : PyDecimal → Except PyException PyDecimal) (δ : ℚ) : Prop where
  nan : f .nan = .ok .nan
  moves : ∀ l a, l.toRat? = some a → ∃ d r, f l = .ok d ∧ d.toRat? = some r ∧
    |a + δ| ≤ 2 * |r| ∧ ∀ scale, OnScale scale (a + δ) → |a + δ| * 10 ^ scale < 10 ^ 27 → r = a + δ

lemma shifts_ok : Shifts Except.ok 0 where
  nan := rfl
  moves l a ha := by
    refine ⟨l, a, rfl, ha, ?_, fun _ _ _ => (add_zero a).symm⟩
    rw [add_zero]
    linarith [abs_nonneg a]

lemma shifts_add {d : PyDecimal} {q : ℚ} (hd : d.toRat? = some q) :
    Shifts (fun l => liftStd (l.add d)) q where
  nan := rfl
  moves l a ha := by
    obtain ⟨z, r, hz, hr, hspec⟩ := PyDecimal.add_spec ha hd
    exact ⟨z, r, mapError_ok.mpr hz, hr, hspec⟩

lemma shifts_sub {d : PyDecimal} {q : ℚ} (hd : d.toRat? = some q) :
    Shifts (fun l => liftStd (l.sub d)) (-q) where
  nan := rfl
  moves l a ha := by
    obtain ⟨z, r, hz, hr, hspec⟩ := PyDecimal.sub_spec ha hd
    simp only [sub_eq_add_neg] at hspec
    exact ⟨z, r, mapError_ok.mpr hz, hr, hspec⟩

/-- A stock event that led to a level sets every level to it, or moves them all alike. -/
inductive LevelEffect (payload : Dict) (eventType : EventType) (level : PyDecimal) : Prop
  | sets (hsets : SetsLevel payload eventType)
      (h : ∀ l, replayedLevel payload eventType l = .ok level)
  | shifts (δ : ℚ) (hsets : ¬SetsLevel payload eventType) (hδ : DeltaOf payload δ)
      (h : Shifts (replayedLevel payload eventType) δ)

section Levels

variable {payload stored : Dict} {eventType : EventType} {l level : PyDecimal}

theorem replayedLevel_effect (hstock : eventType.isStock = true) (hfinite : FiniteQuantities payload)
    (h : replayedLevel payload eventType l = .ok level) : LevelEffect payload eventType level := by
  cases eventType with
  | stockout => exact .sets (.inl rfl) (fun _ => h)
  | restock =>
    cases hv : payload.find? "new_stock_level" with
    | some v =>
      refine .sets (.inr ⟨.inl rfl, v, hv⟩) (fun l' => ?_)
      rw [replayedLevel, hv] at h ⊢
      exact h
    | none =>
      have hf : replayedLevel payload .restock = Except.ok := by
        funext l'
        rw [replayedLevel, hv]
      refine .shifts 0 ?_ (.inl rfl) (hf ▸ shifts_ok)
      simp [SetsLevel, hv]
  | inventoryAdjustment =>
    cases hv : payload.find? "new_stock_level" with
    | some v =>
      refine .sets (.inr ⟨.inr rfl, v, hv⟩) (fun l' => ?_)
      rw [replayedLevel, hv] at h ⊢
      exact h
    | none =>
      have hsets : ¬SetsLevel payload .inventoryAdjustment := by simp [SetsLevel, hv]
      cases hw : payload.find? "stock_delta" with
      | none =>
        have hf : replayedLevel payload .inventoryAdjustment = Except.ok := by
          funext l'
          rw [replayedLevel, hv, hw]
        exact .shifts 0 hsets (.inl rfl) (hf ▸ shifts_ok)
      | some w =>
        rw [replayedLevel, hv, hw] at h
        obtain ⟨d, hd, -⟩ := bind_ok.mp h
        obtain ⟨q, hq⟩ := hfinite _ (by simp) w d hw (decimalField_ok hd)
        have hf : replayedLevel payload .inventoryAdjustment = fun l' => liftStd (l'.add d) := by
          funext l'
          rw [replayedLevel, hv, hw]
          dsimp only
          rw [hd]
          rfl
        exact .shifts q hsets
          (.inr ⟨_, List.mem_cons_self, w, d, hw, decimalField_ok hd, .inl hq⟩) (hf ▸ shifts_add hq)
  | wasteRecorded =>
    have hsets : ¬SetsLevel payload .wasteRecorded := by simp [SetsLevel]
    rw [replayedLevel] at h
    obtain ⟨d, hd, -⟩ := bind_ok.mp h
    obtain ⟨q, hq⟩ : ∃ q, d.toRat? = some q := by
      cases hv : payload.find? "quantity" with
      | some v =>
        rw [hv, Option.getD_some] at hd
        exact hfinite _ (by simp) v d hv (decimalField_ok hd)
      | none =>
        rw [hv] at hd
        obtain rfl := Option.some.inj (decimalField_ok hd)
        exact ⟨_, rfl⟩
    have hf : replayedLevel payload .wasteRecorded = fun l' => liftStd (l'.sub d) := by
      funext l'
      rw [replayedLevel, hd]
      rfl
    refine .shifts (-q) hsets ?_ (hf ▸ shifts_sub hq)
    cases hv : payload.find? "quantity" with
    | some v =>
      rw [hv, Option.getD_some] at hd
      exact .inr ⟨"quantity", by simp, v, d, hv, decimalField_ok hd,
        .inr (by rw [neg_neg]; exact hq)⟩
    | none =>
      rw [hv] at hd
      obtain rfl := Option.some.inj (decimalField_ok hd)
      obtain rfl := Option.some.inj hq
      exact .inl (by simp [decimalRat])
  | supplierPriceChange | supplierSwitch | demandSpike | orderRecorded | menuItemAdded
  | menuItemRemoved | menuPriceChange | staffingChange | invoiceRecorded =>
    exact absurd hstock (by simp [EventType.isStock])

/-- What is added to the number of a column without leading below zero can be added to every level
but minus infinity. -/
lemma add_of_columnDecimal {precision scale : ℕ} {x : Column precision scale} {y z : PyDecimal}
    (h : (columnDecimal x).add y = .ok z) (hz : z.isNegative = .ok false) (hl : l ≠ .inf true) :
    ∃ z', l.add y = .ok z' ∧ z' ≠ .inf true := by
  have hy : y ≠ .nan ∧ y ≠ .inf true := by
    constructor
    · rintro rfl
      cases x <;> (obtain rfl := Except.ok.inj h; cases hz)
    · rintro rfl
      cases x <;> (obtain rfl := Except.ok.inj h; cases hz)
  cases y with
  | nan => exact absurd rfl hy.1
  | inf neg =>
    cases neg with
    | true => exact absurd rfl hy.2
    | false =>
      cases l with
      | nan => exact ⟨_, rfl, by simp⟩
      | finite a c e => exact ⟨_, rfl, by simp⟩
      | inf neg =>
        cases neg with
        | true => exact absurd rfl hl
        | false => exact ⟨_, rfl, by simp⟩
  | finite b d f =>
    cases l with
    | nan => exact ⟨_, rfl, by simp⟩
    | inf neg => exact ⟨_, rfl, hl⟩
    | finite a c e =>
      refine ⟨_, rfl, ?_⟩
      unfold roundContext
      dsimp only
      split_ifs <;> simp

/-- A stock event that was accepted leads on from every level but minus infinity. -/
lemma replayedLevel_total {x : Column 12 4} (hstock : eventType.isStock = true)
    (h : replayedLevel payload eventType (columnDecimal x) = .ok level)
    (hnonneg : level.isNegative = .ok false) (hl : l ≠ .inf true) :
    ∃ level', replayedLevel payload eventType l = .ok level' ∧ level' ≠ .inf true := by
  have hlevel : level ≠ .inf true := by
    rintro rfl
    cases hnonneg
  cases eventType with
  | stockout => exact ⟨_, rfl, by simp⟩
  | restock =>
    cases hv : payload.find? "new_stock_level" with
    | some v =>
      rw [replayedLevel, hv] at h ⊢
      exact ⟨level, h, hlevel⟩
    | none =>
      rw [replayedLevel, hv]
      exact ⟨l, rfl, hl⟩
  | inventoryAdjustment =>
    cases hv : payload.find? "new_stock_level" with
    | some v =>
      rw [replayedLevel, hv] at h ⊢
      exact ⟨level, h, hlevel⟩
    | none =>
      cases hw : payload.find? "stock_delta" with
      | none =>
        rw [replayedLevel, hv, hw]
        exact ⟨l, rfl, hl⟩
      | some w =>
        rw [replayedLevel, hv, hw] at h ⊢
        obtain ⟨d, hd, hsum⟩ := bind_ok.mp h
        obtain ⟨z, hz, hne⟩ := add_of_columnDecimal (mapError_ok.mp hsum) hnonneg hl
        exact ⟨z, bind_ok.mpr ⟨d, hd, mapError_ok.mpr hz⟩, hne⟩
  | wasteRecorded =>
    rw [replayedLevel] at h ⊢
    obtain ⟨d, hd, hsum⟩ := bind_ok.mp h
    obtain ⟨z, hz, hne⟩ := add_of_columnDecimal (mapError_ok.mp hsum) hnonneg hl
    exact ⟨z, bind_ok.mpr ⟨d, hd, mapError_ok.mpr hz⟩, hne⟩
  | supplierPriceChange | supplierSwitch | demandSpike | orderRecorded | menuItemAdded
  | menuItemRemoved | menuPriceChange | staffingChange | invoiceRecorded =>
    exact absurd hstock (by simp [EventType.isStock])

/-- The stored payload leads to the same level. -/
lemma replayedLevel_stored (hfields : StoredPayload stored payload)
    (h : replayedLevel payload eventType l = .ok level) :
    replayedLevel stored eventType = replayedLevel payload eventType := by
  funext l'
  cases eventType with
  | restock =>
    have hfield := hfields "new_stock_level" (by decide)
    cases hv : payload.find? "new_stock_level" with
    | some v =>
      rw [replayedLevel, hv] at h
      rw [replayedLevel, replayedLevel, hv, hfield.number hv (decimalField_ok h)]
    | none => rw [replayedLevel, replayedLevel, hv, hfield.absent hv]
  | inventoryAdjustment =>
    have hfield := hfields "new_stock_level" (by decide)
    have hfield' := hfields "stock_delta" (by decide)
    cases hv : payload.find? "new_stock_level" with
    | some v =>
      rw [replayedLevel, hv] at h
      rw [replayedLevel, replayedLevel, hv, hfield.number hv (decimalField_ok h)]
    | none =>
      cases hw : payload.find? "stock_delta" with
      | some w =>
        rw [replayedLevel, hv, hw] at h
        obtain ⟨d, hd, -⟩ := bind_ok.mp h
        rw [replayedLevel, replayedLevel, hv, hw, hfield.absent hv,
          hfield'.number hw (decimalField_ok hd)]
      | none => rw [replayedLevel, replayedLevel, hv, hw, hfield.absent hv, hfield'.absent hw]
  | wasteRecorded =>
    have hfield := hfields "quantity" (by decide)
    rw [replayedLevel] at h
    obtain ⟨d, hd, -⟩ := bind_ok.mp h
    cases hv : payload.find? "quantity" with
    | some v =>
      rw [hv, Option.getD_some] at hd
      rw [replayedLevel, replayedLevel, hv, hfield.number hv (decimalField_ok hd)]
    | none => rw [replayedLevel, replayedLevel, hv, hfield.absent hv]
  | stockout | supplierPriceChange | supplierSwitch | demandSpike | orderRecorded | menuItemAdded
  | menuItemRemoved | menuPriceChange | staffingChange | invoiceRecorded => rfl

end Levels

/-! ### The two interpreters side by side -/

/-- The quantity that a relative change of an ingredient starts from. -/
def TenantView.quantity (p : TenantView) (i : String) (row : Ingredient) : Column 12 4 :=
  match p.inventory i with
  | some level => level.quantity
  | none => row.currentStockLevel

/-- The ingredient that a SKU stands for. -/
def Tables.ingredientOf (T : Tables) (tenantId skuId : String) : Option String :=
  (T.supplierSku? tenantId skuId).map SupplierSKU.ingredientId

/-- An accepted event: what it has done to the rebuilt state and to the rows of the tenant. -/
inductive Mirrored (O : Outside) (tenantId : String) (ingredientOf : String → Option String)
    (payload : Dict) (v v' : ReplayView) (p p' : TenantView) : EventType → Prop
  | supplierPriceChange {skuId i : String} {row : Ingredient} {price : Value} {d : PyDecimal}
      {x : Column 10 2}
      (hsku : payload.find? "supplier_sku_id" = some (.str skuId)) (hi : ingredientOf skuId = some i)
      (hrow : p.ingredient i = some row) (hprice : payload.find? "new_price" = some price)
      (hdecimal : price.toDecimal = some d) (hstored : storeNumeric 10 2 d = .ok x)
      (hv : v' = { v with
        ingredient := Function.update v.ingredient i
          (some { (v.ingredient i).getD .empty with currentPrice := some price }) })
      (hp : p' = { p with
        ingredient := Function.update p.ingredient i (some { row with currentPrice := x }) }) :
      Mirrored O tenantId ingredientOf payload v v' p p' .supplierPriceChange
  | supplierSwitch {i supplierId : String} {row : Ingredient}
      (hid : payload.find? "ingredient_id" = some (.str i))
      (hsupplier : payload.find? "new_supplier_id" = some (.str supplierId))
      (hrow : p.ingredient i = some row)
      (hv : v' = { v with
        ingredient := Function.update v.ingredient i
          (some { (v.ingredient i).getD .empty with supplierId := some (.str supplierId) }) })
      (hp : p' = { p with
        ingredient := Function.update p.ingredient i
          (some { row with currentSupplierId := some supplierId }) }) :
      Mirrored O tenantId ingredientOf payload v v' p p' .supplierSwitch
  | stock {eventType : EventType} {i : String} {row : Ingredient} {level level' : PyDecimal}
      {x : Column 12 4} {now : Timestamp} (hstock : eventType.isStock = true)
      (hid : payload.find? "ingredient_id" = some (.str i)) (hrow : p.ingredient i = some row)
      (hlevel : replayedLevel payload eventType (columnDecimal (p.quantity i row)) = .ok level)
      (hnonneg : level.isNegative = .ok false) (hstored : storeNumeric 12 4 level = .ok x)
      (hreplayed : replayedLevel payload eventType ((v.inventory i).getD (.finite false 0 0)) =
        .ok level')
      (hv : v' = { v with
        ingredient := Function.update v.ingredient i
          (some { (v.ingredient i).getD .empty with stockLevel := some (O.floatOfDecimal level') })
        inventory := Function.update v.inventory i (some level') })
      (hp : p' = { p with
        ingredient := Function.update p.ingredient i (some { row with currentStockLevel := x })
        inventory := Function.update p.inventory i (some ⟨tenantId, i, x, now⟩) }) :
      Mirrored O tenantId ingredientOf payload v v' p p' eventType
  | menuPriceChange {i : String} {row : MenuItem} {price : Value} {d : PyDecimal}
      {x : Column 10 2}
      (hid : payload.find? "menu_item_id" = some (.str i)) (hrow : p.menuItem i = some row)
      (hprice : payload.find? "new_price" = some price) (hdecimal : price.toDecimal = some d)
      (hstored : storeNumeric 10 2 d = .ok x)
      (hv : v' = { v with
        menuItem := Function.update v.menuItem i
          (some { (v.menuItem i).getD .empty with currentPrice := some price }) })
      (hp : p' = { p with
        menuItem := Function.update p.menuItem i (some { row with currentPrice := x }) }) :
      Mirrored O tenantId ingredientOf payload v v' p p' .menuPriceChange
  | menuItemRemoved {i : String} {row : MenuItem}
      (hid : payload.find? "menu_item_id" = some (.str i)) (hrow : p.menuItem i = some row)
      (hv : v' = { v with
        menuItem := Function.update v.menuItem i
          (some { (v.menuItem i).getD .empty with active := some false }) })
      (hp : p' = { p with
        menuItem := Function.update p.menuItem i (some { row with active := false }) }) :
      Mirrored O tenantId ingredientOf payload v v' p p' .menuItemRemoved
  | menuItemAdded {row : MenuItem} {name stored price : Value} {d : PyDecimal}
      (hid : payload.find? "menu_item_id" = some (.str row.id))
      (hname : payload.find? "name" = some name) (hload : loadsDumps name = .ok stored)
      (htext : row.name = pyStr O name)
      (hprice : payload.find? "current_price" = some price) (hdecimal : price.toDecimal = some d)
      (hstored : storeNumeric 10 2 d = .ok row.currentPrice)
      (hactive : activeField payload = .ok row.active)
      (hv : v' = { v with
        menuItem := Function.update v.menuItem row.id
          (some { currentPrice := some price, active := some true, name := some stored }) })
      (hp : p' = { p with menuItem := Function.update p.menuItem row.id (some row) }) :
      Mirrored O tenantId ingredientOf payload v v' p p' .menuItemAdded
  | elsewhere {eventType : EventType}
      (hother : eventType ∈ [.orderRecorded, .invoiceRecorded, .staffingChange, .demandSpike])
      (hv : v' = v) (hp : p' = p) :
      Mirrored O tenantId ingredientOf payload v v' p p' eventType

section Handlers

variable {O : Outside} {t rowId : String} {payload stored : Dict} {now : Timestamp} {T T' : Tables}
  {skus : Mapping String} {s : ReplayState}

lemma mirrored_supplierPriceChange (hfields : StoredPayload stored payload)
    (hskus : ∀ id, skus.find? (.str id) = T.ingredientOf t id)
    (h : applySupplierPriceChange ⟨t, payload, now, rowId⟩ T = .ok T') :
    ∃ s', replaySupplierPriceChange stored now skus s = .ok s' ∧ (s.Named → s'.Named) ∧
      Mirrored O t (T.ingredientOf t) payload s.view s'.view (T.view t) (T'.view t)
        .supplierPriceChange := by
  obtain ⟨skuId, d, sku, row, x, hget, hdecimal, -, hsku, hrow, hx, rfl⟩ :=
    applySupplierPriceChange_spec h
  have hid := find?_of_get hget (by simp)
  have hprice := find?_of_decimal hdecimal
  have hof : T.ingredientOf t skuId = some sku.ingredientId := by
    rw [Tables.ingredientOf, hsku]
    rfl
  refine ⟨{ s with
    supplierPrices := s.supplierPrices.set (.str skuId) ⟨stored.get "new_price", now⟩
    ingredients := s.ingredients.update (.str sku.ingredientId) .empty
      (fun r => { r with currentPrice := some (payload.get "new_price") }) }, ?_,
    fun hnamed => ⟨hnamed.inventory, hnamed.menuItems, hnamed.stocks⟩,
    .supplierPriceChange hid hof hrow hprice hdecimal hx ?_ ?_⟩
  · rw [replaySupplierPriceChange, get_of_find? ((hfields _ (by decide)).str hid)]
    dsimp only [checkHashable]
    rw [hskus skuId, hof, (hfields _ (by decide)).number hprice hdecimal]
    rfl
  · unfold ReplayState.view
    dsimp only
    rw [find?_update_view]
  · exact Tables.view_changeIngredient (by exact fun r => ⟨rfl, rfl⟩) hrow

lemma mirrored_supplierSwitch (hfields : StoredPayload stored payload)
    (h : applySupplierSwitch ⟨t, payload, now, rowId⟩ T = .ok T') :
    ∃ s', replaySupplierSwitch stored s = .ok s' ∧ (s.Named → s'.Named) ∧
      Mirrored O t (T.ingredientOf t) payload s.view s'.view (T.view t) (T'.view t)
        .supplierSwitch := by
  obtain ⟨i, supplierId, supplier, row, hget, hget', -, hrow, rfl⟩ := applySupplierSwitch_spec h
  have hid := find?_of_get hget (by simp)
  have hsupplier := find?_of_get hget' (by simp)
  refine ⟨{ s with
    ingredients := s.ingredients.update (.str i) .empty
      (fun r => { r with supplierId := some (.str supplierId) }) }, ?_,
    fun hnamed => ⟨hnamed.inventory, hnamed.menuItems, hnamed.stocks⟩, .supplierSwitch hid hsupplier hrow ?_ ?_⟩
  · rw [replaySupplierSwitch, get_of_find? ((hfields _ (by decide)).str hid)]
    dsimp only [checkHashable]
    rw [(hfields _ (by decide)).str hsupplier]
    rfl
  · unfold ReplayState.view
    dsimp only
    rw [find?_update_view]
  · exact Tables.view_changeIngredient (by exact fun r => ⟨rfl, rfl⟩) hrow

/-- The named dish is hashable, whatever is done to it. -/
lemma replayMenuItem_ok {i : String} (hid : stored.find? "menu_item_id" = some (.str i))
    (f : MenuItemState → MenuItemState) :
    replayMenuItem stored f s = .ok { s with menuItems := s.menuItems.update (.str i) .empty f } := by
  rw [replayMenuItem, get_of_find? hid]
  rfl

lemma mirrored_menuPriceChange (hfields : StoredPayload stored payload)
    (h : applyMenuPriceChange ⟨t, payload, now, rowId⟩ T = .ok T') :
    ∃ s', replayMenuPriceChange stored s = .ok s' ∧ (s.Named → s'.Named) ∧
      Mirrored O t (T.ingredientOf t) payload s.view s'.view (T.view t) (T'.view t)
        .menuPriceChange := by
  obtain ⟨i, d, row, x, hget, hdecimal, -, hrow, hx, rfl⟩ := applyMenuPriceChange_spec h
  have hid := find?_of_get hget (by simp)
  have hprice := find?_of_decimal hdecimal
  refine ⟨_, replayMenuItem_ok ((hfields _ (by decide)).str hid) _,
    fun hnamed => ⟨hnamed.inventory, hnamed.menuItems.set _ _, hnamed.stocks⟩,
    .menuPriceChange hid hrow hprice hdecimal hx ?_ ?_⟩
  · rw [(hfields _ (by decide)).number hprice hdecimal]
    unfold ReplayState.view
    dsimp only
    rw [find?_update_view]
  · exact Tables.view_changeMenuItem (by exact fun r => ⟨rfl, rfl⟩) hrow

lemma mirrored_menuItemRemoved (hfields : StoredPayload stored payload)
    (h : applyMenuItemRemoved ⟨t, payload, now, rowId⟩ T = .ok T') :
    ∃ s', replayMenuItemRemoved stored s = .ok s' ∧ (s.Named → s'.Named) ∧
      Mirrored O t (T.ingredientOf t) payload s.view s'.view (T.view t) (T'.view t)
        .menuItemRemoved := by
  obtain ⟨i, row, hget, hrow, rfl⟩ := applyMenuItemRemoved_spec h
  have hid := find?_of_get hget (by simp)
  refine ⟨_, replayMenuItem_ok ((hfields _ (by decide)).str hid) _,
    fun hnamed => ⟨hnamed.inventory, hnamed.menuItems.set _ _, hnamed.stocks⟩, .menuItemRemoved hid hrow ?_ ?_⟩
  · unfold ReplayState.view
    dsimp only
    rw [find?_update_view]
  · exact Tables.view_changeMenuItem (by exact fun r => ⟨rfl, rfl⟩) hrow

lemma mirrored_menuItemAdded (hfields : StoredPayload stored payload)
    (h : applyMenuItemAdded O ⟨t, payload, now, rowId⟩ T = .ok T') :
    ∃ s', replayMenuItemAdded stored s = .ok s' ∧ (s.Named → s'.Named) ∧
      Mirrored O t (T.ingredientOf t) payload s.view s'.view (T.view t) (T'.view t)
        .menuItemAdded := by
  obtain ⟨row, name, price, d, hadded⟩ := applyMenuItemAdded_spec h
  have hid := hadded.menu_item_id
  rcases hfields "name" (by decide) with ⟨hnone, -⟩ | ⟨_, name', hsome, hload, hname⟩
  · exact absurd (hnone.symm.trans hadded.name_eq) (by simp)
  obtain rfl := Option.some.inj (hsome.symm.trans hadded.name_eq)
  refine ⟨_, replayMenuItem_ok ((hfields _ (by decide)).str hid) _,
    fun hnamed => ⟨hnamed.inventory, hnamed.menuItems.set _ _, hnamed.stocks⟩,
    .menuItemAdded hid hadded.name_eq hload hadded.row_name hadded.current_price hadded.decimal
      hadded.stored hadded.active ?_ hadded.view_eq⟩
  rw [hname, (hfields _ (by decide)).number hadded.current_price hadded.decimal]
  unfold ReplayState.view
  dsimp only
  rw [find?_update_view]
  rfl

lemma mirrored_stock {eventType : EventType} {r : ReplayLoop} (hfields : StoredPayload stored payload)
    (hstock : eventType.isStock = true) (hnamed : r.state.Named)
    (h : applyToCurrentState O ⟨t, payload, now, rowId⟩ T eventType = .ok T') :
    ∃ r', replayStock O stored now eventType r = .ok r' ∧ r'.state.Named ∧
      Mirrored O t (T.ingredientOf t) payload r.state.view r'.state.view (T.view t) (T'.view t)
        eventType := by
  obtain ⟨i, row, level, x, happlied⟩ := applyStock_spec hstock h
  have hid := (hfields _ (by decide)).str happlied.ingredient_id
  have hquantity : currentQuantity ⟨t, payload, now, rowId⟩ T row =
      columnDecimal ((T.view t).quantity i row) := by
    rw [currentQuantity, TenantView.quantity, (Tables.ingredient?_spec happlied.row_eq).2.1]
    change (match T.inventory? t i with | some _ => _ | none => _) =
      columnDecimal (match T.inventory? t i with | some _ => _ | none => _)
    cases T.inventory? t i <;> rfl
  have hlevel := happlied.level_eq
  rw [hquantity] at hlevel
  have hbounded : (r.state.view.inventory i).getD (.finite false 0 0) ≠ .inf true := by
    cases hfound : r.state.view.inventory i with
    | none => simp
    | some l => exact hnamed.stocks i l hfound
  obtain ⟨level', hreplayed, hlevel'⟩ :=
    replayedLevel_total hstock hlevel happlied.nonneg hbounded
  refine ⟨⟨{ r.state with
    waste := if eventType = .wasteRecorded then
      r.state.waste ++ [⟨.str i, stored.get "quantity", stored.get "reason", now⟩] else r.state.waste
    inventory := r.state.inventory.set (.str i) level'
    ingredients := r.state.ingredients.update (.str i) .empty
      (fun r => { r with stockLevel := some (O.floatOfDecimal level') }) }, some level'⟩, ?_,
    ⟨hnamed.inventory.set i level', hnamed.menuItems, fun j l hl => ?_⟩,
    .stock hstock happlied.ingredient_id happlied.row_eq hlevel happlied.nonneg happlied.stored
      hreplayed ?_ happlied.set.view_eq⟩
  · rw [replayStock, replayLevel, get_of_find? hid]
    dsimp only [checkHashable]
    rw [replayedLevel_stored hfields hlevel]
    change (do
      let inventory ← replayedLevel payload eventType
        ((r.state.view.inventory i).getD (.finite false 0 0))
      _ : Except PyException ReplayLoop) >>= _ = _
    rw [hreplayed]
    rfl
  · rw [Mapping.find?_set] at hl
    split_ifs at hl
    · rw [← Option.some.inj hl]
      exact hlevel'
    · exact hnamed.stocks j l hl
  · unfold ReplayState.view
    dsimp only
    rw [find?_update_view, find?_set_view]

/-- The replay of an accepted event does not fail. -/
theorem replayEvent_mirrored {r : ReplayLoop} {row : Event} (hnamed : r.state.Named)
    (hfields : StoredPayload stored payload)
    (hpayload : row.payload = .dict stored) (hnow : row.timestamp = now)
    (hskus : ∀ id, skus.find? (.str id) = T.ingredientOf t id)
    (h : applyToCurrentState O ⟨t, payload, now, rowId⟩ T row.eventType = .ok T') :
    ∃ r', replayEvent O skus r row = .ok r' ∧ r'.state.Named ∧
      Mirrored O t (T.ingredientOf t) payload r.state.view r'.state.view (T.view t) (T'.view t)
        row.eventType := by
  rw [replayEvent, hpayload, hnow]
  dsimp only [eventPayload]
  cases htype : row.eventType with
  | stockout | restock | inventoryAdjustment | wasteRecorded =>
    rw [htype] at h
    exact mirrored_stock hfields (by rfl) hnamed h
  | supplierPriceChange =>
    rw [htype] at h
    obtain ⟨s', hs', hkept, hmirrored⟩ := mirrored_supplierPriceChange (s := r.state) hfields hskus h
    exact ⟨⟨s', r.inventory⟩, bind_ok.mpr ⟨stored, rfl, bind_ok.mpr ⟨s', hs', rfl⟩⟩, hkept hnamed, hmirrored⟩
  | supplierSwitch =>
    rw [htype] at h
    obtain ⟨s', hs', hkept, hmirrored⟩ := mirrored_supplierSwitch (s := r.state) hfields h
    exact ⟨⟨s', r.inventory⟩, bind_ok.mpr ⟨stored, rfl, bind_ok.mpr ⟨s', hs', rfl⟩⟩, hkept hnamed, hmirrored⟩
  | menuPriceChange =>
    rw [htype] at h
    obtain ⟨s', hs', hkept, hmirrored⟩ := mirrored_menuPriceChange (s := r.state) hfields h
    exact ⟨⟨s', r.inventory⟩, bind_ok.mpr ⟨stored, rfl, bind_ok.mpr ⟨s', hs', rfl⟩⟩, hkept hnamed, hmirrored⟩
  | menuItemRemoved =>
    rw [htype] at h
    obtain ⟨s', hs', hkept, hmirrored⟩ := mirrored_menuItemRemoved (s := r.state) hfields h
    exact ⟨⟨s', r.inventory⟩, bind_ok.mpr ⟨stored, rfl, bind_ok.mpr ⟨s', hs', rfl⟩⟩, hkept hnamed, hmirrored⟩
  | menuItemAdded =>
    rw [htype] at h
    obtain ⟨s', hs', hkept, hmirrored⟩ := mirrored_menuItemAdded (s := r.state) hfields h
    exact ⟨⟨s', r.inventory⟩, bind_ok.mpr ⟨stored, rfl, bind_ok.mpr ⟨s', hs', rfl⟩⟩, hkept hnamed, hmirrored⟩
  | orderRecorded =>
    rw [htype] at h
    have hsame := applyOrderRecorded_sameRows h
    exact ⟨_, rfl, ⟨hnamed.inventory, hnamed.menuItems, hnamed.stocks⟩,
      .elsewhere (by simp) rfl (hsame.view_eq t)⟩
  | invoiceRecorded =>
    rw [htype] at h
    have hsame := applyInvoiceRecorded_sameRows h
    exact ⟨_, rfl, ⟨hnamed.inventory, hnamed.menuItems, hnamed.stocks⟩,
      .elsewhere (by simp) rfl (hsame.view_eq t)⟩
  | staffingChange =>
    rw [htype] at h
    have hsame := applyStaffingChange_sameRows h
    have hview : (replayStaffingChange O stored r.state).view = r.state.view ∧
        (r.state.Named → (replayStaffingChange O stored r.state).Named) := by
      unfold replayStaffingChange
      split
      · exact ⟨rfl, id⟩
      · exact ⟨rfl, id⟩
      · exact ⟨rfl, fun hnamed => ⟨hnamed.inventory, hnamed.menuItems, hnamed.stocks⟩⟩
    exact ⟨_, rfl, hview.2 hnamed, .elsewhere (by simp) hview.1 (hsame.view_eq t)⟩
  | demandSpike =>
    rw [htype] at h
    obtain rfl := Except.ok.inj h
    exact ⟨_, rfl, ⟨hnamed.inventory, hnamed.menuItems, hnamed.stocks⟩, .elsewhere (by simp) rfl rfl⟩

end Handlers

end OpsCopilot
