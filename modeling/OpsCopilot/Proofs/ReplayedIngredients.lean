import OpsCopilot.Proofs.ReplayRun

/-!
# Rebuilt ingredients

The price and the supplier of an ingredient are rebuilt from the first event that sets them. Its
stock is rebuilt from the first event that names a level; until then it lacks what the ingredient
had before the run.
-/

namespace OpsCopilot

open Python Sql Fallible

/-! ### Events of an ingredient -/

/-- The number that a payload value is read as. -/
def numberOf (v : Value) : Option ℚ := v.toDecimal.bind PyDecimal.toRat?

lemma numberOf_eq {v : Value} {d : PyDecimal} {q : ℚ} (hd : v.toDecimal = some d)
    (hq : d.toRat? = some q) : numberOf v = some q := by
  rw [numberOf, hd]
  exact hq

/-- Prices are finite and have two decimals. -/
def PricesOnScale (payload : Dict) : Prop :=
  ∀ name ∈ ["new_price", "current_price"], ∀ v d, payload.find? name = some v →
    v.toDecimal = some d → ∃ q, d.toRat? = some q ∧ OnScale 2 q

/-- Quantities are finite and have four decimals. -/
def QuantitiesOnScale (payload : Dict) : Prop :=
  ∀ name ∈ ["new_stock_level", "stock_delta", "quantity"], ∀ v d, payload.find? name = some v →
    v.toDecimal = some d → ∃ q, d.toRat? = some q ∧ OnScale 4 q

lemma QuantitiesOnScale.finite {payload : Dict} (h : QuantitiesOnScale payload) :
    FiniteQuantities payload := by
  intro name hname v d hv hd
  obtain ⟨q, hq, -⟩ := h name hname v d hv hd
  exact ⟨q, hq⟩

structure OnColumnScale (payload : Dict) : Prop where
  price : PricesOnScale payload
  quantity : QuantitiesOnScale payload

section Events

variable (ingredientOf : String → Option String) (i : String) (event : EventType × Dict)

/-- The event prices a SKU of the ingredient. -/
def PricesIngredient : Prop :=
  event.1 = .supplierPriceChange ∧ ∃ skuId, event.2.find? "supplier_sku_id" = some (.str skuId) ∧
    ingredientOf skuId = some i

def SwitchesSupplier : Prop :=
  event.1 = .supplierSwitch ∧ event.2.find? "ingredient_id" = some (.str i)

/-- The event names the new level of the ingredient. -/
def SetsStock : Prop :=
  event.2.find? "ingredient_id" = some (.str i) ∧ SetsLevel event.2 event.1

end Events

/-! ### What an event does to an ingredient -/

def ReplayView.price (v : ReplayView) (i : String) : Option Value :=
  (v.ingredient i).bind IngredientState.currentPrice

def ReplayView.supplier (v : ReplayView) (i : String) : Option Value :=
  (v.ingredient i).bind IngredientState.supplierId

def TenantView.price (p : TenantView) (i : String) : Option (Column 10 2) :=
  (p.ingredient i).map Ingredient.currentPrice

def TenantView.supplier (p : TenantView) (i : String) : Option String :=
  (p.ingredient i).bind Ingredient.currentSupplierId

/-- The stock of an ingredient: its inventory, or the older field where it has none. -/
def TenantView.stock (p : TenantView) (i : String) : ℚ :=
  match p.inventory i with
  | some level => level.quantity.toRat
  | none => ((p.ingredient i).map (fun row => row.currentStockLevel.toRat)).getD 0

section Updates

variable (f : String → Option IngredientState) (g : String → Option PyDecimal)
  (h : String → Option MenuItemState) (r : IngredientState) (rows : String → Option Ingredient)
  (levels : String → Option InventoryLevel) (items : String → Option MenuItem) (row : Ingredient)
  (i j : String)

lemma ReplayView.price_update : (ReplayView.mk (Function.update f j (some r)) g h).price i =
    if i = j then r.currentPrice else (f i).bind IngredientState.currentPrice := by
  unfold ReplayView.price
  dsimp only
  rw [Function.update_apply]
  split_ifs <;> rfl

lemma ReplayView.supplier_update : (ReplayView.mk (Function.update f j (some r)) g h).supplier i =
    if i = j then r.supplierId else (f i).bind IngredientState.supplierId := by
  unfold ReplayView.supplier
  dsimp only
  rw [Function.update_apply]
  split_ifs <;> rfl

lemma TenantView.price_update :
    (TenantView.mk (Function.update rows j (some row)) levels items).price i =
      if i = j then some row.currentPrice else (rows i).map Ingredient.currentPrice := by
  unfold TenantView.price
  dsimp only
  rw [Function.update_apply]
  split_ifs <;> rfl

lemma TenantView.supplier_update :
    (TenantView.mk (Function.update rows j (some row)) levels items).supplier i =
      if i = j then row.currentSupplierId else (rows i).bind Ingredient.currentSupplierId := by
  unfold TenantView.supplier
  dsimp only
  rw [Function.update_apply]
  split_ifs <;> rfl

lemma getD_price : ((f i).getD .empty).currentPrice = (f i).bind IngredientState.currentPrice := by
  cases f i <;> rfl

lemma getD_supplier : ((f i).getD .empty).supplierId = (f i).bind IngredientState.supplierId := by
  cases f i <;> rfl

end Updates

section Cases

variable {O : Outside} {t : String} {ingredientOf : String → Option String} {payload : Dict}
  {v v' : ReplayView} {p p' : TenantView} {eventType : EventType}

/-- A price event sets both prices from its payload; any other event leaves both alone. -/
lemma Mirrored.price_cases (h : Mirrored O t ingredientOf payload v v' p p' eventType) (i : String) :
    (¬PricesIngredient ingredientOf i (eventType, payload) ∧ v'.price i = v.price i ∧
        p'.price i = p.price i) ∨
      ∃ value d x, payload.find? "new_price" = some value ∧ value.toDecimal = some d ∧
        storeNumeric 10 2 d = .ok x ∧ v'.price i = some value ∧ p'.price i = some x := by
  cases h with
  | @supplierPriceChange skuId j row price d x hsku hj hrow hprice hdecimal hstored hv hp =>
    subst hv hp
    rw [ReplayView.price_update, TenantView.price_update]
    by_cases hij : i = j
    · rw [if_pos hij, if_pos hij]
      exact .inr ⟨price, d, x, hprice, hdecimal, hstored, rfl, rfl⟩
    · rw [if_neg hij, if_neg hij]
      refine .inl ⟨?_, rfl, rfl⟩
      rintro ⟨-, s, hs, hi⟩
      obtain rfl := Value.str.inj (Option.some.inj (hs.symm.trans hsku))
      exact hij (Option.some.inj (hi.symm.trans hj))
  | @supplierSwitch j _ row _ _ hrow hv hp =>
    subst hv hp
    rw [ReplayView.price_update, TenantView.price_update]
    refine .inl ⟨by simp [PricesIngredient], ?_, ?_⟩
    · split_ifs with hij
      · rw [hij, getD_price, ReplayView.price]
      · rfl
    · split_ifs with hij
      · rw [hij, TenantView.price, hrow]
        rfl
      · rfl
  | @stock _ j row _ _ _ _ hstock _ hrow _ _ _ _ hv hp =>
    subst hv hp
    rw [ReplayView.price_update, TenantView.price_update]
    refine .inl ⟨?_, ?_, ?_⟩
    · rintro ⟨htype, -⟩
      obtain rfl : eventType = .supplierPriceChange := htype
      exact absurd hstock (by simp [EventType.isStock])
    · split_ifs with hij
      · rw [hij, getD_price, ReplayView.price]
      · rfl
    · split_ifs with hij
      · rw [hij, TenantView.price, hrow]
        rfl
      · rfl
  | menuPriceChange _ _ _ _ _ hv hp | menuItemRemoved _ _ hv hp
  | menuItemAdded _ _ _ _ _ _ _ _ hv hp =>
    subst hv hp
    exact .inl ⟨by simp [PricesIngredient], rfl, rfl⟩
  | elsewhere hother hv hp =>
    subst hv hp
    refine .inl ⟨?_, rfl, rfl⟩
    rintro ⟨htype, -⟩
    obtain rfl : eventType = .supplierPriceChange := htype
    exact absurd hother (by simp)

/-- A switch sets both suppliers from its payload; any other event leaves both alone. -/
lemma Mirrored.supplier_cases (h : Mirrored O t ingredientOf payload v v' p p' eventType)
    (i : String) :
    (¬SwitchesSupplier i (eventType, payload) ∧ v'.supplier i = v.supplier i ∧
        p'.supplier i = p.supplier i) ∨
      ∃ s, v'.supplier i = some (.str s) ∧ p'.supplier i = some s := by
  cases h with
  | @supplierPriceChange skuId j row price d x hsku hj hrow hprice hdecimal hstored hv hp =>
    subst hv hp
    rw [ReplayView.supplier_update, TenantView.supplier_update]
    refine .inl ⟨by simp [SwitchesSupplier], ?_, ?_⟩
    · split_ifs with hij
      · rw [hij, getD_supplier, ReplayView.supplier]
      · rfl
    · split_ifs with hij
      · rw [hij, TenantView.supplier, hrow]
        rfl
      · rfl
  | @supplierSwitch j s row hid hs hrow hv hp =>
    subst hv hp
    rw [ReplayView.supplier_update, TenantView.supplier_update]
    by_cases hij : i = j
    · rw [if_pos hij, if_pos hij]
      exact .inr ⟨s, rfl, rfl⟩
    · rw [if_neg hij, if_neg hij]
      refine .inl ⟨?_, rfl, rfl⟩
      rintro ⟨-, hi⟩
      exact hij (Value.str.inj (Option.some.inj (hi.symm.trans hid)))
  | @stock _ j row _ _ _ _ hstock _ hrow _ _ _ _ hv hp =>
    subst hv hp
    rw [ReplayView.supplier_update, TenantView.supplier_update]
    refine .inl ⟨?_, ?_, ?_⟩
    · rintro ⟨htype, -⟩
      obtain rfl : eventType = .supplierSwitch := htype
      exact absurd hstock (by simp [EventType.isStock])
    · split_ifs with hij
      · rw [hij, getD_supplier, ReplayView.supplier]
      · rfl
    · split_ifs with hij
      · rw [hij, TenantView.supplier, hrow]
        rfl
      · rfl
  | menuPriceChange _ _ _ _ _ hv hp | menuItemRemoved _ _ hv hp
  | menuItemAdded _ _ _ _ _ _ _ _ hv hp =>
    subst hv hp
    exact .inl ⟨by simp [SwitchesSupplier], rfl, rfl⟩
  | elsewhere hother hv hp =>
    subst hv hp
    refine .inl ⟨?_, rfl, rfl⟩
    rintro ⟨htype, -⟩
    obtain rfl : eventType = .supplierSwitch := htype
    exact absurd hother (by simp)

/-- What a stock event of an ingredient leads to. -/
structure StockMove (payload : Dict) (eventType : EventType) (v v' : ReplayView) (p p' : TenantView)
    (i : String) (level level' : PyDecimal) (x : Column 12 4) : Prop where
  named : payload.find? "ingredient_id" = some (.str i)
  isStock : eventType.isStock = true
  projected : ∃ c : Column 12 4, c.toRat = p.stock i ∧
    replayedLevel payload eventType (columnDecimal c) = .ok level
  nonneg : level.isNegative = .ok false
  stored : storeNumeric 12 4 level = .ok x
  replayed : replayedLevel payload eventType ((v.inventory i).getD (.finite false 0 0)) = .ok level'
  inventory : v'.inventory i = some level'
  quantity : (p'.inventory i).map InventoryLevel.quantity = some x

/-- Only a stock event of an ingredient touches its stock. -/
lemma Mirrored.stock_cases (h : Mirrored O t ingredientOf payload v v' p p' eventType) (i : String) :
    (¬SetsStock i (eventType, payload) ∧ v'.inventory i = v.inventory i ∧
        p'.inventory i = p.inventory i ∧ p'.stock i = p.stock i) ∨
      ∃ level level' x, StockMove payload eventType v v' p p' i level level' x := by
  cases h with
  | @stock _ j row level level' x now hstock hid hrow hlevel hnonneg hstored hreplayed hv hp =>
    subst hv hp
    by_cases hij : i = j
    · obtain rfl := hij
      refine .inr ⟨level, level', x, hid, hstock, ⟨_, ?_, hlevel⟩, hnonneg, hstored, hreplayed,
        Function.update_self .., ?_⟩
      · rw [TenantView.quantity, TenantView.stock, hrow]
        cases p.inventory i <;> rfl
      · dsimp only
        rw [Function.update_self]
        rfl
    · refine .inl ⟨?_, Function.update_of_ne hij .., Function.update_of_ne hij .., ?_⟩
      · rintro ⟨hi, -⟩
        exact hij (Value.str.inj (Option.some.inj (hi.symm.trans hid)))
      · rw [TenantView.stock, TenantView.stock]
        dsimp only
        rw [Function.update_of_ne hij, Function.update_of_ne hij]
  | @supplierPriceChange _ j row _ _ _ _ _ hrow _ _ _ hv hp
  | @supplierSwitch j _ row _ _ hrow hv hp =>
    subst hv hp
    refine .inl ⟨by simp [SetsStock, SetsLevel], rfl, rfl, ?_⟩
    rw [TenantView.stock, TenantView.stock]
    dsimp only
    by_cases hij : i = j
    · rw [hij, Function.update_self, hrow]
      rfl
    · rw [Function.update_of_ne hij]
  | menuPriceChange _ _ _ _ _ hv hp | menuItemRemoved _ _ hv hp
  | menuItemAdded _ _ _ _ _ _ _ _ hv hp =>
    subst hv hp
    exact .inl ⟨by simp [SetsStock, SetsLevel], rfl, rfl, rfl⟩
  | elsewhere hother hv hp =>
    subst hv hp
    refine .inl ⟨?_, rfl, rfl, rfl⟩
    rintro ⟨-, rfl | ⟨rfl | rfl, -⟩⟩ <;> exact absurd hother (by simp)

end Cases

/-! ### What is rebuilt of an ingredient -/

/-- The rebuilt stock of an ingredient against its inventory: once an event has named its level
they are the same, and until then the rebuilt stock lacks what the ingredient started with. -/
structure StockRebuilt (initial : ℚ) (i : String) (past : List (EventType × Dict)) (v : ReplayView)
    (p : TenantView) : Prop where
  untouched : v.inventory i = none → p.stock i = initial ∧ ∀ event ∈ past, ¬SetsStock i event
  rebuilt : ∀ d, v.inventory i = some d → ∃ level x lacking, p.inventory i = some level ∧
    level.quantity = .number x ∧ 0 ≤ x.toRat ∧ d.toRat? = some (x.toRat - lacking) ∧
    ((∃ event ∈ past, SetsStock i event) ∧ lacking = 0 ∨
      (∀ event ∈ past, ¬SetsStock i event) ∧ lacking = initial)

structure IngredientRebuilt (ingredientOf : String → Option String) (initial : ℚ) (i : String)
    (past : List (EventType × Dict)) (v : ReplayView) (p : TenantView) : Prop where
  price : (∃ event ∈ past, PricesIngredient ingredientOf i event) → ∃ value x,
    v.price i = some value ∧ p.price i = some (.number x) ∧ numberOf value = some x.toRat
  supplier : (∃ event ∈ past, SwitchesSupplier i event) → ∃ s,
    v.supplier i = some (.str s) ∧ p.supplier i = some s
  stock : StockRebuilt initial i past v p

section Numbers

variable {payload : Dict} {eventType : EventType} {l level : PyDecimal} {q δ : ℚ}

lemma SetsLevel.onScale (hsets : SetsLevel payload eventType) (hscale : QuantitiesOnScale payload)
    (h : replayedLevel payload eventType l = .ok level) :
    ∃ q, level.toRat? = some q ∧ OnScale 4 q := by
  rcases hsets with rfl | ⟨htype, v, hv⟩
  · obtain rfl := Except.ok.inj h
    exact ⟨_, rfl, 0, by simp [decimalRat]⟩
  · have hlevel : decimalField v "new_stock_level" = .ok level := by
      rcases htype with rfl | rfl
      · rw [replayedLevel, hv] at h
        exact h
      · rw [replayedLevel, hv] at h
        exact h
    exact hscale _ (by simp) v level hv (decimalField_ok hlevel)

/-- The number of a field that is on the scale. -/
lemma onScale_of_toRat? {scale : ℕ} (h : ∃ r, level.toRat? = some r ∧ OnScale scale r)
    (hq : level.toRat? = some q) : OnScale scale q := by
  obtain ⟨r, hr, hscale⟩ := h
  obtain rfl := Option.some.inj (hq.symm.trans hr)
  exact hscale

lemma DeltaOf.onScale (hδ : DeltaOf payload δ) (hscale : QuantitiesOnScale payload) :
    OnScale 4 δ := by
  rcases hδ with rfl | ⟨name, hname, v, d, hv, hd, hq | hq⟩
  · exact ⟨0, by simp⟩
  · exact onScale_of_toRat? (hscale name (by simp_all) v d hv hd) hq
  · rw [← neg_neg δ]
    exact (onScale_of_toRat? (hscale name (by simp_all) v d hv hd) hq).neg

lemma toRat_column (x : Column 12 4) : ∃ y : Numeric 12 4, x.toRat = y.toRat := by
  cases x with
  | number y => exact ⟨y, rfl⟩
  | nan => exact ⟨⟨-10000, by norm_num⟩, by norm_num [Column.toRat, Numeric.toRat]⟩

lemma TenantView.stock_numeric (p : TenantView) (i : String) :
    ∃ x : Numeric 12 4, p.stock i = x.toRat := by
  unfold TenantView.stock
  cases p.inventory i with
  | some level => exact toRat_column level.quantity
  | none =>
    cases p.ingredient i with
    | some row => exact toRat_column row.currentStockLevel
    | none => exact ⟨⟨0, by norm_num⟩, by simp [Numeric.toRat]⟩

/-- From NaN no change leads on. -/
lemma Shifts.number {f : PyDecimal → Except PyException PyDecimal} (hf : Shifts f δ)
    {c : Column 12 4} (h : f (columnDecimal c) = .ok level) (hlevel : level.isNegative = .ok false) :
    ∃ x, c = .number x := by
  cases c with
  | number x => exact ⟨x, rfl⟩
  | nan =>
    obtain rfl := Except.ok.inj (hf.nan.symm.trans h)
    cases hlevel

lemma Shifts.exact {f : PyDecimal → Except PyException PyDecimal} (hf : Shifts f δ) {a : ℚ}
    (hl : l.toRat? = some a) (hscale : OnScale 4 (a + δ)) (hsmall : |a + δ| * 10 ^ 4 < 10 ^ 27)
    (h : f l = .ok level) : level.toRat? = some (a + δ) := by
  obtain ⟨d, r, hd, hr, -, hexact⟩ := hf.moves l a hl
  obtain rfl := Except.ok.inj (h.symm.trans hd)
  rw [hr, hexact 4 hscale hsmall]

/-- The exact result of a change is at most twice what is returned for it. -/
lemma Shifts.bound {f : PyDecimal → Except PyException PyDecimal} (hf : Shifts f δ) {a : ℚ}
    (hl : l.toRat? = some a) (h : f l = .ok level) (hq : level.toRat? = some q) :
    |a + δ| ≤ 2 * |q| := by
  obtain ⟨d, r, hd, hr, hnear, -⟩ := hf.moves l a hl
  obtain rfl := Except.ok.inj (h.symm.trans hd)
  obtain rfl := Option.some.inj (hq.symm.trans hr)
  exact hnear

end Numbers

/-! ### One event -/

section Step

variable {O : Outside} {t i : String} {ingredientOf : String → Option String} {payload : Dict}
  {v v' : ReplayView} {p p' : TenantView} {eventType : EventType} {initial : ℚ}
  {past : List (EventType × Dict)}

lemma history_concat (past : List (EventType × Dict)) {P : EventType × Dict → Prop}
    {event : EventType × Dict} (hother : ¬P event) :
    ((∃ e ∈ past ++ [event], P e) ↔ ∃ e ∈ past, P e) ∧
      ((∀ e ∈ past ++ [event], ¬P e) ↔ ∀ e ∈ past, ¬P e) := by
  have hexists : (∃ e ∈ past ++ [event], P e) ↔ ∃ e ∈ past, P e := by
    constructor
    · rintro ⟨e, he, hPe⟩
      rcases List.mem_append.mp he with he | he
      · exact ⟨e, he, hPe⟩
      · rw [List.mem_singleton.mp he] at hPe
        exact absurd hPe hother
    · rintro ⟨e, he, hPe⟩
      exact ⟨e, List.mem_append_left _ he, hPe⟩
  refine ⟨hexists, ?_⟩
  have hnot := not_congr hexists
  push Not at hnot
  exact hnot

/-- What the rebuilt stock is short of before a stock event. -/
lemma StockRebuilt.lacking (h : StockRebuilt initial i past v p) : ∃ lacking,
    ((v.inventory i).getD (.finite false 0 0)).toRat? = some (p.stock i - lacking) ∧
      ((∃ event ∈ past, SetsStock i event) ∧ lacking = 0 ∨
        (∀ event ∈ past, ¬SetsStock i event) ∧ lacking = initial) := by
  cases hv : v.inventory i with
  | none =>
    obtain ⟨hstock, hnone⟩ := h.untouched hv
    refine ⟨initial, ?_, .inr ⟨hnone, rfl⟩⟩
    rw [hstock, sub_self]
    simp [PyDecimal.toRat?, decimalRat]
  | some d =>
    obtain ⟨level, x, lacking, hlevel, hx, -, hd, hlacking⟩ := h.rebuilt d hv
    refine ⟨lacking, ?_, hlacking⟩
    rw [TenantView.stock, hlevel]
    dsimp only
    rw [hx]
    exact hd

lemma StockRebuilt.step (h : StockRebuilt initial i past v p)
    (hinitial : ∃ x : Numeric 12 4, initial = x.toRat) (hscale : QuantitiesOnScale payload)
    (hmirrored : Mirrored O t ingredientOf payload v v' p p' eventType) :
    StockRebuilt initial i (past ++ [(eventType, payload)]) v' p' := by
  rcases hmirrored.stock_cases i with ⟨hother, hv, hp, hstock⟩ | ⟨level, level', x, hmove⟩
  · obtain ⟨hset, hnone⟩ := history_concat past (P := SetsStock i) hother
    refine ⟨?_, ?_⟩
    · intro hempty
      rw [hstock, hnone]
      exact h.untouched (hv ▸ hempty)
    · intro d hd
      rw [hp, hset, hnone]
      exact h.rebuilt d (hv ▸ hd)
  · obtain ⟨c, hc, hprojected⟩ := hmove.projected
    obtain ⟨row, hrow, rfl⟩ := Option.map_eq_some_iff.mp hmove.quantity
    refine ⟨fun hempty => absurd (hempty.symm.trans hmove.inventory) (by simp), fun d hd => ?_⟩
    obtain rfl := Option.some.inj (hmove.inventory.symm.trans hd)
    cases replayedLevel_effect hmove.isStock hscale.finite hprojected with
    | sets hsets hall =>
      obtain ⟨q, hq, hqscale⟩ := hsets.onScale hscale hprojected
      obtain ⟨x, hstore, hx⟩ := storeNumeric_finite hq hmove.stored
      have hexact := Numeric.store?_exact hqscale hstore
      obtain rfl := Except.ok.inj (hmove.replayed.symm.trans (hall _))
      have hevent : SetsStock i (eventType, payload) := ⟨hmove.named, hsets⟩
      refine ⟨row, x, 0, hrow, hx, hexact ▸ nonneg_of_isNegative hmove.nonneg hq, ?_,
        .inl ⟨⟨_, List.mem_concat_self, hevent⟩, rfl⟩⟩
      rw [hq, hexact, sub_zero]
    | shifts δ hsets hδ hshifts =>
      obtain ⟨stock, rfl⟩ := hshifts.number hprojected hmove.nonneg
      have ha : (columnDecimal (.number stock)).toRat? = some (p.stock i) :=
        (numericDecimal_toRat? stock).trans (congrArg some hc)
      obtain ⟨level₁, q, hlevel₁, hq, -, -⟩ := hshifts.moves _ _ ha
      obtain rfl := Except.ok.inj (hprojected.symm.trans hlevel₁)
      obtain ⟨x, hstore, hx⟩ := storeNumeric_finite hq hmove.stored
      have hbound := Numeric.store?_bound hstore
      obtain ⟨lacking, hlevel, hlacking⟩ := h.lacking
      obtain ⟨y, hy⟩ := p.stock_numeric i
      have hother : ¬SetsStock i (eventType, payload) := fun hset => hsets hset.2
      obtain ⟨hset, hnone⟩ := history_concat past (P := SetsStock i) hother
      have hscaleδ := hδ.onScale hscale
      obtain ⟨z, hz⟩ : ∃ z : Numeric 12 4, lacking = z.toRat := by
        rcases hlacking with ⟨-, rfl⟩ | ⟨-, rfl⟩
        · exact ⟨⟨0, by norm_num⟩, by simp [Numeric.toRat]⟩
        · exact hinitial
      have hsum : |p.stock i + δ| * 10 ^ 4 < 3 * 10 ^ 12 := by
        have hnear := hshifts.bound ha hprojected hq
        linarith
      have hshort : |p.stock i - lacking + δ| * 10 ^ 4 < 10 ^ 27 := by
        have htriangle := abs_sub (p.stock i + δ) lacking
        have hsmall := z.abs_toRat_lt
        rw [← hz] at hsmall
        rw [show p.stock i - lacking + δ = p.stock i + δ - lacking by ring]
        linarith
      have hscaleS : OnScale 4 (p.stock i) := hy ▸ y.onScale
      have hscaleL : OnScale 4 lacking := hz ▸ z.onScale
      have hqδ : q = p.stock i + δ := by
        have hexact := hshifts.exact ha (hscaleS.add hscaleδ) (by linarith) hprojected
        exact Option.some.inj (hq.symm.trans hexact)
      have hexact := Numeric.store?_exact (hqδ ▸ hscaleS.add hscaleδ) hstore
      have hreplayed := hshifts.exact hlevel ((hscaleS.sub hscaleL).add hscaleδ) hshort hmove.replayed
      rw [hset, hnone]
      refine ⟨row, x, lacking, hrow, hx, hexact ▸ nonneg_of_isNegative hmove.nonneg hq, ?_, hlacking⟩
      rw [hreplayed, hexact, hqδ]
      congr 1
      ring

lemma IngredientRebuilt.step (h : IngredientRebuilt ingredientOf initial i past v p)
    (hinitial : ∃ x : Numeric 12 4, initial = x.toRat) (hscale : OnColumnScale payload)
    (hmirrored : Mirrored O t ingredientOf payload v v' p p' eventType) :
    IngredientRebuilt ingredientOf initial i (past ++ [(eventType, payload)]) v' p' := by
  refine ⟨?_, ?_, h.stock.step hinitial hscale.quantity hmirrored⟩
  · rcases hmirrored.price_cases i with
      ⟨hother, hv, hp⟩ | ⟨value, d, x, hvalue, hd, hstored, hv, hp⟩
    · intro hprices
      rw [hv, hp]
      exact h.price ((history_concat past hother).1.mp hprices)
    · intro _
      obtain ⟨q, hq, hqscale⟩ := hscale.price _ (by simp) value d hvalue hd
      obtain ⟨y, hstore, rfl⟩ := storeNumeric_finite hq hstored
      refine ⟨value, y, hv, hp, ?_⟩
      rw [numberOf_eq hd hq, Numeric.store?_exact hqscale hstore]
  · rcases hmirrored.supplier_cases i with ⟨hother, hv, hp⟩ | ⟨s, hv, hp⟩
    · intro hswitches
      rw [hv, hp]
      exact h.supplier ((history_concat past hother).1.mp hswitches)
    · intro _
      exact ⟨s, hv, hp⟩

end Step

/-! ### Whole runs -/

section Runs

variable {O : Outside} {t : String} {calls : List AppendCall} {start final : Db}

lemma stockRebuilt_empty (p : TenantView) (i : String) :
    StockRebuilt (p.stock i) i [] .empty p := by
  refine ⟨fun _ => ⟨rfl, by simp⟩, fun d hd => ?_⟩
  exact absurd hd (by simp [ReplayView.empty])

lemma ingredientRebuilt_empty {ingredientOf : String → Option String} {p : TenantView} (i : String) :
    IngredientRebuilt ingredientOf (p.stock i) i [] .empty p :=
  ⟨by simp, by simp, stockRebuilt_empty p i⟩

lemma AppendRun.ingredients (h : AppendRun O t calls start final) (target : Timestamp)
    (hscale : ∀ event ∈ tenantHistory t (callsUpTo t target calls), OnColumnScale event.2) :
    ∃ db rebuilt, appendAll O (callsUpTo t target calls) start = .ok db ∧
      reconstructStateAt O t target final = .ok rebuilt ∧ rebuilt.state.Named ∧
      ∀ i, IngredientRebuilt (start.tables.ingredientOf t) ((start.tables.view t).stock i) i
        (tenantHistory t (callsUpTo t target calls)) rebuilt.state.view (db.tables.view t) := by
  obtain ⟨after, db, hsplit⟩ := h.split target
  have hkept : KeptByMirrored O t (start.tables.ingredientOf t)
      (fun past v p => ∀ i, IngredientRebuilt (start.tables.ingredientOf t)
        ((start.tables.view t).stock i) i past v p) (fun event => OnColumnScale event.2) := by
    intro past eventType payload v v' p p' hallowed hinv hmirrored i
    exact (hinv i).step ((start.tables.view t).stock_numeric i) hallowed hmirrored
  obtain ⟨rebuilt, hrebuilt, hnamed, hinv⟩ :=
    hsplit.reconstruct hkept (fun i => ingredientRebuilt_empty i) hscale
  exact ⟨db, rebuilt, hsplit.run, hrebuilt, hnamed, hinv⟩

/-- At every moment the replay gives the price, the supplier and the stock that the projections
held after the last event up to that moment, as soon as an event has set them. -/
theorem replayed_ingredients (h : AppendRun O t calls start final) (target : Timestamp)
    (hscale : ∀ event ∈ tenantHistory t (callsUpTo t target calls), OnColumnScale event.2) :
    ∃ db rebuilt, appendAll O (callsUpTo t target calls) start = .ok db ∧
      reconstructStateAt O t target final = .ok rebuilt ∧ ∀ i,
        ((∃ event ∈ tenantHistory t (callsUpTo t target calls),
            PricesIngredient (start.tables.ingredientOf t) i event) →
          ∃ value row x, rebuilt.state.view.price i = some value ∧
            db.tables.ingredient? t i = some row ∧ row.currentPrice = .number x ∧
            numberOf value = some x.toRat) ∧
        ((∃ event ∈ tenantHistory t (callsUpTo t target calls), SwitchesSupplier i event) →
          ∃ s row, rebuilt.state.view.supplier i = some (.str s) ∧
            db.tables.ingredient? t i = some row ∧ row.currentSupplierId = some s) ∧
        ((∃ event ∈ tenantHistory t (callsUpTo t target calls), SetsStock i event) →
          ∃ d level x, rebuilt.state.view.inventory i = some d ∧
            db.tables.inventory? t i = some level ∧ level.quantity = .number x ∧
            d.toRat? = some x.toRat) := by
  obtain ⟨db, rebuilt, hrun, hrebuilt, -, hinv⟩ := h.ingredients target hscale
  refine ⟨db, rebuilt, hrun, hrebuilt, fun i => ⟨?_, ?_, ?_⟩⟩
  · intro hprices
    obtain ⟨value, x, hv, hp, hnumber⟩ := (hinv i).price hprices
    obtain ⟨row, hrow, hx⟩ := Option.map_eq_some_iff.mp hp
    exact ⟨value, row, x, hv, hrow, hx, hnumber⟩
  · intro hswitches
    obtain ⟨s, hv, hp⟩ := (hinv i).supplier hswitches
    obtain ⟨row, hrow, hs⟩ := Option.bind_eq_some_iff.mp hp
    exact ⟨s, row, hv, hrow, hs⟩
  · intro hsets
    cases hfound : rebuilt.state.view.inventory i with
    | none =>
      obtain ⟨event, hevent, hset⟩ := hsets
      exact absurd hset (((hinv i).stock.untouched hfound).2 event hevent)
    | some d =>
      obtain ⟨level, x, lacking, hlevel, hx, -, hd, hlacking⟩ := (hinv i).stock.rebuilt d hfound
      rcases hlacking with ⟨-, rfl⟩ | ⟨hnone, -⟩
      · rw [sub_zero] at hd
        exact ⟨d, level, x, rfl, hlevel, hx, hd⟩
      · obtain ⟨event, hevent, hset⟩ := hsets
        exact absurd hset (hnone event hevent)

/-- The stock alone is rebuilt whatever the prices are. -/
lemma AppendRun.stocks (h : AppendRun O t calls start final) (target : Timestamp)
    (hscale : ∀ event ∈ tenantHistory t (callsUpTo t target calls), QuantitiesOnScale event.2) :
    ∃ db : Db, ∃ rebuilt, reconstructStateAt O t target final = .ok rebuilt ∧ rebuilt.state.Named ∧
      ∀ i, StockRebuilt ((start.tables.view t).stock i) i
        (tenantHistory t (callsUpTo t target calls)) rebuilt.state.view (db.tables.view t) := by
  obtain ⟨after, db, hsplit⟩ := h.split target
  have hkept : KeptByMirrored O t (start.tables.ingredientOf t)
      (fun past v p => ∀ i, StockRebuilt ((start.tables.view t).stock i) i past v p)
      (fun event => QuantitiesOnScale event.2) := by
    intro past eventType payload v v' p p' hallowed hinv hmirrored i
    exact (hinv i).step ((start.tables.view t).stock_numeric i) hallowed hmirrored
  obtain ⟨rebuilt, hrebuilt, hnamed, hinv⟩ :=
    hsplit.reconstruct hkept (stockRebuilt_empty (start.tables.view t)) hscale
  exact ⟨db, rebuilt, hrebuilt, hnamed, hinv⟩

/-- The rebuilt stock is never short of more than the ingredient started with, and of nothing once
an event has named its level. -/
theorem replayed_inventory (h : AppendRun O t calls start final) (target : Timestamp)
    (hscale : ∀ event ∈ tenantHistory t (callsUpTo t target calls), QuantitiesOnScale event.2)
    (hstock : ∀ i, 0 ≤ (start.tables.view t).stock i) :
    ∃ rebuilt, reconstructStateAt O t target final = .ok rebuilt ∧
      ∀ key d, rebuilt.state.inventory.find? key = some d → ∃ i q, key = .str i ∧
        d.toRat? = some q ∧ 0 ≤ q + (start.tables.view t).stock i ∧
        ((∃ event ∈ tenantHistory t (callsUpTo t target calls), SetsStock i event) → 0 ≤ q) := by
  obtain ⟨db, rebuilt, hrebuilt, hnamed, hinv⟩ := h.stocks target hscale
  refine ⟨rebuilt, hrebuilt, fun key d hd => ?_⟩
  obtain ⟨i, rfl⟩ := hnamed.inventory.find? hd
  obtain ⟨level, x, lacking, -, -, hnonneg, hrat, hlacking⟩ := (hinv i).rebuilt d hd
  refine ⟨i, _, rfl, hrat, ?_, ?_⟩
  · rcases hlacking with ⟨-, rfl⟩ | ⟨-, rfl⟩
    · linarith [hstock i]
    · linarith
  · rintro ⟨event, hevent, hset⟩
    rcases hlacking with ⟨-, rfl⟩ | ⟨hnone, -⟩
    · linarith
    · exact absurd hset (hnone event hevent)

end Runs

/-! ### Concrete runs -/

/-- A tenant with ten units of one ingredient, as it is seeded. -/
def pantry : Db where
  tenants := ["t"]
  tables := { Tables.empty with
    suppliers := [⟨"farm", "t"⟩, ⟨"mill", "t"⟩]
    ingredients := [⟨"leek", "t", .number ⟨150, by decide⟩, some "farm", .number ⟨100000, by decide⟩⟩]
    supplierSkus := [⟨"sku", "t", "farm", "leek", "LEEK-001"⟩]
    inventoryLevels := [⟨"t", "leek", .number ⟨100000, by decide⟩, 0⟩] }
  events := []
  decisions := []
  toolExecutionLog := []
  approvalRequests := []

def pantryCall (eventType : EventType) (payload : Dict) (now : Timestamp) (id : String) :
    AppendCall :=
  ⟨"t", .member eventType, payload, "manual", ⟨now, id, id⟩⟩

/-- `coeff * 10 ^ exp` as a float. -/
def floatValue (coeff : ℕ) (exp : ℤ) : Value := .float (.finite (.ofDigits false coeff exp))

def wasteCall (coeff : ℕ) (exp : ℤ) (now : Timestamp) (id : String) : AppendCall :=
  pantryCall .wasteRecorded [(.str "ingredient_id", .str "leek"),
    (.str "quantity", floatValue coeff exp), (.str "reason", .str "spoiled")] now id

def restockCall (coeff : ℕ) (exp : ℤ) (now : Timestamp) (id : String) : AppendCall :=
  pantryCall .restock [(.str "ingredient_id", .str "leek"),
    (.str "new_stock_level", floatValue coeff exp)] now id

/-- The leek is priced, bought elsewhere, restocked and partly wasted, and wasted again later. -/
def pantryCalls : List AppendCall :=
  [pantryCall .supplierPriceChange
      [(.str "supplier_sku_id", .str "sku"), (.str "new_price", floatValue 25 (-1))] 1 "e1",
    pantryCall .supplierSwitch
      [(.str "ingredient_id", .str "leek"), (.str "new_supplier_id", .str "mill")] 2 "e2",
    restockCall 12 0 3 "e3", wasteCall 5 0 4 "e4", wasteCall 1 0 6 "e5"]

lemma exists_ok_of_isOk {ε α : Type} {r : Except ε α} (h : r.isOk = true) : ∃ a, r = .ok a := by
  cases r with
  | error e => exact absurd h (by simp [Except.isOk, Except.toBool])
  | ok a => exact ⟨a, rfl⟩

lemma onScale_of_den {scale : ℕ} {q : ℚ} (h : (q * 10 ^ scale).den = 1) : OnScale scale q := by
  refine ⟨(q * 10 ^ scale).num, ?_⟩
  rw [eq_div_iff (by positivity)]
  exact (Rat.den_eq_one_iff _).mp h |>.symm

/-- Whether the number in a field, if there is one, is finite and has no more decimals than the
scale. -/
def fieldOnScale (payload : Dict) (scale : ℕ) (name : String) : Bool :=
  ((payload.find? name).bind Value.toDecimal).all (fun d =>
    d.toRat?.any (fun q => (q * 10 ^ scale).den = 1))

lemma onScale_of_field {payload : Dict} {scale : ℕ} {name : String} {v : Value} {d : PyDecimal}
    (hfield : fieldOnScale payload scale name = true) (hv : payload.find? name = some v)
    (hd : v.toDecimal = some d) : ∃ q, d.toRat? = some q ∧ OnScale scale q := by
  rw [fieldOnScale, hv, Option.bind_some, hd] at hfield
  obtain ⟨q, hq, hden⟩ := (Option.any_eq_true _ _).mp hfield
  exact ⟨q, hq, onScale_of_den (of_decide_eq_true hden)⟩

lemma pricesOnScale_of_fields {payload : Dict}
    (h : ["new_price", "current_price"].all (fieldOnScale payload 2) = true) :
    PricesOnScale payload := by
  intro name hname v d hv hd
  exact onScale_of_field (List.all_eq_true.mp h name hname) hv hd

lemma onColumnScale_of_fields {payload : Dict}
    (hprice : ["new_price", "current_price"].all (fieldOnScale payload 2) = true)
    (hquantity : ["new_stock_level", "stock_delta", "quantity"].all (fieldOnScale payload 4) = true) :
    OnColumnScale payload := by
  refine ⟨pricesOnScale_of_fields hprice, fun name hname v d hv hd => ?_⟩
  exact onScale_of_field (List.all_eq_true.mp hquantity name hname) hv hd

lemma exists_call_of_event {t : String} {calls : List AppendCall} {event : EventType × Dict}
    (h : event ∈ tenantHistory t calls) : ∃ call ∈ calls, event.2 = call.payload := by
  obtain ⟨call, hcall, hevent⟩ := List.mem_filterMap.mp h
  refine ⟨call, hcall, ?_⟩
  split_ifs at hevent
  obtain ⟨member, -, rfl⟩ := Option.map_eq_some_iff.mp hevent
  rfl

lemma pantry_stock (i : String) : 0 ≤ (pantry.tables.view "t").stock i := by
  have hlevels : ∀ r ∈ pantry.tables.inventoryLevels, 0 ≤ r.quantity.toRat := by decide +kernel
  have hrows : ∀ r ∈ pantry.tables.ingredients, 0 ≤ r.currentStockLevel.toRat := by decide +kernel
  unfold TenantView.stock
  cases hlevel : (pantry.tables.view "t").inventory i with
  | some level => exact hlevels level (Tables.inventory?_spec hlevel).1
  | none =>
    cases hrow : (pantry.tables.view "t").ingredient i with
    | some row => exact hrows row (Tables.ingredient?_spec hrow).1
    | none => exact le_rfl

lemma pantry_run {final : Db} (h : appendAll (.prescribed []) pantryCalls pantry = .ok final) :
    AppendRun (.prescribed []) "t" pantryCalls pantry final where
  fresh := rfl
  skus := List.nodup_singleton _
  dicts := by
    simp [pantryCalls, pantryCall, restockCall, wasteCall, Value.DistinctKeys, MembersDistinctKeys,
      Key.Same, Key.isNumber, floatValue]
  run := h
  ordered := by decide

lemma pantry_scale : ∀ event ∈ tenantHistory "t" (callsUpTo "t" 5 pantryCalls),
    OnColumnScale event.2 := by
  have hcalls : ∀ call ∈ pantryCalls,
      ["new_price", "current_price"].all (fieldOnScale call.payload 2) = true ∧
        ["new_stock_level", "stock_delta", "quantity"].all (fieldOnScale call.payload 4) = true := by
    decide +kernel
  intro event hevent
  obtain ⟨call, hcall, hpayload⟩ := exists_call_of_event hevent
  have hfields := hcalls call (List.takeWhile_subset _ hcall)
  rw [hpayload]
  exact onColumnScale_of_fields hfields.1 hfields.2

theorem pantry_replayed_ingredients : ∃ final db rebuilt,
    appendAll (.prescribed []) pantryCalls pantry = .ok final ∧
    appendAll (.prescribed []) (callsUpTo "t" 5 pantryCalls) pantry = .ok db ∧
    reconstructStateAt (.prescribed []) "t" 5 final = .ok rebuilt ∧
    (∃ value row x, rebuilt.state.view.price "leek" = some value ∧
      db.tables.ingredient? "t" "leek" = some row ∧ row.currentPrice = .number x ∧
      numberOf value = some x.toRat) ∧
    (∃ s row, rebuilt.state.view.supplier "leek" = some (.str s) ∧
      db.tables.ingredient? "t" "leek" = some row ∧ row.currentSupplierId = some s) ∧
    ∃ d level x, rebuilt.state.view.inventory "leek" = some d ∧
      db.tables.inventory? "t" "leek" = some level ∧ level.quantity = .number x ∧
      d.toRat? = some x.toRat := by
  have hok : (appendAll (.prescribed []) pantryCalls pantry).isOk = true := by decide +kernel
  obtain ⟨final, hfinal⟩ := exists_ok_of_isOk hok
  obtain ⟨db, rebuilt, hdb, hrebuilt, hall⟩ :=
    replayed_ingredients (pantry_run hfinal) 5 pantry_scale
  obtain ⟨hprice, hsupplier, hstock⟩ := hall "leek"
  have hprices : ∃ event ∈ tenantHistory "t" (callsUpTo "t" 5 pantryCalls),
      PricesIngredient (pantry.tables.ingredientOf "t") "leek" event :=
    ⟨_, List.mem_cons_self, rfl, "sku", rfl, rfl⟩
  have hswitches : ∃ event ∈ tenantHistory "t" (callsUpTo "t" 5 pantryCalls),
      SwitchesSupplier "leek" event :=
    ⟨_, List.mem_cons_of_mem _ List.mem_cons_self, rfl, rfl⟩
  have hsets : ∃ event ∈ tenantHistory "t" (callsUpTo "t" 5 pantryCalls), SetsStock "leek" event :=
    ⟨_, List.mem_cons_of_mem _ (List.mem_cons_of_mem _ List.mem_cons_self), rfl,
      .inr ⟨.inl rfl, floatValue 12 0, rfl⟩⟩
  exact ⟨final, db, rebuilt, hfinal, hdb, hrebuilt, hprice hprices, hsupplier hswitches,
    hstock hsets⟩

theorem pantry_replayed_inventory : ∃ final rebuilt,
    appendAll (.prescribed []) pantryCalls pantry = .ok final ∧
    reconstructStateAt (.prescribed []) "t" 5 final = .ok rebuilt ∧
    ∀ key d, rebuilt.state.inventory.find? key = some d → ∃ i q, key = .str i ∧
      d.toRat? = some q ∧ 0 ≤ q + (pantry.tables.view "t").stock i ∧
      ((∃ event ∈ tenantHistory "t" (callsUpTo "t" 5 pantryCalls), SetsStock i event) → 0 ≤ q) := by
  have hok : (appendAll (.prescribed []) pantryCalls pantry).isOk = true := by decide +kernel
  obtain ⟨final, hfinal⟩ := exists_ok_of_isOk hok
  obtain ⟨rebuilt, hrebuilt, hall⟩ :=
    replayed_inventory (pantry_run hfinal) 5 (fun event hevent => (pantry_scale event hevent).quantity)
      pantry_stock
  exact ⟨final, rebuilt, hfinal, hrebuilt, hall⟩

/-- What the replay makes of the leek after some calls. -/
def rebuiltLeek (calls : List AppendCall) : Option ℚ :=
  ((appendAll (.prescribed []) calls pantry).bind
    (reconstructStateAt (.prescribed []) "t" 5)).toOption.bind
      (fun rebuilt => (rebuilt.state.inventory.find? (.str "leek")).bind PyDecimal.toRat?)

lemma rebuiltLeek_eq {calls : List AppendCall} {q : ℚ} (h : rebuiltLeek calls = some q) :
    ∃ final rebuilt d, appendAll (.prescribed []) calls pantry = .ok final ∧
      reconstructStateAt (.prescribed []) "t" 5 final = .ok rebuilt ∧
      rebuilt.state.inventory.find? (.str "leek") = some d ∧ d.toRat? = some q := by
  obtain ⟨rebuilt, hrebuilt, hfound⟩ := Option.bind_eq_some_iff.mp h
  obtain ⟨d, hd, hq⟩ := Option.bind_eq_some_iff.mp hfound
  cases hrun : appendAll (.prescribed []) calls pantry with
  | error e =>
    rw [hrun] at hrebuilt
    exact absurd hrebuilt (by simp [Except.bind, Except.toOption])
  | ok final =>
    rw [hrun] at hrebuilt
    change (reconstructStateAt (.prescribed []) "t" 5 final).toOption = some rebuilt at hrebuilt
    cases hresult : reconstructStateAt (.prescribed []) "t" 5 final with
    | error e =>
      rw [hresult] at hrebuilt
      exact absurd hrebuilt (by simp [Except.toOption])
    | ok result =>
      rw [hresult] at hrebuilt
      obtain rfl := Option.some.inj hrebuilt
      exact ⟨final, result, d, rfl, hresult, hd, hq⟩

/-- Waste of seeded stock is rebuilt as a negative level; so is waste of a level that the column
has rounded up. -/
theorem waste_rebuilt_negative :
    (∀ i, 0 ≤ (pantry.tables.view "t").stock i) ∧
    (∃ final rebuilt d, appendAll (.prescribed []) [wasteCall 5 0 1 "e1"] pantry = .ok final ∧
      reconstructStateAt (.prescribed []) "t" 5 final = .ok rebuilt ∧
      rebuilt.state.inventory.find? (.str "leek") = some d ∧ d.toRat? = some (-5)) ∧
    ∃ final rebuilt d, appendAll (.prescribed [])
        [restockCall 5 (-5) 1 "e1", wasteCall 1 (-4) 2 "e2"] pantry = .ok final ∧
      reconstructStateAt (.prescribed []) "t" 5 final = .ok rebuilt ∧
      rebuilt.state.inventory.find? (.str "leek") = some d ∧ d.toRat? = some (-1 / 20000) :=
  ⟨pantry_stock, rebuiltLeek_eq (by decide +kernel), rebuiltLeek_eq (by decide +kernel)⟩

end OpsCopilot
