import OpsCopilot.Lib.KeepFirst
import OpsCopilot.Proofs.PriceBaseline
import OpsCopilot.Proofs.ReplaySteps

/-!
# What a supplier switch changes

The SKU that completes the payload is one of the ingredient that the payload names, so that the
event, which finds the ingredient through its SKU, comes back to that ingredient.
-/

namespace OpsCopilot

open Python Sql Fallible

section Switch

variable {O : Outside} {T T' : Tables} {t i skuId : String} {payload : Dict}

/-! ### The SKU -/

lemma Tables.supplierSku?_spec {sku : SupplierSKU} (h : T.supplierSku? t skuId = some sku) :
    sku ∈ T.supplierSkus ∧ sku.id = skuId ∧ sku.tenantId = t := by
  have hmem := List.mem_of_find?_eq_some h
  have hp := List.find?_some h
  simp only [decide_eq_true_eq] at hp
  exact ⟨hmem, hp.1, hp.2⟩

/-- With distinct identifiers, a SKU of the tenant is the one that its identifier finds. -/
lemma Tables.supplierSku?_of_mem {sku : SupplierSKU}
    (hids : (T.supplierSkus.map SupplierSKU.id).Nodup) (hmem : sku ∈ T.supplierSkus)
    (ht : sku.tenantId = t) : T.supplierSku? t sku.id = some sku :=
  KeepFirst.find?_of_nodup hids hmem (decide_eq_true ⟨rfl, ht⟩)
    (fun _ _ hfound => (of_decide_eq_true hfound).1)

/-- The SKU belongs to the ingredient and the tenant. -/
structure SupplierSKU.Supplies (T : Tables) (t i : String) (sku : SupplierSKU) : Prop where
  mem : sku ∈ T.supplierSkus
  tenant : sku.tenantId = t
  ingredient : sku.ingredientId = i

lemma explicitSku_supplies {v : Value} (hi : payload.get "ingredient_id" = .str i)
    (h : explicitSku O T t payload v = .ok skuId) :
    ∃ sku : SupplierSKU, sku.id = skuId ∧ sku.Supplies T t i := by
  obtain ⟨key, hkey, h⟩ := bind_ok.mp h
  cases hfound : key.bind (T.supplierSku? t) with
  | none =>
    rw [hfound] at h
    cases h
  | some sku =>
    rw [hfound, hi] at h
    obtain ⟨_, hbelongs, hlast⟩ := bind_ok.mp h
    obtain ⟨id, -, hid⟩ := Option.bind_eq_some_iff.mp hfound
    obtain ⟨hmem, -, ht⟩ := Tables.supplierSku?_spec hid
    exact ⟨sku, pure_ok.mp hlast, hmem, ht, not_not.mp (raiseIf_ok.mp hbelongs)⟩

lemma ingredientSku_supplies {row : Ingredient} {sku : SupplierSKU}
    (h : ingredientSku T t row = some sku) : sku.Supplies T t row.id := by
  have hmem : sku ∈ T.supplierSkus.filter (fun r => r.tenantId = t ∧ r.ingredientId = row.id) := by
    rcases Option.or_eq_some_iff.mp h with hcurrent | ⟨-, hfirst⟩
    · exact List.mem_of_find?_eq_some hcurrent
    · exact List.mem_of_mem_head? hfirst
  rw [List.mem_filter, decide_eq_true_eq] at hmem
  exact ⟨hmem.1, hmem.2.1, hmem.2.2⟩

/-- Whichever way the SKU is found, it supplies the ingredient that the payload names. -/
theorem resolveSupplierSkuId_supplies (hi : payload.get "ingredient_id" = .str i)
    (h : resolveSupplierSkuId O T t payload = .ok skuId) :
    ∃ sku : SupplierSKU, sku.id = skuId ∧ sku.Supplies T t i := by
  unfold resolveSupplierSkuId at h
  split at h
  · rw [hi] at h
    obtain ⟨key, hkey, hlast⟩ := bind_ok.mp h
    cases hfound : key.bind (T.ingredient? t) with
    | none =>
      rw [hfound] at hlast
      cases hlast
    | some row =>
      rw [hfound] at hlast
      dsimp only at hlast
      obtain ⟨id, rfl, hrow⟩ := Option.bind_eq_some_iff.mp hfound
      obtain rfl := Value.str.inj (filterText_some hkey)
      obtain ⟨-, hid, -⟩ := Tables.ingredient?_spec hrow
      cases hsku : ingredientSku T t row with
      | none =>
        rw [hsku] at hlast
        cases hlast
      | some sku =>
        rw [hsku] at hlast
        exact ⟨sku, pure_ok.mp hlast, hid ▸ ingredientSku_supplies hsku⟩
  · exact explicitSku_supplies hi h

/-! ### The event -/

lemma stateChangeEvent_switch {eventType : EventType} {event : Dict}
    (h : stateChangeEvent O T t payload .supplierSwitch = .ok (eventType, event)) :
    ∃ skuId value, resolveSupplierSkuId O T t payload = .ok skuId ∧
      payload.find? "new_supplier_price" = some value ∧ eventType = .supplierPriceChange ∧
      event.get "supplier_sku_id" = .str skuId ∧ event.get "new_price" = value := by
  obtain ⟨skuId, hsku, h⟩ := bind_ok.mp h
  obtain ⟨ingredientId, -, h⟩ := bind_ok.mp h
  obtain ⟨value, hvalue, hlast⟩ := bind_ok.mp h
  obtain ⟨rfl, rfl⟩ := Prod.mk.inj (pure_ok.mp hlast)
  refine ⟨skuId, value, hsku, ?_, rfl, ?_, ?_⟩
  · unfold payloadItem at hvalue
    cases hfound : payload.find? "new_supplier_price" with
    | none =>
      rw [hfound] at hvalue
      cases hvalue
    | some found =>
      rw [hfound] at hvalue
      exact congrArg some (Except.ok.inj hvalue)
  · simp [Dict.get, Dict.find?]
  · simp [Dict.get, Dict.find?]

/-- The tables after a switch: the ingredient has the price, the SKU has one more price row, and
everything else is as it was. -/
structure Switched (T T' : Tables) (t i : String) (now : Timestamp) (sku : SupplierSKU)
    (price : Column 10 2) : Prop where
  supplies : sku.Supplies T t i
  ingredient : ∃ row ∈ T.ingredients, row.id = i ∧ row.tenantId = t
  tables : T' = { T with
    ingredients := T.ingredients.map (fun r =>
      if r.id = i ∧ r.tenantId = t then { r with currentPrice := price } else r)
    supplierPrices := T.supplierPrices ++ [⟨t, sku.id, price, now⟩] }

/-- The tables after a switch to the given price: it is a number, and the ingredient has it to
cents. -/
def SwitchedTo (T T' : Tables) (t i : String) (now : Timestamp) (value : Value) : Prop :=
  ∃ d q x sku, value.toDecimal = some d ∧ d.toRat? = some q ∧ |x.toRat - q| ≤ 1 / 200 ∧
    Switched T T' t i now sku (.number x)

/-- A price that is not below zero and has no value is infinite. -/
lemma eq_inf_of_toRat? {d : PyDecimal} (hd : d.isNegative = .ok false) (h : d.toRat? = none) :
    d = .inf false := by
  cases d with
  | nan => cases hd
  | finite neg coeff exp => cases h
  | inf neg =>
    obtain rfl := Except.ok.inj hd
    rfl

/-- A supplier switch that returns has set the price of the ingredient that the payload names and
added one price row for one of its SKUs; no other row of any tenant is touched. The price is the
given one, to cents, unless that is infinite. -/
theorem supplier_switch_confined (O : Outside) (t i : String) (payload : Dict) (draw : Draw)
    (db db' : Db) (hids : (db.tables.supplierSkus.map SupplierSKU.id).Nodup)
    (hi : payload.get "ingredient_id" = .str i)
    (h : applyStateChange O t .supplierSwitch payload draw db = .ok db') :
    ∃ value, payload.find? "new_supplier_price" = some value ∧
      (SwitchedTo db.tables db'.tables t i draw.now value ↔ value.toDecimal ≠ some (.inf false)) ∧
      ∃ price sku, Switched db.tables db'.tables t i draw.now sku price := by
  obtain ⟨⟨eventType, event⟩, hevent, happend⟩ := bind_ok.mp h
  obtain ⟨skuId, value, hsku, hvalue, rfl, hskuField, hpriceField⟩ := stateChangeEvent_switch hevent
  obtain ⟨member, hmember, -, happended⟩ := appendEvent_spec happend
  obtain rfl := Except.ok.inj hmember
  obtain ⟨skuId', d, sku', row, price, hskuId, hd, hnonneg, hfound, hrow, hstored, hT⟩ :=
    applySupplierPriceChange_spec happended.tables
  obtain ⟨sku, rfl, hsupplies⟩ := resolveSupplierSkuId_supplies hi hsku
  obtain rfl := Value.str.inj (hskuField.symm.trans hskuId)
  rw [Tables.supplierSku?_of_mem hids hsupplies.mem hsupplies.tenant] at hfound
  obtain rfl := Option.some.inj hfound
  rw [hsupplies.ingredient] at hrow hT
  obtain ⟨hmem, hid, ht⟩ := Tables.ingredient?_spec hrow
  rw [hpriceField] at hd
  have hswitched : Switched db.tables db'.tables t i draw.now sku price :=
    ⟨hsupplies, ⟨row, hmem, hid, ht⟩, hT⟩
  refine ⟨value, hvalue, ⟨?_, fun hfinite => ?_⟩, price, sku, hswitched⟩
  · rintro ⟨d', q, x, -, hd', hq, -⟩ hinf
    obtain rfl := Option.some.inj (hinf.symm.trans hd')
    cases hq
  · rcases storeNumeric_ok hstored with ⟨q, x, hq, hstore, rfl⟩ | ⟨hnone, -⟩
    · exact ⟨d, q, x, sku, hd, hq, (Numeric.store?_near hstore).trans (by norm_num), hswitched⟩
    · exact absurd (hd.trans (congrArg some (eq_inf_of_toRat? hnonneg hnone))) hfinite

end Switch

/-! ### A new price for flour -/

/-- The current supplier of the flour is the second one, and another tenant has flour as well. -/
def bakery : Db where
  tenants := ["t", "u"]
  tables := { Tables.empty with
    suppliers := [⟨"mill", "t"⟩, ⟨"depot", "t"⟩, ⟨"mill2", "u"⟩]
    ingredients := [⟨"flour", "t", .number ⟨250, by decide⟩, some "depot", .number ⟨40000, by decide⟩⟩,
      ⟨"flour2", "u", .number ⟨310, by decide⟩, some "mill2", .number ⟨50000, by decide⟩⟩]
    supplierSkus := [⟨"k1", "t", "mill", "flour", "FLOUR-001"⟩,
      ⟨"k2", "t", "depot", "flour", "FLOUR-001"⟩, ⟨"k3", "u", "mill2", "flour2", "FLOUR-001"⟩] }
  events := []
  decisions := []
  toolExecutionLog := []
  approvalRequests := []

def flourSwitch : Dict :=
  [(.str "ingredient_id", .str "flour"), (.str "new_supplier_price", .str "2.755")]

theorem flour_switched : ∃ db' price sku,
    applyStateChange (.prescribed []) "t" .supplierSwitch flourSwitch ⟨1, "e1", "r1"⟩ bakery =
      .ok db' ∧ |price.toRat - 551 / 200| ≤ 1 / 200 ∧
      Switched bakery.tables db'.tables "t" "flour" 1 sku (.number price) := by
  have hcomputed : (applyStateChange (.prescribed []) "t" .supplierSwitch flourSwitch
      ⟨1, "e1", "r1"⟩ bakery).toOption.map (fun db => db.tables.supplierPrices.length) =
      some 1 := by
    decide +kernel
  obtain ⟨db', hdb', -⟩ := exists_ok_of_toOption hcomputed
  obtain ⟨value, hvalue, hiff, -⟩ :=
    supplier_switch_confined (.prescribed []) "t" "flour" flourSwitch ⟨1, "e1", "r1"⟩ bakery db'
      (by decide) rfl hdb'
  obtain rfl := Option.some.inj hvalue
  obtain ⟨d, q, x, sku, hd, hq, hnear, hswitched⟩ := hiff.mpr (by decide +kernel)
  have hparsed : (Value.str "2.755").toDecimal.bind PyDecimal.toRat? = some (551 / 200) := by
    decide +kernel
  rw [hd, Option.bind_some, hq] at hparsed
  obtain rfl := Option.some.inj hparsed
  exact ⟨db', x, sku, hdb', hnear, hswitched⟩

def endlessSwitch : Dict :=
  [(.str "ingredient_id", .str "flour"), (.str "new_supplier_price", .str "Infinity")]

/-- An infinite price is accepted, and the flour has none then. -/
theorem endless_switch_accepted : ∃ db',
    applyStateChange (.prescribed []) "t" .supplierSwitch endlessSwitch ⟨1, "e1", "r1"⟩ bakery =
      .ok db' ∧ db'.tables.ingredients.head?.map Ingredient.currentPrice = some .nan ∧
      ¬SwitchedTo bakery.tables db'.tables "t" "flour" 1 (.str "Infinity") := by
  refine ⟨_, rfl, by decide +kernel, ?_⟩
  rintro ⟨d, q, x, -, hd, hq, -⟩
  have hinf : (Value.str "Infinity").toDecimal = some (.inf false) := by decide +kernel
  obtain rfl := Option.some.inj (hinf.symm.trans hd)
  cases hq

end OpsCopilot
