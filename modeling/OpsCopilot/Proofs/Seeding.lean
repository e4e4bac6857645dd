import OpsCopilot.Model.Seeding
import OpsCopilot.Proofs.SchemaSteps
import Mathlib.Algebra.Order.BigOperators.Group.List

/-!
# Seeded tenants

Seeding keeps the schema and the two copies of the stock equal, over any runs of it with the events
that follow.
-/

namespace OpsCopilot

open Python Sql Fallible KeyedRows

/-! ### The configuration -/

/-- What validation has found of a tenant. -/
structure TenantConfig.Valid (config : TenantConfig) : Prop where
  suppliers : config.suppliers ≠ []
  ingredients : ∀ i ∈ config.ingredients, 0 < i.price ∧ 0 ≤ i.stock
  menuItems : ∀ m ∈ config.menuItems, 0 < m.price

section Validation

variable {printable : Char → Bool}

lemma validateIngredientConfig_ok {tenant : String} {seen seen' : List String}
    {ingredient : IngredientConfig}
    (h : validateIngredientConfig printable tenant seen ingredient = .ok seen') :
    0 < ingredient.price ∧ 0 ≤ ingredient.stock := by
  obtain ⟨_, -, h⟩ := bind_ok.mp h
  obtain ⟨_, -, h⟩ := bind_ok.mp h
  obtain ⟨_, hprice, h⟩ := bind_ok.mp h
  obtain ⟨_, hstock, -⟩ := bind_ok.mp h
  exact ⟨not_le.mp (raiseIf_ok.mp hprice), not_lt.mp (raiseIf_ok.mp hstock)⟩

lemma validateMenuItemConfig_ok {tenant : String} {seen seen' : List String}
    {item : MenuItemConfig} (h : validateMenuItemConfig printable tenant seen item = .ok seen') :
    0 < item.price := by
  obtain ⟨_, -, h⟩ := bind_ok.mp h
  obtain ⟨_, -, h⟩ := bind_ok.mp h
  obtain ⟨_, hprice, -⟩ := bind_ok.mp h
  exact not_le.mp (raiseIf_ok.mp hprice)

lemma validateTenantConfig_ok {seen seen' : List String} {config : TenantConfig}
    (h : validateTenantConfig printable seen config = .ok seen') :
    config.Valid ∧ config.name ∉ seen ∧ seen' = seen ++ [config.name] := by
  obtain ⟨_, -, h⟩ := bind_ok.mp h
  obtain ⟨_, hname, h⟩ := bind_ok.mp h
  obtain ⟨_, hsuppliers, h⟩ := bind_ok.mp h
  obtain ⟨_, -, h⟩ := bind_ok.mp h
  obtain ⟨_, hingredients, h⟩ := bind_ok.mp h
  obtain ⟨_, hitems, h⟩ := bind_ok.mp h
  refine ⟨⟨raiseIf_ok.mp hsuppliers, fun i hi => ?_, fun m hm => ?_⟩, raiseIf_ok.mp hname,
    (pure_ok.mp h).symm⟩
  · obtain ⟨_, _, hstep⟩ := exists_step_of_foldlM hingredients hi
    exact validateIngredientConfig_ok hstep
  · obtain ⟨_, _, hstep⟩ := exists_step_of_foldlM hitems hm
    exact validateMenuItemConfig_ok hstep

lemma validateTenants_distinct {configs : List TenantConfig} {seen seen' : List String}
    (hseen : seen.Nodup) (h : configs.foldlM (validateTenantConfig printable) seen = .ok seen') :
    seen' = seen ++ configs.map TenantConfig.name ∧ seen'.Nodup := by
  induction configs generalizing seen with
  | nil =>
    rw [List.foldlM_nil, pure_ok] at h
    subst h
    exact ⟨(List.append_nil seen).symm, hseen⟩
  | cons config configs ih =>
    rw [List.foldlM_cons] at h
    obtain ⟨seen₁, hfirst, hrest⟩ := bind_ok.mp h
    obtain ⟨-, hnew, rfl⟩ := validateTenantConfig_ok hfirst
    have hnodup : (seen ++ [config.name]).Nodup := by
      rw [List.nodup_append']
      exact ⟨hseen, List.nodup_singleton _, List.disjoint_singleton.mpr hnew⟩
    obtain ⟨hnames, hall⟩ := ih hnodup hrest
    exact ⟨by rw [hnames, List.map_cons, List.append_assoc]; rfl, hall⟩

lemma validateConfig_ok {configs : List TenantConfig}
    (h : validateConfig printable configs = .ok ()) :
    (∀ config ∈ configs, config.Valid) ∧ (configs.map TenantConfig.name).Nodup := by
  obtain ⟨_, -, h⟩ := bind_ok.mp h
  obtain ⟨names, hnames, -⟩ := bind_ok.mp h
  refine ⟨fun config hconfig => ?_, ?_⟩
  · obtain ⟨_, _, hstep⟩ := exists_step_of_foldlM hnames hconfig
    exact (validateTenantConfig_ok hstep).1
  · obtain ⟨rfl, hnodup⟩ := validateTenants_distinct List.nodup_nil hnames
    exact hnodup

end Validation

/-! ### One tenant -/

lemma insertNew_ok {α κ : Type} [DecidableEq κ] {key : α → κ} {rows rows' : List α} {row : α} :
    insertNew key rows row = .ok rows' ↔
      rows' = rows ++ [row] ∧ ∀ r ∈ rows, key r ≠ key row := by
  unfold insertNew
  constructor
  · intro h
    obtain ⟨_, hfresh, h⟩ := bind_ok.mp h
    refine ⟨(pure_ok.mp h).symm, fun r hr heq => raiseIf_ok.mp hfresh ?_⟩
    exact List.any_eq_true.mpr ⟨r, hr, decide_eq_true heq⟩
  · rintro ⟨rfl, hnew⟩
    refine bind_ok.mpr ⟨(), raiseIf_ok.mpr (fun hany => ?_), rfl⟩
    obtain ⟨r, hr, heq⟩ := List.any_eq_true.mp hany
    exact hnew r hr (of_decide_eq_true heq)

section Numbers

variable {precision scale : ℕ} {q : ℚ} {x : Numeric precision scale}

lemma storeRat_ok (h : storeRat precision scale q = .ok x) :
    Numeric.store? precision scale q = some x := by
  unfold storeRat at h
  cases hx : Numeric.store? precision scale q with
  | none =>
    rw [hx] at h
    cases h
  | some y =>
    rw [hx] at h
    exact congrArg some (Except.ok.inj h)

lemma storeRat_nonneg (hq : 0 ≤ q) (h : storeRat precision scale q = .ok x) :
    (Column.number x).nonneg = true :=
  decide_eq_true (Numeric.store?_coeff_nonneg hq (storeRat_ok h))

lemma storeRat_pos (hscale : OnScale scale q) (hq : 0 < q)
    (h : storeRat precision scale q = .ok x) : 0 < x.toRat := by
  rwa [Numeric.store?_exact hscale (storeRat_ok h)]

end Numbers

/-- What has been made of a tenant so far: the numbers of its suppliers, ingredients and menu
items. -/
structure SeededSoFar (draw : SeedDraw) (tenants : List String)
    (suppliers ingredients menuItems : ℕ) (T : Tables) : Prop where
  schema : SchemaHolds tenants T
  stock : ∀ t, StocksAgree t T
  supplier : ∀ i < suppliers, T.keys.supplier draw.tenant (draw.supplier i)
  ingredient : ∀ i < ingredients, T.keys.ingredient draw.tenant (draw.ingredient i)
  sku : ∀ i < ingredients, T.keys.sku draw.tenant (draw.sku i)
  menuItem : ∀ i < menuItems, T.keys.menuItem draw.tenant (draw.menuItem i)

/-- A new ingredient with its inventory has two copies of its stock as well. -/
lemma StocksAgree.addIngredient {tenants : List String} {T T' : Tables} {t : String}
    {row : Ingredient} {level : InventoryLevel} (hT : SchemaHolds tenants T)
    (h : StocksAgree t T) (hrows : T'.ingredients = T.ingredients ++ [row])
    (hlevels : T'.inventoryLevels = T.inventoryLevels ++ [level])
    (hid : level.ingredientId = row.id) (hquantity : level.quantity = row.currentStockLevel)
    (hnew : ∀ x ∈ T.ingredients, x.id ≠ row.id) : StocksAgree t T' := by
  have hrow : ∀ r ∈ T'.ingredients, r ∈ T.ingredients ∨ r = row := by
    intro r hr
    rw [hrows, List.mem_append, List.mem_singleton] at hr
    exact hr
  have hlevel : ∀ l ∈ T'.inventoryLevels, l ∈ T.inventoryLevels ∨ l = level := by
    intro l hl
    rw [hlevels, List.mem_append, List.mem_singleton] at hl
    exact hl
  refine ⟨fun l hl ht r hr hrt heq => ?_⟩
  rcases hlevel l hl with hl | rfl
  · rcases hrow r hr with hr | rfl
    · exact h.agrees l hl ht r hr hrt heq
    · -- An old level refers to an old ingredient.
      obtain ⟨x, hx, hkey⟩ := (hT.rows.inventoryLevels l hl).ingredient
      exact absurd ((Prod.mk.inj hkey).2.trans heq.symm) (hnew x hx)
  · rcases hrow r hr with hr | rfl
    · exact absurd (heq.trans hid) (hnew r hr)
    · exact hquantity

section Steps

variable {draw : SeedDraw} {tenants : List String} {k n m : ℕ} {T T' : Tables}

lemma seedSupplier_keeps {name : String} (ht : draw.tenant ∈ tenants)
    (hT : SeededSoFar draw tenants k 0 0 T) (h : seedSupplier draw T (name, k) = .ok T') :
    SeededSoFar draw tenants (k + 1) 0 0 T' := by
  obtain ⟨_, -, h⟩ := bind_ok.mp h
  obtain ⟨rows, hrows, h⟩ := bind_ok.mp h
  obtain rfl := pure_ok.mp h
  obtain ⟨rfl, hnew⟩ := insertNew_ok.mp hrows
  refine ⟨hT.schema.addSupplier ht hnew, fun t => ?_, Nat.forall_lt_succ_right.mpr ⟨?_, ?_⟩,
    hT.ingredient, hT.sku, hT.menuItem⟩
  · exact ⟨(hT.stock t).agrees⟩
  · exact fun i hi => hasKey_append (hT.supplier i hi)
  · exact hasKey_new

lemma seedIngredient_keeps {config : IngredientConfig} (ht : draw.tenant ∈ tenants)
    (hsuppliers : 0 < n) (hprice : 0 < config.price) (hstock : 0 ≤ config.stock)
    (hT : SeededSoFar draw tenants n k 0 T) (h : seedIngredient draw T (config, k) = .ok T') :
    SeededSoFar draw tenants n (k + 1) 0 T' := by
  obtain ⟨_, -, h⟩ := bind_ok.mp h
  obtain ⟨price, hstored, h⟩ := bind_ok.mp h
  obtain ⟨stock, hlevel, h⟩ := bind_ok.mp h
  obtain ⟨ingredients, hingredients, h⟩ := bind_ok.mp h
  obtain ⟨levels, hlevels, h⟩ := bind_ok.mp h
  obtain ⟨_, hnewSku, h⟩ := bind_ok.mp h
  obtain rfl := pure_ok.mp h
  obtain ⟨rfl, hnew⟩ := insertNew_ok.mp hingredients
  obtain ⟨rfl, hnewLevel⟩ := insertNew_ok.mp hlevels
  have hprice := storeRat_nonneg hprice.le hstored
  have hstock := storeRat_nonneg hstock hlevel
  have hsupplier := hT.supplier 0 hsuppliers
  -- The four rows, in the order of the references between them.
  have hingredient := hT.schema.addIngredient (r := ⟨draw.ingredient k, draw.tenant,
    .number price, some (draw.supplier 0), .number stock⟩)
    ⟨ht, fun s hs => Option.some.inj hs ▸ hsupplier, hprice, hstock⟩ hnew
  have hinventory := hingredient.addInventoryLevel (r := ⟨draw.tenant, draw.ingredient k,
    .number stock, draw.filledAt k⟩) ⟨ht, hasKey_new, hstock⟩ hnewLevel
  have hsku := hinventory.addSupplierSku (r := ⟨draw.sku k, draw.tenant, draw.supplier 0,
    draw.ingredient k, seedSkuCode k⟩) ⟨ht, hsupplier, hasKey_new⟩
    (fun x hx hclash => raiseIf_ok.mp hnewSku
      (List.any_eq_true.mpr ⟨x, hx, decide_eq_true hclash⟩))
  have hpriced := hsku.addSupplierPrice (r := ⟨draw.tenant, draw.sku k, .number price,
    draw.filledAt k⟩) ⟨ht, hasKey_new, hprice⟩
  refine ⟨hpriced, fun t => ?_, hT.supplier, Nat.forall_lt_succ_right.mpr ⟨?_, hasKey_new⟩,
    Nat.forall_lt_succ_right.mpr ⟨?_, hasKey_new⟩, hT.menuItem⟩
  · exact (hT.stock t).addIngredient hT.schema rfl rfl rfl rfl hnew
  · exact fun i hi => hasKey_append (hT.ingredient i hi)
  · exact fun i hi => hasKey_append (hT.sku i hi)

lemma mem_recipeShares {row : ℕ × ℚ} (h : row ∈ recipeShares n k) :
    row.1 < n ∧ OnScale 4 row.2 ∧ 0 < row.2 := by
  obtain ⟨offset, hoffset, rfl⟩ := List.mem_map.mp h
  have hn : 0 < n := lt_of_lt_of_le (Nat.pos_of_ne_zero (by
    rintro hzero
    rw [hzero] at hoffset
    exact List.not_mem_nil hoffset)) (min_le_right 2 n)
  refine ⟨Nat.mod_lt _ hn, ?_⟩
  dsimp only
  split_ifs
  · exact ⟨⟨2000, by norm_num⟩, by norm_num⟩
  · exact ⟨⟨1000, by norm_num⟩, by norm_num⟩

/-- The rows of a recipe that is there. -/
lemma seedRecipeIngredient_keeps {row : ℕ × ℚ} (ht : draw.tenant ∈ tenants)
    (hrow : row ∈ recipeShares n k)
    (hT : SeededSoFar draw tenants m n (k + 1) T ∧ T.keys.recipe draw.tenant (draw.recipe k))
    (h : seedRecipeIngredient draw k T row = .ok T') :
    SeededSoFar draw tenants m n (k + 1) T' ∧ T'.keys.recipe draw.tenant (draw.recipe k) := by
  obtain ⟨quantity, hquantity, h⟩ := bind_ok.mp h
  obtain ⟨rows, hrows, h⟩ := bind_ok.mp h
  obtain rfl := pure_ok.mp h
  obtain ⟨rfl, hnew⟩ := insertNew_ok.mp hrows
  obtain ⟨hindex, hscale, hpos⟩ := mem_recipeShares hrow
  refine ⟨⟨hT.1.schema.addRecipeIngredient ⟨ht, hT.2, hT.1.ingredient _ hindex,
    storeRat_pos hscale hpos hquantity⟩ hnew, fun t => ?_, hT.1.supplier, hT.1.ingredient,
    hT.1.sku, hT.1.menuItem⟩, hT.2⟩
  exact ⟨(hT.1.stock t).agrees⟩

lemma seedMenuItem_keeps {config : MenuItemConfig} (ht : draw.tenant ∈ tenants)
    (hprice : 0 < config.price) (hT : SeededSoFar draw tenants m n k T)
    (h : seedMenuItem draw n T (config, k) = .ok T') :
    SeededSoFar draw tenants m n (k + 1) T' := by
  obtain ⟨name, -, h⟩ := bind_ok.mp h
  obtain ⟨price, hstored, h⟩ := bind_ok.mp h
  obtain ⟨items, hitems, h⟩ := bind_ok.mp h
  obtain ⟨recipes, hrecipes, h⟩ := bind_ok.mp h
  obtain ⟨rfl, hnew⟩ := insertNew_ok.mp hitems
  obtain ⟨rfl, hnewRecipe⟩ := insertNew_ok.mp hrecipes
  have hitem := hT.schema.addMenuItem (r := ⟨draw.menuItem k, draw.tenant, name, .number price,
    true⟩)
    ⟨ht, storeRat_nonneg hprice.le hstored⟩ hnew
  have hrecipe := hitem.addRecipe (r := ⟨draw.recipe k, draw.tenant, draw.menuItem k, true⟩)
    ⟨ht, hasKey_new⟩ hnewRecipe
  refine (foldlM_keeps (fun row hrow T₁ T₂ => seedRecipeIngredient_keeps ht hrow) ⟨⟨hrecipe,
    fun t => ⟨(hT.stock t).agrees⟩, hT.supplier, hT.ingredient, hT.sku, Nat.forall_lt_succ_right.mpr ⟨?_, hasKey_new⟩⟩, hasKey_new⟩ h).1
  exact fun i hi => hasKey_append (hT.menuItem i hi)

/-- Rows of the other tables take nothing away from what has been made. -/
lemma SeededSoFar.grow (hT : SeededSoFar draw tenants k n m T) (hschema : SchemaHolds tenants T')
    (hkeys : T.keys.Grow T'.keys) (hsame : T.SameStock T') :
    SeededSoFar draw tenants k n m T' :=
  ⟨hschema, fun t => (hT.stock t).of_sameStock hsame,
    fun i hi => hkeys.supplier _ _ (hT.supplier i hi),
    fun i hi => hkeys.ingredient _ _ (hT.ingredient i hi),
    fun i hi => hkeys.sku _ _ (hT.sku i hi),
    fun i hi => hkeys.menuItem _ _ (hT.menuItem i hi)⟩

lemma seedInvoiceLine_keeps {entry : IngredientConfig × ℕ} (ht : draw.tenant ∈ tenants)
    (hprice : 0 < entry.1.price) (hindex : entry.2 < n)
    (hT : SeededSoFar draw tenants k n m T ∧ T.keys.invoice draw.tenant draw.invoice)
    (h : seedInvoiceLine draw T entry = .ok T') :
    SeededSoFar draw tenants k n m T' ∧ T'.keys.invoice draw.tenant draw.invoice := by
  obtain ⟨quantity, hquantity, h⟩ := bind_ok.mp h
  obtain ⟨price, hstored, h⟩ := bind_ok.mp h
  obtain rfl := pure_ok.mp h
  have hpos := Column.positive_number
    (storeRat_pos ⟨100000, by norm_num⟩ (by norm_num) hquantity)
  have hline := hT.1.schema.addInvoiceLine (r := ⟨draw.tenant, draw.invoice, draw.sku entry.2,
    .number quantity, .number price⟩) ⟨ht, hT.2, hT.1.sku _ hindex, hpos, storeRat_nonneg hprice.le hstored⟩
  exact ⟨hT.1.grow hline (.refl T.keys) (.of_eq rfl rfl), hT.2⟩

lemma seedInvoice_keeps {ingredients : List IngredientConfig} (ht : draw.tenant ∈ tenants)
    (hsuppliers : 0 < k) (hprices : ∀ i ∈ ingredients, 0 < i.price)
    (hT : SeededSoFar draw tenants k ingredients.length m T)
    (h : seedInvoice draw ingredients T = .ok T') :
    SeededSoFar draw tenants k ingredients.length m T' := by
  obtain ⟨total, hstored, h⟩ := bind_ok.mp h
  obtain ⟨_, hnew, h⟩ := bind_ok.mp h
  have htotal : (Column.number total).nonneg = true := by
    refine storeRat_nonneg (List.sum_nonneg (fun x hx => ?_)) hstored
    obtain ⟨i, hi, rfl⟩ := List.mem_map.mp hx
    exact mul_nonneg (hprices i hi).le (by norm_num)
  have hinvoice := hT.schema.addInvoice (r := ⟨draw.invoice, draw.tenant, draw.supplier 0,
    "SEED-" ++ String.ofList (draw.tenant.toList.take 8), draw.now - 7 * dayLength,
    .number total⟩)
    ⟨ht, hT.supplier 0 hsuppliers, htotal⟩
    (fun x hx hclash => raiseIf_ok.mp hnew
      (List.any_eq_true.mpr ⟨x, hx, decide_eq_true hclash⟩))
  have hgrow := hT.grow hinvoice
    { Keys.Grow.refl T.keys with invoice := fun _ _ hkey => hasKey_append hkey } (.of_eq rfl rfl)
  have hline : ∀ entry ∈ ingredients.zipIdx, ∀ T₁ T₂,
      SeededSoFar draw tenants k ingredients.length m T₁ ∧
        T₁.keys.invoice draw.tenant draw.invoice → seedInvoiceLine draw T₁ entry = .ok T₂ →
      SeededSoFar draw tenants k ingredients.length m T₂ ∧
        T₂.keys.invoice draw.tenant draw.invoice :=
    fun _ hentry _ _ => seedInvoiceLine_keeps ht (hprices _ (List.fst_mem_of_mem_zipIdx hentry))
      (List.snd_lt_of_mem_zipIdx hentry)
  exact (foldlM_keeps hline ⟨hgrow, hasKey_new⟩ h).1

lemma soldOn_pos (daysAgo index : ℕ) : 0 < soldOn daysAgo index := by
  unfold soldOn
  omega

lemma seedOrderLine_keeps {daysAgo : ℕ} {entry : MenuItemConfig × ℕ} (ht : draw.tenant ∈ tenants)
    (hprice : 0 < entry.1.price) (hindex : entry.2 < m)
    (hT : SeededSoFar draw tenants k n m T ∧ T.keys.order draw.tenant (draw.order daysAgo))
    (h : seedOrderLine draw daysAgo T entry = .ok T') :
    SeededSoFar draw tenants k n m T' ∧ T'.keys.order draw.tenant (draw.order daysAgo) := by
  obtain ⟨price, hstored, h⟩ := bind_ok.mp h
  obtain rfl := pure_ok.mp h
  have hitem := hT.1.menuItem _ hindex
  have hsold := soldOn_pos daysAgo entry.2
  have hline := hT.1.schema.addSalesOrderLine (r := ⟨draw.tenant, draw.order daysAgo,
    draw.menuItem entry.2, soldOn daysAgo entry.2, .number price⟩)
    ⟨ht, hT.2, hitem, hsold, storeRat_nonneg hprice.le hstored⟩
  have hvolume := hline.addOrderVolume (r := ⟨draw.tenant, draw.menuItem entry.2,
    draw.now - daysAgo * dayLength, soldOn daysAgo entry.2⟩) ⟨ht, hitem, hsold⟩
  exact ⟨hT.1.grow hvolume (.refl T.keys) (.of_eq rfl rfl), hT.2⟩

lemma seedOrder_keeps {items : List MenuItemConfig} {daysAgo : ℕ} (ht : draw.tenant ∈ tenants)
    (hprices : ∀ i ∈ items, 0 < i.price) (hT : SeededSoFar draw tenants k n items.length T)
    (h : seedOrder draw items T daysAgo = .ok T') :
    SeededSoFar draw tenants k n items.length T' := by
  obtain ⟨orders, horders, h⟩ := bind_ok.mp h
  obtain ⟨rfl, hnew⟩ := insertNew_ok.mp horders
  have horder := hT.schema.addSalesOrder (r := ⟨draw.order daysAgo, draw.tenant,
    draw.now - daysAgo * dayLength⟩) ht hnew
  have hgrow := hT.grow horder
    { Keys.Grow.refl T.keys with order := fun _ _ hkey => hasKey_append hkey } (.of_eq rfl rfl)
  have hline : ∀ entry ∈ items.zipIdx, ∀ T₁ T₂,
      SeededSoFar draw tenants k n items.length T₁ ∧
        T₁.keys.order draw.tenant (draw.order daysAgo) → seedOrderLine draw daysAgo T₁ entry = .ok T₂ →
      SeededSoFar draw tenants k n items.length T₂ ∧
        T₂.keys.order draw.tenant (draw.order daysAgo) :=
    fun _ hentry _ _ => seedOrderLine_keeps ht (hprices _ (List.fst_mem_of_mem_zipIdx hentry))
      (List.snd_lt_of_mem_zipIdx hentry)
  exact (foldlM_keeps hline ⟨hgrow, hasKey_new⟩ h).1

lemma seedWaste_keeps {ingredients : List IngredientConfig} (ht : draw.tenant ∈ tenants)
    (hT : SeededSoFar draw tenants k ingredients.length m T)
    (h : seedWaste draw ingredients T = .ok T') :
    SeededSoFar draw tenants k ingredients.length m T' := by
  obtain ⟨_, hsome, h⟩ := bind_ok.mp h
  obtain ⟨quantity, hquantity, h⟩ := bind_ok.mp h
  obtain rfl := pure_ok.mp h
  have hfirst : 0 < ingredients.length := by
    rw [List.length_pos_iff]
    intro hnone
    exact raiseIf_ok.mp hsome (List.isEmpty_iff.mpr hnone)
  have hpos := Column.positive_number (storeRat_pos ⟨2500, by norm_num⟩ (by norm_num) hquantity)
  have hrow := hT.schema.addWasteRecord (r := ⟨draw.tenant, draw.ingredient 0, .number quantity,
    "synthetic prep waste", draw.now - 2 * dayLength⟩) ⟨ht, hT.ingredient 0 hfirst, hpos⟩
  exact hT.grow hrow (.refl T.keys) (.of_eq rfl rfl)

lemma seedShifts_valid : ∀ shift ∈ seedShifts, shift.1 ≤ 6 ∧ 0 ≤ shift.2.2 := by decide

lemma seedShift_keeps {entry : (ℕ × String × ℤ) × ℕ} (ht : draw.tenant ∈ tenants)
    (hentry : entry ∈ seedShifts.zipIdx) (hT : SeededSoFar draw tenants k n m T)
    (h : seedShift draw T entry = .ok T') : SeededSoFar draw tenants k n m T' := by
  obtain ⟨shifts, hshifts, h⟩ := bind_ok.mp h
  obtain rfl := pure_ok.mp h
  obtain ⟨rfl, hnew⟩ := insertNew_ok.mp hshifts
  obtain ⟨hday, hheadcount⟩ := seedShifts_valid _ (List.fst_mem_of_mem_zipIdx hentry)
  have hday : (entry.1.1 : ℤ) ≤ 6 := by exact_mod_cast hday
  have hrow := hT.schema.addStaffShift (r := ⟨draw.shift entry.2, draw.tenant, entry.1.2.1,
    entry.1.1, entry.1.2.2⟩) ⟨ht, ⟨Int.natCast_nonneg _, hday⟩, hheadcount⟩ hnew
  exact hT.grow hrow (.refl T.keys) (.of_eq rfl rfl)

end Steps

/-! ### All tenants -/

/-- What seeding keeps of the database. -/
structure SeedStore.Holds (st : SeedStore) : Prop where
  tenants : UniqueKeys Tenant.id st.tenants
  schema : SchemaHolds (st.tenants.map Tenant.id) st.tables
  stock : ∀ t, StocksAgree t st.tables

section Tenants

variable {draw : SeedDraw} {config : TenantConfig} {st st' : SeedStore}

/-- The tenant that has been made, behind the ones before it. -/
lemma seedTenant_tenants (h : seedTenant draw config st = .ok st') :
    st'.tenants = st.tenants ++ [⟨draw.tenant, config.name⟩] ∧
      ∀ x ∈ st.tenants, x.id ≠ draw.tenant := by
  obtain ⟨name, hname, h⟩ := bind_ok.mp h
  obtain ⟨rows, hrows, h⟩ := bind_ok.mp h
  obtain ⟨_, _, h⟩ := bind_ok.mp h
  obtain ⟨_, _, h⟩ := bind_ok.mp h
  obtain ⟨_, _, h⟩ := bind_ok.mp h
  obtain ⟨_, _, h⟩ := bind_ok.mp h
  obtain ⟨_, _, h⟩ := bind_ok.mp h
  obtain ⟨_, _, h⟩ := bind_ok.mp h
  obtain ⟨_, _, h⟩ := bind_ok.mp h
  obtain rfl := pure_ok.mp h
  rw [bindText_ok hname] at hrows
  exact insertNew_ok.mp hrows

lemma seedTenant_keeps (hconfig : config.Valid) (hst : st.Holds)
    (h : seedTenant draw config st = .ok st') : st'.Holds := by
  obtain ⟨htenants, hnew⟩ := seedTenant_tenants h
  have hmem : draw.tenant ∈ st'.tenants.map Tenant.id := by
    rw [htenants, List.map_append]
    exact List.mem_append_right _ (List.mem_singleton_self draw.tenant)
  have hmore : st.tenants.map Tenant.id ⊆ st'.tenants.map Tenant.id := by
    rw [htenants, List.map_append]
    exact List.subset_append_left _ _
  have hstart : SeededSoFar draw (st'.tenants.map Tenant.id) 0 0 0 st.tables :=
    ⟨hst.schema.mono hmore, hst.stock, fun _ hi => absurd hi (Nat.not_lt_zero _),
      fun _ hi => absurd hi (Nat.not_lt_zero _), fun _ hi => absurd hi (Nat.not_lt_zero _),
      fun _ hi => absurd hi (Nat.not_lt_zero _)⟩
  have hsome : 0 < config.suppliers.length := List.length_pos_iff.mpr hconfig.suppliers
  have hsupplier : ∀ name ∈ config.suppliers, ∀ k T T',
      SeededSoFar draw (st'.tenants.map Tenant.id) k 0 0 T → seedSupplier draw T (name, k) = .ok T' →
      SeededSoFar draw (st'.tenants.map Tenant.id) (k + 1) 0 0 T' :=
    fun _ _ _ _ _ => seedSupplier_keeps hmem
  have hingredient : ∀ i ∈ config.ingredients, ∀ k T T',
      SeededSoFar draw (st'.tenants.map Tenant.id) config.suppliers.length k 0 T →
        seedIngredient draw T (i, k) = .ok T' →
      SeededSoFar draw (st'.tenants.map Tenant.id) config.suppliers.length (k + 1) 0 T' :=
    fun i hi _ _ _ => seedIngredient_keeps hmem hsome (hconfig.ingredients i hi).1
      (hconfig.ingredients i hi).2
  -- The steps in their order, each from what the one before it has made.
  obtain ⟨_, _, h⟩ := bind_ok.mp h
  obtain ⟨rows, _, h⟩ := bind_ok.mp h
  obtain ⟨T₁, hsuppliers, h⟩ := bind_ok.mp h
  obtain ⟨T₂, hingredients, h⟩ := bind_ok.mp h
  obtain ⟨T₃, hitems, h⟩ := bind_ok.mp h
  obtain ⟨T₄, hinvoice, h⟩ := bind_ok.mp h
  obtain ⟨T₅, horders, h⟩ := bind_ok.mp h
  obtain ⟨T₆, hwaste, h⟩ := bind_ok.mp h
  obtain ⟨T₇, hshifts, h⟩ := bind_ok.mp h
  have h₁ := foldlM_zipIdx_keeps hsupplier hstart hsuppliers
  rw [Nat.zero_add] at h₁
  have h₂ := foldlM_zipIdx_keeps hingredient h₁ hingredients
  rw [Nat.zero_add] at h₂
  have h₃ := foldlM_zipIdx_keeps
    (fun i hi _ _ _ => seedMenuItem_keeps hmem (hconfig.menuItems i hi)) h₂ hitems
  rw [Nat.zero_add] at h₃
  have h₄ := seedInvoice_keeps hmem hsome (fun i hi => (hconfig.ingredients i hi).1) h₃ hinvoice
  have h₅ := foldlM_keeps (fun _ _ _ _ => seedOrder_keeps hmem hconfig.menuItems) h₄ horders
  have h₆ := seedWaste_keeps hmem h₅ hwaste
  have h₇ := foldlM_keeps (fun _ hentry _ _ => seedShift_keeps hmem hentry) h₆ hshifts
  obtain rfl := pure_ok.mp h
  refine ⟨?_, h₇.schema, h₇.stock⟩
  rw [htenants]
  exact hst.tenants.append hnew

end Tenants

/-- The tenant that a configuration has in the end: the one that was there, or the new one. -/
def SeedStore.settled (before : SeedStore) (config : TenantConfig × SeedDraw) : String × String :=
  ((before.existing config.1.name).getD config.2.tenant, config.1.name)

section Configs

variable {before : SeedStore} {done done' : SeedStore × List (String × String)}
  {config : TenantConfig × SeedDraw}

lemma seedConfig_cases (h : seedConfig before done config = .ok done') :
    done'.2 = done.2 ++ [before.settled config] ∧
      ((∃ id, before.existing config.1.name = some id ∧ done'.1 = done.1) ∨
        before.existing config.1.name = none ∧
          seedTenant config.2 config.1 done.1 = .ok done'.1) := by
  unfold seedConfig at h
  unfold SeedStore.settled
  cases hexisting : before.existing config.1.name with
  | some id =>
    rw [hexisting] at h
    obtain rfl := Except.ok.inj h
    exact ⟨rfl, .inl ⟨id, rfl, rfl⟩⟩
  | none =>
    rw [hexisting] at h
    obtain ⟨st, hst, rfl⟩ := map_ok.mp h
    exact ⟨rfl, .inr ⟨rfl, hst⟩⟩

lemma seedConfig_keeps (hconfig : config.1.Valid) (hdone : done.1.Holds)
    (h : seedConfig before done config = .ok done') : done'.1.Holds := by
  obtain ⟨-, ⟨_, -, hkept⟩ | ⟨-, hmade⟩⟩ := seedConfig_cases h
  · exact hkept ▸ hdone
  · exact seedTenant_keeps hconfig hdone hmade

end Configs

section Seed

variable {printable : Char → Bool} {configs : List (TenantConfig × SeedDraw)} {st st' : SeedStore}
  {result : List (String × String)}

/-- A seeding that commits has validated the configuration and gone through all of it. -/
lemma seed_ok : seed printable configs st = .ok (st', result) ↔
    validateConfig printable (configs.map Prod.fst) = .ok () ∧
      configs.foldlM (seedConfig st) (st, []) = .ok (st', result) := by
  unfold seed
  rw [bind_ok]
  constructor
  · rintro ⟨_, hvalid, h⟩
    exact ⟨hvalid, mapError_ok.mp h⟩
  · rintro ⟨hvalid, h⟩
    exact ⟨(), hvalid, mapError_ok.mpr h⟩

theorem seed_keeps (hst : st.Holds) (h : seed printable configs st = .ok (st', result)) :
    st'.Holds := by
  obtain ⟨hvalid, h⟩ := seed_ok.mp h
  obtain ⟨hvalid, -⟩ := validateConfig_ok hvalid
  have hstep : ∀ config ∈ configs, ∀ done done' : SeedStore × List (String × String),
      done.1.Holds → seedConfig st done config = .ok done' → done'.1.Holds :=
    fun config hconfig _ _ => seedConfig_keeps
      (hvalid config.1 (List.mem_map_of_mem hconfig))
  exact foldlM_keeps (b := (st, [])) hstep hst h

end Seed

end OpsCopilot
