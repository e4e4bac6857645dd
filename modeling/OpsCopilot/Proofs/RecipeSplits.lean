import OpsCopilot.Lib.KeyedSums
import OpsCopilot.Model.Reports
import OpsCopilot.Proofs.PriceReports

/-!
# Recipes split in two

The predictions before and after one active recipe of an item is replaced by two that need the same
amounts together. The cost of a dish is additive in its recipes; the value that a supplier switch
is set against counts the item once for every recipe line.
-/

namespace OpsCopilot

open Python Sql Fallible KeyedSums

/-! ### Splits -/

/-- The lines of a recipe. -/
def linesOf (T : Tables) (r : Recipe) : List RecipeIngredient :=
  T.recipeIngredients.filter (fun u => u.recipeId = r.id ∧ u.tenantId = r.tenantId)

/-- The quantities of a recipe, under their ingredients. -/
def quantitiesOf (T : Tables) (r : Recipe) : List (String × ℚ) :=
  (linesOf T r).map (fun u => (u.ingredientId, u.quantity.toRat))

/-- The checks and the unique key of the tables around recipes. -/
structure RecipeSchema (T : Tables) : Prop where
  quantity_pos : ∀ u ∈ T.recipeIngredients, 0 < u.quantity.toRat
  once : T.recipeIngredients.Pairwise (fun u v =>
    ¬(u.tenantId = v.tenantId ∧ u.recipeId = v.recipeId ∧ u.ingredientId = v.ingredientId))
  cost_nonneg : ∀ i ∈ T.ingredients, i.currentPrice.nonneg = true
  price_nonneg : ∀ m ∈ T.menuItems, m.currentPrice.nonneg = true

/-- The active recipe `r` has been replaced by `r₁` and `r₂`, active recipes of the same item whose
quantities add up to those of `r`; nothing else has changed. -/
structure SplitsRecipe (T T' : Tables) (r r₁ r₂ : Recipe) : Prop where
  active : r.active = true ∧ r₁.active = true ∧ r₂.active = true
  tenant : r₁.tenantId = r.tenantId ∧ r₂.tenantId = r.tenantId
  item : r₁.menuItemId = r.menuItemId ∧ r₂.menuItemId = r.menuItemId
  recipes : ∃ rest, T.recipes.Perm (r :: rest) ∧ T'.recipes.Perm (r₁ :: r₂ :: rest) ∧
    ∀ x ∈ rest, (linesOf T' x).Perm (linesOf T x)
  quantities : ∀ g, amount (quantitiesOf T' r₁) g + amount (quantitiesOf T' r₂) g =
    amount (quantitiesOf T r) g
  frame : T' = { T with recipes := T'.recipes, recipeIngredients := T'.recipeIngredients }

/-- Both parts need the ingredient. -/
def SharedIngredient (T : Tables) (r₁ r₂ : Recipe) (g : String) : Prop :=
  (∃ u ∈ linesOf T r₁, u.ingredientId = g) ∧ ∃ u ∈ linesOf T r₂, u.ingredientId = g

/-- The item is on the menu at a price above zero. -/
def OnSale (T : Tables) (t id : String) : Prop :=
  ∃ m ∈ T.menuItems, m.id = id ∧ m.tenantId = t ∧ m.active = true ∧ 0 < m.currentPrice.toRat

/-- Every dish that uses the ingredient has a number for a price. -/
def UsesPriced (T : Tables) (t g : String) : Prop :=
  (usageRows T t g).any (fun row => row.2.2.isNan) = false

lemma UsesPriced.isNan {T : Tables} {t g : String} (h : UsesPriced T t g)
    {row : String × ℚ × Column 10 2} (hrow : row ∈ usageRows T t g) : row.2.2.isNan = false :=
  Bool.eq_false_iff.mpr (List.any_eq_false.mp h row hrow)

/-! ### Sums over recipes -/

section Rows

variable (T : Tables) (t : String)

/-- The ingredients that a recipe line is joined with. -/
def joinedIngredients (t g : String) : List Ingredient :=
  T.ingredients.filter (fun i => i.id = g ∧ i.tenantId = t)

/-- The menu items that a recipe is joined with. -/
def joinedItems (r : Recipe) : List MenuItem :=
  T.menuItems.filter (fun m => m.id = r.menuItemId ∧ m.tenantId = r.tenantId ∧ m.active)

/-- A sum over the rows of a recipe cost, recipe by recipe. -/
lemma sum_recipeRows (id : String) (f : Column 10 2 → ℚ) :
    ((recipeRows T t id).map (fun row => row.1 * f row.2)).sum =
      ((T.recipes.filter (fun r => r.tenantId = t ∧ r.menuItemId = id ∧ r.active)).map (fun r =>
        ((quantitiesOf T r).map (fun x => x.2 *
          ((joinedIngredients T t x.1).map (fun i => f i.currentPrice)).sum)).sum)).sum := by
  rw [recipeRows, sum_flatMap]
  refine congrArg List.sum (List.map_congr_left (fun r hr => ?_))
  obtain ⟨rfl, -, -⟩ := of_decide_eq_true (List.mem_filter.mp hr).2
  rw [sum_flatMap, quantitiesOf, List.map_map]
  refine congrArg List.sum (List.map_congr_left (fun u _ => ?_))
  rw [List.map_map, Function.comp_apply, ← List.sum_map_mul_left]
  rfl

/-- A sum over the rows that use an ingredient, recipe by recipe. -/
lemma sum_usageRows (g : String) (f : String → ℚ → Column 10 2 → ℚ) :
    ((usageRows T t g).map (fun row => f row.1 row.2.1 row.2.2)).sum =
      ((T.recipes.filter (fun r => r.tenantId = t ∧ r.active)).map (fun r =>
        (((quantitiesOf T r).filter (fun x => x.1 = g)).map (fun x =>
          ((joinedItems T r).map (fun m => f r.menuItemId x.2 m.currentPrice)).sum)).sum)).sum := by
  rw [usageRows, sum_flatMap]
  refine congrArg List.sum (List.map_congr_left (fun r hr => ?_))
  obtain ⟨rfl, -⟩ := of_decide_eq_true (List.mem_filter.mp hr).2
  have hlines : T.recipeIngredients.filter
      (fun u => u.recipeId = r.id ∧ u.tenantId = r.tenantId ∧ u.ingredientId = g) =
      (linesOf T r).filter (fun u => u.ingredientId = g) := by
    rw [linesOf, List.filter_filter]
    refine List.filter_congr (fun u _ => ?_)
    simp only [← Bool.decide_and, and_assoc, and_comm, and_left_comm]
  rw [sum_flatMap, hlines, quantitiesOf, List.filter_map, List.map_map]
  refine congrArg List.sum (List.map_congr_left (fun u _ => ?_))
  rw [List.map_map]
  rfl

end Rows

/-! ### The cost of a dish -/

section Cost

variable {T T' : Tables} {r r₁ r₂ : Recipe} {t id : String}

lemma SplitsRecipe.ingredients_eq (h : SplitsRecipe T T' r r₁ r₂) : T'.ingredients = T.ingredients :=
  (congrArg Tables.ingredients h.frame).trans rfl

lemma SplitsRecipe.menuItems_eq (h : SplitsRecipe T T' r r₁ r₂) : T'.menuItems = T.menuItems :=
  (congrArg Tables.menuItems h.frame).trans rfl

lemma SplitsRecipe.orderVolume_eq (h : SplitsRecipe T T' r r₁ r₂) : T'.orderVolume = T.orderVolume :=
  (congrArg Tables.orderVolume h.frame).trans rfl

/-- The parts weigh what the whole did. -/
lemma SplitsRecipe.weighted_sum (h : SplitsRecipe T T' r r₁ r₂) (w : String → ℚ) :
    ((quantitiesOf T' r₁).map (fun x => x.2 * w x.1)).sum +
        ((quantitiesOf T' r₂).map (fun x => x.2 * w x.1)).sum =
      ((quantitiesOf T r).map (fun x => x.2 * w x.1)).sum := by
  rw [← List.sum_append, ← List.map_append]
  refine weighted_sum_congr (fun g => ?_) w
  rw [amount_append, h.quantities]

lemma quantitiesOf_perm {x : Recipe} (h : (linesOf T' x).Perm (linesOf T x)) :
    (quantitiesOf T' x).Perm (quantitiesOf T x) :=
  h.map _

lemma SplitsRecipe.sum_recipeRows_eq (h : SplitsRecipe T T' r r₁ r₂) (f : Column 10 2 → ℚ) :
    ((recipeRows T' t id).map (fun row => row.1 * f row.2)).sum =
      ((recipeRows T t id).map (fun row => row.1 * f row.2)).sum := by
  obtain ⟨rest, hrecipes, hrecipes', hrest⟩ := h.recipes
  have hjoined : ∀ g, joinedIngredients T' t g = joinedIngredients T t g := by
    intro g
    rw [joinedIngredients, joinedIngredients, h.ingredients_eq]
  simp only [sum_recipeRows, hjoined]
  rw [sum_replace (f := fun x => ((quantitiesOf T x).map (fun y => y.2 *
      ((joinedIngredients T t y.1).map (fun i => f i.currentPrice)).sum)).sum)
    hrecipes hrecipes']
  · rw [h.weighted_sum (fun g => ((joinedIngredients T t g).map (fun i =>
      f i.currentPrice)).sum), sub_self, ite_self, add_zero]
  · simp only [h.tenant.1, h.item.1, h.active.1, h.active.2.1]
  · simp only [h.tenant.2, h.item.2, h.active.1, h.active.2.2]
  · intro x hx
    exact ((quantitiesOf_perm (hrest x hx)).map _).sum_eq

lemma RecipeSchema.mem_recipeRows (h : RecipeSchema T) {row : ℚ × Column 10 2}
    (hrow : row ∈ recipeRows T t id) : 0 < row.1 ∧ row.2.nonneg = true := by
  obtain ⟨x, -, hrow⟩ := List.mem_flatMap.mp hrow
  obtain ⟨u, hu, hrow⟩ := List.mem_flatMap.mp hrow
  obtain ⟨i, hi, rfl⟩ := List.mem_map.mp hrow
  exact ⟨h.quantity_pos u (List.mem_of_mem_filter hu), h.cost_nonneg i (List.mem_of_mem_filter hi)⟩

/-- The loop adds up quantities times prices, and stops at NaN. -/
lemma foldlM_recipeRows {rows : List (ℚ × Column 10 2)}
    (hrows : ∀ row ∈ rows, 0 < row.1 ∧ row.2.nonneg = true) (total : ℚ) :
    rows.foldlM (fun total row => do
        raiseIf (row.2.isNan = true) (simulatorInput "ingredient current price must be finite")
        raiseIf (row.1 ≤ 0)
          (simulatorInput "recipe ingredient quantity must be greater than zero")
        raiseIf (row.2.toRat < 0) (simulatorInput "ingredient current price must not be negative")
        return total + row.1 * row.2.toRat) total =
      if rows.any (fun row => row.2.isNan) then
        .error (simulatorInput "ingredient current price must be finite")
      else .ok (total + (rows.map (fun row => row.1 * row.2.toRat)).sum) := by
  induction rows generalizing total with
  | nil =>
    rw [List.map_nil, List.sum_nil, add_zero]
    rfl
  | cons row rows ih =>
    obtain ⟨hquantity, hprice⟩ := hrows row List.mem_cons_self
    have ih := ih (fun row' h => hrows row' (List.mem_cons_of_mem row h)) (total + row.1 * row.2.toRat)
    rw [List.foldlM_cons, List.map_cons, List.sum_cons, ← add_assoc, List.any_cons]
    cases hnan : row.2.isNan with
    | true =>
      rw [Bool.true_or, if_pos rfl]
      exact error_bind _ _
    | false =>
      have hprice := Column.toRat_nonneg hprice hnan
      have hpass : (do
          raiseIf (false = true) (simulatorInput "ingredient current price must be finite")
          raiseIf (row.1 ≤ 0)
            (simulatorInput "recipe ingredient quantity must be greater than zero")
          raiseIf (row.2.toRat < 0)
            (simulatorInput "ingredient current price must not be negative")
          return total + row.1 * row.2.toRat) = Except.ok (total + row.1 * row.2.toRat) :=
        bind_ok.mpr ⟨(), raiseIf_ok.mpr Bool.false_ne_true,
          bind_ok.mpr ⟨(), raiseIf_ok.mpr (not_le.mpr hquantity),
            bind_ok.mpr ⟨(), raiseIf_ok.mpr (not_lt.mpr hprice), rfl⟩⟩⟩
      rw [Bool.false_or, hpass, ok_bind, ih]

lemma RecipeSchema.loadRecipeCost_eq (h : RecipeSchema T) :
    loadRecipeCost T t id = if recipeRows T t id = [] then .ok none
      else if (recipeRows T t id).any (fun row => row.2.isNan) then
        .error (simulatorInput "ingredient current price must be finite")
      else .ok (some ((recipeRows T t id).map (fun row => row.1 * row.2.toRat)).sum) := by
  have hrows : ∀ row ∈ recipeRows T t id, 0 < row.1 ∧ row.2.nonneg = true :=
    fun row => h.mem_recipeRows
  unfold loadRecipeCost
  cases hfound : recipeRows T t id with
  | nil => rfl
  | cons row rows =>
    rw [hfound] at hrows
    dsimp only
    rw [foldlM_recipeRows hrows, zero_add, if_neg (List.cons_ne_nil _ _)]
    split_ifs
    · rw [error_bind]
    · rw [ok_bind]
      rfl

/-- A recipe without rows is one that weighs nothing. -/
lemma RecipeSchema.recipeRows_nil_iff (h : RecipeSchema T) :
    recipeRows T t id = [] ↔ ((recipeRows T t id).map (fun row => row.1 * 1)).sum = 0 := by
  constructor
  · intro hnil
    rw [hnil]
    rfl
  · intro hsum
    by_contra hne
    refine (List.sum_pos ((recipeRows T t id).map (fun row => row.1 * 1)) ?_ ?_).ne' hsum
    · intro q hq
      obtain ⟨row, hrow, rfl⟩ := List.mem_map.mp hq
      rw [mul_one]
      exact (h.mem_recipeRows hrow).1
    · exact fun hnil => hne (List.map_eq_nil_iff.mp hnil)

/-- A split neither adds an ingredient to a dish nor takes one away. -/
lemma SplitsRecipe.any_recipeRows (h : SplitsRecipe T T' r r₁ r₂) (hT : RecipeSchema T)
    (hT' : RecipeSchema T') (p : Column 10 2 → Bool) :
    (recipeRows T' t id).any (fun row => p row.2) = (recipeRows T t id).any (fun row => p row.2) := by
  rw [Bool.eq_iff_iff, ← sum_pos_iff_any (fun row hrow => (hT'.mem_recipeRows hrow).1),
    ← sum_pos_iff_any (fun row hrow => (hT.mem_recipeRows hrow).1),
    h.sum_recipeRows_eq (fun x => if p x then 1 else 0)]

/-- A split leaves the cost of every dish. -/
theorem SplitsRecipe.loadRecipeCost_eq (h : SplitsRecipe T T' r r₁ r₂) (hT : RecipeSchema T)
    (hT' : RecipeSchema T') : loadRecipeCost T' t id = loadRecipeCost T t id := by
  have hnil : recipeRows T' t id = [] ↔ recipeRows T t id = [] := by
    rw [hT'.recipeRows_nil_iff, hT.recipeRows_nil_iff, h.sum_recipeRows_eq (fun _ => 1)]
  rw [hT'.loadRecipeCost_eq, hT.loadRecipeCost_eq, h.sum_recipeRows_eq Column.toRat,
    h.any_recipeRows hT hT' Column.isNan]
  simp only [hnil]

theorem SplitsRecipe.price_report_eq (h : SplitsRecipe T T' r r₁ r₂) (hT : RecipeSchema T)
    (hT' : RecipeSchema T') (menuItemId newPrice : Value) :
    reportPriceChange T' t menuItemId newPrice = reportPriceChange T t menuItemId newPrice := by
  have hitem : ∀ id, validateMenuItem T' t id = validateMenuItem T t id := by
    intro id
    rw [validateMenuItem, validateMenuItem, Tables.menuItem?, Tables.menuItem?, h.menuItems_eq]
  have hdemand : ∀ id, loadDemandBaseline T' t id = loadDemandBaseline T t id := by
    intro id
    rw [loadDemandBaseline, loadDemandBaseline, h.orderVolume_eq]
  unfold reportPriceChange
  simp only [hitem, hdemand, h.loadRecipeCost_eq hT hT']

end Cost

/-! ### The effect of a supplier switch -/

section Switch

variable (T : Tables) (t : String)

/-- What is used of an ingredient, with a weight for each dish. -/
def usageSum (g : String) (w : String → Column 10 2 → ℚ) : ℚ :=
  ((usageRows T t g).map (fun row => row.2.1 * w row.1 row.2.2)).sum

/-- What is used of an ingredient, by demand. -/
def usageAmount (g : String) : ℚ := usageSum T t g (fun id _ => (loadDemandBaseline T t id).getD 1)

/-- The value that a switch of the ingredient is set against. -/
def usageValue (g : String) : ℚ :=
  ((usageRows T t g).map (fun row => row.2.2.toRat * (loadDemandBaseline T t row.1).getD 1)).sum

/-- What the item of a recipe brings in. -/
def itemValue (r : Recipe) : ℚ :=
  ((joinedItems T r).map (fun m =>
    m.currentPrice.toRat * (loadDemandBaseline T t r.menuItemId).getD 1)).sum

/-- The lines of a recipe that need the ingredient. -/
def usesOf (r : Recipe) (g : String) : ℚ :=
  ((quantitiesOf T r).filter (fun x => x.1 = g)).length

lemma switchMargin_eq (g : String) (new old : ℚ) :
    switchMargin T t g new old =
      if 0 < usageValue T t g then -(new - old) * usageAmount T t g / usageValue T t g else 0 := by
  have himpact : ((usageRows T t g).map (fun row =>
      -(row.2.1 * (new - old)) * (loadDemandBaseline T t row.1).getD 1)).sum =
      -(new - old) * usageAmount T t g := by
    rw [usageAmount, usageSum, ← List.sum_map_mul_left]
    refine congrArg List.sum (List.map_congr_left (fun row _ => ?_))
    ring
  unfold switchMargin
  simp only [List.map_map, Function.comp_def, himpact]
  rfl

lemma usageSum_eq (g : String) (w : String → Column 10 2 → ℚ) :
    usageSum T t g w = ((T.recipes.filter (fun r => r.tenantId = t ∧ r.active)).map (fun r =>
      amount (quantitiesOf T r) g *
        ((joinedItems T r).map (fun m => w r.menuItemId m.currentPrice)).sum)).sum := by
  rw [usageSum, sum_usageRows T t g (fun id q price => q * w id price)]
  refine congrArg List.sum (List.map_congr_left (fun r _ => ?_))
  rw [amount, ← List.sum_map_mul_right]
  refine congrArg List.sum (List.map_congr_left (fun x _ => ?_))
  rw [List.sum_map_mul_left]

lemma usageValue_eq (g : String) :
    usageValue T t g = ((T.recipes.filter (fun r => r.tenantId = t ∧ r.active)).map (fun r =>
      usesOf T r g * itemValue T t r)).sum := by
  rw [usageValue,
    sum_usageRows T t g (fun id _ price => price.toRat * (loadDemandBaseline T t id).getD 1)]
  refine congrArg List.sum (List.map_congr_left (fun r _ => ?_))
  rw [usesOf, ← nsmul_eq_mul, ← List.sum_replicate, ← List.map_const']
  rfl

end Switch

section SwitchSplit

variable {T T' : Tables} {r r₁ r₂ : Recipe} {t g : String}

lemma SplitsRecipe.demand_eq (h : SplitsRecipe T T' r r₁ r₂) (id : String) :
    loadDemandBaseline T' t id = loadDemandBaseline T t id := by
  rw [loadDemandBaseline, loadDemandBaseline, h.orderVolume_eq]

lemma SplitsRecipe.joinedItems_eq (h : SplitsRecipe T T' r r₁ r₂) {x y : Recipe}
    (htenant : x.tenantId = y.tenantId) (hitem : x.menuItemId = y.menuItemId) :
    joinedItems T' x = joinedItems T y := by
  rw [joinedItems, joinedItems, h.menuItems_eq, htenant, hitem]

lemma SplitsRecipe.itemValue_eq (h : SplitsRecipe T T' r r₁ r₂) {x y : Recipe}
    (htenant : x.tenantId = y.tenantId) (hitem : x.menuItemId = y.menuItemId) :
    itemValue T' t x = itemValue T t y := by
  rw [itemValue, itemValue, h.joinedItems_eq htenant hitem, h.demand_eq, hitem]

/-- A split leaves what is used of an ingredient. -/
lemma SplitsRecipe.usageSum_eq (h : SplitsRecipe T T' r r₁ r₂) (w : String → Column 10 2 → ℚ) :
    usageSum T' t g w = usageSum T t g w := by
  obtain ⟨rest, hrecipes, hrecipes', hrest⟩ := h.recipes
  rw [OpsCopilot.usageSum_eq, OpsCopilot.usageSum_eq, sum_replace
    (f := fun x => amount (quantitiesOf T x) g *
      ((joinedItems T x).map (fun m => w x.menuItemId m.currentPrice)).sum) hrecipes hrecipes']
  · rw [h.joinedItems_eq h.tenant.1 h.item.1, h.joinedItems_eq h.tenant.2 h.item.2,
      h.item.1, h.item.2, ← add_mul, h.quantities, sub_self, ite_self, add_zero]
  · simp only [h.tenant.1, h.active.1, h.active.2.1]
  · simp only [h.tenant.2, h.active.1, h.active.2.2]
  · intro x hx
    have hamount : amount (quantitiesOf T' x) g = amount (quantitiesOf T x) g :=
      (((quantitiesOf_perm (hrest x hx)).filter _).map _).sum_eq
    rw [h.joinedItems_eq rfl rfl, hamount]

lemma SplitsRecipe.usageAmount_eq (h : SplitsRecipe T T' r r₁ r₂) :
    usageAmount T' t g = usageAmount T t g := by
  rw [usageAmount, usageAmount, h.usageSum_eq]
  simp only [h.demand_eq]

/-- A split adds the value of the item for every line that there is more. -/
lemma SplitsRecipe.usageValue_eq (h : SplitsRecipe T T' r r₁ r₂) :
    usageValue T' t g = usageValue T t g + if r.tenantId = t then
      (usesOf T' r₁ g + usesOf T' r₂ g - usesOf T r g) * itemValue T t r else 0 := by
  obtain ⟨rest, hrecipes, hrecipes', hrest⟩ := h.recipes
  rw [OpsCopilot.usageValue_eq, OpsCopilot.usageValue_eq, sum_replace
    (f := fun x => usesOf T x g * itemValue T t x) hrecipes hrecipes']
  · rw [h.itemValue_eq h.tenant.1 h.item.1, h.itemValue_eq h.tenant.2 h.item.2, ← add_mul, ← sub_mul]
    simp only [h.active.1, and_true, decide_eq_true_eq]
  · simp only [h.tenant.1, h.active.1, h.active.2.1]
  · simp only [h.tenant.2, h.active.1, h.active.2.2]
  · intro x hx
    rw [h.itemValue_eq rfl rfl, usesOf, usesOf,
      ((quantitiesOf_perm (hrest x hx)).filter _).length_eq]

/-- A recipe needs an ingredient in one line at most. -/
lemma RecipeSchema.usesOf_eq (hT : RecipeSchema T) (x : Recipe) [Decidable
    (∃ u ∈ linesOf T x, u.ingredientId = g)] :
    usesOf T x g = if ∃ u ∈ linesOf T x, u.ingredientId = g then 1 else 0 := by
  have hlines : ((quantitiesOf T x).filter (fun y => y.1 = g)).length =
      ((linesOf T x).filter (fun u => u.ingredientId = g)).length := by
    rw [quantitiesOf, List.filter_map, List.length_map]
    rfl
  rw [usesOf, hlines]
  split_ifs with hneeds
  · obtain ⟨u, hu, hg⟩ := hneeds
    have hmem : u ∈ (linesOf T x).filter (fun u => u.ingredientId = g) :=
      List.mem_filter.mpr ⟨hu, decide_eq_true hg⟩
    have hnever : ((linesOf T x).filter (fun u => u.ingredientId = g)).Pairwise (fun _ _ => False) := by
      refine ((hT.once.filter _).filter _).imp_of_mem (fun {a b} ha hb hab => hab ?_)
      obtain ⟨ha, hag⟩ := List.mem_filter.mp ha
      obtain ⟨hb, hbg⟩ := List.mem_filter.mp hb
      obtain ⟨haid, hat⟩ := of_decide_eq_true (List.mem_filter.mp ha).2
      obtain ⟨hbid, hbt⟩ := of_decide_eq_true (List.mem_filter.mp hb).2
      exact ⟨hat.trans hbt.symm, haid.trans hbid.symm,
        (of_decide_eq_true hag).trans (of_decide_eq_true hbg).symm⟩
    cases hrows : (linesOf T x).filter (fun u => u.ingredientId = g) with
    | nil =>
      rw [hrows] at hmem
      exact absurd hmem List.not_mem_nil
    | cons a rows =>
      cases rows with
      | nil => rw [List.length_singleton, Nat.cast_one]
      | cons b rows =>
        rw [hrows] at hnever
        exact absurd ((List.pairwise_cons.mp hnever).1 b List.mem_cons_self) id
  · have hnil : (linesOf T x).filter (fun u => u.ingredientId = g) = [] :=
      List.filter_eq_nil_iff.mpr (fun u hu hg => hneeds ⟨u, hu, of_decide_eq_true hg⟩)
    rw [hnil, List.length_nil, Nat.cast_zero]

lemma RecipeSchema.needs_iff (hT : RecipeSchema T) (x : Recipe) :
    0 < amount (quantitiesOf T x) g ↔ ∃ u ∈ linesOf T x, u.ingredientId = g := by
  rw [amount_pos_iff]
  · simp only [quantitiesOf, List.mem_map, exists_exists_and_eq_and]
  · intro y hy
    obtain ⟨u, hu, rfl⟩ := List.mem_map.mp hy
    exact hT.quantity_pos u (List.mem_of_mem_filter hu)

lemma RecipeSchema.amount_nonneg (hT : RecipeSchema T) (x : Recipe) :
    0 ≤ amount (quantitiesOf T x) g := by
  refine List.sum_nonneg (fun q hq => ?_)
  obtain ⟨y, hy, rfl⟩ := List.mem_map.mp hq
  obtain ⟨u, hu, rfl⟩ := List.mem_map.mp (List.mem_of_mem_filter hy)
  exact (hT.quantity_pos u (List.mem_of_mem_filter hu)).le

/-- The whole needs what one of its parts needs. -/
lemma SplitsRecipe.needs_iff (h : SplitsRecipe T T' r r₁ r₂) (hT : RecipeSchema T)
    (hT' : RecipeSchema T') :
    (∃ u ∈ linesOf T r, u.ingredientId = g) ↔
      (∃ u ∈ linesOf T' r₁, u.ingredientId = g) ∨ ∃ u ∈ linesOf T' r₂, u.ingredientId = g := by
  have h₁ := hT'.amount_nonneg (g := g) r₁
  have h₂ := hT'.amount_nonneg (g := g) r₂
  rw [← hT.needs_iff, ← hT'.needs_iff, ← hT'.needs_iff, ← h.quantities]
  constructor
  · intro hsum
    by_contra hnone
    push Not at hnone
    linarith [hnone.1, hnone.2]
  · rintro (hpos | hpos)
    · linarith
    · linarith

/-- An ingredient that both parts need is counted once more. -/
lemma SplitsRecipe.usesOf_eq (h : SplitsRecipe T T' r r₁ r₂) (hT : RecipeSchema T)
    (hT' : RecipeSchema T') [Decidable (SharedIngredient T' r₁ r₂ g)] :
    usesOf T' r₁ g + usesOf T' r₂ g - usesOf T r g =
      if SharedIngredient T' r₁ r₂ g then 1 else 0 := by
  classical
  rw [hT'.usesOf_eq, hT'.usesOf_eq, hT.usesOf_eq]
  have hwhole := h.needs_iff (g := g) hT hT'
  by_cases h₁ : ∃ u ∈ linesOf T' r₁, u.ingredientId = g
  · rw [if_pos h₁, if_pos (hwhole.mpr (.inl h₁))]
    by_cases h₂ : ∃ u ∈ linesOf T' r₂, u.ingredientId = g
    · have hshared : SharedIngredient T' r₁ r₂ g := ⟨h₁, h₂⟩
      rw [if_pos h₂, if_pos hshared, add_sub_cancel_left]
    · have hown : ¬SharedIngredient T' r₁ r₂ g := fun h => h₂ h.2
      rw [if_neg h₂, if_neg hown, add_zero, sub_self]
  · have hown : ¬SharedIngredient T' r₁ r₂ g := fun h => h₁ h.1
    rw [if_neg h₁, if_neg hown, zero_add]
    by_cases h₂ : ∃ u ∈ linesOf T' r₂, u.ingredientId = g
    · rw [if_pos h₂, if_pos (hwhole.mpr (.inr h₂)), sub_self]
    · rw [if_neg h₂, if_neg (fun h => (hwhole.mp h).elim h₁ h₂), sub_self]

lemma RecipeSchema.mem_usageRows (hT : RecipeSchema T) {row : String × ℚ × Column 10 2}
    (hrow : row ∈ usageRows T t g) : 0 < row.2.1 ∧ row.2.2.nonneg = true := by
  obtain ⟨x, -, hrow⟩ := List.mem_flatMap.mp hrow
  obtain ⟨u, hu, hrow⟩ := List.mem_flatMap.mp hrow
  obtain ⟨m, hm, rfl⟩ := List.mem_map.mp hrow
  exact ⟨hT.quantity_pos u (List.mem_of_mem_filter hu), hT.price_nonneg m (List.mem_of_mem_filter hm)⟩

/-- A split neither takes an ingredient into a dish nor out of one. -/
lemma SplitsRecipe.usesPriced_iff (h : SplitsRecipe T T' r r₁ r₂) (hT : RecipeSchema T)
    (hT' : RecipeSchema T') : UsesPriced T' t g ↔ UsesPriced T t g := by
  have hany : (usageRows T' t g).any (fun row => row.2.2.isNan) = true ↔
      (usageRows T t g).any (fun row => row.2.2.isNan) = true := by
    rw [← sum_pos_iff_any (fun row hrow => (hT'.mem_usageRows hrow).1),
      ← sum_pos_iff_any (fun row hrow => (hT.mem_usageRows hrow).1)]
    exact iff_of_eq (congrArg (0 < ·) (h.usageSum_eq (fun _ price => if price.isNan then 1 else 0)))
  rw [UsesPriced, UsesPriced, Bool.eq_false_iff, Bool.eq_false_iff, ne_eq, ne_eq, hany]

/-- A line of a recipe for the ingredient is joined with the dishes of the recipe. -/
lemma mem_usageRows_of_line {x : Recipe} {u : RecipeIngredient} {m : MenuItem} (hx : x ∈ T.recipes)
    (hactive : x.active = true) (htenant : x.tenantId = t) (hu : u ∈ linesOf T x)
    (hg : u.ingredientId = g) (hm : m ∈ joinedItems T x) :
    (x.menuItemId, u.quantity.toRat, m.currentPrice) ∈ usageRows T t g := by
  obtain ⟨hu, hline⟩ := List.mem_filter.mp hu
  obtain ⟨huid, hut⟩ := of_decide_eq_true hline
  obtain ⟨hm, hitem⟩ := List.mem_filter.mp hm
  obtain ⟨hid, hmt, hmactive⟩ := of_decide_eq_true hitem
  exact List.mem_flatMap.mpr ⟨x, List.mem_filter.mpr ⟨hx, decide_eq_true ⟨htenant, hactive⟩⟩,
    List.mem_flatMap.mpr ⟨u, List.mem_filter.mpr ⟨hu, decide_eq_true
      ⟨huid, hut.trans htenant, hg⟩⟩,
      List.mem_map_of_mem (List.mem_filter.mpr ⟨hm, decide_eq_true
        ⟨hid, hmt.trans htenant, hmactive⟩⟩)⟩⟩

/-- The dishes of a recipe that needs the ingredient have prices when all that use it do. -/
lemma RecipeSchema.price_nonneg_of_needs (hT : RecipeSchema T) (hpriced : UsesPriced T t g)
    (hr : r ∈ T.recipes) (hactive : r.active = true) (htenant : r.tenantId = t)
    (hneeds : ∃ u ∈ linesOf T r, u.ingredientId = g) :
    ∀ m ∈ joinedItems T r, 0 ≤ m.currentPrice.toRat := by
  intro m hm
  obtain ⟨u, hu, hg⟩ := hneeds
  have hrow := mem_usageRows_of_line hr hactive htenant hu hg hm
  exact Column.toRat_nonneg (hT.price_nonneg m (List.mem_of_mem_filter hm)) (hpriced.isNan hrow)

lemma itemValue_nonneg (hprices : ∀ m ∈ joinedItems T r, 0 ≤ m.currentPrice.toRat) :
    0 ≤ itemValue T t r := by
  refine List.sum_nonneg (fun q hq => ?_)
  obtain ⟨m, hm, rfl⟩ := List.mem_map.mp hq
  exact mul_nonneg (hprices m hm) (demand_pos T t _).le

/-- The item of a recipe brings something in when it is on sale. -/
lemma itemValue_pos_iff (hprices : ∀ m ∈ joinedItems T r, 0 ≤ m.currentPrice.toRat)
    (htenant : r.tenantId = t) : 0 < itemValue T t r ↔ OnSale T t r.menuItemId := by
  have hdemand := demand_pos T t r.menuItemId
  constructor
  · intro hpos
    by_contra hoff
    have hzero : ∀ q ∈ (joinedItems T r).map (fun m =>
        m.currentPrice.toRat * (loadDemandBaseline T t r.menuItemId).getD 1), q = 0 := by
      intro q hq
      obtain ⟨m, hjoined, rfl⟩ := List.mem_map.mp hq
      obtain ⟨hmem, hm⟩ := List.mem_filter.mp hjoined
      obtain ⟨hid, hmt, hactive⟩ := of_decide_eq_true hm
      have hprice : ¬0 < m.currentPrice.toRat := fun hprice =>
        hoff ⟨m, hmem, hid, hmt.trans htenant, hactive, hprice⟩
      rw [le_antisymm (not_lt.mp hprice) (hprices m hjoined), zero_mul]
    rw [itemValue, List.sum_eq_zero hzero] at hpos
    exact lt_irrefl _ hpos
  · rintro ⟨m, hmem, hid, hmt, hactive, hprice⟩
    have hm : m ∈ joinedItems T r :=
      List.mem_filter.mpr ⟨hmem, decide_eq_true ⟨hid, hmt.trans htenant.symm, hactive⟩⟩
    refine (mul_pos hprice hdemand).trans_le
      (List.single_le_sum (fun q hq => ?_) _ (List.mem_map_of_mem hm))
    obtain ⟨m', hm', rfl⟩ := List.mem_map.mp hq
    exact mul_nonneg (hprices m' hm') hdemand.le

/-- An active recipe that needs the ingredient for an item on sale shows in the totals. -/
lemma RecipeSchema.usage_pos (hT : RecipeSchema T) (hpriced : UsesPriced T t g)
    (hr : r ∈ T.recipes) (hactive : r.active = true) (htenant : r.tenantId = t)
    (hneeds : ∃ u ∈ linesOf T r, u.ingredientId = g) (hsale : OnSale T t r.menuItemId) :
    0 < usageAmount T t g ∧ 0 < usageValue T t g := by
  obtain ⟨u, hu, hg⟩ := hneeds
  obtain ⟨m, hm, hid, hmt, hmactive, hprice⟩ := hsale
  have hrow : (r.menuItemId, u.quantity.toRat, m.currentPrice) ∈ usageRows T t g :=
    mem_usageRows_of_line hr hactive htenant hu hg (List.mem_filter.mpr ⟨hm, decide_eq_true
      ⟨hid, hmt.trans htenant.symm, hmactive⟩⟩)
  constructor
  · refine List.sum_pos _ (fun q hq => ?_) (List.ne_nil_of_mem (List.mem_map_of_mem hrow))
    obtain ⟨row, hrow, rfl⟩ := List.mem_map.mp hq
    exact mul_pos (hT.mem_usageRows hrow).1 (demand_pos T t _)
  · refine (mul_pos hprice (demand_pos T t r.menuItemId)).trans_le
      (List.single_le_sum (fun q hq => ?_) _ (List.mem_map_of_mem hrow))
    obtain ⟨row, hrow, rfl⟩ := List.mem_map.mp hq
    exact mul_nonneg (Column.toRat_nonneg (hT.mem_usageRows hrow).2 (hpriced.isNan hrow))
      (demand_pos T t _).le

/-- A split changes the effect of a switch exactly when the value of an item on sale is counted
once more. -/
theorem SplitsRecipe.switchMargin_eq_iff (h : SplitsRecipe T T' r r₁ r₂) (hT : RecipeSchema T)
    (hT' : RecipeSchema T') (hpriced : UsesPriced T t g) {new old : ℚ} :
    switchMargin T' t g new old = switchMargin T t g new old ↔
      ¬(r.tenantId = t ∧ SharedIngredient T' r₁ r₂ g ∧ OnSale T t r.menuItemId ∧ new ≠ old) := by
  classical
  have hvalue := h.usageValue_eq (t := t) (g := g)
  rw [h.usesOf_eq hT hT', ite_mul, one_mul, zero_mul] at hvalue
  rw [switchMargin_eq, switchMargin_eq, h.usageAmount_eq]
  obtain ⟨rest, hrecipes, -⟩ := h.recipes
  have hr : r ∈ T.recipes := hrecipes.mem_iff.mpr List.mem_cons_self
  have hprices : r.tenantId = t → SharedIngredient T' r₁ r₂ g →
      ∀ m ∈ joinedItems T r, 0 ≤ m.currentPrice.toRat := fun htenant hshared =>
    hT.price_nonneg_of_needs hpriced hr h.active.1 htenant
      ((h.needs_iff hT hT').mpr (.inl hshared.1))
  by_cases hcounted : r.tenantId = t ∧ SharedIngredient T' r₁ r₂ g ∧ OnSale T t r.menuItemId
  · obtain ⟨htenant, hshared, hsale⟩ := hcounted
    obtain ⟨hamount, hold⟩ := hT.usage_pos hpriced hr h.active.1 htenant
      ((h.needs_iff hT hT').mpr (.inl hshared.1)) hsale
    have hitem := (itemValue_pos_iff (hprices htenant hshared) htenant).mpr hsale
    rw [if_pos htenant, if_pos hshared] at hvalue
    have hnew : 0 < usageValue T' t g := by linarith
    rw [if_pos hnew, if_pos hold, div_eq_div_iff hnew.ne' hold.ne', hvalue]
    constructor
    · rintro heq ⟨-, -, -, hne⟩
      have hproduct : (new - old) * usageAmount T t g * itemValue T t r = 0 := by linarith
      exact (mul_ne_zero (mul_ne_zero (sub_ne_zero.mpr hne) hamount.ne') hitem.ne') hproduct
    · intro hsame
      have hprice : new = old := by
        by_contra hne
        exact hsame ⟨htenant, hshared, hsale, hne⟩
      rw [hprice, sub_self, neg_zero, zero_mul, zero_mul, zero_mul]
  · have hextra : usageValue T' t g = usageValue T t g := by
      rw [hvalue]
      split_ifs with htenant hshared
      · have hoff := (itemValue_pos_iff (hprices htenant hshared) htenant).not.mpr
          (fun hsale => hcounted ⟨htenant, hshared, hsale⟩)
        rw [le_antisymm (not_lt.mp hoff) (itemValue_nonneg (hprices htenant hshared)), add_zero]
      · rw [add_zero]
      · rw [add_zero]
    rw [hextra]
    exact ⟨fun _ hall => hcounted ⟨hall.1, hall.2.1, hall.2.2.1⟩, fun _ => rfl⟩

end SwitchSplit

/-! ### Both predictions -/

/-- The level of the ingredient, if it has one, is a number. -/
def StockNumber (T : Tables) (t g : String) : Prop :=
  ((T.inventory? t g).map InventoryLevel.quantity).any Column.isNan = false

/-- The switch is set against the value of the split item once for each part: both parts need the
ingredient, the item is on sale, and the ingredient does get another price. The checks of the
simulator pass. -/
def CountedTwice (T T' : Tables) (t : String) (r r₁ r₂ : Recipe) (ingredientId newPrice : Value) :
    Prop :=
  ∃ g n i, validateIdentifier ingredientId "ingredient_id" = .ok g ∧
    toPositiveDecimal newPrice "new_supplier_price" = .ok n ∧ T.ingredient? t g = some i ∧
    (0 < i.currentPrice.toRat ∧ UsesPriced T t g ∧ StockNumber T t g) ∧ r.tenantId = t ∧
    SharedIngredient T' r₁ r₂ g ∧ OnSale T t r.menuItemId ∧ n ≠ i.currentPrice.toRat

section Both

variable {T T' : Tables} {r r₁ r₂ : Recipe} {t : String}

/-- The checks on what the tables say about a switch. -/
def switchLevel (T : Tables) (t g : String) (i : Ingredient) : Except PyException (Option ℚ) := do
  raiseIf (i.currentPrice.isNan = true) (simulatorInput "ingredient current price must be finite")
  raiseIf (i.currentPrice.toRat ≤ 0)
    (simulatorInput "ingredient current price must be greater than zero")
  raiseIf ((usageRows T t g).any (fun row => row.2.2.isNan) = true)
    (simulatorInput "menu item current price must be finite")
  loadInventoryLevel T t g

/-- The margin change of a report on a switch, behind the checks. -/
lemma reportSupplierSwitch_margin (T : Tables) (t : String) (ingredientId newPrice : Value) :
    (reportSupplierSwitch T t ingredientId newPrice).map Report.marginChangePct = (do
      let g ← validateIdentifier ingredientId "ingredient_id"
      let n ← toPositiveDecimal newPrice "new_supplier_price"
      let i ← validateIngredient T t g
      let _ ← switchLevel T t g i
      return switchMargin T t g n i.currentPrice.toRat) := by
  unfold reportSupplierSwitch switchLevel
  simp only [bind_assoc, map_bind_eq]
  rfl

lemma switchLevel_ok {g : String} {i : Ingredient} : (∃ level, switchLevel T t g i = .ok level) ↔
    0 < i.currentPrice.toRat ∧ UsesPriced T t g ∧ StockNumber T t g := by
  constructor
  · rintro ⟨level, h⟩
    obtain ⟨_, -, h⟩ := bind_ok.mp h
    obtain ⟨_, hprice, h⟩ := bind_ok.mp h
    obtain ⟨_, huses, h⟩ := bind_ok.mp h
    obtain ⟨_, hstock, -⟩ := bind_ok.mp h
    exact ⟨not_le.mp (raiseIf_ok.mp hprice), Bool.eq_false_iff.mpr (raiseIf_ok.mp huses),
      Bool.eq_false_iff.mpr (raiseIf_ok.mp hstock)⟩
  · rintro ⟨hprice, huses, hstock⟩
    exact ⟨_, bind_ok.mpr ⟨(), raiseIf_ok.mpr
        (Bool.eq_false_iff.mp (Column.isNan_of_nonneg hprice.le)),
      bind_ok.mpr ⟨(), raiseIf_ok.mpr (not_le.mpr hprice),
        bind_ok.mpr ⟨(), raiseIf_ok.mpr (Bool.eq_false_iff.mp huses),
          bind_ok.mpr ⟨(), raiseIf_ok.mpr (Bool.eq_false_iff.mp hstock), rfl⟩⟩⟩⟩⟩

/-- A split leaves the outcome of the checks. -/
lemma SplitsRecipe.switchLevel_eq (h : SplitsRecipe T T' r r₁ r₂) (hT : RecipeSchema T)
    (hT' : RecipeSchema T') (g : String) (i : Ingredient) :
    switchLevel T' t g i = switchLevel T t g i := by
  have hlevel : loadInventoryLevel T' t g = loadInventoryLevel T t g := by
    rw [h.frame]
    rfl
  have huses : (usageRows T' t g).any (fun row => row.2.2.isNan) =
      (usageRows T t g).any (fun row => row.2.2.isNan) := by
    have hiff := h.usesPriced_iff (t := t) (g := g) hT hT'
    rwa [UsesPriced, UsesPriced, Bool.eq_false_iff, Bool.eq_false_iff, not_iff_not,
      ← Bool.eq_iff_iff] at hiff
  rw [switchLevel, switchLevel, hlevel, huses]

lemma SplitsRecipe.validateIngredient_eq (h : SplitsRecipe T T' r r₁ r₂) (g : String) :
    validateIngredient T' t g = validateIngredient T t g := by
  rw [validateIngredient, validateIngredient, Tables.ingredient?, Tables.ingredient?,
    h.ingredients_eq]

lemma validateIngredient_ok {g : String} {i : Ingredient} :
    validateIngredient T t g = .ok i ↔ T.ingredient? t g = some i := by
  rw [validateIngredient]
  cases T.ingredient? t g with
  | none => exact iff_of_false nofun nofun
  | some found => exact ⟨fun h => congrArg some (Except.ok.inj h),
      fun h => congrArg Except.ok (Option.some.inj h)⟩

lemma SplitsRecipe.switch_report_iff (h : SplitsRecipe T T' r r₁ r₂) (hT : RecipeSchema T)
    (hT' : RecipeSchema T') (ingredientId newPrice : Value) :
    (reportSupplierSwitch T' t ingredientId newPrice).map Report.marginChangePct =
        (reportSupplierSwitch T t ingredientId newPrice).map Report.marginChangePct ↔
      ¬CountedTwice T T' t r r₁ r₂ ingredientId newPrice := by
  rw [reportSupplierSwitch_margin, reportSupplierSwitch_margin]
  simp only [h.validateIngredient_eq, h.switchLevel_eq hT hT']
  -- Where a check fails, it fails before and after the split.
  cases hg : validateIdentifier ingredientId "ingredient_id" with
  | error e =>
    rw [error_bind, error_bind]
    refine iff_of_true rfl (fun hcounted => ?_)
    obtain ⟨g, n, i, hg', -⟩ := hcounted
    exact absurd (hg.symm.trans hg') nofun
  | ok g =>
  rw [ok_bind, ok_bind]
  cases hn : toPositiveDecimal newPrice "new_supplier_price" with
  | error e =>
    rw [error_bind, error_bind]
    refine iff_of_true rfl (fun hcounted => ?_)
    obtain ⟨g, n, i, -, hn', -⟩ := hcounted
    exact absurd (hn.symm.trans hn') nofun
  | ok n =>
  rw [ok_bind, ok_bind]
  cases hi : validateIngredient T t g with
  | error e =>
    rw [error_bind, error_bind]
    refine iff_of_true rfl (fun hcounted => ?_)
    obtain ⟨g', n', i, hg', -, hi', -⟩ := hcounted
    obtain rfl := Except.ok.inj (hg.symm.trans hg')
    exact absurd (hi.symm.trans (validateIngredient_ok.mpr hi')) nofun
  | ok i =>
  rw [ok_bind, ok_bind]
  cases hlevel : switchLevel T t g i with
  | error e =>
    rw [error_bind, error_bind]
    refine iff_of_true rfl (fun hcounted => ?_)
    obtain ⟨g', n', i', hg', -, hi', hchecks, -⟩ := hcounted
    obtain rfl := Except.ok.inj (hg.symm.trans hg')
    obtain rfl := Except.ok.inj (hi.symm.trans (validateIngredient_ok.mpr hi'))
    obtain ⟨level, hlevel'⟩ := switchLevel_ok.mpr hchecks
    exact absurd (hlevel.symm.trans hlevel') nofun
  | ok level =>
    obtain ⟨hprice, huses, hstock⟩ := switchLevel_ok.mp ⟨level, hlevel⟩
    rw [ok_bind, ok_bind]
    refine pure_ok.trans ?_
    rw [h.switchMargin_eq_iff hT hT' huses, not_iff_not]
    constructor
    · intro hall
      exact ⟨g, n, i, hg, hn, validateIngredient_ok.mp hi, ⟨hprice, huses, hstock⟩, hall⟩
    · rintro ⟨g', n', i', hg', hn', hi', -, hall⟩
      obtain rfl := Except.ok.inj (hg.symm.trans hg')
      obtain rfl := Except.ok.inj (hn.symm.trans hn')
      obtain rfl := Except.ok.inj (hi.symm.trans (validateIngredient_ok.mpr hi'))
      exact hall

/-- A split of a recipe leaves every margin change that the simulator predicts, except that of a
switch of an ingredient that both parts need. -/
theorem split_predictions_iff (h : SplitsRecipe T T' r r₁ r₂) (hT : RecipeSchema T)
    (hT' : RecipeSchema T') (menuItemId newPrice ingredientId newSupplierPrice : Value) :
    (reportPriceChange T' t menuItemId newPrice).map Report.marginChangePct =
        (reportPriceChange T t menuItemId newPrice).map Report.marginChangePct ∧
      ((reportSupplierSwitch T' t ingredientId newSupplierPrice).map Report.marginChangePct =
          (reportSupplierSwitch T t ingredientId newSupplierPrice).map Report.marginChangePct ↔
        ¬CountedTwice T T' t r r₁ r₂ ingredientId newSupplierPrice) := by
  refine ⟨?_, h.switch_report_iff hT hT' ingredientId newSupplierPrice⟩
  rw [h.price_report_eq hT hT']

end Both

/-! ### Pasta from two doughs -/

/-- Pasta for 10.50 with its recipes; flour costs 2.10. -/
def pastaTables (recipes : List Recipe) (lines : List RecipeIngredient) : Tables :=
  { Tables.empty with
    ingredients := [⟨"flour", "t", .number ⟨210, by decide⟩, none, .number ⟨3, by decide⟩⟩]
    menuItems := [⟨"pasta", "t", "Pasta", .number ⟨1050, by decide⟩, true⟩]
    recipes := recipes
    recipeIngredients := lines }

def dough (id : String) : Recipe := ⟨id, "t", "pasta", true⟩

def wholeDough : Tables := pastaTables [dough "r"] [⟨"t", "r", "flour", ⟨42000, by decide⟩⟩]

def twoDoughs : Tables :=
  pastaTables [dough "r1", dough "r2"]
    [⟨"t", "r1", "flour", ⟨21000, by decide⟩⟩, ⟨"t", "r2", "flour", ⟨21000, by decide⟩⟩]

lemma wholeDough_schema : RecipeSchema wholeDough where
  quantity_pos := by decide +kernel
  once := by decide +kernel
  cost_nonneg := by decide +kernel
  price_nonneg := by decide +kernel

lemma twoDoughs_schema : RecipeSchema twoDoughs where
  quantity_pos := by decide +kernel
  once := by decide +kernel
  cost_nonneg := by decide +kernel
  price_nonneg := by decide +kernel

lemma doughs_split : SplitsRecipe wholeDough twoDoughs (dough "r") (dough "r1") (dough "r2") where
  active := ⟨rfl, rfl, rfl⟩
  tenant := ⟨rfl, rfl⟩
  item := ⟨rfl, rfl⟩
  recipes := ⟨[], .refl _, .refl _, fun x hx => absurd hx List.not_mem_nil⟩
  quantities := by
    intro g
    have hwhole : quantitiesOf wholeDough (dough "r") = [("flour", 21 / 5)] := by decide +kernel
    have hfirst : quantitiesOf twoDoughs (dough "r1") = [("flour", 21 / 10)] := by decide +kernel
    have hsecond : quantitiesOf twoDoughs (dough "r2") = [("flour", 21 / 10)] := by decide +kernel
    rw [hwhole, hfirst, hsecond, amount_cons, amount_cons]
    change (if "flour" = g then (21 / 10 : ℚ) else 0) + 0 +
      ((if "flour" = g then 21 / 10 else 0) + 0) = (if "flour" = g then 21 / 5 else 0) + 0
    split_ifs <;> norm_num
  frame := rfl

/-- Flour for 3.00 costs 36 per cent of the margin with one recipe, and 18 with two. -/
theorem split_changes_prediction :
    SplitsRecipe wholeDough twoDoughs (dough "r") (dough "r1") (dough "r2") ∧
      (reportSupplierSwitch wholeDough "t" (.str "flour") (.int 3)).map Report.marginChangePct =
        .ok (-9 / 25) ∧
      (reportSupplierSwitch twoDoughs "t" (.str "flour") (.int 3)).map Report.marginChangePct =
        .ok (-9 / 50) :=
  ⟨doughs_split, by decide +kernel, by decide +kernel⟩

theorem split_predictions_iff_dough :
    (reportPriceChange twoDoughs "t" (.str "pasta") (.int 11)).map Report.marginChangePct =
        (reportPriceChange wholeDough "t" (.str "pasta") (.int 11)).map Report.marginChangePct ∧
      ((reportSupplierSwitch twoDoughs "t" (.str "flour") (.int 3)).map Report.marginChangePct =
          (reportSupplierSwitch wholeDough "t" (.str "flour") (.int 3)).map
            Report.marginChangePct ↔
        ¬CountedTwice wholeDough twoDoughs "t" (dough "r") (dough "r1") (dough "r2")
          (.str "flour") (.int 3)) :=
  split_predictions_iff doughs_split wholeDough_schema twoDoughs_schema (.str "pasta") (.int 11)
    (.str "flour") (.int 3)

end OpsCopilot
