import OpsCopilot.Proofs.Seeding
import OpsCopilot.Proofs.TenantRows

/-!
# Seeding again

A seeding adds the tenants that are missing and touches no row of the others. To seed the same
configuration again changes nothing and has the same result.
-/

namespace OpsCopilot

open Python Sql Fallible KeyedRows

/-! ### The rows of the others -/

section Others

variable {draw : SeedDraw} {o : String} {T T' : Tables}

lemma seedSupplier_other {entry : String × ℕ} (ho : draw.tenant ≠ o)
    (h : seedSupplier draw T entry = .ok T') : T'.rowsOf o = T.rowsOf o := by
  obtain ⟨_, -, h⟩ := bind_ok.mp h
  obtain ⟨rows, hrows, h⟩ := bind_ok.mp h
  obtain rfl := pure_ok.mp h
  obtain ⟨rfl, -⟩ := insertNew_ok.mp hrows
  simp [Tables.rowsOf, ho]

lemma seedIngredient_other {entry : IngredientConfig × ℕ} (ho : draw.tenant ≠ o)
    (h : seedIngredient draw T entry = .ok T') : T'.rowsOf o = T.rowsOf o := by
  obtain ⟨_, -, h⟩ := bind_ok.mp h
  obtain ⟨price, -, h⟩ := bind_ok.mp h
  obtain ⟨stock, -, h⟩ := bind_ok.mp h
  obtain ⟨ingredients, hingredients, h⟩ := bind_ok.mp h
  obtain ⟨levels, hlevels, h⟩ := bind_ok.mp h
  obtain ⟨_, -, h⟩ := bind_ok.mp h
  obtain rfl := pure_ok.mp h
  obtain ⟨rfl, -⟩ := insertNew_ok.mp hingredients
  obtain ⟨rfl, -⟩ := insertNew_ok.mp hlevels
  simp [Tables.rowsOf, ho]

lemma seedRecipeIngredient_other {index : ℕ} {row : ℕ × ℚ} (ho : draw.tenant ≠ o)
    (h : seedRecipeIngredient draw index T row = .ok T') : T'.rowsOf o = T.rowsOf o := by
  obtain ⟨quantity, -, h⟩ := bind_ok.mp h
  obtain ⟨rows, hrows, h⟩ := bind_ok.mp h
  obtain rfl := pure_ok.mp h
  obtain ⟨rfl, -⟩ := insertNew_ok.mp hrows
  simp [Tables.rowsOf, ho]

/-- A loop of such steps. -/
lemma seedLoop_other {α : Type} {step : Tables → α → Except PyException Tables} {l : List α}
    (hstep : ∀ a T T', step T a = .ok T' → T'.rowsOf o = T.rowsOf o)
    (h : l.foldlM step T = .ok T') : T'.rowsOf o = T.rowsOf o := by
  have hkeeps : ∀ a ∈ l, ∀ T₁ T₂, T₁.rowsOf o = T.rowsOf o → step T₁ a = .ok T₂ →
      T₂.rowsOf o = T.rowsOf o :=
    fun a _ T₁ T₂ h₁ h₂ => (hstep a T₁ T₂ h₂).trans h₁
  have hall := foldlM_keeps hkeeps rfl h
  exact hall

lemma seedMenuItem_other {ingredients : ℕ} {entry : MenuItemConfig × ℕ} (ho : draw.tenant ≠ o)
    (h : seedMenuItem draw ingredients T entry = .ok T') : T'.rowsOf o = T.rowsOf o := by
  obtain ⟨name, -, h⟩ := bind_ok.mp h
  obtain ⟨price, -, h⟩ := bind_ok.mp h
  obtain ⟨items, hitems, h⟩ := bind_ok.mp h
  obtain ⟨recipes, hrecipes, h⟩ := bind_ok.mp h
  obtain ⟨rfl, -⟩ := insertNew_ok.mp hitems
  obtain ⟨rfl, -⟩ := insertNew_ok.mp hrecipes
  rw [seedLoop_other (fun _ _ _ => seedRecipeIngredient_other ho) h]
  simp [Tables.rowsOf, ho]

lemma seedInvoice_other {ingredients : List IngredientConfig} (ho : draw.tenant ≠ o)
    (h : seedInvoice draw ingredients T = .ok T') : T'.rowsOf o = T.rowsOf o := by
  obtain ⟨total, -, h⟩ := bind_ok.mp h
  obtain ⟨_, -, h⟩ := bind_ok.mp h
  have hline : ∀ entry T₁ T₂, seedInvoiceLine draw T₁ entry = .ok T₂ →
      T₂.rowsOf o = T₁.rowsOf o := by
    intro entry T₁ T₂ h
    obtain ⟨quantity, -, h⟩ := bind_ok.mp h
    obtain ⟨price, -, h⟩ := bind_ok.mp h
    obtain rfl := pure_ok.mp h
    simp [Tables.rowsOf, ho]
  rw [seedLoop_other hline h]
  simp [Tables.rowsOf, ho]

lemma seedOrder_other {items : List MenuItemConfig} {daysAgo : ℕ} (ho : draw.tenant ≠ o)
    (h : seedOrder draw items T daysAgo = .ok T') : T'.rowsOf o = T.rowsOf o := by
  obtain ⟨orders, horders, h⟩ := bind_ok.mp h
  obtain ⟨rfl, -⟩ := insertNew_ok.mp horders
  have hline : ∀ entry T₁ T₂, seedOrderLine draw daysAgo T₁ entry = .ok T₂ →
      T₂.rowsOf o = T₁.rowsOf o := by
    intro entry T₁ T₂ h
    obtain ⟨price, -, h⟩ := bind_ok.mp h
    obtain rfl := pure_ok.mp h
    simp [Tables.rowsOf, ho]
  rw [seedLoop_other hline h]
  simp [Tables.rowsOf, ho]

lemma seedWaste_other {ingredients : List IngredientConfig} (ho : draw.tenant ≠ o)
    (h : seedWaste draw ingredients T = .ok T') : T'.rowsOf o = T.rowsOf o := by
  obtain ⟨_, -, h⟩ := bind_ok.mp h
  obtain ⟨quantity, -, h⟩ := bind_ok.mp h
  obtain rfl := pure_ok.mp h
  simp [Tables.rowsOf, ho]

lemma seedShift_other {entry : (ℕ × String × ℤ) × ℕ} (ho : draw.tenant ≠ o)
    (h : seedShift draw T entry = .ok T') : T'.rowsOf o = T.rowsOf o := by
  obtain ⟨shifts, hshifts, h⟩ := bind_ok.mp h
  obtain rfl := pure_ok.mp h
  obtain ⟨rfl, -⟩ := insertNew_ok.mp hshifts
  simp [Tables.rowsOf, ho]

lemma seedTenant_other {config : TenantConfig} {st st' : SeedStore} (ho : draw.tenant ≠ o)
    (h : seedTenant draw config st = .ok st') : st'.tables.rowsOf o = st.tables.rowsOf o := by
  obtain ⟨_, -, h⟩ := bind_ok.mp h
  obtain ⟨_, -, h⟩ := bind_ok.mp h
  obtain ⟨T₁, hsuppliers, h⟩ := bind_ok.mp h
  obtain ⟨T₂, hingredients, h⟩ := bind_ok.mp h
  obtain ⟨T₃, hitems, h⟩ := bind_ok.mp h
  obtain ⟨T₄, hinvoice, h⟩ := bind_ok.mp h
  obtain ⟨T₅, horders, h⟩ := bind_ok.mp h
  obtain ⟨T₆, hwaste, h⟩ := bind_ok.mp h
  obtain ⟨T₇, hshifts, h⟩ := bind_ok.mp h
  obtain rfl := pure_ok.mp h
  calc T₇.rowsOf o
      = T₆.rowsOf o := seedLoop_other (fun _ _ _ => seedShift_other ho) hshifts
    _ = T₅.rowsOf o := seedWaste_other ho hwaste
    _ = T₄.rowsOf o := seedLoop_other (fun _ _ _ => seedOrder_other ho) horders
    _ = T₃.rowsOf o := seedInvoice_other ho hinvoice
    _ = T₂.rowsOf o := seedLoop_other (fun _ _ _ => seedMenuItem_other ho) hitems
    _ = T₁.rowsOf o := seedLoop_other (fun _ _ _ => seedIngredient_other ho) hingredients
    _ = st.tables.rowsOf o := seedLoop_other (fun _ _ _ => seedSupplier_other ho) hsuppliers

end Others

/-! ### The tenants -/

section Tenants

variable {st : SeedStore} {made : List Tenant} {name : String}

/-- Tenants of other names do not change which tenant a name has. -/
lemma existing_append_of_ne (hmade : ∀ t ∈ made, t.name ≠ name) (tables : Tables) :
    (⟨st.tenants ++ made, tables⟩ : SeedStore).existing name = st.existing name := by
  have hnone : made.reverse.find? (fun t => t.name = name) = none := by
    rw [List.find?_eq_none]
    intro t ht
    exact (decide_eq_true_iff.not.mpr (hmade t (List.mem_reverse.mp ht)))
  unfold SeedStore.existing
  rw [List.reverse_append, List.find?_append, hnone, Option.none_or]

lemma existing_append_of_mem {t : Tenant} (ht : t ∈ made) (hname : t.name = name)
    (hunique : ∀ x ∈ made, x.name = name → x = t) (tables : Tables) :
    (⟨st.tenants ++ made, tables⟩ : SeedStore).existing name = some t.id := by
  have hfound : made.reverse.find? (fun t => t.name = name) = some t := by
    cases h : made.reverse.find? (fun t => t.name = name) with
    | none =>
      exact absurd hname (decide_eq_true_iff.not.mp
        (List.find?_eq_none.mp h t (List.mem_reverse.mpr ht)))
    | some x =>
      have hx := List.mem_reverse.mp (List.mem_of_find?_eq_some h)
      have hxname : x.name = name := by simpa using List.find?_some h
      rw [hunique x hx hxname]
  unfold SeedStore.existing
  rw [List.reverse_append, List.find?_append, hfound]
  rfl

lemma mem_of_existing {id : String} (h : st.existing name = some id) : ⟨id, name⟩ ∈ st.tenants := by
  obtain ⟨t, ht, rfl⟩ := Option.map_eq_some_iff.mp h
  have hname : t.name = name := by simpa using List.find?_some ht
  exact hname ▸ List.mem_reverse.mp (List.mem_of_find?_eq_some ht)

end Tenants

/-- The tenant that is made for a configuration. -/
def SeedStore.made (before : SeedStore) (config : TenantConfig × SeedDraw) : Option Tenant :=
  match before.existing config.1.name with
  | some _ => none
  | none => some ⟨config.2.tenant, config.1.name⟩

section Loop

variable {before : SeedStore} {done done' : SeedStore × List (String × String)}
  {configs : List (TenantConfig × SeedDraw)}

/-- What the loop of `seed` has made, and what it returns. -/
lemma seedConfigs_spec (h : configs.foldlM (seedConfig before) done = .ok done') :
    done'.1.tenants = done.1.tenants ++ configs.filterMap before.made ∧
      done'.2 = done.2 ++ configs.map before.settled := by
  induction configs generalizing done with
  | nil =>
    rw [List.foldlM_nil] at h
    obtain rfl := pure_ok.mp h
    simp
  | cons config configs ih =>
    rw [List.foldlM_cons] at h
    obtain ⟨next, hnext, hrest⟩ := bind_ok.mp h
    obtain ⟨htenants, hresult⟩ := ih hrest
    obtain ⟨hsettled, ⟨id, hexisting, hkept⟩ | ⟨hmissing, hmade⟩⟩ := seedConfig_cases hnext
    · have hnone : before.made config = none := by rw [SeedStore.made, hexisting]
      refine ⟨?_, by rw [hresult, hsettled, List.append_assoc]; rfl⟩
      rw [htenants, hkept, List.filterMap_cons_none hnone]
    · have hsome : before.made config = some ⟨config.2.tenant, config.1.name⟩ := by
        rw [SeedStore.made, hmissing]
      refine ⟨?_, by rw [hresult, hsettled, List.append_assoc]; rfl⟩
      rw [htenants, (seedTenant_tenants hmade).1, List.filterMap_cons_some hsome,
        List.append_assoc]
      rfl

/-- The rows of the tenants that are there stay as they are. -/
lemma seedConfigs_other {t : Tenant} (ht : t ∈ done.1.tenants)
    (h : configs.foldlM (seedConfig before) done = .ok done') :
    done'.1.tables.rowsOf t.id = done.1.tables.rowsOf t.id := by
  induction configs generalizing done with
  | nil =>
    rw [List.foldlM_nil] at h
    obtain rfl := pure_ok.mp h
    rfl
  | cons config configs ih =>
    rw [List.foldlM_cons] at h
    obtain ⟨next, hnext, hrest⟩ := bind_ok.mp h
    obtain ⟨-, ⟨_, -, hkept⟩ | ⟨-, hmade⟩⟩ := seedConfig_cases hnext
    · rw [ih (hkept ▸ ht) hrest, hkept]
    · obtain ⟨htenants, hnew⟩ := seedTenant_tenants hmade
      have hmem : t ∈ next.1.tenants := htenants ▸ List.mem_append_left _ ht
      rw [ih hmem hrest, seedTenant_other (hnew t ht).symm hmade]

/-- Nothing is made when every name has its tenant. -/
lemma seedConfigs_settled (h : ∀ config ∈ configs, before.existing config.1.name ≠ none) :
    configs.foldlM (seedConfig before) done = .ok (done.1, done.2 ++ configs.map before.settled) := by
  induction configs generalizing done with
  | nil => simp [pure, Except.pure]
  | cons config configs ih =>
    obtain ⟨hfirst, hrest⟩ := List.forall_mem_cons.mp h
    obtain ⟨id, hid⟩ := Option.ne_none_iff_exists'.mp hfirst
    have hstep : seedConfig before done config = .ok (done.1, done.2 ++ [before.settled config]) := by
      rw [seedConfig, SeedStore.settled, hid]
      rfl
    rw [List.foldlM_cons, hstep, ok_bind, ih hrest, List.map_cons, List.append_assoc]
    rfl

lemma made_eq_some {config : TenantConfig × SeedDraw} {t : Tenant} :
    before.made config = some t ↔
      before.existing config.1.name = none ∧ ⟨config.2.tenant, config.1.name⟩ = t := by
  unfold SeedStore.made
  cases before.existing config.1.name with
  | some id => simp
  | none => simp

/-- Afterwards every configured name has the tenant that is returned for it. -/
lemma existing_settled {config : TenantConfig × SeedDraw}
    (hnodup : (configs.map (fun c => c.1.name)).Nodup) (hconfig : config ∈ configs)
    (tables : Tables) :
    (⟨before.tenants ++ configs.filterMap before.made, tables⟩ : SeedStore).existing
      config.1.name = some (before.settled config).1 := by
  cases hexisting : before.existing config.1.name with
  | some id =>
    rw [existing_append_of_ne, hexisting, SeedStore.settled, hexisting]
    · rfl
    · intro t ht hname
      obtain ⟨other, -, hmade⟩ := List.mem_filterMap.mp ht
      obtain ⟨hmissing, rfl⟩ := made_eq_some.mp hmade
      have hname : other.1.name = config.1.name := hname
      rw [hname, hexisting] at hmissing
      cases hmissing
  | none =>
    have hmade := made_eq_some.mpr ⟨hexisting, rfl⟩
    rw [existing_append_of_mem (List.mem_filterMap.mpr ⟨config, hconfig, hmade⟩) rfl,
      SeedStore.settled, hexisting]
    · rfl
    · intro t ht hname
      obtain ⟨other, hother, hmade'⟩ := List.mem_filterMap.mp ht
      obtain ⟨-, rfl⟩ := made_eq_some.mp hmade'
      rw [List.inj_on_of_nodup_map hnodup hother hconfig hname]

/-- The tenants that a seeding returns can be read off the configured names afterwards. -/
lemma map_settled {st : SeedStore}
    (h : ∀ c ∈ configs, st.existing c.1.name = some (before.settled c).1) :
    configs.map before.settled =
      (configs.map Prod.fst).map (fun c => ((st.existing c.name).getD "", c.name)) := by
  rw [List.map_map]
  refine List.map_congr_left (fun c hc => ?_)
  rw [Function.comp_apply, h c hc]
  rfl

end Loop

/-! ### The seeding -/

/-- What a seeding has done: the missing tenants are there, and the result names them all. -/
structure Seeded (configs : List (TenantConfig × SeedDraw)) (st st' : SeedStore)
    (result : List (String × String)) : Prop where
  tenants : st'.tenants = st.tenants ++ configs.filterMap st.made
  names : result.map Prod.snd = configs.map (fun c => c.1.name)
  present : ∀ r ∈ result, ⟨r.1, r.2⟩ ∈ st'.tenants
  others : ∀ t ∈ st.tenants, st'.tables.rowsOf t.id = st.tables.rowsOf t.id

section Seed

variable {printable : Char → Bool} {configs : List (TenantConfig × SeedDraw)} {st st' : SeedStore}
  {result : List (String × String)}

/-- Tenants that are there are skipped with all their rows, and a second seeding of the
configuration, whatever it would draw, makes nothing and returns the same tenants. -/
theorem seeding_idempotent (h : seed printable configs st = .ok (st', result)) :
    Seeded configs st st' result ∧ ∀ again : List (TenantConfig × SeedDraw),
      again.map Prod.fst = configs.map Prod.fst → seed printable again st' = .ok (st', result) := by
  obtain ⟨hvalid, hloop⟩ := seed_ok.mp h
  obtain ⟨-, hnodup⟩ := validateConfig_ok hvalid
  rw [List.map_map] at hnodup
  obtain ⟨htenants, hspec⟩ := seedConfigs_spec hloop
  have hresult : result = configs.map st.settled := hspec.trans (List.nil_append _)
  have hsettled : ∀ c ∈ configs, st'.existing c.1.name = some (st.settled c).1 := by
    intro c hc
    have hlast : (⟨st.tenants ++ configs.filterMap st.made, st'.tables⟩ : SeedStore).existing
        c.1.name = some (st.settled c).1 := existing_settled hnodup hc st'.tables
    rwa [← htenants] at hlast
  refine ⟨⟨htenants, ?_, ?_, ?_⟩, fun again hsame => ?_⟩
  · rw [hresult, List.map_map]
    rfl
  · intro r hr
    rw [hresult] at hr
    obtain ⟨c, hc, rfl⟩ := List.mem_map.mp hr
    exact mem_of_existing (hsettled c hc)
  · exact fun t ht => seedConfigs_other ht hloop
  · have hthere : ∀ c ∈ again, st'.existing c.1.name ≠ none := by
      intro c hc
      obtain ⟨c', hc', heq⟩ := List.mem_map.mp (hsame ▸ List.mem_map_of_mem hc)
      rw [← heq, hsettled c' hc']
      exact Option.some_ne_none _
    have hkept : ∀ c ∈ again, st'.existing c.1.name = some (st'.settled c).1 := by
      intro c hc
      obtain ⟨id, hid⟩ := Option.ne_none_iff_exists'.mp (hthere c hc)
      simp only [SeedStore.settled, hid, Option.getD_some]
    refine seed_ok.mpr ⟨hsame ▸ hvalid, ?_⟩
    rw [seedConfigs_settled hthere, List.nil_append, hresult, map_settled hkept,
      map_settled hsettled, hsame]

end Seed

/-! ### A concrete seeding -/

def soupKitchen : TenantConfig := ⟨"Soup Kitchen", ["Market"], [⟨"Leek", 2, 20⟩], [⟨"Soup", 10⟩]⟩

def numbered (name : String) (n : ℕ) : String := name ++ String.ofList (List.replicate n '+')

def kitchenDraw : SeedDraw :=
  ⟨"t", numbered "mill", numbered "leek", numbered "sku", numbered "soup", numbered "recipe",
    "invoice", numbered "order", numbered "shift", fun _ => 0, 0⟩

/-- There is a kitchen of another name, and the second seeding would draw other identifiers. -/
theorem kitchen_seeded_once : ∃ st' result,
    seed (fun _ => true) [(soupKitchen, kitchenDraw)] ⟨[⟨"u", "Grill"⟩], .empty⟩ =
      .ok (st', result) ∧ result = [("t", "Soup Kitchen")] ∧
    Seeded [(soupKitchen, kitchenDraw)] ⟨[⟨"u", "Grill"⟩], .empty⟩ st' result ∧
    seed (fun _ => true) [(soupKitchen, { kitchenDraw with tenant := "v" })] st' =
      .ok (st', result) := by
  have hseed : (seed (fun _ => true) [(soupKitchen, kitchenDraw)]
      ⟨[⟨"u", "Grill"⟩], .empty⟩).toOption.any (fun y => y.2 = [("t", "Soup Kitchen")]) = true := by
    decide +kernel
  obtain ⟨⟨st', result⟩, hresult, hname⟩ := (Option.any_eq_true _ _).mp hseed
  have h := eq_ok_of_toOption hresult
  exact ⟨st', result, h, of_decide_eq_true hname, (seeding_idempotent h).1,
    (seeding_idempotent h).2 _ rfl⟩

end OpsCopilot
