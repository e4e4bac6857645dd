import OpsCopilot.Model.ToolFramework
import OpsCopilot.Proofs.TenantIsolation

/-!
# What a call reads

The simulator, the gates and the lookups that complete an event read rows of one tenant only, so
that they find the same in every state in which the tenant has the same rows.
-/

namespace OpsCopilot

open Python Sql Fallible Noninterference

/-! ### Own rows -/

section Own

variable {α : Type} {own key : α → Bool}

/-- A selection that stays within the tenant does not see the other rows. -/
lemma filter_within (h : ∀ r, key r = true → own r = true) (rows : List α) :
    (rows.filter own).filter key = rows.filter key := by
  rw [List.filter_filter]
  refine List.filter_congr (fun r _ => ?_)
  cases hkey : key r with
  | false => rfl
  | true => rw [h r hkey]; rfl

lemma find?_within (h : ∀ r, key r = true → own r = true) (rows : List α) :
    (rows.filter own).find? key = rows.find? key := by
  rw [← List.head?_filter, filter_within h, List.head?_filter]

end Own

section Reads

variable (O : Outside) (T : Tables) (t : String)

/-! ### The simulator -/

lemma recipeRows_rowsOf (id : String) : recipeRows (T.rowsOf t) t id = recipeRows T t id := by
  unfold recipeRows Tables.rowsOf
  simp only
  rw [filter_within (by simp +contextual)]
  congr 1
  funext r
  rw [filter_within (by simp +contextual)]
  congr 1
  funext u
  rw [filter_within (by simp +contextual)]

lemma loadDemandBaseline_rowsOf (id : String) :
    loadDemandBaseline (T.rowsOf t) t id = loadDemandBaseline T t id := by
  unfold loadDemandBaseline Tables.rowsOf
  simp only
  rw [filter_within (by simp +contextual)]

lemma usageRows_rowsOf (id : String) : usageRows (T.rowsOf t) t id = usageRows T t id := by
  unfold usageRows Tables.rowsOf
  simp only
  rw [filter_within (by simp +contextual)]
  congr 1
  funext r
  rw [filter_within (by simp +contextual), filter_within (by simp +contextual)]

lemma simulateSupplierSwitch_rowsOf :
    simulateSupplierSwitch (T.rowsOf t) t = simulateSupplierSwitch T t := by
  have hingredient : validateIngredient (T.rowsOf t) t = validateIngredient T t := by
    funext id
    rw [validateIngredient, T.ingredient?_rowsOf, validateIngredient]
  have hlevel : loadInventoryLevel (T.rowsOf t) t = loadInventoryLevel T t := by
    funext id
    rw [loadInventoryLevel, T.inventory?_rowsOf, loadInventoryLevel]
  have husage : usageRows (T.rowsOf t) t = usageRows T t := funext (usageRows_rowsOf T t)
  have hdemand : loadDemandBaseline (T.rowsOf t) t = loadDemandBaseline T t :=
    funext (loadDemandBaseline_rowsOf T t)
  unfold simulateSupplierSwitch
  rw [hingredient, hlevel, husage, hdemand]

lemma simulate_rowsOf (a : ActionType) (payload : Dict) :
    simulate (T.rowsOf t) t a payload = simulate T t a payload := by
  cases a with
  | priceChange =>
    simp only [simulate, simulatePriceChange, validateMenuItem, loadRecipeCost,
      T.menuItem?_rowsOf, recipeRows_rowsOf, loadDemandBaseline_rowsOf]
  | supplierSwitch => simp only [simulate, simulateSupplierSwitch_rowsOf]
  | menuSwap => simp only [simulate, simulateMenuSwap, validateMenuItem, T.menuItem?_rowsOf]
  | staffingChange => rfl

/-! ### The gates -/

lemma currentColumnForCritic_rowsOf (a : ActionType) (payload : Dict) :
    currentColumnForCritic (T.rowsOf t) t a payload = currentColumnForCritic T t a payload := by
  have hitem : (T.rowsOf t).menuItem? t = T.menuItem? t := funext (T.menuItem?_rowsOf t)
  have hingredient : (T.rowsOf t).ingredient? t = T.ingredient? t := funext (T.ingredient?_rowsOf t)
  unfold currentColumnForCritic
  rw [hitem, hingredient]

lemma judge_rowsOf (a : ActionType) (payload : Dict) (confidence : ℚ) :
    judge O (T.rowsOf t) t a payload confidence = judge O T t a payload confidence := by
  unfold judge
  rw [currentColumnForCritic_rowsOf]

/-! ### The payload of an event -/

lemma tenantShifts_rowsOf : tenantShifts (T.rowsOf t) t = tenantShifts T t :=
  filter_within (fun _ h => h) T.staffShifts

lemma ingredientSku_rowsOf (ingredient : Ingredient) :
    ingredientSku (T.rowsOf t) t ingredient = ingredientSku T t ingredient := by
  unfold ingredientSku Tables.rowsOf
  simp only
  rw [filter_within (by simp +contextual)]

lemma explicitSku_rowsOf (payload : Dict) (skuId : Value) :
    explicitSku O (T.rowsOf t) t payload skuId = explicitSku O T t payload skuId := by
  have hsku : (T.rowsOf t).supplierSku? t = T.supplierSku? t := funext (T.supplierSku?_rowsOf t)
  unfold explicitSku
  rw [hsku]

lemma resolveSupplierSkuId_rowsOf (payload : Dict) :
    resolveSupplierSkuId O (T.rowsOf t) t payload = resolveSupplierSkuId O T t payload := by
  have hingredient : (T.rowsOf t).ingredient? t = T.ingredient? t := funext (T.ingredient?_rowsOf t)
  unfold resolveSupplierSkuId
  simp only [hingredient, ingredientSku_rowsOf, explicitSku_rowsOf]

lemma stateChangeEvent_rowsOf (payload : Dict) (a : ActionType) :
    stateChangeEvent O (T.rowsOf t) t payload a = stateChangeEvent O T t payload a := by
  cases a with
  | priceChange | menuSwap => rfl
  | supplierSwitch => simp only [stateChangeEvent, resolveSupplierSkuId_rowsOf]
  | staffingChange =>
    simp only [stateChangeEvent, resolveStaffingEventPayload, tenantShifts_rowsOf]

end Reads

/-! ### Decisions and requests -/

section Rows

variable (db : Db) (t id : String)

lemma Db.decision?_rowsOf : (db.rowsOf t).decision? t id = db.decision? t id :=
  find?_filter_own db.decisions (fun r => r.tenantId = t) (fun r => r.id = id)

lemma Db.approval?_rowsOf : (db.rowsOf t).approval? t id = db.approval? t id :=
  find?_within (by simp +contextual) db.approvalRequests

lemma Db.approvalOf?_rowsOf : (db.rowsOf t).approvalOf? t id = db.approvalOf? t id :=
  find?_within (by simp +contextual) db.approvalRequests

end Rows

section Same

variable {O : Outside} {t : String} {db db' : Db} (h : db.rowsOf t = db'.rowsOf t)
include h

lemma tables_same : db.tables.rowsOf t = db'.tables.rowsOf t := congrArg Db.tables h

lemma decision?_same (id : String) : db.decision? t id = db'.decision? t id := by
  rw [← db.decision?_rowsOf t id, h, db'.decision?_rowsOf]

lemma approval?_same (id : String) : db.approval? t id = db'.approval? t id := by
  rw [← db.approval?_rowsOf t id, h, db'.approval?_rowsOf]

lemma approvalOf?_same (id : String) : db.approvalOf? t id = db'.approvalOf? t id := by
  rw [← db.approvalOf?_rowsOf t id, h, db'.approvalOf?_rowsOf]

lemma simulate_same (a : ActionType) (payload : Dict) :
    simulate db.tables t a payload = simulate db'.tables t a payload := by
  rw [← simulate_rowsOf, tables_same h, simulate_rowsOf]

lemma currentColumnForCritic_same (a : ActionType) (payload : Dict) :
    currentColumnForCritic db.tables t a payload = currentColumnForCritic db'.tables t a payload := by
  rw [← currentColumnForCritic_rowsOf, tables_same h, currentColumnForCritic_rowsOf]

lemma judge_same (a : ActionType) (payload : Dict) (confidence : ℚ) :
    judge O db.tables t a payload confidence = judge O db'.tables t a payload confidence := by
  rw [← judge_rowsOf, tables_same h, judge_rowsOf]

lemma stateChangeEvent_same (payload : Dict) (a : ActionType) :
    stateChangeEvent O db.tables t payload a = stateChangeEvent O db'.tables t payload a := by
  rw [← stateChangeEvent_rowsOf, tables_same h, stateChangeEvent_rowsOf]

lemma getApproval_same (id : String) : getApproval t id db = getApproval t id db' := by
  unfold getApproval
  simp only [approval?_same h]

end Same

end OpsCopilot
