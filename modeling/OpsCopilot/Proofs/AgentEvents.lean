import OpsCopilot.Proofs.ChainOrder
import OpsCopilot.Proofs.PriceBaseline
import OpsCopilot.Proofs.StaffingReplay
import OpsCopilot.Proofs.StaffingTarget
import OpsCopilot.Proofs.TenantTransactions

/-!
# The events of executed actions

Whatever is in the payload of an action, the event that the store accepts for it is a flat
dictionary: storing it leaves what its hash was computed from as it is.
-/

namespace OpsCopilot

open Python Sql Fallible

/-! ### Values that the store has read -/

lemma isScalar_of_toDecimal {v : Value} {d : PyDecimal} (h : v.toDecimal = some d) :
    v.isScalar = true := by
  cases v with
  | list _ | dict _ => exact absurd h (by simp [Value.toDecimal])
  | _ => rfl

lemma isScalar_of_toInt {v : Value} {n : ℤ} (h : v.toInt = .ok n) : v.isScalar = true := by
  cases v with
  | list _ | dict _ => exact absurd h (by simp [Value.toInt])
  | _ => rfl

section Payload

variable {O : Outside} {T T' T'' : Tables} {t : String} {payload event : Dict}

lemma explicitSku_scalar {skuId : Value} {id : String}
    (h : explicitSku O T t payload skuId = .ok id) :
    (payload.get "ingredient_id").isScalar = true := by
  obtain ⟨key, -, h⟩ := bind_ok.mp h
  split at h
  · cases h
  · split at h
    · rename_i hnone
      rw [hnone]
      rfl
    · rename_i hstr
      rw [hstr]
      rfl
    · cases h

lemma resolveSupplierSkuId_scalar {id : String} (h : resolveSupplierSkuId O T t payload = .ok id) :
    (payload.get "ingredient_id").isScalar = true := by
  unfold resolveSupplierSkuId at h
  split at h
  · split at h
    · cases h
    · obtain ⟨key, hkey, h⟩ := bind_ok.mp h
      cases hvalue : payload.get "ingredient_id" with
      | list _ | dict _ =>
        rw [hvalue] at hkey
        exact absurd hkey (by simp [filterText])
      | none | bool _ | int _ | float _ | decimal _ | str _ => rfl
  · exact explicitSku_scalar h

/-- What an event for a shift is made of. -/
def StaffingShape (event : Dict) : Prop :=
  ∃ (shiftId : Option Value) (role : String) (day count : ℤ), event =
    (shiftId.elim [] (fun id => [(Key.str "staff_shift_id", id)])) ++
      [(.str "role", .str role), (.str "day_of_week", .int day), (.str "headcount", .int count)]

lemma staffingEvent_shape {shift : Option StaffShift} {shiftId : Option Value}
    {role : Option String} {day headcount : Option ℤ} {delta : ℤ}
    (h : staffingEvent shift shiftId role day headcount delta = .ok event) :
    StaffingShape event := by
  obtain ⟨_, -, hlast⟩ := bind_ok.mp h
  exact ⟨shiftId, _, _, _, (pure_ok.mp hlast).symm⟩

lemma resolveStaffing_shape (h : resolveStaffingEventPayload O T t payload = .ok event) :
    StaffingShape event := by
  unfold resolveStaffingEventPayload at h
  dsimp only at h
  split at h
  · cases h
  · cases h
  · obtain ⟨delta, -, h⟩ := bind_ok.mp h
    obtain ⟨day, -, h⟩ := bind_ok.mp h
    obtain ⟨headcount, -, h⟩ := bind_ok.mp h
    split at h
    · split at h
      · obtain ⟨text, -, h⟩ := bind_ok.mp h
        obtain ⟨shift, -, h⟩ := bind_ok.mp h
        exact staffingEvent_shape h
      · exact staffingEvent_shape h
    · obtain ⟨key, -, h⟩ := bind_ok.mp h
      split at h
      · cases h
      · exact staffingEvent_shape h

lemma resolveStaffing_plain (h : resolveStaffingEventPayload O T t payload = .ok event) :
    event.Plain ∧ ∀ m ∈ event, m.1 ≠ .str "headcount_delta" := by
  obtain ⟨_, _, hresolved⟩ := resolveStaffing_spec h
  have hfield := hresolved.shift_field
  obtain ⟨shiftId, role, day, count, rfl⟩ := resolveStaffing_shape h
  cases shiftId with
  | none => exact ⟨⟨by simp [Key.isStr], by simp, by simp [Value.isScalar]⟩, by simp⟩
  | some id =>
    have hid : id.isScalar = true := by
      change id = _ at hfield
      rw [hfield]
      cases requestedShift O (T.shiftsOf t) payload <;> rfl
    refine ⟨⟨by simp [Key.isStr], by simp, ?_⟩, by simp⟩
    exact List.forall_mem_cons.mpr ⟨hid, by simp [Value.isScalar]⟩

lemma plain_two {key key' : String} {v v' : Value} (hne : key ≠ key') (hv : v.isScalar = true)
    (hv' : v'.isScalar = true) : Dict.Plain [(.str key, v), (.str key', v')] :=
  ⟨by simp [Key.isStr], by simp [hne], by simp [hv, hv']⟩

/-- The event of an action that the store accepts is flat. -/
theorem stateChangeEvent_plain {a : ActionType} {eventType : EventType} {now : Timestamp}
    {rowId : String} (hevent : stateChangeEvent O T t payload a = .ok (eventType, event))
    (happly : applyToCurrentState O ⟨t, event, now, rowId⟩ T' eventType = .ok T'') :
    event.Plain := by
  obtain rfl := stateChangeEvent_type hevent
  cases a with
  | priceChange =>
    obtain ⟨id, newPrice, _, _, hid, hprice, -⟩ := applyMenuPriceChange_spec happly
    obtain ⟨-, rfl⟩ := stateChangeEvent_price hevent
    have hitem : (payload.get "menu_item_id").isScalar = true := by
      change payload.get "menu_item_id" = _ at hid
      rw [hid]
      rfl
    exact plain_two (by decide) hitem (isScalar_of_toDecimal hprice)
  | supplierSwitch =>
    obtain ⟨_, newPrice, _, _, _, -, hprice, -⟩ := applySupplierPriceChange_spec happly
    obtain ⟨skuId, hsku, hevent⟩ := bind_ok.mp hevent
    obtain ⟨ingredientId, hingredient, hevent⟩ := bind_ok.mp hevent
    obtain ⟨price, -, hlast⟩ := bind_ok.mp hevent
    obtain ⟨-, rfl⟩ := Prod.mk.inj (pure_ok.mp hlast)
    have hscalar := resolveSupplierSkuId_scalar hsku
    rw [payloadItem_ok hingredient] at hscalar
    have hlookup : Dict.Plain
        [(.str "supplier_sku_id", .str skuId), (.str "ingredient_id", ingredientId)] :=
      plain_two (by decide) rfl hscalar
    exact hlookup.append (isScalar_of_toDecimal hprice) (by simp)
  | menuSwap =>
    obtain ⟨id, _, hid, -⟩ := applyMenuItemRemoved_spec happly
    simp only [stateChangeEvent] at hevent
    split at hevent
    · obtain ⟨menuItemId, -, hlast⟩ := bind_ok.mp hevent
      obtain ⟨-, rfl⟩ := Prod.mk.inj (pure_ok.mp hlast)
      obtain rfl : menuItemId = .str id := hid
      exact ⟨by simp [Key.isStr], by simp, by simp [Value.isScalar]⟩
    · cases hevent
  | staffingChange =>
    obtain ⟨staffing, hstaffing, hevent⟩ := bind_ok.mp hevent
    obtain ⟨delta, hdelta, hlast⟩ := bind_ok.mp hevent
    obtain ⟨-, rfl⟩ := Prod.mk.inj (pure_ok.mp hlast)
    obtain ⟨hplain, hfresh⟩ := resolveStaffing_plain hstaffing
    obtain ⟨_, _, hresolved⟩ := resolveStaffing_spec hstaffing
    obtain ⟨v, hv, hint⟩ := hresolved.delta_eq
    obtain rfl : v = delta := by
      rw [payloadItem, hv] at hdelta
      exact Except.ok.inj hdelta
    exact hplain.append (isScalar_of_toInt hint) hfresh

end Payload

end OpsCopilot
