import OpsCopilot.Proofs.ReplayedIngredients

/-!
# The rebuilt menu

The replay gives every added dish as active, under the name as it was passed in. When that is what
the projection holds.
-/

namespace OpsCopilot

open Python Sql Fallible

/-! ### The last addition of a dish -/

/-- The payload that last added the dish, and whether the dish was removed after that. -/
def lastAddedStep (id : String) (last : Option (Dict × Bool)) (event : EventType × Dict) :
    Option (Dict × Bool) :=
  match event.1, event.2.find? "menu_item_id" with
  | .menuItemAdded, some (.str s) => if s = id then some (event.2, false) else last
  | .menuItemRemoved, some (.str s) => if s = id then last.map (fun a => (a.1, true)) else last
  | _, _ => last

def lastAdded (id : String) (past : List (EventType × Dict)) : Option (Dict × Bool) :=
  past.foldl (lastAddedStep id) none

lemma lastAdded_concat (id : String) (past : List (EventType × Dict)) (event : EventType × Dict) :
    lastAdded id (past ++ [event]) = lastAddedStep id (lastAdded id past) event := by
  rw [lastAdded, List.foldl_append]
  rfl

/-- The dish was added under a string, and as active unless it was removed since. -/
def AddedFaithfully (last : Dict × Bool) : Prop :=
  (∃ s, last.1.find? "name" = some (.str s)) ∧
    (last.2 = true ∨ last.1.find? "active" ≠ some (.bool false))

/-! ### Agreement -/

/-- The same dish in the rebuilt menu and in the table. -/
structure ItemAgrees (r : MenuItemState) (row : MenuItem) : Prop where
  active : r.active = some row.active
  name : r.name = some (.str row.name)
  price : ∃ value x, r.currentPrice = some value ∧ row.currentPrice = .number x ∧
    numberOf value = some x.toRat

/-- The same dishes, and nothing else, in the rebuilt menu and in the table. -/
structure MenuAgrees (s : ReplayState) (tenantId : String) (T : Tables) : Prop where
  named : ∀ key r, s.menuItems.find? key = some r → ∃ id, key = .str id
  items : ∀ id, Option.Rel ItemAgrees (s.menuItems.find? (.str id)) (T.menuItem? tenantId id)

/-- A dish as both interpreters have it: not there, or as last added and changed since. -/
inductive MenuRebuilt (O : Outside) (id : String) (past : List (EventType × Dict)) (v : ReplayView)
    (p : TenantView) : Prop
  | absent (hv : v.menuItem id = none) (hp : p.menuItem id = none) (hlast : lastAdded id past = none)
  | present {r : MenuItemState} {row : MenuItem} {payload : Dict} {removed : Bool}
      {name stored value : Value} {x : Numeric 10 2} (hv : v.menuItem id = some r)
      (hp : p.menuItem id = some row)
      (hlast : lastAdded id past = some (payload, removed))
      (hname : payload.find? "name" = some name) (hload : loadsDumps name = .ok stored)
      (hstored : r.name = some stored) (htext : row.name = pyStr O name)
      (hprice : r.currentPrice = some value) (hcolumn : row.currentPrice = .number x)
      (hnumber : numberOf value = some x.toRat)
      (hactive : r.active = some !removed)
      (hactive' : if removed then row.active = false else activeField payload = .ok row.active)

section Step

variable {O : Outside} {t id : String} {ingredientOf : String → Option String} {payload : Dict}
  {v v' : ReplayView} {p p' : TenantView} {eventType : EventType} {past : List (EventType × Dict)}

lemma MenuRebuilt.frame (h : MenuRebuilt O id past v p) {event : EventType × Dict}
    (hv : v'.menuItem id = v.menuItem id) (hp : p'.menuItem id = p.menuItem id)
    (hlast : lastAddedStep id (lastAdded id past) event = lastAdded id past) :
    MenuRebuilt O id (past ++ [event]) v' p' := by
  have hpast : lastAdded id (past ++ [event]) = lastAdded id past :=
    (lastAdded_concat id past event).trans hlast
  cases h with
  | absent hv₀ hp₀ hlast₀ => exact .absent (hv.trans hv₀) (hp.trans hp₀) (hpast.trans hlast₀)
  | present hv₀ hp₀ hlast₀ hname hload hstored htext hprice hcolumn hnumber hactive hactive' =>
    exact .present (hv.trans hv₀) (hp.trans hp₀) (hpast.trans hlast₀) hname hload hstored htext
      hprice hcolumn hnumber hactive hactive'

lemma MenuRebuilt.step (h : MenuRebuilt O id past v p) (hscale : PricesOnScale payload)
    (hmirrored : Mirrored O t ingredientOf payload v v' p p' eventType) :
    MenuRebuilt O id (past ++ [(eventType, payload)]) v' p' := by
  cases hmirrored with
  | supplierPriceChange _ _ _ _ _ _ hv hp | supplierSwitch _ _ _ hv hp =>
    subst hv hp
    exact h.frame rfl rfl rfl
  | stock hstock _ _ _ _ _ _ hv hp =>
    subst hv hp
    refine h.frame rfl rfl ?_
    cases eventType <;> first | rfl | exact absurd hstock (by simp [EventType.isStock])
  | elsewhere hother hv hp =>
    subst hv hp
    refine h.frame rfl rfl ?_
    cases eventType <;> first | rfl | exact absurd hother (by simp)
  | @menuPriceChange j row price d x hid hrow hprice hdecimal hstored hv hp =>
    subst hv hp
    by_cases hj : id = j
    · subst hj
      cases h with
      | absent _ hp₀ _ => exact absurd (hp₀.symm.trans hrow) (by simp)
      | present hv₀ hp₀ hlast hname hload hstoredName htext _ _ _ hactive hactive' =>
        obtain rfl := Option.some.inj (hp₀.symm.trans hrow)
        obtain ⟨q, hq, hqscale⟩ := hscale _ (by simp) price d hprice hdecimal
        obtain ⟨y, hstore, rfl⟩ := storeNumeric_finite hq hstored
        refine .present (Function.update_self ..) (Function.update_self ..)
          ((lastAdded_concat id past _).trans hlast) hname hload ?_ htext rfl rfl ?_ ?_ hactive'
        · rw [hv₀]
          exact hstoredName
        · rw [numberOf_eq hdecimal hq, Numeric.store?_exact hqscale hstore]
        · rw [hv₀]
          exact hactive
    · exact h.frame (Function.update_of_ne hj ..) (Function.update_of_ne hj ..) rfl
  | @menuItemRemoved j row hid hrow hv hp =>
    subst hv hp
    have hstep : lastAddedStep id (lastAdded id past) (.menuItemRemoved, payload) =
        if j = id then (lastAdded id past).map (fun a => (a.1, true)) else lastAdded id past := by
      rw [lastAddedStep, hid]
    by_cases hj : id = j
    · subst hj
      rw [if_pos rfl] at hstep
      cases h with
      | absent _ hp₀ _ => exact absurd (hp₀.symm.trans hrow) (by simp)
      | present hv₀ hp₀ hlast hname hload hstoredName htext hprice hcolumn hnumber hactive hactive' =>
        obtain rfl := Option.some.inj (hp₀.symm.trans hrow)
        have hmap := congrArg (Option.map (fun a : Dict × Bool => (a.1, true))) hlast
        refine .present (Function.update_self ..) (Function.update_self ..)
          ((lastAdded_concat id past _).trans (hstep.trans hmap)) hname hload ?_ htext ?_ hcolumn
          hnumber rfl rfl
        · rw [hv₀]
          exact hstoredName
        · rw [hv₀]
          exact hprice
    · rw [if_neg (Ne.symm hj)] at hstep
      exact h.frame (Function.update_of_ne hj ..) (Function.update_of_ne hj ..) hstep
  | @menuItemAdded row name stored price d hid hname hload htext hprice hdecimal hstored hactive hv hp =>
    subst hv hp
    have hstep : lastAddedStep id (lastAdded id past) (.menuItemAdded, payload) =
        if row.id = id then some (payload, false) else lastAdded id past := by
      rw [lastAddedStep, hid]
    by_cases hj : id = row.id
    · subst hj
      rw [if_pos rfl] at hstep
      obtain ⟨q, hq, hqscale⟩ := hscale _ (by simp) price d hprice hdecimal
      obtain ⟨y, hstore, hcolumn⟩ := storeNumeric_finite hq hstored
      refine .present (Function.update_self ..) (Function.update_self ..)
        ((lastAdded_concat row.id past _).trans hstep) hname hload rfl htext rfl hcolumn ?_ rfl hactive
      rw [numberOf_eq hdecimal hq, Numeric.store?_exact hqscale hstore]
    · rw [if_neg (Ne.symm hj)] at hstep
      exact h.frame (Function.update_of_ne hj ..) (Function.update_of_ne hj ..) hstep

end Step

/-! ### When they agree -/

section Agreement

variable {O : Outside} {id : String} {v : ReplayView} {p : TenantView} {payload : Dict} {b : Bool}
  {past : List (EventType × Dict)}

lemma activeField_eq_true (h : activeField payload = .ok b) :
    b = true ↔ payload.find? "active" ≠ some (.bool false) := by
  unfold activeField at h
  cases hfound : payload.find? "active" with
  | none =>
    rw [hfound] at h
    obtain rfl := Except.ok.inj h
    simp
  | some w =>
    rw [hfound] at h
    cases w with
    | bool c =>
      obtain rfl := Except.ok.inj h
      cases c <;> simp
    | none | int _ | float _ | decimal _ | str _ | list _ | dict _ => exact absurd h (by simp)

/-- Only a string is read back as a string. -/
lemma eq_str_of_loadsDumps {name : Value} {s : String} (h : loadsDumps name = .ok (.str s)) :
    name = .str s := by
  obtain ⟨j, hj, hload⟩ := map_ok.mp h
  cases name with
  | str r =>
    obtain rfl := Except.ok.inj hj
    exact hload
  | none | bool _ | int _ | float _ =>
    obtain rfl := Except.ok.inj hj
    exact absurd hload (by simp [Json.load])
  | decimal d => exact absurd hj (by simp [prepare, noDefault])
  | list xs =>
    obtain ⟨js, -, rfl⟩ := map_ok.mp hj
    exact absurd hload (by simp [Json.load])
  | dict ms =>
    obtain ⟨js, -, harrange⟩ := bind_ok.mp hj
    obtain rfl := Except.ok.inj harrange
    exact absurd hload (by simp [Json.load])

lemma MenuRebuilt.agrees_iff (h : MenuRebuilt O id past v p) :
    Option.Rel ItemAgrees (v.menuItem id) (p.menuItem id) ↔
      ∀ last, lastAdded id past = some last → AddedFaithfully last := by
  cases h with
  | absent hv hp hlast =>
    rw [hv, hp, hlast]
    exact iff_of_true .none (by simp)
  | @present r row payload removed name stored value x hv hp hlast hname hload hstored htext hprice
      hcolumn hnumber hactive hactive' =>
    rw [hv, hp, hlast]
    constructor
    · rintro (hagrees | -) last heq
      obtain rfl := Option.some.inj heq
      obtain rfl := Option.some.inj (hstored.symm.trans hagrees.name)
      obtain rfl := eq_str_of_loadsDumps hload
      refine ⟨⟨_, hname⟩, ?_⟩
      have hrow := Option.some.inj (hactive.symm.trans hagrees.active)
      cases removed with
      | true => exact .inl rfl
      | false => exact .inr ((activeField_eq_true hactive').mp hrow.symm)
    · intro hall
      obtain ⟨⟨s, hs⟩, hkept⟩ := hall _ rfl
      obtain rfl := Option.some.inj (hname.symm.trans hs)
      obtain rfl := Except.ok.inj hload
      refine .some ⟨?_, ?_, value, x, hprice, hcolumn, hnumber⟩
      · rw [hactive]
        cases removed with
        | true => exact congrArg (fun b => some b) (Eq.symm hactive')
        | false =>
          have htrue := (activeField_eq_true hactive').mpr (hkept.resolve_left (by simp))
          rw [htrue]
          rfl
      · rw [hstored, htext]
        rfl

end Agreement

/-! ### Whole runs -/

/-- At every moment the rebuilt menu is that of the projection after the last event up to that
moment, exactly when every dish on it was last added faithfully. -/
theorem replayed_menu {O : Outside} {t : String} {calls : List AppendCall} {start final : Db}
    (h : AppendRun O t calls start final) (target : Timestamp)
    (hempty : ∀ id, start.tables.menuItem? t id = none)
    (hscale : ∀ event ∈ tenantHistory t (callsUpTo t target calls), PricesOnScale event.2) :
    ∃ db rebuilt, appendAll O (callsUpTo t target calls) start = .ok db ∧
      reconstructStateAt O t target final = .ok rebuilt ∧
      (MenuAgrees rebuilt.state t db.tables ↔
        ∀ id last, lastAdded id (tenantHistory t (callsUpTo t target calls)) = some last →
          AddedFaithfully last) := by
  obtain ⟨after, db, hsplit⟩ := h.split target
  have hkept : KeptByMirrored O t (start.tables.ingredientOf t)
      (fun past v p => ∀ id, MenuRebuilt O id past v p) (fun event => PricesOnScale event.2) := by
    intro past eventType payload v v' p p' hallowed hinv hmirrored id
    exact (hinv id).step hallowed hmirrored
  obtain ⟨rebuilt, hrebuilt, hnamed, hinv⟩ :=
    hsplit.reconstruct hkept (fun id => .absent rfl (hempty id) rfl) hscale
  refine ⟨db, rebuilt, hsplit.run, hrebuilt, ?_⟩
  constructor
  · intro hagrees id
    exact (hinv id).agrees_iff.mp (hagrees.items id)
  · intro hall
    exact ⟨fun key r hr => hnamed.menuItems.find? hr, fun id => (hinv id).agrees_iff.mpr (hall id)⟩

/-! ### Concrete runs -/

def soupCall (name active : Value) (now : Timestamp) (id : String) : AppendCall :=
  pantryCall .menuItemAdded [(.str "menu_item_id", .str "soup"), (.str "name", name),
    (.str "current_price", floatValue 950 (-2)), (.str "active", active)] now id

/-- The soup is added, raised in price, taken off the menu, and put back later. -/
def menuCalls : List AppendCall :=
  [soupCall (.str "Soup") (.bool true) 1 "e1",
    pantryCall .menuPriceChange
      [(.str "menu_item_id", .str "soup"), (.str "new_price", floatValue 10 0)] 2 "e2",
    pantryCall .menuItemRemoved [(.str "menu_item_id", .str "soup")] 3 "e3",
    soupCall (.str "Soup") (.bool false) 6 "e4"]

theorem soup_replayed_menu : ∃ final db rebuilt,
    appendAll (.prescribed []) menuCalls pantry = .ok final ∧
    appendAll (.prescribed []) (callsUpTo "t" 5 menuCalls) pantry = .ok db ∧
    reconstructStateAt (.prescribed []) "t" 5 final = .ok rebuilt ∧
    (MenuAgrees rebuilt.state "t" db.tables ↔
      ∀ id last, lastAdded id (tenantHistory "t" (callsUpTo "t" 5 menuCalls)) = some last →
        AddedFaithfully last) := by
  have hok : (appendAll (.prescribed []) menuCalls pantry).isOk = true := by decide +kernel
  obtain ⟨final, hfinal⟩ := exists_ok_of_isOk hok
  have hrun : AppendRun (.prescribed []) "t" menuCalls pantry final := by
    refine ⟨rfl, List.nodup_singleton _, ?_, hfinal, by decide⟩
    simp [menuCalls, soupCall, pantryCall, Value.DistinctKeys, MembersDistinctKeys, Key.Same,
      Key.isNumber, floatValue]
  have hscale : ∀ event ∈ tenantHistory "t" (callsUpTo "t" 5 menuCalls),
      PricesOnScale event.2 := by
    have hcalls : ∀ call ∈ menuCalls,
        ["new_price", "current_price"].all (fieldOnScale call.payload 2) = true := by
      decide +kernel
    intro event hevent
    obtain ⟨call, hcall, hpayload⟩ := exists_call_of_event hevent
    rw [hpayload]
    exact pricesOnScale_of_fields (hcalls call (List.takeWhile_subset _ hcall))
  obtain ⟨db, rebuilt, hdb, hrebuilt, hiff⟩ := replayed_menu hrun 5 (fun _ => rfl) hscale
  exact ⟨final, db, rebuilt, hfinal, hdb, hrebuilt, hiff⟩

/-- The soup as the replay and the table have it after it was added. -/
def soupTwice (call : AppendCall) : Option (MenuItemState × MenuItem) := do
  let db ← (call.append (.prescribed []) pantry).toOption
  let rebuilt ← (reconstructStateAt (.prescribed []) "t" 5 db).toOption
  return (← rebuilt.state.menuItems.find? (.str "soup"), ← db.tables.menuItem? "t" "soup")

lemma soupTwice_any {call : AppendCall} {P : MenuItemState → MenuItem → Prop}
    [∀ r row, Decidable (P r row)]
    (h : (soupTwice call).any (fun a => P a.1 a.2) = true) : ∃ db rebuilt r row,
      call.append (.prescribed []) pantry = .ok db ∧
      reconstructStateAt (.prescribed []) "t" 5 db = .ok rebuilt ∧
      rebuilt.state.menuItems.find? (.str "soup") = some r ∧
      db.tables.menuItem? "t" "soup" = some row ∧ P r row := by
  obtain ⟨⟨r, row⟩, hpair, hP⟩ := (Option.any_eq_true _ _).mp h
  obtain ⟨db, hdb, hpair⟩ := Option.bind_eq_some_iff.mp hpair
  obtain ⟨rebuilt, hrebuilt, hpair⟩ := Option.bind_eq_some_iff.mp hpair
  obtain ⟨r', hr, hpair⟩ := Option.bind_eq_some_iff.mp hpair
  obtain ⟨row', hrow, hpair⟩ := Option.bind_eq_some_iff.mp hpair
  obtain ⟨rfl, rfl⟩ := Prod.mk.inj (Option.some.inj hpair)
  exact ⟨db, rebuilt, r', row', eq_ok_of_toOption hdb, eq_ok_of_toOption hrebuilt, hr, hrow,
    of_decide_eq_true hP⟩

/-- A dish added as hidden is rebuilt as active, and one added under a number keeps the number. -/
theorem hidden_soup_rebuilt_active :
    (∃ db rebuilt r row,
      (soupCall (.str "Soup") (.bool false) 1 "e1").append (.prescribed []) pantry = .ok db ∧
      reconstructStateAt (.prescribed []) "t" 5 db = .ok rebuilt ∧
      rebuilt.state.menuItems.find? (.str "soup") = some r ∧
      db.tables.menuItem? "t" "soup" = some row ∧
      r.active = some true ∧ row.active = false) ∧
    ∃ db rebuilt r row,
      (soupCall (.int 7) (.bool true) 1 "e1").append (.prescribed []) pantry = .ok db ∧
      reconstructStateAt (.prescribed []) "t" 5 db = .ok rebuilt ∧
      rebuilt.state.menuItems.find? (.str "soup") = some r ∧
      db.tables.menuItem? "t" "soup" = some row ∧
      (r.name matches some (.int 7)) ∧ row.name = "7" :=
  ⟨soupTwice_any (by decide +kernel), soupTwice_any (by decide +kernel)⟩

end OpsCopilot
