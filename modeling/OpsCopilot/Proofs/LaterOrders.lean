import OpsCopilot.Proofs.MarginPrice

/-!
# Orders later than the time of detection

The window of recent orders has no upper end. Orders that are later than the time at which
opportunities are looked for count as recent, and change what is found for the dishes in trouble.
-/

namespace OpsCopilot

open Python Sql Fallible

/-- The tables with more rows of order volumes. -/
def Tables.withOrders (T : Tables) (later : List OrderVolume) : Tables :=
  { T with orderVolume := T.orderVolume ++ later }

@[simp] lemma Tables.withOrders_menuItems (T : Tables) (later : List OrderVolume) :
    (T.withOrders later).menuItems = T.menuItems := rfl

/-- The units of a dish in some rows. -/
def unitsIn (rows : List OrderVolume) (tenantId menuItemId : String) : ℤ :=
  ((rows.filter (fun v => v.tenantId = tenantId ∧ v.menuItemId = menuItemId)).map
    OrderVolume.quantity).sum

/-- A dish whose margin is not reported: it has no recipe cost or no price, or it is near enough
to the target margin. -/
inductive MarginInOrder (T : Tables) (tenantId : String) (item : MenuItem) : Prop
  | uncosted : recipeCost T tenantId item.id = .ok none → MarginInOrder T tenantId item
  | unpriced {cost : Option ℚ} : recipeCost T tenantId item.id = .ok (some cost) →
      item.currentPrice.isNan = false → item.currentPrice.toRat ≤ 0 → MarginInOrder T tenantId item
  | near {cost profit margin shortfall : ℚ} : recipeCost T tenantId item.id = .ok (some (some cost)) →
      0 < item.currentPrice.toRat → inContext (item.currentPrice.toRat - cost) = .ok profit →
      inContext (profit / item.currentPrice.toRat) = .ok margin →
      inContext (targetContributionMargin - margin) = .ok shortfall →
      shortfall < minMarginShortfall → MarginInOrder T tenantId item

/-- The decline from one window to the next that is reported. -/
def Declined (baseline recent : ℤ) : Prop :=
  0 < baseline ∧ demandDeclineThreshold ≤ ((baseline - recent : ℚ)) / baseline

/-- The two windows before a time, the later one without an upper end. -/
def recentUnits (T : Tables) (tenantId : String) (now : Timestamp) (item : MenuItem) : ℤ :=
  unitsOrdered T tenantId item.id (now - lookback) none

def baselineUnits (T : Tables) (tenantId : String) (now : Timestamp) (item : MenuItem) : ℤ :=
  unitsOrdered T tenantId item.id (now - lookback - lookback) (some (now - lookback))

/-- Later rows do not touch what is found for a dish: they come to no units of it, or there is
nothing to find for it, with them or without. -/
def Unaffected (T : Tables) (tenantId : String) (now : Timestamp) (later : List OrderVolume)
    (item : MenuItem) : Prop :=
  unitsIn later tenantId item.id = 0 ∨
    MarginInOrder T tenantId item ∧
      ∀ recent ∈ [recentUnits T tenantId now item,
          recentUnits T tenantId now item + unitsIn later tenantId item.id],
        ¬Declined (baselineUnits T tenantId now item) recent

section Detection

variable {O : Outside} {T : Tables} {t : String} {now : Timestamp} {later : List OrderVolume}
  {item : MenuItem} {o : Opportunity}

/-! ### The windows -/

lemma lookback_pos : (0 : ℤ) < lookback := by norm_num [lookback]

lemma unitsOrdered_withOrders (id : String) (start : Timestamp) (stop : Option Timestamp) :
    unitsOrdered (T.withOrders later) t id start stop = unitsOrdered T t id start stop +
      ((later.filter (fun v => v.tenantId = t ∧ v.menuItemId = id ∧ start ≤ v.timestamp ∧
        stop.all (fun s => v.timestamp < s))).map OrderVolume.quantity).sum := by
  rw [unitsOrdered, Tables.withOrders, List.filter_append, List.map_append, List.sum_append,
    unitsOrdered]

/-- Later rows count as recent. -/
lemma recentUnits_withOrders (hlater : ∀ v ∈ later, now < v.timestamp) :
    recentUnits (T.withOrders later) t now item =
      recentUnits T t now item + unitsIn later t item.id := by
  rw [recentUnits, unitsOrdered_withOrders, recentUnits, unitsIn]
  congr 3
  refine List.filter_congr fun v hv => ?_
  have hstart : now - lookback ≤ v.timestamp :=
    (sub_le_self now lookback_pos.le).trans (hlater v hv).le
  simp [hstart]

/-- The window of the baseline ends before them. -/
lemma baselineUnits_withOrders (hlater : ∀ v ∈ later, now < v.timestamp) :
    baselineUnits (T.withOrders later) t now item = baselineUnits T t now item := by
  rw [baselineUnits, unitsOrdered_withOrders, baselineUnits]
  have hnone : later.filter (fun v => v.tenantId = t ∧ v.menuItemId = item.id ∧
      now - lookback - lookback ≤ v.timestamp ∧
        (some (now - lookback)).all (fun s => v.timestamp < s)) = [] := by
    refine List.filter_eq_nil_iff.mpr fun v hv => ?_
    have hstop : ¬v.timestamp < now - lookback :=
      not_lt.mpr ((sub_le_self now lookback_pos.le).trans (hlater v hv).le)
    simp [hstop]
  rw [hnone, List.map_nil, List.sum_nil, add_zero]

/-! ### One dish -/

lemma marginOpportunity_none :
    marginOpportunity O T t now item = .ok none ↔ MarginInOrder T t item := by
  constructor
  · intro h
    unfold marginOpportunity at h
    obtain ⟨cost, hcost, h⟩ := bind_ok.mp h
    cases cost with
    | none => exact .uncosted hcost
    | some cost =>
      dsimp only at h
      by_cases hnan : item.currentPrice.isNan
      · rw [if_pos hnan] at h
        cases h
      rw [if_neg hnan] at h
      by_cases hprice : item.currentPrice.toRat ≤ 0
      · exact .unpriced hcost (Bool.eq_false_iff.mpr hnan) hprice
      · rw [if_neg hprice] at h
        obtain ⟨number, hnumber, hrest⟩ := bind_ok.mp h
        obtain rfl : cost = some number := by
          cases cost with
          | none => cases hnumber
          | some cost => exact congrArg some (Except.ok.inj hnumber)
        obtain ⟨profit, hprofit, h⟩ := bind_ok.mp hrest
        obtain ⟨margin, hmargin, h⟩ := bind_ok.mp h
        obtain ⟨shortfall, hshortfall, h⟩ := bind_ok.mp h
        by_cases hnear : shortfall < minMarginShortfall
        · exact .near hcost (not_le.mp hprice) hprofit hmargin hshortfall hnear
        · rw [if_neg hnear] at h
          obtain ⟨_, -, h⟩ := bind_ok.mp h
          obtain ⟨_, -, h⟩ := bind_ok.mp h
          obtain ⟨_, -, h⟩ := bind_ok.mp h
          obtain ⟨_, -, h⟩ := bind_ok.mp h
          obtain ⟨_, -, h⟩ := bind_ok.mp h
          cases h
  · intro h
    unfold marginOpportunity
    cases h with
    | uncosted hcost => exact bind_ok.mpr ⟨none, hcost, rfl⟩
    | unpriced hcost hnan hprice =>
      refine bind_ok.mpr ⟨_, hcost, ?_⟩
      dsimp only
      rw [if_neg (Bool.eq_false_iff.mp hnan)]
      exact if_pos hprice
    | near hcost hprice hprofit hmargin hshortfall hnear =>
      refine bind_ok.mpr ⟨_, hcost, ?_⟩
      dsimp only
      rw [if_neg (Bool.eq_false_iff.mp (Column.isNan_of_nonneg hprice.le)),
        if_neg (not_le.mpr hprice)]
      refine bind_ok.mpr ⟨_, rfl, bind_ok.mpr ⟨_, hprofit, bind_ok.mpr ⟨_, hmargin,
        bind_ok.mpr ⟨_, hshortfall, ?_⟩⟩⟩⟩
      exact if_pos hnear

lemma marginInOrder_withOrders : MarginInOrder (T.withOrders later) t item ↔ MarginInOrder T t item := by
  constructor
  · intro h
    cases h with
    | uncosted hcost => exact .uncosted hcost
    | unpriced hcost hnan hprice => exact .unpriced hcost hnan hprice
    | near hcost hprice hprofit hmargin hshortfall hnear =>
      exact .near hcost hprice hprofit hmargin hshortfall hnear
  · intro h
    cases h with
    | uncosted hcost => exact .uncosted hcost
    | unpriced hcost hnan hprice => exact .unpriced hcost hnan hprice
    | near hcost hprice hprofit hmargin hshortfall hnear =>
      exact .near hcost hprice hprofit hmargin hshortfall hnear

/-- The evidence of a deteriorated margin names the dish and the recent units. -/
lemma marginOpportunity_units (h : marginOpportunity O T t now item = .ok (some o)) :
    o.opportunityType = .marginDeterioration ∧ o.evidence.get "menu_item_id" = .str item.id ∧
      o.evidence.get "observed_units" = .int (recentUnits T t now item) := by
  unfold marginOpportunity at h
  obtain ⟨cost, -, h⟩ := bind_ok.mp h
  cases cost with
  | none => cases h
  | some cost =>
    dsimp only at h
    by_cases hnan : item.currentPrice.isNan
    · rw [if_pos hnan] at h
      cases h
    rw [if_neg hnan] at h
    by_cases hprice : item.currentPrice.toRat ≤ 0
    · rw [if_pos hprice] at h
      cases h
    · rw [if_neg hprice] at h
      obtain ⟨cost, -, h⟩ := bind_ok.mp h
      obtain ⟨profit, -, h⟩ := bind_ok.mp h
      obtain ⟨margin, -, h⟩ := bind_ok.mp h
      obtain ⟨shortfall, -, h⟩ := bind_ok.mp h
      by_cases hnear : shortfall < minMarginShortfall
      · rw [if_pos hnear] at h
        cases h
      · rw [if_neg hnear] at h
        obtain ⟨monthlyUnits, -, h⟩ := bind_ok.mp h
        obtain ⟨targetProfit, -, h⟩ := bind_ok.mp h
        obtain ⟨gap, -, h⟩ := bind_ok.mp h
        obtain ⟨monthlyLoss, -, h⟩ := bind_ok.mp h
        obtain ⟨o', ho', h⟩ := bind_ok.mp h
        obtain ⟨htype, -, hevidence⟩ := Opportunity.make_ok ho'
        rw [← Option.some.inj (pure_ok.mp h), htype, hevidence]
        exact ⟨rfl, rfl, rfl⟩

lemma demandOpportunity_none :
    demandOpportunity O T t now item = .ok none ↔
      ¬Declined (baselineUnits T t now item) (recentUnits T t now item) := by
  unfold demandOpportunity
  dsimp only
  by_cases hbaseline : unitsOrdered T t item.id (now - lookback - lookback) (some (now - lookback)) ≤ 0
  · rw [if_pos hbaseline]
    exact iff_of_true rfl (fun h => absurd h.1 (not_lt.mpr hbaseline))
  · rw [if_neg hbaseline]
    split_ifs with hsmall
    · exact iff_of_true rfl (fun h => absurd h.2 (not_le.mpr hsmall))
    · refine iff_of_false (fun h => ?_) (not_not.mpr ⟨not_le.mp hbaseline, not_lt.mp hsmall⟩)
      cases hprice : item.currentPrice with
      | nan =>
        rw [hprice] at h
        obtain ⟨_, -, h⟩ := bind_ok.mp h
        cases h
      | number price =>
        rw [hprice] at h
        obtain ⟨_, -, h⟩ := bind_ok.mp h
        obtain ⟨_, -, h⟩ := bind_ok.mp h
        obtain ⟨_, -, h⟩ := bind_ok.mp h
        cases h

/-- The evidence of a decline names the dish and the recent units. -/
lemma demandOpportunity_units (h : demandOpportunity O T t now item = .ok (some o)) :
    o.opportunityType = .demandDecline ∧ o.evidence.get "menu_item_id" = .str item.id ∧
      o.evidence.get "recent_units" = .int (recentUnits T t now item) := by
  unfold demandOpportunity at h
  dsimp only at h
  split_ifs at h
  · cases h
  · cases h
  · cases hprice : item.currentPrice with
    | nan =>
      rw [hprice] at h
      obtain ⟨o', ho', h⟩ := bind_ok.mp h
      obtain ⟨htype, -, hevidence⟩ := Opportunity.make_ok ho'
      rw [← Option.some.inj (pure_ok.mp h), htype, hevidence]
      exact ⟨rfl, rfl, rfl⟩
    | number price =>
      rw [hprice] at h
      obtain ⟨lost, -, h⟩ := bind_ok.mp h
      obtain ⟨monthly, -, h⟩ := bind_ok.mp h
      obtain ⟨o', ho', h⟩ := bind_ok.mp h
      obtain ⟨htype, -, hevidence⟩ := Opportunity.make_ok ho'
      rw [← Option.some.inj (pure_ok.mp h), htype, hevidence]
      exact ⟨rfl, rfl, rfl⟩

lemma marginOpportunity_withOrders (hlater : ∀ v ∈ later, now < v.timestamp)
    (hunits : unitsIn later t item.id = 0) :
    marginOpportunity O (T.withOrders later) t now item = marginOpportunity O T t now item := by
  have hrecent : recentUnits (T.withOrders later) t now item = recentUnits T t now item := by
    rw [recentUnits_withOrders hlater, hunits, add_zero]
  rw [recentUnits, recentUnits] at hrecent
  unfold marginOpportunity
  rw [hrecent]
  rfl

lemma demandOpportunity_withOrders (hlater : ∀ v ∈ later, now < v.timestamp)
    (hunits : unitsIn later t item.id = 0) :
    demandOpportunity O (T.withOrders later) t now item = demandOpportunity O T t now item := by
  have hrecent : recentUnits (T.withOrders later) t now item = recentUnits T t now item := by
    rw [recentUnits_withOrders hlater, hunits, add_zero]
  have hbaseline : baselineUnits (T.withOrders later) t now item = baselineUnits T t now item :=
    baselineUnits_withOrders hlater
  rw [recentUnits, recentUnits] at hrecent
  rw [baselineUnits, baselineUnits] at hbaseline
  unfold demandOpportunity
  rw [hrecent, hbaseline]

/-! ### All dishes -/

variable {name : String → String} {os : List Opportunity}

/-- What is found for an active dish is in the list. -/
lemma dish_detected (h : detectOpportunities O T t name now = .ok os) (hitem : item ∈ activeItems T t) :
    (∃ r, marginOpportunity O T t now item = .ok r ∧ ∀ o, r = some o → o ∈ os) ∧
      ∃ r, demandOpportunity O T t now item = .ok r ∧ ∀ o, r = some o → o ∈ os := by
  obtain ⟨margins, hmargins, h⟩ := bind_ok.mp h
  obtain ⟨stockouts, -, h⟩ := bind_ok.mp h
  obtain ⟨demands, hdemands, h⟩ := bind_ok.mp h
  have hmem : ∀ o, some o ∈ margins ++ stockouts ++ demands → o ∈ os := by
    intro o ho
    rw [← pure_ok.mp h, List.mem_insertionSort, List.mem_filterMap]
    exact ⟨some o, ho, rfl⟩
  obtain ⟨m, hm, hmargin⟩ := exists_mem_of_mapM hmargins hitem
  obtain ⟨d, hd, hdemand⟩ := exists_mem_of_mapM hdemands hitem
  refine ⟨⟨m, hmargin, ?_⟩, d, hdemand, ?_⟩
  · rintro o rfl
    exact hmem o (List.mem_append_left _ (List.mem_append_left _ hm))
  · rintro o rfl
    exact hmem o (List.mem_append_right _ hd)

/-- A detected decline is about a dish. -/
lemma exists_dish_of_declined (h : detectOpportunities O T t name now = .ok os) (ho : o ∈ os)
    (htype : o.opportunityType = .demandDecline) :
    ∃ item ∈ T.menuItems, demandOpportunity O T t now item = .ok (some o) := by
  obtain ⟨margins, hmargins, h⟩ := bind_ok.mp h
  obtain ⟨stockouts, hstockouts, h⟩ := bind_ok.mp h
  obtain ⟨demands, hdemands, h⟩ := bind_ok.mp h
  rw [← pure_ok.mp h, List.mem_insertionSort, List.mem_filterMap] at ho
  obtain ⟨found, hfound, heq⟩ := ho
  rw [id_eq] at heq
  rw [heq, List.mem_append, List.mem_append] at hfound
  rcases hfound with (hfound | hfound) | hfound
  · obtain ⟨item, -, hmargin⟩ := exists_of_mem_mapM hmargins hfound
    rw [(marginOpportunity_units hmargin).1] at htype
    cases htype
  · obtain ⟨level, -, hstockout⟩ := exists_of_mem_mapM hstockouts hfound
    rw [stockoutOpportunity_type hstockout] at htype
    cases htype
  · obtain ⟨item, hitem, hdemand⟩ := exists_of_mem_mapM hdemands hfound
    exact ⟨item, (List.mem_filter.mp hitem).1, hdemand⟩

/-- Tables that give rise to one deterioration agree on the recent units of its dish. -/
lemma recentUnits_of_margin {T' : Tables} (hmenu : T'.menuItems = T.menuItems)
    (hkeys : (T.menuItems.map MenuItem.id).Nodup) (hitem : item ∈ T.menuItems)
    (h : marginOpportunity O T t now item = .ok (some o))
    (hfound : detectOpportunities O T' t name now = .ok os) (ho : o ∈ os) :
    recentUnits T' t now item = recentUnits T t now item := by
  obtain ⟨htype, hid, hunits⟩ := marginOpportunity_units h
  obtain ⟨item', hitem', -, h'⟩ := exists_item_of_detected hfound ho htype
  obtain ⟨-, hid', hunits'⟩ := marginOpportunity_units h'
  rw [hid] at hid'
  obtain rfl : item = item' :=
    List.inj_on_of_nodup_map hkeys hitem (hmenu ▸ hitem') (Value.str.inj hid')
  exact Value.int.inj (hunits'.symm.trans hunits)

/-- The same for a decline. -/
lemma recentUnits_of_decline {T' : Tables} (hmenu : T'.menuItems = T.menuItems)
    (hkeys : (T.menuItems.map MenuItem.id).Nodup) (hitem : item ∈ T.menuItems)
    (h : demandOpportunity O T t now item = .ok (some o))
    (hfound : detectOpportunities O T' t name now = .ok os) (ho : o ∈ os) :
    recentUnits T' t now item = recentUnits T t now item := by
  obtain ⟨htype, hid, hunits⟩ := demandOpportunity_units h
  obtain ⟨item', hitem', h'⟩ := exists_dish_of_declined hfound ho htype
  obtain ⟨-, hid', hunits'⟩ := demandOpportunity_units h'
  rw [hid] at hid'
  obtain rfl : item = item' :=
    List.inj_on_of_nodup_map hkeys hitem (hmenu ▸ hitem') (Value.str.inj hid')
  exact Value.int.inj (hunits'.symm.trans hunits)

/-- Detection at a time finds the same with and without later orders if and only if they affect
no active dish. -/
theorem later_orders_unseen (name : String → String) (hlater : ∀ v ∈ later, now < v.timestamp)
    (hkeys : (T.menuItems.map MenuItem.id).Nodup)
    (h : detectOpportunities O T t name now = .ok os) :
    detectOpportunities O (T.withOrders later) t name now = .ok os ↔
      ∀ item ∈ activeItems T t, Unaffected T t now later item := by
  constructor
  · intro hsame item hitem
    by_cases hunits : unitsIn later t item.id = 0
    · exact .inl hunits
    · have hmem := (List.mem_filter.mp hitem).1
      have hdiffer : recentUnits (T.withOrders later) t now item ≠ recentUnits T t now item := by
        rw [recentUnits_withOrders hlater]
        omega
      obtain ⟨⟨m, hmargin, hm⟩, d, hdemand, hd⟩ := dish_detected h hitem
      obtain ⟨-, d', hdemand', hd'⟩ := dish_detected hsame hitem
      refine .inr ⟨?_, ?_⟩
      · cases m with
        | none => exact marginOpportunity_none.mp hmargin
        | some o =>
          have hmenu := T.withOrders_menuItems later
          exact absurd (recentUnits_of_margin hmenu hkeys hmem hmargin hsame (hm o rfl)) hdiffer
      · intro recent hrecent
        rw [List.mem_pair] at hrecent
        rcases hrecent with rfl | rfl
        · cases d with
          | none => exact demandOpportunity_none.mp hdemand
          | some o =>
            have hmenu := T.withOrders_menuItems later
            exact absurd (recentUnits_of_decline hmenu hkeys hmem hdemand hsame (hd o rfl)) hdiffer
        · rw [← recentUnits_withOrders hlater, ← baselineUnits_withOrders hlater]
          cases d' with
          | none => exact demandOpportunity_none.mp hdemand'
          | some o =>
            have hsymm := (T.withOrders_menuItems later).symm
            exact absurd (recentUnits_of_decline hsymm hkeys hmem hdemand' h (hd' o rfl)).symm
              hdiffer
  · intro hunaffected
    have hmargins : ∀ item ∈ activeItems T t,
        marginOpportunity O (T.withOrders later) t now item = marginOpportunity O T t now item := by
      intro item hitem
      rcases hunaffected item hitem with hunits | ⟨hmargin, -⟩
      · exact marginOpportunity_withOrders hlater hunits
      · rw [marginOpportunity_none.mpr hmargin,
          marginOpportunity_none.mpr (marginInOrder_withOrders.mpr hmargin)]
    have hdemands : ∀ item ∈ activeItems T t,
        demandOpportunity O (T.withOrders later) t now item = demandOpportunity O T t now item := by
      intro item hitem
      rcases hunaffected item hitem with hunits | ⟨-, hdemand⟩
      · exact demandOpportunity_withOrders hlater hunits
      · rw [demandOpportunity_none.mpr (hdemand _ (by simp)), demandOpportunity_none.mpr]
        rw [recentUnits_withOrders hlater, baselineUnits_withOrders hlater]
        exact hdemand _ (by simp)
    rw [← h]
    unfold detectOpportunities
    change (do
      let margins ← (activeItems T t).mapM (marginOpportunity O (T.withOrders later) t now)
      let stockouts ← (T.inventoryLevels.filter (fun l : InventoryLevel => l.tenantId = t ∧
        (T.ingredient? t l.ingredientId).isSome)).mapM (stockoutOpportunity O T t name)
      let demands ← (activeItems T t).mapM (demandOpportunity O (T.withOrders later) t now)
      return ((margins ++ stockouts ++ demands).filterMap id).insertionSort Opportunity.before) = _
    rw [mapM_congr_mem hmargins, mapM_congr_mem hdemands]

end Detection

/-! ### Tomorrow's bisques -/

/-- Three bisques ordered at the time `1`. -/
def tomorrowsBisques : List OrderVolume := [⟨"t", "bisque", 1, 3⟩]

/-- The units that the opportunities of a list report. -/
def observedUnits (found : Except PyException (List Opportunity)) : Option (List (Option ℤ)) :=
  found.toOption.map (fun os => os.map (fun o => (o.evidence.get "observed_units").toInt.toOption))

/-- At the time `0` they count as sold. -/
theorem bisques_foreseen : (∀ v ∈ tomorrowsBisques, 0 < v.timestamp) ∧
    detectOpportunities (Outside.prescribed []) (bisqueTables.withOrders tomorrowsBisques) "t" id
      0 ≠ detectOpportunities (Outside.prescribed []) bisqueTables "t" id 0 := by
  refine ⟨by decide, fun h => ?_⟩
  have hwith : observedUnits (detectOpportunities (Outside.prescribed [])
      (bisqueTables.withOrders tomorrowsBisques) "t" id 0) = some [some 3] := by decide +kernel
  have hwithout : observedUnits (detectOpportunities (Outside.prescribed []) bisqueTables "t" id
      0) = some [some 0] := by decide +kernel
  rw [h, hwithout] at hwith
  exact absurd hwith (by decide)

/-- Orders of a dish that is not on the menu leave the list as it is. -/
theorem soups_unseen : ∃ os,
    detectOpportunities (Outside.prescribed []) bisqueTables "t" id 0 = .ok os ∧ os.length = 1 ∧
      detectOpportunities (Outside.prescribed [])
        (bisqueTables.withOrders [⟨"t", "soup", 1, 3⟩]) "t" id 0 = .ok os := by
  obtain ⟨os, hos, hmap⟩ := exists_ok_of_toOption bisque_detected
  have hlen := congrArg List.length hmap
  rw [List.length_map] at hlen
  refine ⟨os, hos, hlen, (later_orders_unseen id ?_ ?_ hos).mpr ?_⟩
  · simp
  · simp [bisqueTables]
  · intro item hitem
    have hbisque : item.id = "bisque" := by
      have hmem := (List.mem_filter.mp hitem).1
      rw [bisqueTables, List.mem_singleton] at hmem
      rw [hmem]
    refine .inl ?_
    rw [hbisque]
    decide

end OpsCopilot
