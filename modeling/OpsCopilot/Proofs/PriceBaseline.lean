import OpsCopilot.Proofs.ToolWork

/-!
# The baseline of an autonomous price change

The price that the gates have judged is the price that the change is applied to: whoever can
change it needs the lock that the call holds from the judgement to the event.
-/

namespace OpsCopilot

open Python Sql Fallible Interleaving KeyedLock

/-! ### Prices -/

/-- The stored price of a dish. -/
def Tables.price? (T : Tables) (tenantId id : String) : Option ℚ :=
  (T.menuItem? tenantId id).map (fun r => r.currentPrice.toRat)

/-- The type of the event that an action is carried out by. -/
def ActionType.eventType : ActionType → EventType
  | .priceChange => .menuPriceChange
  | .supplierSwitch => .supplierPriceChange
  | .menuSwap => .menuItemRemoved
  | .staffingChange => .staffingChange

def priceEvent (payload : Dict) : Dict :=
  [(.str "menu_item_id", payload.get "menu_item_id"), (.str "new_price", payload.get "new_price")]

@[simp] lemma priceEvent_menuItemId (payload : Dict) :
    (priceEvent payload).get "menu_item_id" = payload.get "menu_item_id" := by
  simp [priceEvent, Dict.get, Dict.find?]

@[simp] lemma priceEvent_newPrice (payload : Dict) :
    (priceEvent payload).get "new_price" = payload.get "new_price" := by
  simp [priceEvent, Dict.get, Dict.find?]

section Prices

variable {O : Outside} {e : Projection} {T T' : Tables} {t id : String} {payload : Dict}

lemma payloadItem_ok {field : String} {v : Value} (h : payloadItem payload field = .ok v) :
    payload.get field = v := by
  unfold payloadItem at h
  cases hfind : payload.find? field with
  | none =>
    rw [hfind] at h
    exact absurd h (by simp)
  | some v' =>
    rw [hfind] at h
    rw [Dict.get, hfind]
    exact Except.ok.inj h

lemma stateChangeEvent_price {eventType : EventType} {event : Dict}
    (h : stateChangeEvent O T t payload .priceChange = .ok (eventType, event)) :
    eventType = .menuPriceChange ∧ event = priceEvent payload := by
  obtain ⟨menuItemId, hid, hrest⟩ := bind_ok.mp h
  obtain ⟨newPrice, hprice, hlast⟩ := bind_ok.mp hrest
  obtain ⟨rfl, rfl⟩ := Prod.mk.inj (pure_ok.mp hlast)
  rw [priceEvent, payloadItem_ok hid, payloadItem_ok hprice]
  exact ⟨rfl, rfl⟩

lemma stateChangeEvent_type {a : ActionType} {eventType : EventType} {event : Dict}
    (h : stateChangeEvent O T t payload a = .ok (eventType, event)) : eventType = a.eventType := by
  cases a with
  | priceChange => exact (stateChangeEvent_price h).1
  | supplierSwitch =>
    obtain ⟨_, -, h⟩ := bind_ok.mp h
    obtain ⟨_, -, h⟩ := bind_ok.mp h
    obtain ⟨_, -, h⟩ := bind_ok.mp h
    exact (Prod.mk.inj (pure_ok.mp h)).1.symm
  | menuSwap =>
    simp only [stateChangeEvent] at h
    split at h
    · obtain ⟨_, -, h⟩ := bind_ok.mp h
      exact (Prod.mk.inj (pure_ok.mp h)).1.symm
    · exact absurd h (by simp [throw, throwThe, MonadExceptOf.throw])
  | staffingChange =>
    obtain ⟨_, -, h⟩ := bind_ok.mp h
    obtain ⟨_, -, h⟩ := bind_ok.mp h
    exact (Prod.mk.inj (pure_ok.mp h)).1.symm

lemma currentValueForCritic_price {v : Option ℚ}
    (h : currentValueForCritic T t .priceChange payload = .ok v) :
    ∃ key, filterText (payload.get "menu_item_id") = .ok key ∧ v = key.bind (T.price? t) := by
  obtain ⟨column, hcolumn, rfl⟩ := map_ok.mp h
  obtain ⟨key, hkey, hlast⟩ := bind_ok.mp hcolumn
  refine ⟨key, hkey, ?_⟩
  rw [← pure_ok.mp hlast]
  cases key with
  | none => rfl
  | some id => exact Option.map_map ..

lemma serializationKey_price {payload' : Dict}
    (h : payload.get "menu_item_id" = payload'.get "menu_item_id") :
    serializationKey O t .priceChange payload = serializationKey O t .priceChange payload' := by
  have htext : resourceText O payload "menu_item_id" = resourceText O payload' "menu_item_id" :=
    congrArg (pyStr O) h
  unfold serializationKey
  dsimp only
  rw [htext]

/-- The price of a dish stays as it is under every event of an agent but its own price change. -/
lemma price?_of_action {a : ActionType} (h : applyToCurrentState O e T a.eventType = .ok T')
    (hne : ¬(a = .priceChange ∧ e.tenantId = t ∧ e.payload.get "menu_item_id" = .str id)) :
    T'.price? t id = T.price? t id := by
  cases a with
  | priceChange =>
    obtain ⟨id', newPrice, row, price, hid', -, -, -, -, rfl⟩ := applyMenuPriceChange_spec h
    have hother : ¬(id = id' ∧ t = e.tenantId) := by
      rintro ⟨rfl, rfl⟩
      exact hne ⟨rfl, rfl, hid'⟩
    unfold Tables.price?
    rw [Tables.menuItem?_changeMenuItem, if_neg hother]
    exact fun r => ⟨rfl, rfl⟩
  | supplierSwitch =>
    obtain ⟨_, _, _, _, _, -, -, -, -, -, -, rfl⟩ := applySupplierPriceChange_spec h
    rfl
  | menuSwap =>
    obtain ⟨id', row, -, -, rfl⟩ := applyMenuItemRemoved_spec h
    unfold Tables.price?
    rw [Tables.menuItem?_changeMenuItem]
    · split_ifs
      · rw [Option.map_map]
        rfl
      · rfl
    · exact fun r => ⟨rfl, rfl⟩
  | staffingChange =>
    unfold Tables.price? Tables.menuItem?
    rw [(applyStaffingChange_sameRows h).menuItems_eq]

/-- The price of a dish after its own price change. -/
lemma price?_of_priceChange (h : applyToCurrentState O e T .menuPriceChange = .ok T') :
    ∃ id newPrice old price, e.payload.get "menu_item_id" = .str id ∧
      (e.payload.get "new_price").toDecimal = some newPrice ∧
      T.price? e.tenantId id = some old ∧ storeNumeric 10 2 newPrice = .ok price ∧
      T'.price? e.tenantId id = some price.toRat := by
  obtain ⟨id, newPrice, row, price, hid, hprice, -, hrow, hstored, rfl⟩ :=
    applyMenuPriceChange_spec h
  refine ⟨id, newPrice, row.currentPrice.toRat, price, hid, hprice, ?_, hstored, ?_⟩
  · rw [Tables.price?, hrow]
    rfl
  · rw [Tables.price?, Tables.menuItem?_changeMenuItem, if_pos ⟨rfl, rfl⟩, hrow]
    · rfl
    · exact fun r => ⟨rfl, rfl⟩

end Prices

/-! ### Runs -/

section Runs

variable {ι : Type*} [DecidableEq ι] {O : Outside} {call : ι → ToolCall}
  {c d : Config ι ToolStore Process} {i : ι} {x : ToolAction}

/-- What holds of the locks in every state of a run. -/
structure LocksKept (O : Outside) (call : ι → ToolCall) (c : Config ι ToolStore Process) :
    Prop where
  exclusive : Exclusive (fun i => (c.proc i).guard) c.shared.locks
  entered : ∀ i decision, (c.proc i).stage = .entered decision → ∃ t a payload,
    call i = .execute t a payload ∧ (c.proc i).guard = some (serializationKey O t a payload)
  authority : ∀ i w, (c.proc i).stage.work? = some w →
    (∃ v reason, w.authority = .policy v reason) ∧
      call i = .execute w.tenantId w.actionType w.payload ∨
    ∃ r, w.authority = .reviewer r ∧ (call i).ExecutesApproved w.tenantId r
  ready : ∀ i w, (c.proc i).stage = .ready w → ∃ r, w.authority = .reviewer r
  applying : ∀ i w, (c.proc i).stage.applying? = some w → (c.proc i).guard = some (w.key O)
  event : ∀ i w evaluation eventType event,
    (c.proc i).stage = .appending w evaluation eventType event →
    eventType = w.actionType.eventType ∧
      (w.actionType = .priceChange → event = priceEvent w.payload)

lemma ToolMove.ready_cases {call : ToolCall} {s s' : ToolStore} {p p' : Process} {w : Work}
    (h : ToolMove O call x s p s' p') (hp' : p'.stage = .ready w) :
    ∃ r, w.authority = .reviewer r := by
  cases h with
  | readApproved _ _ _ =>
    obtain rfl := Stage.ready.inj hp'
    exact ⟨_, rfl⟩
  | raise _ _ | logPolicy _ _ | audit _ =>
    unfold Process.conclude at hp'
    split_ifs at hp'
  | persist _ _ =>
    unfold gateDecision at hp'
    split_ifs at hp'
  | getPending _ _ _ | resolve _ _ => split_ifs at hp'
  | crash _ | unsupported _ _ | simulate _ _ | persistAlone _ _ | acquire _ _ | timeout _
  | block _ _ | review _ _ | proceed _ _ | request _ _ | requestAlone _ _ | resolveAlone _ _
  | readPending _ _ _ | recheck _ _ _ _ | stale _ _ _ | getApproved _ _ _ _
  | acquireApproved _ | claimAlone _ _ | evaluateAlone _ | claim _ | observe _ | complete _
  | append _ | logReviewer _ _ | releaseWork _ | leave => exact absurd hp' (by simp)

lemma LocksKept.fire (hc : LocksKept O call c) (h : (toolCalls O call).fire c i x = some d) :
    LocksKept O call d := by
  have hmove := toolCalls_move h
  have hother : ∀ j, j ≠ i → d.proc j = c.proc j := fun j => (toolCalls O call).proc_of_fire h
  refine ⟨?_, ?_, ?_, ?_, ?_, ?_⟩
  · exact hc.exclusive.move hmove.lockMove (fun j hj => congrArg Process.guard (hother j hj))
  · intro j decision hj
    by_cases hji : j = i
    · subst hji
      exact hmove.entered_cases hj
    · rw [hother j hji] at hj ⊢
      exact hc.entered j decision hj
  · intro j w hj
    by_cases hji : j = i
    · subst hji
      rcases hmove.work_cases hj with hw |
          ⟨_, t, a, payload, _, v, reason, hcall, -, -, rfl⟩ | ⟨t, r, _, _, _, hcall, -, -, -, rfl⟩
      · exact hc.authority j w hw
      · exact .inl ⟨⟨v, reason, rfl⟩, hcall⟩
      · exact .inr ⟨r, rfl, hcall⟩
    · rw [hother j hji] at hj
      exact hc.authority j w hj
  · intro j w hj
    by_cases hji : j = i
    · subst hji
      exact hmove.ready_cases hj
    · rw [hother j hji] at hj
      exact hc.ready j w hj
  · intro j w hj
    by_cases hji : j = i
    · subst hji
      rcases hmove.applying_cases hj with ⟨hw, hguard⟩ |
          ⟨decision, hentered, hguard, _, _, _, hcall, _⟩ | ⟨_, hguard⟩
      · exact hguard.trans (hc.applying j w hw)
      · obtain ⟨t, a, payload, hcall', hkey⟩ := hc.entered j decision hentered
        obtain ⟨rfl, rfl, rfl⟩ := ToolCall.execute.inj (hcall.symm.trans hcall')
        exact hguard.trans hkey
      · exact hguard
    · rw [hother j hji] at hj ⊢
      exact hc.applying j w hj
  · intro j w evaluation eventType event hj
    by_cases hji : j = i
    · subst hji
      have hevent := hmove.appending_cases hj
      refine ⟨stateChangeEvent_type hevent, fun haction => ?_⟩
      rw [haction] at hevent
      exact (stateChangeEvent_price hevent).2
    · rw [hother j hji] at hj
      exact hc.event j w evaluation eventType event hj

omit [DecidableEq ι] in
lemma locksKept_start {db : Db} : LocksKept O call (db.start : Config ι ToolStore Process) := by
  refine ⟨exclusive_none, ?_, ?_, ?_, ?_, ?_⟩
  · intro i decision h
    exact absurd h (by simp [Db.start, Process.idle])
  · intro i w h
    exact absurd h (by simp [Db.start, Process.idle, Stage.work?])
  · intro i w h
    exact absurd h (by simp [Db.start, Process.idle])
  · intro i w h
    exact absurd h (by simp [Db.start, Process.idle, Stage.applying?])
  · intro i w evaluation eventType event h
    exact absurd h (by simp [Db.start, Process.idle])

/-- An append of another call leaves the price alone that this call has read under its lock. -/
lemma LocksKept.currentValue_eq (hc : LocksKept O call c)
    (h : (toolCalls O call).fire c i x = some d) {j : ι} (hji : j ≠ i) {w : Work} {v : Option ℚ}
    (hw : (c.proc j).stage.applying? = some w) (haction : w.actionType = .priceChange)
    (hv : currentValueForCritic c.shared.db.tables w.tenantId .priceChange w.payload = .ok v) :
    currentValueForCritic d.shared.db.tables w.tenantId .priceChange w.payload = .ok v := by
  rcases (toolCalls_move h).append_cases with huntouched |
      ⟨w', evaluation, eventType, event, draw, happend⟩
  · rw [huntouched.tables_eq]
    exact hv
  · obtain ⟨key, hkey, rfl⟩ := currentValueForCritic_price hv
    obtain ⟨rfl, hevent⟩ := hc.event i w' evaluation eventType event happend.before
    have hguard := hc.applying i w' (by rw [happend.before]; rfl)
    have happly := happend.appended.tables
    have hprice : ∀ id, key = some id →
        d.shared.db.tables.price? w.tenantId id = c.shared.db.tables.price? w.tenantId id := by
      rintro id rfl
      refine price?_of_action happly ?_
      rintro ⟨haction', htenant, hid⟩
      -- The same dish of the same tenant: both calls would hold its key.
      dsimp only at hid
      rw [hevent haction', priceEvent_menuItemId] at hid
      have hid' : w'.payload.get "menu_item_id" = w.payload.get "menu_item_id" :=
        hid.trans (filterText_some hkey).symm
      have hsame : w'.key O = w.key O := by
        dsimp only at htenant
        rw [Work.key, Work.key, haction, haction', htenant]
        exact serializationKey_price hid'
      rw [hsame] at hguard
      exact hji (hc.exclusive.apart j i (w.key O) (hc.applying j w hw) hguard)
    unfold currentValueForCritic currentColumnForCritic
    rw [hkey]
    cases key with
    | none => rfl
    | some id => exact congrArg Except.ok ((Option.map_map ..).trans (hprice id rfl))

/-- What an autonomous price change has been judged by. -/
structure Baseline (O : Outside) (call : ToolCall) (T : Tables) (w : Work) (v : Option ℚ) :
    Prop where
  own : call = .execute w.tenantId w.actionType w.payload
  current : currentValueForCritic T w.tenantId w.actionType w.payload = .ok v
  gates : ∃ confidence, GatesPassed O w.actionType w.payload confidence v

/-- What holds of autonomous price changes in every state of a run. -/
structure BaselinesKept (O : Outside) (call : ι → ToolCall) (c : Config ι ToolStore Process) :
    Prop where
  locks : LocksKept O call c
  baseline : ∀ i w v reason, (c.proc i).stage.applying? = some w →
    w.authority = .policy v reason → w.actionType = .priceChange →
    Baseline O (call i) c.shared.db.tables w v

lemma BaselinesKept.fire (hc : BaselinesKept O call c)
    (h : (toolCalls O call).fire c i x = some d) : BaselinesKept O call d := by
  refine ⟨hc.locks.fire h, ?_⟩
  intro j w v reason hw hauthority haction
  by_cases hji : j = i
  · subst hji
    have hmove := toolCalls_move h
    rcases hmove.append_cases with huntouched | ⟨_, _, _, _, _, happend⟩
    · rw [huntouched.tables_eq]
      rcases hmove.applying_cases hw with ⟨hw', -⟩ |
          ⟨_, -, -, v', reason', hauthority', hcall, hv, hgates⟩ | ⟨hready, -⟩
      · exact hc.baseline j w v reason hw' hauthority haction
      · obtain ⟨rfl, -⟩ := Authority.policy.inj (hauthority.symm.trans hauthority')
        exact ⟨hcall, hv, _, hgates⟩
      · obtain ⟨r, hr⟩ := hc.locks.ready j w hready
        exact absurd (hauthority.symm.trans hr) (by simp)
    · rw [happend.after] at hw
      exact absurd hw (by simp [Stage.applying?])
  · rw [(toolCalls O call).proc_of_fire h hji] at hw
    have hbaseline := hc.baseline j w v reason hw hauthority haction
    refine ⟨hbaseline.own, ?_, hbaseline.gates⟩
    have hcurrent := hbaseline.current
    rw [haction] at hcurrent ⊢
    exact hc.locks.currentValue_eq h hji hw haction hcurrent

lemma baselinesKept_run {db : Db} {schedule : List (ι × ToolAction)}
    (h : (toolCalls O call).run db.start schedule = some c) : BaselinesKept O call c := by
  have hstep : ∀ c i x d, BaselinesKept O call c → (toolCalls O call).fire c i x = some d →
      BaselinesKept O call d := fun _ _ _ _ hc hd => hc.fire hd
  refine (toolCalls O call).run_invariant' hstep ⟨locksKept_start, ?_⟩ h
  intro i w v reason hw
  exact absurd hw (by simp [Db.start, Process.idle, Stage.applying?])

/-- An autonomous price change starts from the price that both gates have judged. -/
theorem no_stale_baseline {db : Db} {schedule : List (ι × ToolAction)} {t : String}
    {payload : Dict} {draw : Draw} {w : Work} {evaluation : Evaluation}
    (hcall : call i = .execute t .priceChange payload)
    (hc : (toolCalls O call).run db.start schedule = some c)
    (hfire : (toolCalls O call).fire c i (.append draw) = some d)
    (hdone : (d.proc i).stage = .appended w evaluation) :
    ∃ id price reason, payload.get "menu_item_id" = .str id ∧
      c.shared.db.tables.price? t id = some price ∧
      w = ⟨t, w.decisionId, .priceChange, payload, .policy (some price) reason⟩ ∧
      ∃ confidence, GatesPassed O .priceChange payload confidence (some price) := by
  have hkept := baselinesKept_run hc
  obtain ⟨eventType, event, happend⟩ := (toolCalls_move hfire).append_done hdone
  have hwork : (c.proc i).stage.applying? = some w := by rw [happend.before]; rfl
  rcases hkept.locks.authority i w (Stage.work?_of_applying? hwork) with
      ⟨⟨v, reason, hauthority⟩, hown⟩ | ⟨r, -, hown⟩
  · obtain ⟨rfl, haction, rfl⟩ := ToolCall.execute.inj (hcall.symm.trans hown)
    have hbaseline := hkept.baseline i w v reason hwork hauthority haction.symm
    obtain ⟨rfl, hevent⟩ := hkept.locks.event i w evaluation eventType event happend.before
    have happly := happend.appended.tables
    rw [← haction] at happly
    obtain ⟨id, _, price, _, hid, -, hprice, -⟩ := price?_of_priceChange happly
    rw [hevent haction.symm, priceEvent_menuItemId] at hid
    have hcurrent := hbaseline.current
    rw [← haction] at hcurrent
    obtain ⟨key, hkey, hv⟩ := currentValueForCritic_price hcurrent
    rw [hid] at hkey
    obtain ⟨key', hkey', rfl⟩ := map_ok.mp hkey
    obtain rfl := bindText_ok hkey'
    have hvalue : v = some price := hv.trans hprice
    obtain ⟨confidence, hgates⟩ := hbaseline.gates
    refine ⟨_, price, reason, hid, hprice, ?_, confidence, ?_⟩
    · cases w
      simp_all
    · rw [← haction, hvalue] at hgates
      exact hgates
  · rw [hcall] at hown
    exact absurd hown (by simp [ToolCall.ExecutesApproved])

end Runs

/-! ### A concrete run -/

/-- Two calls that want the same price. -/
def soupRaise : Bool → ToolCall := fun _ => .execute "t" .priceChange (soupPrice 1050)

/-- The first call up to its event, the second one waiting for the lock. -/
def raiseSchedule : List (Bool × ToolAction) :=
  [(true, .simulate), (false, .simulate), (true, .persist "d"), (false, .persist "d2"),
    (true, .acquire), (true, .judge), (true, .claim), (true, .observe calmDraws 7),
    (true, .complete)]

def Stage.isAppended : Stage → Bool
  | .appended _ _ => true
  | _ => false

lemma Stage.isAppended_eq {stage : Stage} (h : stage.isAppended = true) :
    ∃ w evaluation, stage = .appended w evaluation := by
  cases stage with
  | appended w evaluation => exact ⟨w, evaluation, rfl⟩
  | _ => exact absurd h (by simp [Stage.isAppended])

lemma exists_of_any_bind {α β : Type*} {o : Option α} {f : α → Option β} {p : β → Bool}
    (h : (o.bind f).any p = true) : ∃ a b, o = some a ∧ f a = some b ∧ p b = true := by
  obtain ⟨b, hb, hp⟩ := (Option.any_eq_true _ _).mp h
  obtain ⟨a, ha, hf⟩ := Option.bind_eq_some_iff.mp hb
  exact ⟨a, b, ha, hf, hp⟩

theorem soup_no_stale_baseline : ∃ c d w evaluation,
    (toolCalls (.prescribed []) soupRaise).run bistro.start raiseSchedule = some c ∧
    (toolCalls (.prescribed []) soupRaise).fire c true (.append ⟨8, "e", "r"⟩) = some d ∧
    (d.proc true).stage = .appended w evaluation ∧
    ∃ id price reason, (soupPrice 1050).get "menu_item_id" = .str id ∧
      c.shared.db.tables.price? "t" id = some price ∧
      w = ⟨"t", w.decisionId, .priceChange, soupPrice 1050, .policy (some price) reason⟩ ∧
      ∃ confidence,
        GatesPassed (.prescribed []) .priceChange (soupPrice 1050) confidence (some price) := by
  have hrun : (((toolCalls (.prescribed []) soupRaise).run bistro.start raiseSchedule).bind
      (fun c => (toolCalls (.prescribed []) soupRaise).fire c true (.append ⟨8, "e", "r"⟩))).any
        (fun d => (d.proc true).stage.isAppended) = true := by decide +kernel
  obtain ⟨c, d, hc, hd, hdone⟩ := exists_of_any_bind hrun
  obtain ⟨w, evaluation, hdone⟩ := Stage.isAppended_eq hdone
  exact ⟨c, d, w, evaluation, hc, hd, hdone, no_stale_baseline rfl hc hd hdone⟩

end OpsCopilot
