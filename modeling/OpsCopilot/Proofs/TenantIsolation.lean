import OpsCopilot.Proofs.TenantRows

/-!
# Tenants do not interfere

Whether `append_event` succeeds for a tenant, and the rows that the tenant then has, depend on the
rows that it had, and on the other tenants only through the identifiers that they have taken. No
row of another tenant changes.
-/

namespace OpsCopilot

open Python Sql Fallible Noninterference

/-- The rows of a tenant. -/
def Db.rowsOf (db : Db) (t : String) : Db where
  tenants := db.tenants.filter (fun s => s = t)
  tables := db.tables.rowsOf t
  events := db.tenantEvents t
  decisions := db.decisions.filter (fun r => r.tenantId = t)
  toolExecutionLog := db.toolExecutionLog.filter (fun r => r.tenantId = t)
  approvalRequests := db.approvalRequests.filter (fun r => r.tenantId = t)

abbrev dbView (t : String) (db : Db) : Db := db.rowsOf t

/-- An identifier under which the append would add a row belongs to a row of another tenant in both
states or in neither. -/
structure SameTaken (O : Outside) (e : Projection) (eventId : String) (eventType : EventType)
    (db db' : Db) : Prop where
  ids : ∀ id, e.GivesId O id eventType →
    db.tables.heldElsewhere id e.tenantId eventType =
      db'.tables.heldElsewhere id e.tenantId eventType
  eventId : db.events.any (fun r => r.id = eventId ∧ r.tenantId ≠ e.tenantId) =
    db'.events.any (fun r => r.id = eventId ∧ r.tenantId ≠ e.tenantId)

section Append

variable {O : Outside} {t : String} {T T' : Tables} {db db' : Db}

/-- A key is taken by a row of the tenant or by one of another. -/
lemma any_own_or_other {α : Type} (rows : List α) (key own : α → Prop) [DecidablePred key]
    [DecidablePred own] : rows.any (fun r => key r) =
      ((rows.filter (fun r => own r)).any (fun r => key r) ||
        rows.any (fun r => key r ∧ ¬own r)) := by
  rw [List.any_filter]
  induction rows with
  | nil => rfl
  | cons r rows ih =>
    simp only [List.any_cons, ih]
    by_cases hown : own r <;> by_cases hkey : key r <;> simp [hown, hkey]

lemma holdsId_eq (T : Tables) (t id : String) (eventType : EventType) :
    T.holdsId id eventType =
      ((T.rowsOf t).holdsId id eventType || T.heldElsewhere id t eventType) := by
  cases eventType with
  | menuItemAdded => exact any_own_or_other T.menuItems (fun r => r.id = id) (fun r => r.tenantId = t)
  | orderRecorded => exact any_own_or_other T.salesOrders (fun r => r.id = id) (fun r => r.tenantId = t)
  | invoiceRecorded => exact any_own_or_other T.invoices (fun r => r.id = id) (fun r => r.tenantId = t)
  | staffingChange => exact any_own_or_other T.staffShifts (fun r => r.id = id) (fun r => r.tenantId = t)
  | supplierPriceChange | supplierSwitch | stockout | restock | inventoryAdjustment | wasteRecorded
  | demandSpike | menuItemRemoved | menuPriceChange => rfl

lemma agreeFor_of_sameTaken {e : Projection} {eventId : String} {eventType : EventType}
    (hsame : SameView dbView e.tenantId db db') (htaken : SameTaken O e eventId eventType db db') :
    AgreeFor O e db.tables db'.tables eventType := by
  have hrows : SameView rowsView e.tenantId db.tables db'.tables := congrArg Db.tables hsame
  refine ⟨hrows, fun id hid => ?_⟩
  rw [holdsId_eq db.tables e.tenantId, holdsId_eq db'.tables e.tenantId, htaken.ids id hid]
  exact congrArg (fun U => Tables.holdsId U id eventType || _) hrows

/-- An operation on the tables, as one on the database. -/
lemma confined_tables {R : Tables → Tables → Prop} {op : Tables → Except PyException Tables}
    (h : Confined rowsView t R op) :
    Confined dbView t (fun db db' => SameView dbView t db db' ∧ R db.tables db'.tables)
      (fun db => (op db.tables).map (fun T => { db with tables := T })) := by
  constructor
  · rintro db db' ⟨hsame, hR⟩
    have halike := h.alike db.tables db'.tables hR
    have hview : ∀ T T' : Tables, T.rowsOf t = T'.rowsOf t →
        dbView t { db with tables := T } = dbView t { db' with tables := T' } := by
      intro T T' hT
      change { db.rowsOf t with tables := T.rowsOf t } = { db'.rowsOf t with tables := T'.rowsOf t }
      rw [hT, show db.rowsOf t = db'.rowsOf t from hsame]
    cases ha : op db.tables <;> cases hb : op db'.tables <;> rw [ha, hb] at halike
    · exact congrArg Except.error (Except.error.inj halike)
    · exact nomatch halike
    · exact nomatch halike
    · exact congrArg Except.ok (hview _ _ (Except.ok.inj halike))
  · intro db d hd o ho
    obtain ⟨T, hT, rfl⟩ := map_ok.mp hd
    have hrows : T.rowsOf o = db.tables.rowsOf o := h.others db.tables T hT o ho
    change { db.rowsOf o with tables := T.rowsOf o } = db.rowsOf o
    rw [hrows]
    rfl

lemma latestEvent_same (h : SameView dbView t db db') : db.latestEvent t = db'.latestEvent t :=
  congrArg (fun U => HashChain.latest Event.le (Db.events U)) h

lemma tenant_mem_same (h : SameView dbView t db db') : t ∉ db.tenants ↔ t ∉ db'.tenants := by
  have hmem : ∀ U : Db, t ∈ (U.rowsOf t).tenants ↔ t ∈ U.tenants := by
    intro U
    rw [Db.rowsOf, List.mem_filter]
    simp
  rw [← hmem db, ← hmem db']
  exact iff_of_eq (congrArg (fun U => t ∉ Db.tenants U) h)

/-- The last part of the transaction adds the event. -/
lemma confined_addEvent (eventId : String) (stored : Except PyException Value)
    (storedSource : Except PyException String)
    (f : Value → String → Event) (hf : ∀ v s, (f v s).tenantId = t) :
    Confined dbView t (fun db db' => SameView dbView t db db' ∧
        db.events.any (fun r => r.id = eventId) = db'.events.any (fun r => r.id = eventId))
      (fun db => do
        let stored ← stored
        let storedSource ← storedSource
        raiseIf (db.events.any (fun r => r.id = eventId)) duplicateKey
        return { db with events := db.events ++ [f stored storedSource] }) := by
  refine .read (fun _ _ _ => rfl) fun v _ => .read (fun _ _ _ => rfl) fun s _ =>
    .read (fun db db' h => ?_) fun _ _ => ?_
  · rw [h.2]
  · refine .change (fun V => { V with events := V.events ++ [f v s] }) (fun _ _ h => h.1)
      (fun db => ?_) (fun db o ho => ?_)
    · simp [Db.rowsOf, Db.tenantEvents, hf]
    · simp [Db.rowsOf, Db.tenantEvents, hf, ho.symm]

lemma any_eventId_same {e : Projection} {eventId : String} {eventType : EventType}
    (hsame : SameView dbView e.tenantId db db') (htaken : SameTaken O e eventId eventType db db') :
    db.events.any (fun r => r.id = eventId) = db'.events.any (fun r => r.id = eventId) := by
  rw [any_own_or_other db.events _ (fun r => r.tenantId = e.tenantId),
    any_own_or_other db'.events _ (fun r => r.tenantId = e.tenantId)]
  have hown := congrArg (fun U => List.any (Db.events U) (fun r => r.id = eventId)) hsame
  exact congrArg₂ _ hown htaken.eventId

lemma confined_writeEvent (O : Outside) (t : String) (eventType : EventType) (payload : Dict)
    (source : String) (draw : Draw) :
    Confined dbView t (fun db db' => SameView dbView t db db' ∧
        SameTaken O ⟨t, payload, draw.now, draw.rowId⟩ draw.eventId eventType db db')
      (fun db => writeEvent O t eventType payload source draw db) := by
  unfold writeEvent
  refine .read (fun db db' h => ?_) fun _ _ => ?_
  · simp only [tenant_mem_same h.1]
  refine .look (x := fun db : Db => ((db.latestEvent t).map Event.hash).getD genesisHash)
    (f := fun previousHash db => do
      let hash ← liftStd (computeSha256Hash O previousHash eventType (.dict payload)
        (canonicalTimestamp draw.now) source)
      let tables ← applyToCurrentState O ⟨t, payload, draw.now, draw.rowId⟩ db.tables eventType
      let stored ← storeJson (.dict payload)
      let storedSource ← bindText (strip source)
      raiseIf (db.events.any (fun e => e.id = draw.eventId)) duplicateKey
      return { db with
        tables := tables
        events := db.events ++
          [⟨draw.eventId, t, eventType, draw.now, stored, storedSource, hash, previousHash⟩] })
    (fun db db' h => ?_) fun previousHash _ => .read (fun _ _ _ => rfl) fun hash _ => ?_
  · rw [latestEvent_same h.1]
  · have hsplit : (fun db : Db => show Except PyException Db from do
        let tables ← applyToCurrentState O ⟨t, payload, draw.now, draw.rowId⟩ db.tables eventType
        let stored ← storeJson (.dict payload)
        let storedSource ← bindText (strip source)
        raiseIf (db.events.any (fun e => e.id = draw.eventId)) duplicateKey
        return { db with
          tables := tables
          events := db.events ++
            [⟨draw.eventId, t, eventType, draw.now, stored, storedSource, hash, previousHash⟩] }) =
        fun db => (applyToCurrentState O ⟨t, payload, draw.now, draw.rowId⟩ db.tables
            eventType).map (fun T => { db with tables := T }) >>= fun db : Db =>
            show Except PyException Db from do
          let stored ← storeJson (.dict payload)
          let storedSource ← bindText (strip source)
          raiseIf (db.events.any (fun e => e.id = draw.eventId)) duplicateKey
          return { db with events := db.events ++
            [⟨draw.eventId, t, eventType, draw.now, stored, storedSource, hash, previousHash⟩] } := by
      funext db
      cases applyToCurrentState O ⟨t, payload, draw.now, draw.rowId⟩ db.tables eventType <;> rfl
    rw [hsplit]
    have hprojected : Confined dbView t (fun db db' => SameView dbView t db db' ∧
        SameTaken O ⟨t, payload, draw.now, draw.rowId⟩ draw.eventId eventType db db')
        (fun db => (applyToCurrentState O ⟨t, payload, draw.now, draw.rowId⟩ db.tables
          eventType).map (fun T => { db with tables := T })) :=
      (confined_tables (confined_apply O ⟨t, payload, draw.now, draw.rowId⟩ eventType)).mono
        (fun _ _ h => ⟨h.1, agreeFor_of_sameTaken h.1 h.2⟩)
    refine hprojected.andThenOf (confined_addEvent draw.eventId _ _
      (fun stored storedSource => ⟨draw.eventId, t, eventType, draw.now, stored, storedSource, hash,
        previousHash⟩) (fun _ _ => rfl)) ?_
    intro db db' d d' h hd hd' hview
    obtain ⟨T, -, rfl⟩ := map_ok.mp hd
    obtain ⟨T', -, rfl⟩ := map_ok.mp hd'
    have hids := any_eventId_same h.1 h.2
    exact ⟨hview, hids⟩

lemma confined_appendEvent (O : Outside) (t : String) (eventType : EventTypeArg) (payload : Dict)
    (source : String) (draw : Draw) :
    Confined dbView t (fun db db' => SameView dbView t db db' ∧
        ∀ member, normalizeEventType eventType = .ok member →
          SameTaken O ⟨t, payload, draw.now, draw.rowId⟩ draw.eventId member db db')
      (fun db => appendEvent O t eventType payload source draw db) := by
  unfold appendEvent
  refine .read (fun _ _ _ => rfl) fun member hmember => .read (fun _ _ _ => rfl) fun _ _ => ?_
  obtain ⟨_, hmember⟩ := hmember
  have hwrite := (confined_writeEvent O t member payload source draw).mapError eventStoreFailure
  exact hwrite.mono (fun _ _ h => ⟨h.1, h.2 member hmember⟩)

/-- From states in which a tenant has the same rows, and which agree on the identifiers that the
other tenants have taken, its append succeeds in both or in neither, and leads to the same rows; the
rows of the other tenants do not change. -/
theorem append_noninterference (O : Outside) (t : String) (eventType : EventTypeArg)
    (payload : Dict) (source : String) (draw : Draw) (db db' : Db)
    (hrows : db.rowsOf t = db'.rowsOf t)
    (htaken : ∀ member, normalizeEventType eventType = .ok member →
      SameTaken O ⟨t, payload, draw.now, draw.rowId⟩ draw.eventId member db db') :
    (appendEvent O t eventType payload source draw db).map (fun d => d.rowsOf t) =
        (appendEvent O t eventType payload source draw db').map (fun d => d.rowsOf t) ∧
      ∀ d, appendEvent O t eventType payload source draw db = .ok d →
        ∀ other, other ≠ t → d.rowsOf other = db.rowsOf other := by
  have hconfined := confined_appendEvent O t eventType payload source draw
  exact ⟨hconfined.alike db db' ⟨hrows, htaken⟩, hconfined.others db⟩

end Append

/-! ### A dish of another tenant -/

/-- Two tenants; the second may have a dish. -/
def kitchens (dishes : List MenuItem) : Db :=
  { tenants := ["a", "b"], tables := { Tables.empty with menuItems := dishes }, events := []
    decisions := [], toolExecutionLog := [], approvalRequests := [] }

def otherSoup : MenuItem := ⟨"soup", "b", "Soup", .number ⟨725, by decide⟩, true⟩

def addDish (id : String) (db : Db) : Except PyException Db :=
  appendEvent (.prescribed []) "a" (.member .menuItemAdded)
    [(.str "menu_item_id", .str id), (.str "name", .str "Soup"), (.str "current_price", .int 6)]
    "api" ⟨1, "e1", "r1"⟩ db

theorem soup_elsewhere : (kitchens []).rowsOf "a" = (kitchens [otherSoup]).rowsOf "a" ∧
    (addDish "soup" (kitchens [])).isOk = true ∧
    (addDish "soup" (kitchens [otherSoup])).isOk = false := by
  refine ⟨rfl, ?_, ?_⟩
  · decide +kernel
  · decide +kernel

theorem stew_added : (addDish "stew" (kitchens [])).map (fun d => d.rowsOf "a") =
    (addDish "stew" (kitchens [otherSoup])).map (fun d => d.rowsOf "a") := by
  refine (append_noninterference (.prescribed []) "a" (.member .menuItemAdded) _ "api" _ (kitchens [])
    (kitchens [otherSoup]) rfl ?_).1
  intro member hmember
  obtain rfl := Except.ok.inj hmember
  refine ⟨fun id hid => ?_, rfl⟩
  obtain rfl := Value.str.inj hid
  rfl

end OpsCopilot
