import OpsCopilot.Proofs.ChainRuns
import OpsCopilot.Proofs.ReplayedIngredients
import OpsCopilot.Proofs.Reseeding

/-!
# The schema over runs of the whole system

Tool calls, events from outside and seedings, in any order and from an empty database: every state
satisfies all constraints of the schema, and in it the two copies of every stock are equal.
-/

namespace OpsCopilot

open Python Sql Fallible KeyedRows Interleaving

/-! ### The system -/

/-- The tenants with their names, beside the store of the tool calls. -/
structure SiteStore where
  tenants : List Tenant
  store : ToolStore

inductive SiteAction where
  | tool (x : ToolAction)
  | append (call : AppendCall)
  | seed (configs : List (TenantConfig × SeedDraw))

/-- A database without rows. -/
def SiteStore.empty : SiteStore := ⟨[], ⟨⟨[], .empty, [], [], [], []⟩, [], []⟩⟩

def SiteStore.withDb (s : SiteStore) (db : Db) : SiteStore :=
  { s with store := { s.store with db := db } }

/-- A seeding, which may fail and is then rolled back. -/
def SiteStore.seeded (printable : Char → Bool) (configs : List (TenantConfig × SeedDraw))
    (s : SiteStore) : SiteStore :=
  match seed printable configs ⟨s.tenants, s.store.db.tables⟩ with
  | .ok (st, _) =>
    { s with tenants := st.tenants }.withDb
      { s.store.db with tenants := st.tenants.map Tenant.id, tables := st.tables }
  | .error _ => s

section Site

variable {ι : Type*} (O : Outside) (printable : Char → Bool) (call : ι → ToolCall)

def siteStep : Option ι → SiteAction → SiteStore → Process → Option (SiteStore × Process)
  | some i, .tool x, s, p =>
    (toolStep O (call i) x s.store p).map (fun y => ({ s with store := y.1 }, y.2))
  | none, .append event, s, p => some (s.withDb (event.attempt O s.store.db), p)
  | none, .seed configs, s, p => some (s.seeded printable configs, p)
  | _, _, _, _ => none

/-- Any number of tool calls, and beside them the events from outside and the seedings. -/
def site : Program (Option ι) SiteStore Process SiteAction := ⟨siteStep O printable call⟩

end Site

def siteStart {ι : Type*} : Config (Option ι) SiteStore Process := ⟨.empty, fun _ => .idle⟩

/-! ### One step -/

section Step

variable {ι : Type*} {O : Outside} {printable : Char → Bool} {call : ι → ToolCall}
  {s s' : SiteStore} {p p' : Process}

lemma siteStep_cases {i : Option ι} {x : SiteAction}
    (h : siteStep O printable call i x s p = some (s', p')) :
    (∃ j y, s'.tenants = s.tenants ∧ ToolMove O (call j) y s.store p s'.store p') ∨
      (∃ event : AppendCall, s' = s.withDb (event.attempt O s.store.db)) ∨
      ∃ configs, s' = s.seeded printable configs := by
  cases i with
  | some j =>
    cases x with
    | tool y =>
      obtain ⟨⟨store, q⟩, hstep, heq⟩ := Option.map_eq_some_iff.mp h
      obtain ⟨rfl, rfl⟩ := Prod.mk.inj heq
      exact .inl ⟨j, y, rfl, toolMove_of_step hstep⟩
    | append _ => cases h
    | seed _ => cases h
  | none =>
    cases x with
    | tool _ => cases h
    | append event =>
      obtain ⟨rfl, -⟩ := Prod.mk.inj (Option.some.inj h)
      exact .inr (.inl ⟨event, rfl⟩)
    | seed configs =>
      obtain ⟨rfl, -⟩ := Prod.mk.inj (Option.some.inj h)
      exact .inr (.inr ⟨configs, rfl⟩)

/-- The invariant of the database. -/
structure SiteStore.Sound (s : SiteStore) : Prop where
  tenants_eq : s.store.db.tenants = s.tenants.map Tenant.id
  holds : (⟨s.tenants, s.store.db.tables⟩ : SeedStore).Holds

lemma sound_empty : SiteStore.empty.Sound := by
  refine ⟨rfl, uniqueKeys_nil, schemaHolds_empty, fun t => ?_⟩
  constructor
  all_goals exact fun r hr => absurd hr List.not_mem_nil

/-- An accepted event keeps the invariant by the checks of its own handler. -/
lemma SiteStore.Sound.appended (hs : s.Sound) (store : ToolStore) {t source : String}
    {eventType : EventTypeArg} {payload : Dict} {draw : Draw}
    (h : appendEvent O t eventType payload source draw s.store.db = .ok store.db) :
    ({ s with store := store } : SiteStore).Sound := by
  obtain ⟨member, -, -, happended⟩ := appendEvent_spec h
  refine ⟨happended.tenants_eq.trans hs.tenants_eq, hs.holds.tenants, ?_, fun o => ?_⟩
  · exact schema_apply hs.holds.schema (hs.tenants_eq ▸ happended.tenant_mem) happended.tables
  · have hcall : (⟨t, eventType, payload, source, draw⟩ : AppendCall).append O s.store.db =
        .ok store.db := h
    exact (hs.holds.stock o).append hcall

lemma SiteStore.Sound.attempt (hs : s.Sound) (event : AppendCall) :
    (s.withDb (event.attempt O s.store.db)).Sound := by
  unfold AppendCall.attempt
  cases h : event.append O s.store.db with
  | ok db' => exact hs.appended { s.store with db := db' } h
  | error e => exact hs

lemma SiteStore.Sound.seeded (hs : s.Sound) (configs : List (TenantConfig × SeedDraw)) :
    (s.seeded printable configs).Sound := by
  unfold SiteStore.seeded
  split
  · rename_i st result h
    exact ⟨rfl, seed_keeps hs.holds h⟩
  · exact hs

lemma SiteStore.Sound.tool (hs : s.Sound) {toolCall : ToolCall} {x : ToolAction}
    (htenants : s'.tenants = s.tenants) (h : ToolMove O toolCall x s.store p s'.store p') :
    s'.Sound := by
  rcases h.appendEvent_cases with
    ⟨huntouched, hrows⟩ | ⟨w, evaluation, eventType, event, draw, -, -, happend⟩
  · refine ⟨?_, ?_⟩
    · rw [hrows, htenants, hs.tenants_eq]
    · rw [htenants, huntouched.tables_eq]
      exact hs.holds
  · have hsound := hs.appended s'.store happend
    rwa [← htenants] at hsound

end Step

/-! ### Runs -/

section Runs

variable {ι : Type*} [DecidableEq ι] {O : Outside} {printable : Char → Bool}
  {call : ι → ToolCall}

/-- In every state of every run no foreign key dangles or crosses tenants, every check constraint
and every key holds, and both copies of every stock are equal. -/
theorem constraints_hold {schedule : List (Option ι × SiteAction)}
    {c : Config (Option ι) SiteStore Process}
    (hrun : (site O printable call).run siteStart schedule = some c) :
    c.shared.store.db.tenants.Nodup ∧
      SchemaHolds c.shared.store.db.tenants c.shared.store.db.tables ∧
      ∀ t, StocksAgree t c.shared.store.db.tables := by
  have hstep : ∀ (c : Config (Option ι) SiteStore Process) i x d, c.shared.Sound →
      (site O printable call).fire c i x = some d → d.shared.Sound := by
    intro c i x d hc hfire
    obtain ⟨j, y, htenants, hmove⟩ | ⟨event, h⟩ | ⟨configs, h⟩ :=
      siteStep_cases ((site O printable call).step_of_fire hfire)
    · exact hc.tool htenants hmove
    · exact h ▸ hc.attempt event
    · exact h ▸ hc.seeded configs
  have hsound := (site O printable call).run_invariant' hstep sound_empty hrun
  rw [hsound.tenants_eq]
  exact ⟨hsound.holds.tenants, hsound.holds.schema, hsound.holds.stock⟩

end Runs

/-! ### A concrete run -/

/-- A restock and a waste of more than there is, beside a change of the price of the soup. -/
def kitchenDay : List (Option Bool × SiteAction) :=
  [(none, .seed [(soupKitchen, kitchenDraw)]),
    (none, .append (restockCall 12 0 3 "e3")), (none, .append (wasteCall 50 0 4 "e4"))] ++
  wholeRaise.map (fun x => (some x.1, .tool x.2))

theorem kitchen_constraints : ∃ c,
    (site (.prescribed []) (fun _ => true) soupRaise).run siteStart kitchenDay = some c ∧
    (c.shared.store.db.tables.menuItems.map MenuItem.currentPrice = [.number ⟨1050, by decide⟩] ∧
      c.shared.store.db.events.length = 2) ∧
    c.shared.store.db.tenants.Nodup ∧
    SchemaHolds c.shared.store.db.tenants c.shared.store.db.tables ∧
    ∀ t, StocksAgree t c.shared.store.db.tables := by
  have hrun : ((site (.prescribed []) (fun _ => true) soupRaise).run siteStart kitchenDay).any
      (fun c => c.shared.store.db.tables.menuItems.map MenuItem.currentPrice =
        [.number ⟨1050, by decide⟩] ∧ c.shared.store.db.events.length = 2) = true := by
    decide +kernel
  obtain ⟨c, hc, hend⟩ := (Option.any_eq_true _ _).mp hrun
  exact ⟨c, hc, of_decide_eq_true hend, constraints_hold hc⟩

end OpsCopilot
