import OpsCopilot.Model.EventStore

/-!
# What an append does

One successful `append_event` adds one row; the loop of `verify_chain_integrity` checks the
links and the hashes of the rows.
-/

namespace OpsCopilot

open Python Sql Fallible HashChain

/-! ### Hashes -/

lemma computeSha256Hash_ok {O : Outside} {previousHash : String} {eventType : EventType}
    {payload : Value} {timestampIso source hash : String} :
    computeSha256Hash O previousHash eventType payload timestampIso source = .ok hash ↔
      ∃ j, prepare ⟨true, strDefault⟩ payload = .ok j ∧
        ¬(j.text escapeUnicode ++ source.toList).any O.loneSurrogate = true ∧
        O.sha256 (canonicalData previousHash eventType (j.text escapeUnicode) timestampIso source) =
          hash := by
  unfold computeSha256Hash
  rw [bind_ok]
  refine exists_congr fun j => and_congr_right fun _ => ?_
  dsimp only
  rw [bind_ok]
  constructor
  · rintro ⟨_, hencodes, hhash⟩
    exact ⟨raiseIf_ok.mp hencodes, pure_ok.mp hhash⟩
  · rintro ⟨hencodes, hhash⟩
    exact ⟨(), raiseIf_ok.mpr hencodes, pure_ok.mpr hhash⟩

/-! ### Append -/

/-- The row that an append writes. -/
structure AppendedRow (O : Outside) (tenantId : String) (eventType : EventType) (payload : Dict)
    (source : String) (draw : Draw) (db : Db) (row : Event) : Prop where
  id_eq : row.id = draw.eventId
  tenantId_eq : row.tenantId = tenantId
  eventType_eq : row.eventType = eventType
  timestamp_eq : row.timestamp = draw.now
  payload_eq : loadsDumps (.dict payload) = .ok row.payload
  source_eq : row.source = strip source
  previousHash_eq : row.previousHash = ((db.latestEvent tenantId).map Event.hash).getD genesisHash
  hash_eq : computeSha256Hash O row.previousHash eventType (.dict payload)
    (canonicalTimestamp draw.now) source = .ok row.hash
  id_fresh : ∀ e ∈ db.events, e.id ≠ draw.eventId

/-- What a successful append has changed. -/
structure Appended (O : Outside) (tenantId : String) (eventType : EventType) (payload : Dict)
    (source : String) (draw : Draw) (db db' : Db) : Prop where
  tenant_mem : tenantId ∈ db.tenants
  row : ∃ row, AppendedRow O tenantId eventType payload source draw db row ∧
    db'.events = db.events ++ [row]
  tables : applyToCurrentState O ⟨tenantId, payload, draw.now, draw.rowId⟩ db.tables eventType =
    .ok db'.tables
  tenants_eq : db'.tenants = db.tenants
  decisions_eq : db'.decisions = db.decisions
  toolExecutionLog_eq : db'.toolExecutionLog = db.toolExecutionLog
  approvalRequests_eq : db'.approvalRequests = db.approvalRequests

lemma bindText_ok {s t : String} (h : bindText s = .ok t) : t = s := by
  unfold bindText at h
  split_ifs at h
  exact (Except.ok.inj h).symm

lemma writeEvent_spec {O : Outside} {tenantId : String} {eventType : EventType} {payload : Dict}
    {source : String} {draw : Draw} {db db' : Db}
    (h : writeEvent O tenantId eventType payload source draw db = .ok db') :
    Appended O tenantId eventType payload source draw db db' := by
  obtain ⟨_, htenant, h⟩ := bind_ok.mp h
  obtain ⟨hash, hhash, h⟩ := bind_ok.mp h
  obtain ⟨tables, htables, h⟩ := bind_ok.mp h
  obtain ⟨stored, hstored, h⟩ := bind_ok.mp h
  obtain ⟨storedSource, hsource, h⟩ := bind_ok.mp h
  obtain ⟨_, hfresh, h⟩ := bind_ok.mp h
  obtain rfl := pure_ok.mp h
  refine ⟨not_not.mp (raiseIf_ok.mp htenant), ⟨_, ?_, rfl⟩, htables, rfl, rfl, rfl, rfl⟩
  refine ⟨rfl, rfl, rfl, rfl, mapError_ok.mp hstored, bindText_ok hsource, rfl,
    mapError_ok.mp hhash, ?_⟩
  intro e he heq
  refine raiseIf_ok.mp hfresh (List.any_eq_true.mpr ⟨e, he, ?_⟩)
  exact decide_eq_true heq

theorem appendEvent_spec {O : Outside} {tenantId : String} {eventType : EventTypeArg}
    {payload : Dict} {source : String} {draw : Draw} {db db' : Db}
    (h : appendEvent O tenantId eventType payload source draw db = .ok db') :
    ∃ member, normalizeEventType eventType = .ok member ∧ strip source ≠ "" ∧
      Appended O tenantId member payload source draw db db' := by
  obtain ⟨member, hmember, h⟩ := bind_ok.mp h
  obtain ⟨_, hsource, h⟩ := bind_ok.mp h
  exact ⟨member, hmember, raiseIf_ok.mp hsource, writeEvent_spec (mapError_ok.mp h)⟩

/-- The rows of a tenant after an append. -/
lemma Appended.tenantEvents_eq {O : Outside} {tenantId : String} {eventType : EventType}
    {payload : Dict} {source : String} {draw : Draw} {db db' : Db}
    (h : Appended O tenantId eventType payload source draw db db') :
    ∃ row, AppendedRow O tenantId eventType payload source draw db row ∧
      db'.tenantEvents tenantId = db.tenantEvents tenantId ++ [row] ∧
      ∀ other, other ≠ tenantId → db'.tenantEvents other = db.tenantEvents other := by
  obtain ⟨row, hrow, hevents⟩ := h.row
  refine ⟨row, hrow, ?_, ?_⟩
  · rw [Db.tenantEvents, hevents, List.filter_append]
    simp [hrow.tenantId_eq, Db.tenantEvents]
  · intro other hother
    rw [Db.tenantEvents, hevents, List.filter_append]
    simp [hrow.tenantId_eq, hother.symm, Db.tenantEvents]

/-! ### Order of events -/

instance : Std.Total Event.le := by
  constructor
  intro a b
  unfold Event.le
  rcases lt_trichotomy a.timestamp b.timestamp with hlt | heq | hgt
  · exact .inl (.inl hlt)
  · rcases le_total a.id b.id with hle | hle
    · exact .inl (.inr ⟨heq, hle⟩)
    · exact .inr (.inr ⟨heq.symm, hle⟩)
  · exact .inr (.inl hgt)

instance : IsTrans Event Event.le := by
  constructor
  intro a b c hab hbc
  unfold Event.le at hab hbc ⊢
  rcases hab with hab | ⟨hab, hid⟩
  · rcases hbc with hbc | ⟨hbc, -⟩
    · exact .inl (hab.trans hbc)
    · exact .inl (hbc ▸ hab)
  · rcases hbc with hbc | ⟨hbc, hid'⟩
    · exact .inl (hab ▸ hbc)
    · exact .inr ⟨hab.trans hbc, hid.trans hid'⟩

lemma Event.id_eq_of_le {a b : Event} (hab : Event.le a b) (hba : Event.le b a) : a.id = b.id := by
  unfold Event.le at hab hba
  rcases hab with hab | ⟨heq, hid⟩
  · rcases hba with hba | ⟨heq, -⟩
    · exact absurd hba (lt_asymm hab)
    · exact absurd hab heq.not_gt
  · rcases hba with hba | ⟨-, hid'⟩
    · exact absurd hba heq.not_gt
    · exact le_antisymm hid hid'

/-! ### Verification -/

/-- The linkage check of `verify_chain_integrity`. -/
abbrev Linkage (rows : List Event) : Prop := Linked Event.previousHash Event.hash genesisHash rows

lemma verifyEvents_ok {O : Outside} {expected : String} {rows : List Event} :
    verifyEvents O expected rows = .ok true ↔
      Linked Event.previousHash Event.hash expected rows ∧
        ∀ e ∈ rows, e.recomputedHash O = .ok e.hash := by
  induction rows generalizing expected with
  | nil => simp [verifyEvents, Linked]
  | cons e rows ih =>
    rw [verifyEvents, Linked, List.forall_mem_cons]
    split_ifs with hlink
    · simp [hlink]
    · rw [not_not] at hlink
      cases hhash : e.recomputedHash O with
      | error err => simp
      | ok computed =>
        simp only [Except.ok.injEq]
        split_ifs with hne
        · simp [Ne.symm hne]
        · rw [not_not] at hne
          rw [ih]
          simp only [hlink, hne, true_and]

end OpsCopilot
