import OpsCopilot.Lib.Interleaving
import OpsCopilot.Proofs.ChainContent

/-!
# The order of a chain

Events are linked in the order of the tenant's row lock and read back in the order of their
timestamps. Over whole runs the two orders agree exactly as long as every append comes after the
latest event of its tenant.
-/

namespace OpsCopilot

open Python Sql Fallible HashChain Interleaving

/-! ### Runs of appends -/

/-- The arguments of one call of `append_event`, with what it reads from the clock and `uuid4`. -/
structure AppendCall where
  tenantId : String
  eventType : EventTypeArg
  payload : Dict
  source : String
  draw : Draw

def AppendCall.append (O : Outside) (call : AppendCall) (db : Db) : Except PyException Db :=
  appendEvent O call.tenantId call.eventType call.payload call.source call.draw db

/-- Any number of processes that append events; the row lock makes a call one step. -/
def appenders {ι : Type*} (O : Outside) : Program ι Db Unit AppendCall :=
  ⟨fun _ call db _ => (call.append O db).toOption.map (fun db' => (db', ()))⟩

/-- The three readers of the log see the events of a tenant in the order of their appends, and
the linkage check passes. -/
structure ChainInOrder (O : Outside) (tenantId : String) (db : Db) : Prop where
  chain_eq : db.chain tenantId = db.tenantEvents tenantId
  latest_eq : db.latestEvent tenantId = (db.tenantEvents tenantId).getLast?
  replayed_eq : ∀ target, db.replayed tenantId target =
    (db.tenantEvents tenantId).filter (fun e => e.timestamp ≤ target)
  linkage : Linkage (db.chain tenantId)
  verifies : (∀ e ∈ db.tenantEvents tenantId, e.recomputedHash O = .ok e.hash) →
    verifyChainIntegrity O tenantId db = .ok true

/-- The clock reading of the call, or on a tie the identifier it draws, is above that of the
latest event of the tenant. -/
def AppendCall.AboveLatest (call : AppendCall) (db : Db) : Prop :=
  ∀ latest, db.latestEvent call.tenantId = some latest →
    latest.timestamp < call.draw.now ∨
      latest.timestamp = call.draw.now ∧ latest.id < call.draw.eventId

/-- The calls for a tenant are all above its latest event. -/
def ClockMoves {ι : Type*} (tenantId : String) (c : Config ι Db Unit) (_ : ι)
    (call : AppendCall) : Prop :=
  call.tenantId = tenantId → call.AboveLatest c.shared

/-! ### One append -/

/-- The rows of a tenant as they should be: strictly increasing and linked as they stand. -/
structure Ordered (tenantId : String) (db : Db) : Prop where
  inOrder : InOrder Event.le (db.tenantEvents tenantId)
  linkage : Linkage (db.tenantEvents tenantId)

lemma InOrder.filter {rows : List Event} (h : InOrder Event.le rows) (p : Event → Bool) :
    InOrder Event.le (rows.filter p) :=
  List.Pairwise.filter p h

lemma Ordered.chainInOrder {tenantId : String} {db : Db} (O : Outside) (h : Ordered tenantId db) :
    ChainInOrder O tenantId db := by
  have hchain : db.chain tenantId = db.tenantEvents tenantId := h.inOrder.ascending_eq
  refine ⟨hchain, h.inOrder.latest_eq, ?_, hchain ▸ h.linkage, ?_⟩
  · intro target
    exact (InOrder.filter h.inOrder _).ascending_eq
  · intro hhashes
    rw [verifyChainIntegrity, verifyEvents_ok, hchain]
    exact ⟨h.linkage, hhashes⟩

lemma strictly_above_iff {m row : Event} (hid : m.id ≠ row.id) :
    Event.le m row ∧ ¬Event.le row m ↔
      m.timestamp < row.timestamp ∨ m.timestamp = row.timestamp ∧ m.id < row.id := by
  constructor
  · rintro ⟨hle, -⟩
    exact hle.imp id (fun h => ⟨h.1, lt_of_le_of_ne h.2 hid⟩)
  · intro h
    have hle : Event.le m row := h.imp id (fun h => ⟨h.1, h.2.le⟩)
    exact ⟨hle, fun hge => hid (Event.id_eq_of_le hle hge)⟩

section Step

variable {O : Outside} {tenantId : String} {call : AppendCall} {db db' : Db}

/-- What a call does to the rows of a tenant. -/
lemma AppendCall.rows (tenantId : String) (happend : call.append O db = .ok db') :
    (call.tenantId = tenantId ∧ ∃ row, db'.tenantEvents tenantId = db.tenantEvents tenantId ++ [row] ∧
        row.timestamp = call.draw.now ∧ row.id = call.draw.eventId ∧
        row.previousHash = ((db.latestEvent tenantId).map Event.hash).getD genesisHash ∧
        ∀ e ∈ db.tenantEvents tenantId, e.id ≠ row.id) ∨
      call.tenantId ≠ tenantId ∧ db'.tenantEvents tenantId = db.tenantEvents tenantId := by
  obtain ⟨member, -, -, happended⟩ := appendEvent_spec happend
  obtain ⟨row, hrow, hevents, hothers⟩ := happended.tenantEvents_eq
  by_cases htenant : call.tenantId = tenantId
  · subst htenant
    refine .inl ⟨rfl, row, hevents, hrow.timestamp_eq, hrow.id_eq, hrow.previousHash_eq, ?_⟩
    intro e he
    rw [hrow.id_eq]
    exact hrow.id_fresh e (List.mem_of_mem_filter he)
  · exact .inr ⟨htenant, hothers tenantId (Ne.symm htenant)⟩

/-- An append keeps the rows of a tenant as they should be exactly when it is above the latest
event of the tenant. -/
lemma Ordered.append_iff (h : Ordered tenantId db) (happend : call.append O db = .ok db') :
    Ordered tenantId db' ↔ (call.tenantId = tenantId → call.AboveLatest db) := by
  rcases AppendCall.rows tenantId happend with
    ⟨rfl, row, hevents, htime, hid, hprev, hfresh⟩ | ⟨hne, hevents⟩
  · have habove : InOrder Event.le (db'.tenantEvents call.tenantId) ↔ call.AboveLatest db := by
      rw [hevents, inOrder_append Event.le h.inOrder]
      refine forall_congr' (fun m => ?_)
      refine forall_congr' (fun hm => ?_)
      rw [strictly_above_iff (hfresh m (latest_spec Event.le hm).1), htime, hid]
    constructor
    · intro h' _
      exact habove.mp h'.inOrder
    · intro hcall
      refine ⟨habove.mpr (hcall rfl), ?_⟩
      rw [hevents, Linkage, linked_append]
      refine ⟨h.linkage, ?_⟩
      rw [hprev, Db.latestEvent, h.inOrder.latest_eq, lastHash]
  · refine iff_of_true ?_ (fun heq => absurd heq hne)
    exact ⟨hevents ▸ h.inOrder, hevents ▸ h.linkage⟩

/-- Reading the rows in append order after an append means that it was above the latest. -/
lemma Ordered.of_chainInOrder (h : Ordered tenantId db) (happend : call.append O db = .ok db')
    (h' : ChainInOrder O tenantId db') : Ordered tenantId db' := by
  rcases AppendCall.rows tenantId happend with
    ⟨-, row, hevents, -, -, -, hfresh⟩ | ⟨-, hevents⟩
  · have hpair : (db.tenantEvents tenantId ++ [row]).Pairwise Event.le := by
      rw [← hevents, ← h'.chain_eq]
      exact List.pairwise_insertionSort Event.le _
    refine ⟨?_, h'.chain_eq ▸ h'.linkage⟩
    rw [hevents, InOrder, List.pairwise_append]
    refine ⟨h.inOrder, List.pairwise_singleton _ _, ?_⟩
    intro m hm e he
    have hle := (List.pairwise_append.mp hpair).2.2 m hm e he
    rw [List.mem_singleton.mp he] at hle ⊢
    exact ⟨hle, fun hge => hfresh m hm (Event.id_eq_of_le hle hge)⟩
  · exact ⟨hevents ▸ h.inOrder, hevents ▸ h.linkage⟩

end Step

/-! ### Whole runs -/

section Runs

variable {ι : Type*} [DecidableEq ι] {O : Outside} {tenantId : String}

lemma fire_append {c d : Config ι Db Unit} {i : ι} {call : AppendCall}
    (hfire : (appenders O).fire c i call = some d) : call.append O c.shared = .ok d.shared := by
  obtain ⟨db, u, hstep, rfl⟩ := (appenders O).fire_eq_some.mp hfire
  obtain ⟨db', hdb', heq⟩ := Option.map_eq_some_iff.mp hstep
  obtain ⟨rfl, -⟩ := Prod.mk.inj heq
  cases happend : call.append O c.shared with
  | error e => rw [happend] at hdb'; exact nomatch hdb'
  | ok db'' => rw [happend] at hdb'; exact congrArg Except.ok (Option.some.inj hdb')

/-- Every state that a prefix of the schedule leads to. -/
def InEveryState (O : Outside) (tenantId : String) (c : Config ι Db Unit)
    (schedule : List (ι × AppendCall)) : Prop :=
  ∀ s u d, schedule = s ++ u → (appenders O).run c s = some d → ChainInOrder O tenantId d.shared

lemma inEveryState_cons {c d : Config ι Db Unit} {i : ι} {call : AppendCall}
    {schedule : List (ι × AppendCall)} (hfire : (appenders O).fire c i call = some d) :
    InEveryState O tenantId c ((i, call) :: schedule) ↔
      ChainInOrder O tenantId c.shared ∧ InEveryState O tenantId d schedule := by
  constructor
  · intro h
    refine ⟨h [] _ c rfl rfl, fun s u e hs hrun => h ((i, call) :: s) u e (by rw [hs]; rfl) ?_⟩
    exact (appenders O).run_cons_eq_some.mpr ⟨d, hfire, hrun⟩
  · rintro ⟨hc, hd⟩ s u e hs hrun
    cases s with
    | nil => exact (Option.some.inj hrun) ▸ hc
    | cons y s =>
      obtain ⟨rfl, hrest⟩ := List.cons.inj hs
      obtain ⟨d', hfire', hrun⟩ := (appenders O).run_cons_eq_some.mp hrun
      obtain rfl := Option.some.inj (hfire.symm.trans hfire')
      exact hd s u e hrest hrun

lemma inEveryState_iff {c final : Config ι Db Unit} {schedule : List (ι × AppendCall)}
    (hstart : Ordered tenantId c.shared) (hrun : (appenders O).run c schedule = some final) :
    InEveryState O tenantId c schedule ↔
      (appenders O).Along (ClockMoves tenantId) c schedule := by
  induction schedule generalizing c with
  | nil =>
    refine iff_of_true ?_ trivial
    intro s u d hs hrun
    obtain ⟨rfl, -⟩ := List.append_eq_nil_iff.mp hs.symm
    exact (Option.some.inj hrun) ▸ hstart.chainInOrder O
  | cons x schedule ih =>
    rcases x with ⟨i, call⟩
    obtain ⟨d, hfire, hrun⟩ := (appenders O).run_cons_eq_some.mp hrun
    have hstep := hstart.append_iff (fire_append hfire)
    rw [inEveryState_cons hfire]
    constructor
    · rintro ⟨-, hrest⟩
      have hd := hstart.of_chainInOrder (fire_append hfire) (hrest [] _ d rfl rfl)
      exact (appenders O).along_cons (hstep.mp hd) hfire ((ih hd hrun).mp hrest)
    · intro h
      have hd := hstep.mpr h.1
      exact ⟨hstart.chainInOrder O, (ih hd hrun).mpr (h.2 d hfire)⟩

/-- Over every run of successful appends, from a log without events of the tenant: the readers
see its events in the order of their appends, in every state, exactly when each of its events is
above the one before it. -/
theorem chainInOrder_iff_clockMoves {c final : Config ι Db Unit}
    {schedule : List (ι × AppendCall)} (hstart : c.shared.tenantEvents tenantId = [])
    (hrun : (appenders O).run c schedule = some final) :
    InEveryState O tenantId c schedule ↔
      (appenders O).Along (ClockMoves tenantId) c schedule := by
  refine inEveryState_iff ⟨?_, ?_⟩ hrun
  · rw [hstart]
    exact List.Pairwise.nil
  · rw [hstart]
    trivial

end Runs

/-! ### Two processes, one tenant -/

def spikeCall (eventId : String) (now : Timestamp) : AppendCall :=
  ⟨"t", .member .demandSpike, [], "simulator", ⟨now, eventId, "r"⟩⟩

def noEvents : Config Bool Db Unit := ⟨oneTenant "t", fun _ => ()⟩

def spikeAt (id : String) (now : Timestamp) (hash previousHash : String) : Event :=
  ⟨id, "t", .demandSpike, now, .dict [], "simulator", hash, previousHash⟩

def firstSpike : Event := spikeAt "e1" 1760000000000001 firstSpikeHash genesisHash
def afterEvents (events : List Event) : Config Bool Db Unit :=
  ⟨{ oneTenant "t" with events := events }, fun _ => ()⟩

/-- One process reads the clock, the other reads the same time and draws a greater identifier. -/
def tiedSpikes : List (Bool × AppendCall) :=
  [(true, spikeCall "e1" 1760000000000001), (false, spikeCall "e2" 1760000000000001)]

lemma config_unit_ext {ι : Type*} {c d : Config ι Db Unit} (h : c.shared = d.shared) : c = d :=
  Config.ext h (funext fun _ => rfl)

theorem tied_spikes_in_order :
    InEveryState spikeDigests "t" noEvents tiedSpikes ∧
      ∃ c, (appenders spikeDigests).run noEvents tiedSpikes = some c ∧
        verifyChainIntegrity spikeDigests "t" c.shared = .ok true := by
  have hfirst : (appenders spikeDigests).fire noEvents true (spikeCall "e1" 1760000000000001) =
      some (afterEvents [firstSpike]) :=
    congrArg some (config_unit_ext rfl)
  have hclock : (appenders spikeDigests).Along (ClockMoves "t") noEvents tiedSpikes := by
    refine (appenders spikeDigests).along_cons ?_ hfirst ⟨?_, fun _ _ => trivial⟩
    · intro _ latest hlatest
      exact nomatch hlatest
    · intro _ latest hlatest
      obtain rfl : firstSpike = latest := Option.some.inj hlatest
      exact .inr ⟨rfl, by decide⟩
  have hrun : ∃ c, (appenders spikeDigests).run noEvents tiedSpikes = some c ∧
      verifyChainIntegrity spikeDigests "t" c.shared = .ok true := ⟨_, rfl, rfl⟩
  obtain ⟨c, hc, hverifies⟩ := hrun
  exact ⟨(chainInOrder_iff_clockMoves rfl hc).mpr hclock, c, hc, hverifies⟩

/-- The other process reads an earlier time, or the same time and draws a smaller identifier. -/
def laggingSpike (eventId : String) (now : Timestamp) : List (Bool × AppendCall) :=
  [(true, spikeCall "e1" 1760000000000001), (false, spikeCall eventId now)]

def earlierSpike : Event :=
  spikeAt "e2" 1760000000000000 "7de034f42682b885394389608e60d0e7f8fd231aa18c15ee24114151ceafcb0b"
    firstSpikeHash

def smallerSpike : Event :=
  spikeAt "e0" 1760000000000001 "9361cf8dfdfcd9251e4b30e273d4f41fe0447edde0288a7cbd79383f221981ab"
    firstSpikeHash

/-- Both appends succeed and every row has its own hash, yet the second row is read back first
and the chain never verifies again. -/
theorem lagging_clock_breaks_chain :
    ((appenders spikeDigests).run noEvents (laggingSpike "e2" 1760000000000000) =
          some (afterEvents [firstSpike, earlierSpike]) ∧
        (∀ e ∈ [firstSpike, earlierSpike], e.recomputedHash spikeDigests = .ok e.hash) ∧
        (afterEvents [firstSpike, earlierSpike]).shared.chain "t" = [earlierSpike, firstSpike] ∧
        verifyChainIntegrity spikeDigests "t" (afterEvents [firstSpike, earlierSpike]).shared =
          .error (brokenLink earlierSpike genesisHash)) ∧
      (appenders spikeDigests).run noEvents (laggingSpike "e0" 1760000000000001) =
          some (afterEvents [firstSpike, smallerSpike]) ∧
        (∀ e ∈ [firstSpike, smallerSpike], e.recomputedHash spikeDigests = .ok e.hash) ∧
        (afterEvents [firstSpike, smallerSpike]).shared.chain "t" = [smallerSpike, firstSpike] ∧
        verifyChainIntegrity spikeDigests "t" (afterEvents [firstSpike, smallerSpike]).shared =
          .error (brokenLink smallerSpike genesisHash) := by
  have hearlier : ∀ e ∈ [firstSpike, earlierSpike], e.recomputedHash spikeDigests = .ok e.hash :=
    List.forall_mem_cons.mpr ⟨rfl, List.forall_mem_singleton.mpr rfl⟩
  have hsmaller : ∀ e ∈ [firstSpike, smallerSpike], e.recomputedHash spikeDigests = .ok e.hash :=
    List.forall_mem_cons.mpr ⟨rfl, List.forall_mem_singleton.mpr rfl⟩
  exact ⟨⟨congrArg some (config_unit_ext rfl), hearlier, rfl, rfl⟩,
    congrArg some (config_unit_ext rfl), hsmaller, rfl, rfl⟩

end OpsCopilot
