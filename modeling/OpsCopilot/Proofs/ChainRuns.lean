import OpsCopilot.Model.EventQueries
import OpsCopilot.Model.Replay
import OpsCopilot.Proofs.AgentEvents
import OpsCopilot.Proofs.AutonomyGate
import OpsCopilot.Proofs.TenantCalls

/-!
# The event log over runs of tool calls

As long as the clock moves on from one event of a tenant to its next, every run of tool calls
leaves the tenant's chain verifiable, and changes nothing of what has been read from it before.
-/

namespace OpsCopilot

open Python Sql Fallible HashChain Interleaving

/-! ### Verifiable logs -/

/-- The events of a tenant are linked in their order, and each has the hash of its contents. -/
structure Verifiable (O : Outside) (t : String) (db : Db) : Prop where
  ordered : Ordered t db
  hashes : ∀ e ∈ db.tenantEvents t, e.recomputedHash O = .ok e.hash

lemma Verifiable.verifies {O : Outside} {t : String} {db : Db} (h : Verifiable O t db) :
    verifyChainIntegrity O t db = .ok true :=
  (h.ordered.chainInOrder O).verifies h.hashes

lemma verifiable_nil {O : Outside} {t : String} {db : Db} (h : db.tenantEvents t = []) :
    Verifiable O t db := by
  refine ⟨⟨?_, ?_⟩, ?_⟩
  · rw [h]
    exact List.Pairwise.nil
  · rw [h]
    trivial
  · rw [h]
    exact List.forall_mem_nil _

/-! ### One step -/

section Step

variable {O : Outside} {call : ToolCall} {x : ToolAction} {s s' : ToolStore} {p p' : Process}
  {t : String}

/-- A step appends the event that the call has in hand, or leaves the log and the tables alone. -/
lemma ToolMove.appendEvent_cases (h : ToolMove O call x s p s' p') :
    Untouched s.db s'.db ∧ s'.db.tenants = s.db.tenants ∨
    ∃ w evaluation eventType event draw, x = .append draw ∧
      p.stage = .appending w evaluation eventType event ∧
      appendEvent O w.tenantId (.member eventType) event agentSource draw s.db = .ok s'.db := by
  cases h with
  | append happend => exact .inr ⟨_, _, _, _, _, rfl, rfl, happend⟩
  | raise _ _ | crash _ | unsupported _ _ | simulate _ _ | acquire _ _ | timeout _ | block _ _
  | review _ _ | proceed _ _ | getPending _ _ _ | readPending _ _ _ | recheck _ _ _ _
  | stale _ _ _ | getApproved _ _ _ _ | readApproved _ _ _ | acquireApproved _ | complete _
  | releaseWork _ | leave => exact .inl ⟨⟨rfl, rfl⟩, rfl⟩
  | persist _ hpersist | persistAlone _ hpersist =>
    obtain ⟨-, -, -, rfl⟩ := persistDecision_spec hpersist
    exact .inl ⟨⟨rfl, rfl⟩, rfl⟩
  | request _ hrequest | requestAlone _ hrequest =>
    obtain ⟨-, -, ⟨rfl, -⟩ | ⟨-, -, -, -, rfl⟩⟩ := requestApproval_spec hrequest
    · exact .inl ⟨⟨rfl, rfl⟩, rfl⟩
    · exact .inl ⟨⟨rfl, rfl⟩, rfl⟩
  | resolve _ hresolve | resolveAlone _ hresolve =>
    obtain ⟨_, -, -, -, rfl⟩ := resolveRequest_spec hresolve
    exact .inl ⟨⟨rfl, rfl⟩, rfl⟩
  | claim hclaim | claimAlone _ hclaim =>
    obtain ⟨-, -, -, rfl⟩ := claimDecision_spec hclaim
    exact .inl ⟨⟨rfl, rfl⟩, rfl⟩
  | observe hevaluate | evaluateAlone hevaluate =>
    obtain ⟨-, rfl⟩ := evaluateDecision_spec hevaluate
    exact .inl ⟨⟨rfl, rfl⟩, rfl⟩
  | logPolicy _ hlog | logReviewer _ hlog | audit hlog =>
    obtain ⟨_, -, rfl⟩ := writeLog_spec hlog
    exact .inl ⟨⟨rfl, rfl⟩, rfl⟩

/-- Neither does any step change which supplier sells what. -/
lemma ToolMove.supplierSkus_eq (h : ToolMove O call x s p s' p') (hp : p.stage.EventFits) :
    s'.db.tables.supplierSkus = s.db.tables.supplierSkus := by
  rcases h.append_cases with huntouched | ⟨w, evaluation, eventType, event, draw, happend⟩
  · rw [huntouched.tables_eq]
  · obtain rfl := hp _ _ _ _ happend.before
    have happly := happend.appended.tables
    cases haction : w.actionType with
    | priceChange =>
      rw [haction] at happly
      obtain ⟨_, _, _, _, -, -, -, -, -, htables⟩ := applyMenuPriceChange_spec happly
      rw [htables]
      rfl
    | supplierSwitch =>
      rw [haction] at happly
      obtain ⟨_, _, _, _, _, -, -, -, -, -, -, htables⟩ := applySupplierPriceChange_spec happly
      rw [htables]
      rfl
    | menuSwap =>
      rw [haction] at happly
      obtain ⟨_, _, -, -, htables⟩ := applyMenuItemRemoved_spec happly
      rw [htables]
      rfl
    | staffingChange =>
      rw [haction] at happly
      obtain ⟨_, _, _, shift, happlied⟩ := applyStaffingChange_spec happly
      have hwritten := happlied.written
      cases shift with
      | some row =>
        simp only at hwritten
        rw [hwritten]
        rfl
      | none =>
        obtain ⟨_, -, htables⟩ := hwritten
        rw [htables]

/-- The work whose event is about to be appended. -/
def Stage.atAppend? : Stage → Option Work
  | .appending w _ _ _ => some w
  | _ => none

/-- The clock reading of an append for the tenant, or on a tie the identifier it draws, is above
that of its latest event. -/
def AppendsAbove (t : String) (db : Db) (stage : Stage) (x : ToolAction) : Prop :=
  match x with
  | .append draw => ∀ w ∈ stage.atAppend?, w.tenantId = t → ∀ latest ∈ db.latestEvent t,
      latest.timestamp < draw.now ∨ latest.timestamp = draw.now ∧ latest.id < draw.eventId
  | _ => True

instance (t : String) (db : Db) (stage : Stage) (x : ToolAction) :
    Decidable (AppendsAbove t db stage x) := by
  unfold AppendsAbove
  cases x <;> infer_instance

/-- Where the event in hand comes from. -/
def Stage.EventMade (O : Outside) (stage : Stage) : Prop :=
  ∀ w evaluation eventType event, stage = .appending w evaluation eventType event →
    ∃ T, stateChangeEvent O T w.tenantId w.payload w.actionType = .ok (eventType, event)

lemma strip_agentSource : strip agentSource = agentSource := by decide

/-- A step adds at most one event to the log of a tenant, and the log stays verifiable. -/
theorem ToolMove.verifiable (h : ToolMove O call x s p s' p')
    (hmade : p.stage.EventMade O) (habove : AppendsAbove t s.db p.stage x)
    (hs : Verifiable O t s.db) :
    Verifiable O t s'.db ∧ ∃ rows, s'.db.tenantEvents t = s.db.tenantEvents t ++ rows := by
  rcases h.appendEvent_cases with
    ⟨huntouched, -⟩ | ⟨w, evaluation, eventType, event, draw, hx, hp, happend⟩
  · have hsame : s'.db.tenantEvents t = s.db.tenantEvents t := by
      rw [Db.tenantEvents, huntouched.events_eq, Db.tenantEvents]
    refine ⟨⟨⟨hsame ▸ hs.ordered.inOrder, hsame ▸ hs.ordered.linkage⟩, hsame ▸ hs.hashes⟩, [], ?_⟩
    rw [hsame, List.append_nil]
  · subst hx
    obtain ⟨T, hevent⟩ := hmade w evaluation eventType event hp
    obtain ⟨member, hmember, -, happended⟩ := appendEvent_spec happend
    obtain rfl := Except.ok.inj hmember
    have hplain : event.Plain := stateChangeEvent_plain hevent happended.tables
    obtain ⟨row, hrow, hown, hothers⟩ := happended.tenantEvents_eq
    have happend' : AppendCall.append O ⟨w.tenantId, .member eventType, event, agentSource, draw⟩
        s.db = .ok s'.db := happend
    have hordered : Ordered t s'.db :=
      (hs.ordered.append_iff happend').mpr fun htenant latest hlatest =>
        habove w (by rw [hp]; rfl) htenant latest (htenant ▸ hlatest)
    by_cases htenant : w.tenantId = t
    · subst htenant
      refine ⟨⟨hordered, ?_⟩, [row], hown⟩
      rw [hown]
      refine List.forall_mem_append.mpr ⟨hs.hashes, List.forall_mem_singleton.mpr ?_⟩
      exact hrow.recomputes hplain.distinctKeys ⟨strip_agentSource, hplain.keysStable⟩
    · have hsame := hothers t (Ne.symm htenant)
      refine ⟨⟨hordered, hsame ▸ hs.hashes⟩, [], ?_⟩
      rw [hsame, List.append_nil]

end Step

/-! ### Runs -/

section Runs

variable {ι : Type*} [DecidableEq ι] {O : Outside} {call : ι → ToolCall} {t : String}
  {c d : Config ι ToolStore Process} {i : ι} {x : ToolAction}

/-- The appends for the tenant come after its latest event. -/
def ClockAbove (t : String) (c : Config ι ToolStore Process) (i : ι) (x : ToolAction) : Prop :=
  AppendsAbove t c.shared.db (c.proc i).stage x

instance (t : String) (c : Config ι ToolStore Process) (i : ι) (x : ToolAction) :
    Decidable (ClockAbove t c i x) :=
  inferInstanceAs (Decidable (AppendsAbove _ _ _ _))

/-- What holds of a run from `start` whose appends for the tenant come one after the other. -/
structure LogKept (O : Outside) (call : ι → ToolCall) (t : String) (start : Db)
    (c : Config ι ToolStore Process) : Prop where
  locks : LocksKept O call c
  made : ∀ i, (c.proc i).stage.EventMade O
  verifiable : Verifiable O t c.shared.db
  grown : ∃ rows, c.shared.db.tenantEvents t = start.tenantEvents t ++ rows
  supplierSkus_eq : c.shared.db.tables.supplierSkus = start.tables.supplierSkus

lemma LogKept.fire {start : Db} (hc : LogKept O call t start c) (hclock : ClockAbove t c i x)
    (h : (toolCalls O call).fire c i x = some d) : LogKept O call t start d := by
  have hmove := toolCalls_move h
  obtain ⟨hverifiable, rows, hrows⟩ := hmove.verifiable (hc.made i) hclock hc.verifiable
  obtain ⟨before, hbefore⟩ := hc.grown
  refine ⟨hc.locks.fire h, fun j w evaluation eventType event hj => ?_, hverifiable,
    ⟨before ++ rows, by rw [hrows, hbefore, List.append_assoc]⟩, ?_⟩
  · by_cases hji : j = i
    · subst hji
      exact ⟨_, hmove.appending_cases hj⟩
    · rw [(toolCalls O call).proc_of_fire h hji] at hj
      exact hc.made j w evaluation eventType event hj
  · exact (hmove.supplierSkus_eq (hc.locks.eventFits i)).trans hc.supplierSkus_eq

lemma logKept_run {db : Db} {schedule : List (ι × ToolAction)} (hstart : Verifiable O t db)
    (hclock : (toolCalls O call).Along (ClockAbove t) db.start schedule)
    (hc : (toolCalls O call).run db.start schedule = some c) : LogKept O call t db c := by
  refine (toolCalls O call).run_invariant (fun c i x d hc hok hd => hc.fire hok hd) ?_ hclock hc
  refine ⟨locksKept_start, ?_, hstart, ⟨[], (List.append_nil _).symm⟩, rfl⟩
  intro i w evaluation eventType event hi
  exact absurd hi (by simp [Db.start, Process.idle])

/-- The chain of a tenant verifies after every run of tool calls, whatever payloads they got and
wherever they failed, and its readers see the new events after the old ones. -/
theorem tool_calls_keep_chain {db : Db} {schedule : List (ι × ToolAction)}
    (hstart : Verifiable O t db)
    (hclock : (toolCalls O call).Along (ClockAbove t) db.start schedule)
    (hc : (toolCalls O call).run db.start schedule = some c) :
    verifyChainIntegrity O t c.shared.db = .ok true ∧
      ∃ rows, c.shared.db.chain t = db.chain t ++ rows := by
  have hkept := logKept_run hstart hclock hc
  refine ⟨hkept.verifiable.verifies, ?_⟩
  obtain ⟨rows, hrows⟩ := hkept.grown
  refine ⟨rows, ?_⟩
  rw [(hkept.verifiable.ordered.chainInOrder O).chain_eq, (hstart.ordered.chainInOrder O).chain_eq,
    hrows]

end Runs

/-! ### A concrete run -/

/-- The text that is hashed for the price change of the bistro. -/
def soupText (previousHash microseconds : String) : String :=
  previousHash ++ "|menu_price_change|\x7b\"menu_item_id\":\"soup\",\"new_price\":10.5\x7d|" ++
    "1970-01-01T00:00:00.0000" ++ microseconds ++ "+00:00|agent_action"

def firstSoupHash : String := "e3732a955ddc75f87b128f16d4b8fd2fd9fb735fa0da626b36b9619965ad4902"

/-- The digests of the two events below. -/
def soupDigests : Outside := Outside.prescribed [
  (soupText genesisHash "08", firstSoupHash),
  (soupText firstSoupHash "18", "0bab0bb45dea071bb8c795a0233422ee38a204f4361dec624047035d0f714c43")]

lemma bistro_verifiable : Verifiable soupDigests "t" bistro := verifiable_nil rfl

lemma wholeRaise_clock : (toolCalls soupDigests soupRaise).Along (ClockAbove "t") bistro.start
    wholeRaise := by decide +kernel

theorem soup_chain_kept : ∃ c e, (toolCalls soupDigests soupRaise).run bistro.start wholeRaise =
    some c ∧ c.shared.db.chain "t" = [e] ∧ e.hash = firstSoupHash ∧
      verifyChainIntegrity soupDigests "t" c.shared.db = .ok true := by
  have hrun : ((toolCalls soupDigests soupRaise).run bistro.start wholeRaise).any
      (fun c => (c.shared.db.chain "t").map Event.hash = [firstSoupHash]) = true := by
    decide +kernel
  obtain ⟨c, hc, hchain⟩ := (Option.any_eq_true _ _).mp hrun
  obtain ⟨hverifies, -⟩ :=
    tool_calls_keep_chain bistro_verifiable wholeRaise_clock hc
  obtain ⟨e, he, hhash⟩ := List.map_eq_singleton_iff.mp (of_decide_eq_true hchain)
  exact ⟨c, e, hc, he, hhash, hverifies⟩

/-! ### What has been read -/

section Reads

variable {t : String} {db : Db}

lemma Ordered.eventsOfType_eq (h : Ordered t db) (eventType : Option EventType) :
    db.eventsOfType t eventType =
      (db.tenantEvents t).filter (fun e => eventType.all (fun u => e.eventType = u)) :=
  (InOrder.filter h.inOrder _).ascending_eq

/-- A page that was full stays as it is, and any other is continued. -/
lemma take_of_grown {α : Type} (xs ys : List α) (limit : ℕ) :
    ∃ more, (xs ++ ys).take limit = xs.take limit ++ more ∧
      ((xs.take limit).length = limit → more = []) := by
  refine ⟨ys.take (limit - xs.length), List.take_append, fun hfull => ?_⟩
  rw [List.length_take, min_eq_left_iff] at hfull
  rw [Nat.sub_eq_zero_of_le hfull, List.take_zero]

lemma getTenantEvents_ok {limit : Value} {eventType : Option EventTypeArg} {page : List Event}
    (h : getTenantEvents t limit eventType db = .ok page) :
    ∃ n member, limit = .int n ∧ 0 < n ∧ page = (db.eventsOfType t member).take n.toNat ∧
      ∀ db', getTenantEvents t limit eventType db' =
        .ok ((db'.eventsOfType t member).take n.toNat) := by
  obtain ⟨count, hlimit, h⟩ := bind_ok.mp h
  obtain ⟨member, htype, h⟩ := bind_ok.mp h
  obtain ⟨_, hrange, hlast⟩ := bind_ok.mp (mapError_ok.mp h)
  unfold positiveLimit at hlimit
  split at hlimit
  · rename_i n
    split_ifs at hlimit with hpos
    obtain rfl := Except.ok.inj hlimit
    refine ⟨n, member, rfl, not_le.mp hpos, (pure_ok.mp hlast).symm, fun db' => ?_⟩
    refine bind_ok.mpr ⟨n.toNat, (if_neg hpos : positiveLimit (.int n) = _), ?_⟩
    refine bind_ok.mpr ⟨member, htype, mapError_ok.mpr ?_⟩
    exact bind_ok.mpr ⟨_, hrange, rfl⟩
  · cases hlimit

/-- Nothing new is dated before the latest of the old events. -/
lemma later_of_inOrder {xs ys : List Event} {last : Event} (h : InOrder Event.le (xs ++ ys))
    (hlast : last ∈ xs) : ∀ e ∈ ys, last.timestamp ≤ e.timestamp := by
  intro e he
  obtain ⟨hle, -⟩ := (List.pairwise_append.mp h).2.2 last hlast e he
  rcases hle with hlt | ⟨heq, -⟩
  · exact hlt.le
  · exact heq.le

end Reads

section History

variable {ι : Type*} [DecidableEq ι] {O : Outside} {call : ι → ToolCall} {t : String}
  {c : Config ι ToolStore Process}

/-- What has been read of the history of a tenant stays true: over every run of tool calls a page
of its events is at most continued, and the state at a moment before its latest event is
reconstructed as before. -/
theorem history_stays {db : Db} {schedule : List (ι × ToolAction)}
    (hstart : Verifiable O t db)
    (hclock : (toolCalls O call).Along (ClockAbove t) db.start schedule)
    (hc : (toolCalls O call).run db.start schedule = some c) :
    (∀ limit eventType page, getTenantEvents t limit eventType db = .ok page →
      ∃ more, getTenantEvents t limit eventType c.shared.db = .ok (page ++ more) ∧
        (limit = .int page.length → more = [])) ∧
      ∀ target, (∃ e ∈ db.tenantEvents t, target < e.timestamp) →
        reconstructStateAt O t target c.shared.db = reconstructStateAt O t target db := by
  have hkept := logKept_run hstart hclock hc
  obtain ⟨rows, hrows⟩ := hkept.grown
  constructor
  · intro limit eventType page hpage
    obtain ⟨n, member, rfl, hpos, rfl, hread⟩ := getTenantEvents_ok hpage
    obtain ⟨more, hmore, hfull⟩ := take_of_grown (db.eventsOfType t member)
      (rows.filter (fun e => member.all (fun u => e.eventType = u))) n.toNat
    refine ⟨more, ?_, fun hlimit => hfull ?_⟩
    · rw [hread, ← hmore, hkept.verifiable.ordered.eventsOfType_eq, hrows, List.filter_append,
        hstart.ordered.eventsOfType_eq]
    · have hlength := Value.int.inj hlimit
      omega
  · rintro target ⟨last, hlast, htarget⟩
    have hreplayed : c.shared.db.replayed t target = db.replayed t target := by
      rw [(hkept.verifiable.ordered.chainInOrder O).replayed_eq,
        (hstart.ordered.chainInOrder O).replayed_eq, hrows, List.filter_append]
      have horder := hkept.verifiable.ordered.inOrder
      rw [hrows] at horder
      have hlater := later_of_inOrder horder hlast
      have hnone : rows.filter (fun e => decide (e.timestamp ≤ target)) = [] := by
        refine List.filter_eq_nil_iff.mpr (fun e he hle => ?_)
        exact absurd (of_decide_eq_true hle) (not_le.mpr (htarget.trans_le (hlater e he)))
      rw [hnone, List.append_nil]
    have hskus : c.shared.db.tables.skuToIngredient t = db.tables.skuToIngredient t := by
      rw [Tables.skuToIngredient, hkept.supplierSkus_eq, Tables.skuToIngredient]
    rw [reconstructStateAt, hreplayed, hskus, reconstructStateAt]

end History

/-- The same change once more. -/
def raiseAgain : List (Bool × ToolAction) :=
  [(true, .simulate), (true, .persist "d3"), (true, .acquire), (true, .judge), (true, .claim),
    (true, .observe calmDraws 17), (true, .complete), (true, .append ⟨18, "e3", "r3"⟩),
    (true, .log 19), (true, .release)]

theorem soup_history_stays : ∃ c d e more,
    (toolCalls soupDigests soupRaise).run bistro.start wholeRaise = some c ∧
      (toolCalls soupDigests soupRaise).run c.shared.db.start raiseAgain = some d ∧
      d.shared.db.events.length = 2 ∧
      getTenantEvents "t" (.int 100) none d.shared.db = .ok (e :: more) ∧
      getTenantEvents "t" (.int 1) none d.shared.db = .ok [e] ∧
      reconstructStateAt soupDigests "t" 7 d.shared.db =
        reconstructStateAt soupDigests "t" 7 c.shared.db := by
  have hruns : (((toolCalls soupDigests soupRaise).run bistro.start wholeRaise).bind (fun c =>
      ((toolCalls soupDigests soupRaise).run c.shared.db.start raiseAgain).map (fun d => (c, d)))).any
      (fun y => y.1.shared.db.events.map (fun e => (e.tenantId, e.timestamp)) = [("t", 8)] ∧
        (toolCalls soupDigests soupRaise).Along (ClockAbove "t") y.1.shared.db.start raiseAgain ∧
        y.2.shared.db.events.length = 2) = true := by
    decide +kernel
  obtain ⟨c, y, hc, hy, hfacts⟩ := exists_of_any_bind hruns
  obtain ⟨hevents, hclock, htwo⟩ := of_decide_eq_true hfacts
  obtain ⟨d, hd, rfl⟩ := Option.map_eq_some_iff.mp hy
  obtain ⟨e, he, heq⟩ := List.map_eq_singleton_iff.mp hevents
  obtain ⟨htenant, htime⟩ := Prod.mk.inj heq
  have hrows : c.shared.db.tenantEvents "t" = [e] := by
    rw [Db.tenantEvents, he]
    simp [htenant]
  have hpage : c.shared.db.eventsOfType "t" none = [e] := by
    simp [Db.eventsOfType, hrows, ascending]
  have hread : ∀ n : ℤ, 0 < n → n < 2 ^ 63 →
      getTenantEvents "t" (.int n) none c.shared.db = .ok ([e].take n.toNat) := by
    intro n hpos hrange
    refine bind_ok.mpr ⟨n.toNat, if_neg (not_le.mpr hpos), bind_ok.mpr ⟨none, rfl, ?_⟩⟩
    refine mapError_ok.mpr (bind_ok.mpr ⟨(), raiseIf_ok.mpr (by omega), ?_⟩)
    rw [hpage]
    rfl
  have hkept := logKept_run bistro_verifiable wholeRaise_clock hc
  obtain ⟨hpages, hpast⟩ := history_stays hkept.verifiable hclock hd
  obtain ⟨more, hmore, -⟩ := hpages _ _ _ (hread 100 (by decide) (by decide))
  obtain ⟨rest, hone, hfull⟩ := hpages _ _ _ (hread 1 (by decide) (by decide))
  refine ⟨c, d, e, more, hc, hd, htwo, hmore, ?_, hpast 7 ⟨e, ?_, ?_⟩⟩
  · rw [hone, hfull rfl]
    rfl
  · rw [hrows]
    exact List.mem_singleton_self e
  · rw [htime]
    decide

end OpsCopilot
