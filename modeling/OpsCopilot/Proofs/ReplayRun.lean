import Mathlib.Data.List.Induction
import OpsCopilot.Proofs.ChainOrder
import OpsCopilot.Proofs.ReplaySteps

/-!
# Replaying a run

The events that a run of appends has written are replayed one by one. What holds initially, and is
kept by every event that the handlers and the replay interpret side by side, holds at the end.
-/

namespace OpsCopilot

open Python Sql Fallible HashChain

/-! ### Runs -/

/-- Calls one after the other, each of which is accepted. -/
def appendAll (O : Outside) (calls : List AppendCall) (db : Db) : Except PyException Db :=
  calls.foldlM (fun db call => call.append O db) db

/-- The accepted events of a tenant, as they were passed in. -/
def tenantHistory (tenantId : String) (calls : List AppendCall) : List (EventType × Dict) :=
  calls.filterMap (fun call =>
    if call.tenantId = tenantId then
      (normalizeEventType call.eventType).toOption.map (fun eventType => (eventType, call.payload))
    else none)

/-- A run of accepted calls from a state in which the tenant has no events. The clock of the
tenant's calls moves forward. -/
structure AppendRun (O : Outside) (tenantId : String) (calls : List AppendCall) (start final : Db) :
    Prop where
  fresh : start.tenantEvents tenantId = []
  skus : (start.tables.supplierSkus.map SupplierSKU.id).Nodup
  dicts : ∀ call ∈ calls, (Value.dict call.payload).DistinctKeys
  run : appendAll O calls start = .ok final
  ordered : ((calls.filter (fun call => call.tenantId = tenantId)).map
    (fun call => call.draw.now)).Pairwise (· < ·)

/-- The tenant's call is later than the moment. -/
def AppendCall.isAfter (call : AppendCall) (tenantId : String) (target : Timestamp) : Bool :=
  call.tenantId = tenantId ∧ target < call.draw.now

/-- The calls before the tenant's first call that is later than the moment. -/
def callsUpTo (tenantId : String) (target : Timestamp) (calls : List AppendCall) :
    List AppendCall :=
  calls.takeWhile (fun call => !call.isAfter tenantId target)

/-- A run in two parts: `before` are the calls up to the moment, `after` the later ones. -/
structure ReplayRun (O : Outside) (tenantId : String) (target : Timestamp)
    (before after : List AppendCall) (start db final : Db) : Prop where
  fresh : start.tenantEvents tenantId = []
  skus : (start.tables.supplierSkus.map SupplierSKU.id).Nodup
  dicts : ∀ call ∈ before, (Value.dict call.payload).DistinctKeys
  run : appendAll O before start = .ok db
  rest : appendAll O after db = .ok final
  ordered : (((before ++ after).filter (fun call => call.tenantId = tenantId)).map
    (fun call => call.draw.now)).Pairwise (· < ·)
  upTo : ∀ call ∈ before, call.tenantId = tenantId → call.draw.now ≤ target
  later : ∀ call ∈ after, call.tenantId = tenantId → target < call.draw.now

section Rows

variable {O : Outside} {t : String} {calls : List AppendCall} {db db' : Db}

lemma appendAll_concat {call : AppendCall} (h : appendAll O (calls ++ [call]) db = .ok db') :
    ∃ db₁, appendAll O calls db = .ok db₁ ∧ call.append O db₁ = .ok db' := by
  rw [appendAll, List.foldlM_append] at h
  obtain ⟨db₁, hcalls, hlast⟩ := bind_ok.mp h
  refine ⟨db₁, hcalls, ?_⟩
  rw [List.foldlM_cons] at hlast
  obtain ⟨db₂, happend, hpure⟩ := bind_ok.mp hlast
  rw [← pure_ok.mp hpure]
  exact happend

/-- The rows of a tenant are in the order of its calls, at the moments the calls read. -/
lemma appendAll_rows (h : appendAll O calls db = .ok db') :
    ∃ rows, db'.tenantEvents t = db.tenantEvents t ++ rows ∧
      rows.map Event.timestamp =
        (calls.filter (fun call => call.tenantId = t)).map (fun call => call.draw.now) := by
  induction calls using List.reverseRecOn generalizing db' with
  | nil =>
    obtain rfl := pure_ok.mp h
    exact ⟨[], by simp⟩
  | append_singleton calls call ih =>
    obtain ⟨db₁, hcalls, hcall⟩ := appendAll_concat h
    obtain ⟨rows, hrows, htimes⟩ := ih hcalls
    rw [List.filter_append, List.map_append, ← htimes]
    rcases AppendCall.rows t hcall with ⟨htenant, row, hevents, htime, -⟩ | ⟨hother, hevents⟩
    · refine ⟨rows ++ [row], ?_, ?_⟩
      · rw [hevents, hrows, List.append_assoc]
      · simp [htenant, htime]
    · exact ⟨rows, hevents.trans hrows, by simp [hother]⟩

lemma appendAll_supplierSkus (h : appendAll O calls db = .ok db') :
    db'.tables.supplierSkus = db.tables.supplierSkus := by
  induction calls using List.reverseRecOn generalizing db' with
  | nil =>
    obtain rfl := pure_ok.mp h
    rfl
  | append_singleton calls call ih =>
    obtain ⟨db₁, hcalls, hcall⟩ := appendAll_concat h
    obtain ⟨member, -, -, happended⟩ := appendEvent_spec hcall
    exact (applyToCurrentState_frame happended.tables).1.trans (ih hcalls)

end Rows

/-! ### The SKUs of a tenant -/

/-- SKUs have unique identifiers, so the last one under an identifier is the first one. -/
lemma skuToIngredient_find? {T : Tables} (t : String)
    (hkeys : (T.supplierSkus.map SupplierSKU.id).Nodup) (id : String) :
    (T.skuToIngredient t).find? (.str id) = T.ingredientOf t id := by
  rw [Tables.skuToIngredient, Tables.ingredientOf, Tables.supplierSku?]
  generalize T.supplierSkus = rows at hkeys
  induction rows using List.reverseRecOn with
  | nil => rfl
  | append_singleton rows row ih =>
    rw [List.map_append, List.nodup_append] at hkeys
    have hrest := ih hkeys.1
    rw [List.filter_append, List.foldl_append, List.find?_append]
    by_cases htenant : row.tenantId = t
    · have hrow : [row].filter (fun r => r.tenantId = t) = [row] := by simp [htenant]
      rw [hrow, List.foldl_cons, List.foldl_nil, Mapping.find?_set]
      by_cases hid : id = row.id
      · have hnew : rows.find? (fun r => r.id = id ∧ r.tenantId = t) = none := by
          refine List.find?_eq_none.mpr (fun r hr hp => ?_)
          simp only [decide_eq_true_eq] at hp
          exact hkeys.2.2 r.id (List.mem_map_of_mem hr) row.id (by simp) (hp.1.trans hid)
        rw [if_pos hid, hnew]
        simp [hid, htenant]
      · rw [if_neg hid, hrest]
        simp [Ne.symm hid]
    · simp [htenant, hrest]

/-! ### The replayed events -/

section Run

variable {O : Outside} {t : String} {target : Timestamp} {before after : List AppendCall}
  {start db final : Db}

/-- At the moment asked for, the replay reads the events of the run up to that moment. -/
theorem ReplayRun.replayed_eq (h : ReplayRun O t target before after start db final) :
    final.replayed t target = db.tenantEvents t := by
  obtain ⟨rows, hrows, htimes⟩ := appendAll_rows (t := t) h.run
  obtain ⟨rows', hrows', htimes'⟩ := appendAll_rows (t := t) h.rest
  rw [h.fresh, List.nil_append] at hrows
  rw [hrows] at hrows'
  have hordered := h.ordered
  rw [List.filter_append, List.map_append, ← htimes, ← htimes', List.pairwise_append] at hordered
  have hsorted : InOrder Event.le rows := by
    refine (List.pairwise_map.mp hordered.1).imp (fun hlt => ⟨.inl hlt, ?_⟩)
    rintro (hgt | ⟨heq, -⟩)
    · exact lt_asymm hlt hgt
    · exact hlt.ne' heq
  have hold : rows.filter (fun e => e.timestamp ≤ target) = rows := by
    refine List.filter_eq_self.mpr (fun e he => decide_eq_true ?_)
    have hmem := List.mem_map_of_mem (f := Event.timestamp) he
    rw [htimes] at hmem
    obtain ⟨call, hcall, hnow⟩ := List.mem_map.mp hmem
    rw [List.mem_filter, decide_eq_true_eq] at hcall
    exact hnow ▸ h.upTo call hcall.1 hcall.2
  have hnew : rows'.filter (fun e => e.timestamp ≤ target) = [] := by
    refine List.filter_eq_nil_iff.mpr (fun e he hle => ?_)
    have hmem := List.mem_map_of_mem (f := Event.timestamp) he
    rw [htimes'] at hmem
    obtain ⟨call, hcall, hnow⟩ := List.mem_map.mp hmem
    rw [List.mem_filter, decide_eq_true_eq] at hcall
    exact absurd (of_decide_eq_true hle) (not_le.mpr (hnow ▸ h.later call hcall.1 hcall.2))
  rw [Db.replayed, hrows', List.filter_append, hold, hnew, List.append_nil, hrows]
  exact hsorted.ascending_eq

/-- The empty dictionaries that the replay starts from. -/
def ReplayView.empty : ReplayView := ⟨fun _ => none, fun _ => none, fun _ => none⟩

section Invariant

variable {inv : List (EventType × Dict) → ReplayView → TenantView → Prop}

/-- What every accepted event keeps, in the rebuilt state and in the rows of the tenant. -/
def KeptByMirrored (O : Outside) (t : String) (ingredientOf : String → Option String)
    (inv : List (EventType × Dict) → ReplayView → TenantView → Prop)
    (allowed : EventType × Dict → Prop) : Prop :=
  ∀ past eventType payload v v' p p', allowed (eventType, payload) → inv past v p →
    Mirrored O t ingredientOf payload v v' p p' eventType → inv (past ++ [(eventType, payload)]) v' p'

theorem replay_invariant {allowed : EventType × Dict → Prop}
    (hkept : KeptByMirrored O t (start.tables.ingredientOf t) inv allowed)
    (hinit : inv [] .empty (start.tables.view t)) (hfresh : start.tenantEvents t = [])
    (hskus : (start.tables.supplierSkus.map SupplierSKU.id).Nodup)
    (hdicts : ∀ call ∈ before, (Value.dict call.payload).DistinctKeys)
    (hallowed : ∀ event ∈ tenantHistory t before, allowed event)
    (hrun : appendAll O before start = .ok db) :
    ∃ r, (db.tenantEvents t).foldlM (replayEvent O (start.tables.skuToIngredient t))
        ⟨ReplayState.empty, none⟩ = .ok r ∧ r.state.Named ∧
      inv (tenantHistory t before) r.state.view (db.tables.view t) := by
  induction before using List.reverseRecOn generalizing db with
  | nil =>
    obtain rfl := pure_ok.mp hrun
    rw [hfresh]
    refine ⟨_, rfl, ⟨by simp [ReplayState.empty, Mapping.StrKeys],
      by simp [ReplayState.empty, Mapping.StrKeys], fun i level hlevel => ?_⟩, hinit⟩
    cases hlevel
  | append_singleton calls call ih =>
    obtain ⟨db₁, hcalls, hcall⟩ := appendAll_concat hrun
    have hhistory : tenantHistory t (calls ++ [call]) =
        tenantHistory t calls ++ tenantHistory t [call] := List.filterMap_append
    rw [hhistory] at hallowed ⊢
    obtain ⟨r, hr, hnamed, hinv⟩ := ih (fun c hc => hdicts c (List.mem_append_left _ hc))
      (fun event hevent => hallowed event (List.mem_append_left _ hevent)) hcalls
    obtain ⟨member, hmember, -, happended⟩ := appendEvent_spec hcall
    by_cases htenant : call.tenantId = t
    · subst htenant
      obtain ⟨row, hrow, hevents, -⟩ := happended.tenantEvents_eq
      obtain ⟨stored, hstored, hfields⟩ :=
        loadsDumps_field (hdicts call (by simp)) hrow.payload_eq
      have hsame := appendAll_supplierSkus hcalls
      have hof : start.tables.ingredientOf call.tenantId = db₁.tables.ingredientOf call.tenantId := by
        unfold Tables.ingredientOf Tables.supplierSku?
        rw [hsame]
      have hlookup : ∀ id, (start.tables.skuToIngredient call.tenantId).find? (.str id) =
          db₁.tables.ingredientOf call.tenantId id := by
        intro id
        rw [skuToIngredient_find? call.tenantId hskus id, hof]
      have happly := happended.tables
      rw [← hrow.eventType_eq] at happly
      obtain ⟨r', hr', hnamed', hmirrored⟩ := replayEvent_mirrored hnamed
        (fun name hname => hfields name (fieldName_of_shared hname)) hstored hrow.timestamp_eq
        hlookup happly
      have hlast : tenantHistory call.tenantId [call] = [(member, call.payload)] := by
        simp [tenantHistory, hmember, Except.toOption]
      rw [hlast] at hallowed ⊢
      rw [hrow.eventType_eq, ← hof] at hmirrored
      refine ⟨r', ?_, hnamed',
        hkept _ _ _ _ _ _ _ (hallowed _ (by simp)) hinv hmirrored⟩
      rw [hevents, List.foldlM_append]
      refine bind_ok.mpr ⟨r, hr, ?_⟩
      rw [List.foldlM_cons]
      exact bind_ok.mpr ⟨r', hr', rfl⟩
    · obtain ⟨_, -, -, hothers⟩ := happended.tenantEvents_eq
      have hlast : tenantHistory t [call] = [] := by simp [tenantHistory, htenant]
      rw [hothers t (Ne.symm htenant), hlast, List.append_nil]
      have hview := (applyToCurrentState_frame happended.tables).2 t htenant
      rw [hview]
      exact ⟨r, hr, hnamed, hinv⟩

/-- The reconstruction does not fail, and has what every event has kept. -/
theorem ReplayRun.reconstruct {allowed : EventType × Dict → Prop}
    (h : ReplayRun O t target before after start db final)
    (hkept : KeptByMirrored O t (start.tables.ingredientOf t) inv allowed)
    (hinit : inv [] .empty (start.tables.view t))
    (hallowed : ∀ event ∈ tenantHistory t before, allowed event) :
    ∃ rebuilt, reconstructStateAt O t target final = .ok rebuilt ∧ rebuilt.state.Named ∧
      inv (tenantHistory t before) rebuilt.state.view (db.tables.view t) := by
  obtain ⟨r, hr, hnamed, hinv⟩ :=
    replay_invariant hkept hinit h.fresh h.skus h.dicts hallowed h.run
  have hskus : final.tables.skuToIngredient t = start.tables.skuToIngredient t := by
    unfold Tables.skuToIngredient
    rw [appendAll_supplierSkus h.rest, appendAll_supplierSkus h.run]
  refine ⟨⟨r.state, (db.tenantEvents t).length⟩, ?_, hnamed, hinv⟩
  rw [reconstructStateAt, h.replayed_eq, hskus]
  exact bind_ok.mpr ⟨r, hr, rfl⟩

end Invariant

/-- The clock splits a run at every moment. -/
theorem AppendRun.split {calls : List AppendCall} (h : AppendRun O t calls start final)
    (target : Timestamp) : ∃ after db,
      ReplayRun O t target (callsUpTo t target calls) after start db final := by
  have happend : callsUpTo t target calls ++
      calls.dropWhile (fun call => !call.isAfter t target) = calls := List.takeWhile_append_dropWhile
  generalize hafter : calls.dropWhile (fun call => !call.isAfter t target) = after at happend
  have hrun := h.run
  have hordered := h.ordered
  rw [← happend] at hrun hordered
  rw [appendAll, List.foldlM_append] at hrun
  obtain ⟨db, hbefore, hrest⟩ := bind_ok.mp hrun
  refine ⟨after, db, h.fresh, h.skus,
    fun call hcall => h.dicts call (List.takeWhile_subset _ hcall), hbefore, hrest, hordered, ?_, ?_⟩
  · intro call hcall htenant
    have hkept := List.mem_takeWhile_imp hcall
    simp only [AppendCall.isAfter, Bool.not_eq_true', decide_eq_false_iff_not, not_and, not_lt] at hkept
    exact hkept htenant
  · cases after with
    | nil => exact fun call hcall => absurd hcall (by simp)
    | cons first rest =>
      have hfirst : first.isAfter t target = true := by
        have hhead := List.head?_dropWhile_not (fun call => !AppendCall.isAfter call t target) calls
        rw [hafter] at hhead
        simpa using hhead
      simp only [AppendCall.isAfter, decide_eq_true_eq] at hfirst
      intro call hcall htenant
      rcases List.mem_cons.mp hcall with rfl | hcall
      · exact hfirst.2
      · rw [List.filter_append, List.map_append, List.pairwise_append,
          List.filter_cons_of_pos (by simpa using hfirst.1), List.map_cons,
          List.pairwise_cons] at hordered
        refine hfirst.2.trans (hordered.2.1.1 _ (List.mem_map_of_mem ?_))
        exact List.mem_filter.mpr ⟨hcall, by simpa using htenant⟩

end Run

end OpsCopilot
