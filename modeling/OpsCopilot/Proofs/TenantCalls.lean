import OpsCopilot.Proofs.PriceBaseline
import OpsCopilot.Proofs.StaffingTarget
import OpsCopilot.Proofs.TenantTransactions

/-!
# The steps of one tenant's calls

A call works for one tenant from its first step to its last. It changes no row of another tenant,
and takes the same steps from every state in which its tenant has the same rows.
-/

namespace OpsCopilot

open Python Sql Fallible Interleaving Noninterference

/-! ### The tenant of a call -/

/-- For whom the call is at work. -/
def Stage.tenant? : Stage → Option String
  | .proposed decision | .entered decision | .requesting decision _ => some decision.tenantId
  | .auditing entry _ => some entry.tenantId
  | .ready w | .claiming w | .observing w _ | .changing w _ | .appending w _ _ _
  | .appended w _ => some w.tenantId
  | .observingAlone t _ _ => some t
  | _ => none

@[simp] lemma Process.conclude_tenant? (p : Process) (result : Except PyException Dict) :
    (p.conclude result).stage.tenant? = none := by
  unfold Process.conclude
  split_ifs <;> rfl

lemma gateDecision_tenant? (a : ActionType) (payload : Dict) (decision : Decision) :
    (gateDecision a payload decision).tenant? = some decision.tenantId := by
  unfold gateDecision
  split_ifs <;> rfl

/-- The stage is at work for the tenant of its call, if for any. -/
def Stage.WithinCall (call : ToolCall) (stage : Stage) : Prop :=
  ∀ t, stage.tenant? = some t → t = call.tenantId

lemma ToolCall.ExecutesApproved.tenantId_eq {call : ToolCall} {t r : String}
    (h : call.ExecutesApproved t r) : t = call.tenantId := by
  rcases h with rfl | ⟨_, rfl⟩
  · rfl
  · rfl

section Step

variable {O : Outside} {call : ToolCall} {x : ToolAction} {s s' : ToolStore} {p p' : Process}

lemma ToolMove.withinCall (h : ToolMove O call x s p s' p') (hp : p.stage.WithinCall call) :
    p'.stage.WithinCall call := by
  intro t ht
  cases h with
  | raise _ _ | logPolicy _ _ | audit _ => exact absurd ht (by simp)
  | persist hcall hpersist =>
    obtain ⟨hcreated, -, -, -⟩ := persistDecision_spec hpersist
    subst hcall
    rw [gateDecision_tenant?, hcreated.tenantId_eq] at ht
    exact (Option.some.inj ht).symm
  | acquire _ _ | review _ _ | claim _ | observe _ | complete _ | append _ | acquireApproved _
  | releaseWork _ => exact hp t ht
  | unsupported hcall _ | timeout hcall | block hcall _ | proceed hcall _ | request hcall _ =>
    subst hcall
    exact (Option.some.inj ht).symm
  | readApproved hcall _ _ =>
    obtain rfl := Option.some.inj ht
    exact hcall.tenantId_eq
  | claimAlone hcall _ =>
    subst hcall
    exact (Option.some.inj ht).symm
  | getPending _ _ _ | resolve _ _ =>
    split_ifs at ht <;> exact absurd ht (by simp [Stage.tenant?])
  | crash _ | simulate _ _ | persistAlone _ _ | requestAlone _ _ | resolveAlone _ _
  | readPending _ _ _ | recheck _ _ _ _ | stale _ _ _ | getApproved _ _ _ _ | evaluateAlone _
  | logReviewer _ _ | leave => exact absurd ht (by simp [Stage.tenant?])

/-- A call changes no row of another tenant. -/
theorem ToolMove.others (h : ToolMove O call x s p s' p') (hp : p.stage.WithinCall call)
    {o : String} (ho : o ≠ call.tenantId) : s'.db.rowsOf o = s.db.rowsOf o := by
  cases h with
  | raise _ _ | crash _ | unsupported _ _ | simulate _ _ | acquire _ _ | timeout _ | block _ _
  | review _ _ | proceed _ _ | getPending _ _ _ | readPending _ _ _ | recheck _ _ _ _
  | stale _ _ _ | getApproved _ _ _ _ | readApproved _ _ _ | acquireApproved _ | complete _
  | releaseWork _ | leave => rfl
  | persist hcall hpersist | persistAlone hcall hpersist =>
    obtain ⟨hcreated, -, -, rfl⟩ := persistDecision_spec hpersist
    subst hcall
    exact decisions_other (filter_add_other _ (hcreated.tenantId_eq.trans_ne ho.symm))
  | request hcall hrequest | requestAlone hcall hrequest =>
    subst hcall
    obtain ⟨-, -, ⟨rfl, -⟩ | ⟨rfl, -, -, -, rfl⟩⟩ := requestApproval_spec hrequest
    · rfl
    · exact requests_other (filter_add_other _ ho.symm)
  | resolve hcall hresolve | resolveAlone hcall hresolve =>
    subst hcall
    obtain ⟨_, -, -, -, rfl⟩ := resolveRequest_spec hresolve
    exact requests_other (filter_change_other (change_tenant (fun _ => rfl))
      (change_other (fun _ hc => hc.1) ho))
  | claimAlone hcall hclaim =>
    subst hcall
    obtain ⟨-, -, -, rfl⟩ := claimDecision_spec hclaim
    exact changeDecision_other ho (fun _ => rfl)
  | claim hclaim =>
    obtain ⟨-, -, -, rfl⟩ := claimDecision_spec hclaim
    exact changeDecision_other (hp _ rfl ▸ ho) (fun _ => rfl)
  | observe hevaluate | evaluateAlone hevaluate =>
    obtain ⟨-, rfl⟩ := evaluateDecision_spec hevaluate
    exact changeDecision_other (hp _ rfl ▸ ho) (fun _ => rfl)
  | append happend =>
    exact (confined_appendEvent O _ _ _ _ _).others _ _ happend o (hp _ rfl ▸ ho)
  | logPolicy _ hlog =>
    obtain ⟨_, -, rfl⟩ := writeLog_spec hlog
    exact log_other (filter_add_other _ ((hp _ rfl).trans_ne ho.symm))
  | logReviewer _ hlog =>
    obtain ⟨_, -, rfl⟩ := writeLog_spec hlog
    exact log_other (filter_add_other _ ((hp _ rfl).trans_ne ho.symm))
  | audit hlog =>
    obtain ⟨_, -, rfl⟩ := writeLog_spec hlog
    exact log_other (filter_add_other _ ((hp _ rfl).trans_ne ho.symm))

end Step

/-! ### Nothing is deleted -/

/-- Every identifier that a row of one of the four tables had is still the identifier of a row of
the same tenant. -/
structure Db.Grows (db db' : Db) : Prop where
  decisions : ∀ r ∈ db.decisions, ∃ r' ∈ db'.decisions, r'.id = r.id ∧ r'.tenantId = r.tenantId
  approvalRequests : ∀ r ∈ db.approvalRequests, ∃ r' ∈ db'.approvalRequests,
    r'.id = r.id ∧ r'.tenantId = r.tenantId
  events : ∀ e ∈ db.events, e ∈ db'.events
  staffShifts : ∀ r ∈ db.tables.staffShifts, ∃ r' ∈ db'.tables.staffShifts,
    r'.id = r.id ∧ r'.tenantId = r.tenantId

section Grows

lemma Db.Grows.refl (db : Db) : db.Grows db :=
  ⟨fun r hr => ⟨r, hr, rfl, rfl⟩, fun r hr => ⟨r, hr, rfl, rfl⟩, fun _ he => he,
    fun r hr => ⟨r, hr, rfl, rfl⟩⟩

/-- Rows that are found again one after the other. -/
lemma exists_kept_trans {α : Type} {id tenant : α → String} {xs ys zs : List α}
    (h : ∀ r ∈ xs, ∃ r' ∈ ys, id r' = id r ∧ tenant r' = tenant r)
    (h' : ∀ r ∈ ys, ∃ r' ∈ zs, id r' = id r ∧ tenant r' = tenant r) :
    ∀ r ∈ xs, ∃ r' ∈ zs, id r' = id r ∧ tenant r' = tenant r := by
  intro r hr
  obtain ⟨r₁, hr₁, hid₁, ht₁⟩ := h r hr
  obtain ⟨r₂, hr₂, hid₂, ht₂⟩ := h' r₁ hr₁
  exact ⟨r₂, hr₂, hid₂.trans hid₁, ht₂.trans ht₁⟩

lemma Db.Grows.trans {db db' db'' : Db} (h : db.Grows db') (h' : db'.Grows db'') :
    db.Grows db'' :=
  ⟨exists_kept_trans h.decisions h'.decisions,
    exists_kept_trans h.approvalRequests h'.approvalRequests,
    fun e he => h'.events e (h.events e he), exists_kept_trans h.staffShifts h'.staffShifts⟩

lemma Db.Grows.changeDecision (db : Db) (t id : String) {f : Decision → Decision}
    (hf : ∀ r, (f r).id = r.id ∧ (f r).tenantId = r.tenantId) :
    db.Grows (db.changeDecision t id f) := by
  refine ⟨fun r hr => ?_, fun r hr => ⟨r, hr, rfl, rfl⟩, fun _ he => he,
    fun r hr => ⟨r, hr, rfl, rfl⟩⟩
  refine ⟨_, List.mem_map_of_mem hr, ?_⟩
  split_ifs
  · exact hf r
  · exact ⟨rfl, rfl⟩

/-- The event of an action deletes no shift. -/
lemma applyToCurrentState_shifts {O : Outside} {e : Projection} {T T' : Tables} {a : ActionType}
    (h : applyToCurrentState O e T a.eventType = .ok T') :
    ∀ r ∈ T.staffShifts, ∃ r' ∈ T'.staffShifts, r'.id = r.id ∧ r'.tenantId = r.tenantId := by
  have hsame : T'.staffShifts = T.staffShifts →
      ∀ r ∈ T.staffShifts, ∃ r' ∈ T'.staffShifts, r'.id = r.id ∧ r'.tenantId = r.tenantId :=
    fun heq r hr => ⟨r, heq ▸ hr, rfl, rfl⟩
  cases a with
  | priceChange =>
    obtain ⟨_, _, _, _, -, -, -, -, -, rfl⟩ := applyMenuPriceChange_spec h
    exact hsame rfl
  | supplierSwitch =>
    obtain ⟨_, _, _, _, _, -, -, -, -, -, -, rfl⟩ := applySupplierPriceChange_spec h
    exact hsame rfl
  | menuSwap =>
    obtain ⟨_, _, -, -, rfl⟩ := applyMenuItemRemoved_spec h
    exact hsame rfl
  | staffingChange =>
    obtain ⟨role, day, count, shift, happlied⟩ := applyStaffingChange_spec h
    have hwritten := happlied.written
    intro r hr
    cases shift with
    | some row =>
      simp only at hwritten
      subst hwritten
      refine ⟨_, List.mem_map_of_mem hr, ?_⟩
      split_ifs
      · exact ⟨rfl, rfl⟩
      · exact ⟨rfl, rfl⟩
    | none =>
      obtain ⟨id, -, rfl⟩ := hwritten
      exact ⟨r, List.mem_append_left _ hr, rfl, rfl⟩

/-- The event that a call has in hand is of the kind of its action. -/
def Stage.EventFits (stage : Stage) : Prop :=
  ∀ w evaluation eventType event, stage = .appending w evaluation eventType event →
    eventType = w.actionType.eventType

lemma LocksKept.eventFits {ι : Type*} {O : Outside} {call : ι → ToolCall}
    {c : Config ι ToolStore Process} (h : LocksKept O call c) (i : ι) :
    (c.proc i).stage.EventFits :=
  fun w evaluation eventType event hi => (h.event i w evaluation eventType event hi).1

variable {O : Outside} {call : ToolCall} {x : ToolAction} {s s' : ToolStore} {p p' : Process}

theorem ToolMove.grows (h : ToolMove O call x s p s' p') (hp : p.stage.EventFits) :
    s.db.Grows s'.db := by
  cases h with
  | raise _ _ | crash _ | unsupported _ _ | simulate _ _ | acquire _ _ | timeout _ | block _ _
  | review _ _ | proceed _ _ | getPending _ _ _ | readPending _ _ _ | recheck _ _ _ _
  | stale _ _ _ | getApproved _ _ _ _ | readApproved _ _ _ | acquireApproved _ | complete _
  | releaseWork _ | leave => exact .refl _
  | persist _ hpersist | persistAlone _ hpersist =>
    obtain ⟨-, -, -, rfl⟩ := persistDecision_spec hpersist
    exact ⟨fun r hr => ⟨r, List.mem_append_left _ hr, rfl, rfl⟩, fun r hr => ⟨r, hr, rfl, rfl⟩,
      fun _ he => he, fun r hr => ⟨r, hr, rfl, rfl⟩⟩
  | request _ hrequest | requestAlone _ hrequest =>
    obtain ⟨-, -, ⟨rfl, -⟩ | ⟨-, -, -, -, rfl⟩⟩ := requestApproval_spec hrequest
    · exact .refl _
    · exact ⟨fun r hr => ⟨r, hr, rfl, rfl⟩, fun r hr => ⟨r, List.mem_append_left _ hr, rfl, rfl⟩,
        fun _ he => he, fun r hr => ⟨r, hr, rfl, rfl⟩⟩
  | resolve _ hresolve | resolveAlone _ hresolve =>
    obtain ⟨_, -, -, -, rfl⟩ := resolveRequest_spec hresolve
    refine ⟨fun r hr => ⟨r, hr, rfl, rfl⟩, fun r hr => ⟨_, List.mem_map_of_mem hr, ?_⟩,
      fun _ he => he, fun r hr => ⟨r, hr, rfl, rfl⟩⟩
    split_ifs
    · exact ⟨rfl, rfl⟩
    · exact ⟨rfl, rfl⟩
  | claim hclaim | claimAlone _ hclaim =>
    obtain ⟨-, -, -, rfl⟩ := claimDecision_spec hclaim
    exact .changeDecision _ _ _ (fun _ => ⟨rfl, rfl⟩)
  | observe hevaluate | evaluateAlone hevaluate =>
    obtain ⟨-, rfl⟩ := evaluateDecision_spec hevaluate
    exact .changeDecision _ _ _ (fun _ => ⟨rfl, rfl⟩)
  | append happend =>
    obtain ⟨member, hmember, -, happended⟩ := appendEvent_spec happend
    obtain rfl := Except.ok.inj hmember
    obtain ⟨row, -, hevents⟩ := happended.row
    obtain rfl := hp _ _ _ _ rfl
    refine ⟨fun r hr => ⟨r, ?_, rfl, rfl⟩, fun r hr => ⟨r, ?_, rfl, rfl⟩, fun e he => ?_,
      applyToCurrentState_shifts happended.tables⟩
    · exact happended.decisions_eq ▸ hr
    · exact happended.approvalRequests_eq ▸ hr
    · exact hevents ▸ List.mem_append_left _ he
  | logPolicy _ hlog | logReviewer _ hlog | audit hlog =>
    obtain ⟨_, -, rfl⟩ := writeLog_spec hlog
    exact ⟨fun r hr => ⟨r, hr, rfl, rfl⟩, fun r hr => ⟨r, hr, rfl, rfl⟩, fun _ he => he,
      fun r hr => ⟨r, hr, rfl, rfl⟩⟩

end Grows

/-! ### Shifts that an event names -/

/-- The event names no shift, or one of the tenant. -/
def NamesOwnShift (T : Tables) (t : String) (event : Dict) : Prop :=
  event.get "staff_shift_id" = .none ∨
    ∃ r ∈ T.staffShifts, r.tenantId = t ∧ event.get "staff_shift_id" = .str r.id

/-- The event that a call has in hand names no shift but one of its tenant. -/
def Stage.NamesOwnShift (T : Tables) (stage : Stage) : Prop :=
  ∀ w evaluation eventType event, stage = .appending w evaluation eventType event →
    eventType = .staffingChange → OpsCopilot.NamesOwnShift T w.tenantId event

lemma Dict.find?_append_other {d : Dict} {key key' : String} {v : Value} (h : key' ≠ key) :
    Dict.find? key (d ++ [(Key.str key', v)]) = Dict.find? key d := by
  induction d with
  | nil => simp [Dict.find?, h]
  | cons m d ih =>
    rcases m with ⟨k, w⟩
    rw [List.cons_append]
    cases k with
    | str k => rw [Dict.find?, Dict.find?, ih]
    | none | bool _ | int _ | float _ => exact ih

lemma stateChangeEvent_namesOwnShift {O : Outside} {T : Tables} {t : String} {payload event : Dict}
    {a : ActionType} {eventType : EventType}
    (h : stateChangeEvent O T t payload a = .ok (eventType, event))
    (hstaffing : eventType = .staffingChange) : NamesOwnShift T t event := by
  obtain rfl : a = .staffingChange := by
    have htype := stateChangeEvent_type h
    rw [hstaffing] at htype
    cases a with
    | staffingChange => rfl
    | priceChange | supplierSwitch | menuSwap => cases htype
  obtain ⟨staffing, hstaffing, h⟩ := bind_ok.mp h
  obtain ⟨delta, -, h⟩ := bind_ok.mp h
  obtain ⟨-, rfl⟩ := Prod.mk.inj (pure_ok.mp h)
  obtain ⟨_, _, hresolved⟩ := resolveStaffing_spec hstaffing
  have hget : (staffing ++ [(Key.str "headcount_delta", delta)]).get "staff_shift_id" =
      staffing.get "staff_shift_id" := by
    rw [Dict.get, Dict.find?_append_other (by decide), Dict.get]
  rw [NamesOwnShift, hget, hresolved.shift_field]
  cases hshift : requestedShift O (T.shiftsOf t) payload with
  | none => exact .inl rfl
  | some r =>
    obtain ⟨hr, ht⟩ := mem_shiftsOf.mp (requestedShift_mem hshift)
    exact .inr ⟨r, hr, ht, rfl⟩

end OpsCopilot
