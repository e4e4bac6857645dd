import OpsCopilot.Proofs.AutonomyGate
import OpsCopilot.Proofs.TenantCalls

/-!
# Tenants do not interfere across interleavings

Take away all steps of the other tenants' calls from a run: what is left is a run, in which every
call of the tenant goes the same way and leaves the same rows.
-/

namespace OpsCopilot

open Python Sql Fallible Interleaving Noninterference KeyedLock

/-! ### Steps from states that the tenant sees alike -/

/-- What a tenant sees of a store and a call of its own. -/
def stepView (t : String) (y : ToolStore × Process) : Db × Process := (y.1.db.rowsOf t, y.2)

/-- The identifiers that the step draws are taken in both databases or in neither. -/
structure SameDraws (O : Outside) (t : String) (x : ToolAction) (stage : Stage) (db db' : Db) :
    Prop where
  persist : ∀ id, x = .persist id →
    db.decisions.any (fun r => r.id = id) = db'.decisions.any (fun r => r.id = id)
  request : ∀ id, x = .request id →
    db.approvalRequests.any (fun r => r.id = id) = db'.approvalRequests.any (fun r => r.id = id)
  append : ∀ draw w evaluation eventType event, x = .append draw →
    stage = .appending w evaluation eventType event →
    AgreeFor O ⟨t, event, draw.now, draw.rowId⟩ db.tables db'.tables eventType ∧
      db.events.any (fun e => e.id = draw.eventId) = db'.events.any (fun e => e.id = draw.eventId)

lemma or_map {α β : Type} {f : α → β} {a a' b b' : Option α} (ha : a.map f = a'.map f)
    (hb : b.map f = b'.map f) : (a.or b).map f = (a'.or b').map f := by
  rw [Option.map_or, Option.map_or, ha, hb]

section Alike

variable {O : Outside} {call : ToolCall} {t : String} {x : ToolAction} {s s' : ToolStore}
  {p : Process} (h : s.db.rowsOf t = s'.db.rowsOf t)
include h

lemma inspect_same {α : Type} {r r' : Except PyException α} {next next' : α → ToolStore × Process}
    (hr : r = r') (hnext : ∀ a, stepView t (next a) = stepView t (next' a)) :
    stepView t (inspect s p r next) = stepView t (inspect s' p r' next') := by
  subst hr
  cases r with
  | ok a => exact hnext a
  | error e => exact Prod.ext h rfl

lemma write_same {r r' : Except PyException Db} {next next' : Db → ToolStore × Process}
    (hr : SameBy (fun d => d.rowsOf t) r r')
    (hnext : ∀ db db', db.rowsOf t = db'.rowsOf t → stepView t (next db) = stepView t (next' db')) :
    stepView t (inspect s p r next) = stepView t (inspect s' p r' next') := by
  unfold SameBy at hr
  cases r with
  | error e =>
    cases r' with
    | error e' =>
      obtain rfl := Except.error.inj hr
      exact Prod.ext h rfl
    | ok db' => cases hr
  | ok db =>
    cases r' with
    | error e' => cases hr
    | ok db' => exact hnext db db' (Except.ok.inj hr)

lemma transact_same {α : Type} {r r' : Except PyException (Db × α)} {next : α → Process}
    (hr : SameResult t r r') :
    stepView t (transact s p r next) = stepView t (transact s' p r' next) := by
  unfold SameResult SameBy at hr
  cases r with
  | error e =>
    cases r' with
    | error e' =>
      obtain rfl := Except.error.inj hr
      exact Prod.ext h rfl
    | ok y' => cases hr
  | ok y =>
    cases r' with
    | error e' => cases hr
    | ok y' =>
      obtain ⟨hrows, ha⟩ := Prod.ext_iff.mp (Except.ok.inj hr)
      exact Prod.ext hrows (congrArg next ha)

lemma executeStep_same {a : ActionType} {payload : Dict} (hx : x ≠ .acquire)
    (hdraws : SameDraws O t x p.stage s.db s'.db) :
    (executeStep O t a payload x s p).map (stepView t) =
      (executeStep O t a payload x s' p).map (stepView t) := by
  unfold executeStep
  split
  · change Option.map _ (if _ then _ else _) = Option.map _ (if _ then _ else _)
    split_ifs
    · exact congrArg some (Prod.ext h rfl)
    · refine congrArg some (inspect_same h ?_ (fun predicted => Prod.ext h rfl))
      rw [simulate_same h]
  · exact congrArg some (transact_same h (persistDecision_same h (hdraws.persist _ rfl)))
  · exact absurd rfl hx
  · exact congrArg some (Prod.ext h rfl)
  · refine congrArg some (inspect_same h (judge_same h _ _ _) (fun ruling => ?_))
    cases ruling with
    | block reason | review risk | proceed currentValue reason => exact Prod.ext h rfl
  · exact congrArg some (transact_same h (requestApproval_same h (hdraws.request _ rfl)))
  · rfl

lemma proposeStep_same {a : ActionType} {payload : Dict}
    (hdraws : SameDraws O t x p.stage s.db s'.db) :
    (proposeStep t a payload x s p).map (stepView t) =
      (proposeStep t a payload x s' p).map (stepView t) := by
  unfold proposeStep
  split
  · exact congrArg some (inspect_same h (simulate_same h _ _) (fun predicted => Prod.ext h rfl))
  · exact congrArg some (transact_same h (persistDecision_same h (hdraws.persist _ rfl)))
  · rfl

lemma getApproved_same (r : String) :
    stepView t (getApproved t r s) = stepView t (getApproved t r s') := by
  unfold getApproved
  refine inspect_same h (getApproval_same h r) (fun row => ?_)
  split_ifs <;> exact Prod.ext h rfl

lemma executeApprovedStep_same {r : String} (hx : x ≠ .acquire) :
    (executeApprovedStep O t r x s p).map (stepView t) =
      (executeApprovedStep O t r x s' p).map (stepView t) := by
  unfold executeApprovedStep
  split
  · rw [decision?_same h]
    split
    · exact congrArg some (Prod.ext h rfl)
    · split <;> exact congrArg some (Prod.ext h rfl)
  · exact absurd rfl hx
  · exact congrArg some (Prod.ext h rfl)
  · rfl

lemma resolveApprovalStep_same {r : String} {v : Review} :
    (resolveApprovalStep O t r v x s p).map (stepView t) =
      (resolveApprovalStep O t r v x s' p).map (stepView t) := by
  unfold resolveApprovalStep
  split
  · refine congrArg some (inspect_same h (getApproval_same h r) (fun row => ?_))
    split_ifs <;> exact Prod.ext h rfl
  · rw [decision?_same h]
    split
    · exact congrArg some (Prod.ext h rfl)
    · split <;> exact congrArg some (Prod.ext h rfl)
  · refine congrArg some (inspect_same h (currentColumnForCritic_same h _ _) (fun v => ?_))
    refine inspect_same h rfl (fun verdict => ?_)
    split_ifs <;> exact Prod.ext h rfl
  · exact congrArg some (transact_same h (resolveRequest_same h _ _))
  · rfl

lemma entryStep_same (hcall : call.tenantId = t) (hp : p.stage.WithinCall call)
    (hx : x ≠ .acquire) (hdraws : SameDraws O t x p.stage s.db s'.db) :
    (entryStep O call x s p).map (stepView t) = (entryStep O call x s' p).map (stepView t) := by
  subst hcall
  unfold entryStep
  split
  · exact executeStep_same h hx hdraws
  · exact proposeStep_same h hdraws
  · exact congrArg some (getApproved_same h _)
  · exact executeApprovedStep_same h hx
  · exact congrArg some (getApproved_same h _)
  · exact or_map (resolveApprovalStep_same h) (executeApprovedStep_same h hx)
  · refine congrArg some (inspect_same h rfl (fun id => ?_))
    exact transact_same h (claimDecision_same h id)
  · refine congrArg some (transact_same h ?_)
    rw [hp _ rfl]
    exact evaluateDecision_same h _ _ _ _
  · exact congrArg some (transact_same h (requestApproval_same h (hdraws.request _ rfl)))
  · exact congrArg some (transact_same h (resolveRequest_same h _ _))
  · rfl

lemma workStep_same (hcall : call.tenantId = t) (hp : p.stage.WithinCall call)
    (hdraws : SameDraws O t x p.stage s.db s'.db) :
    (workStep O x s p).map (stepView t) = (workStep O x s' p).map (stepView t) := by
  subst hcall
  unfold workStep
  split
  · refine congrArg some (transact_same h ?_)
    rw [hp _ rfl]
    exact claimDecision_same h _
  · refine congrArg some (transact_same h ?_)
    rw [hp _ rfl]
    exact evaluateDecision_same h _ _ _ _
  · refine congrArg some (inspect_same h ?_ (fun event => Prod.ext h rfl))
    rw [hp _ rfl]
    exact stateChangeEvent_same h _ _
  · rename_i draw guard work evaluation eventType event
    obtain ⟨hagree, hid⟩ := hdraws.append draw work evaluation eventType event rfl rfl
    refine congrArg some (write_same h ?_ (fun db db' hdb => Prod.ext hdb rfl))
    rw [hp _ rfl]
    exact appendEvent_same h hagree hid
  · rename_i now guard work evaluation
    have htenant : work.tenantId = call.tenantId := hp _ rfl
    split
    · exact congrArg some (write_same h (writeLog_same h htenant now)
        (fun db db' hdb => Prod.ext hdb rfl))
    · exact congrArg some (write_same h (writeLog_same h htenant now)
        (fun db db' hdb => Prod.ext hdb rfl))
    · rfl
  · split
    · rfl
    · exact congrArg some (Prod.ext h rfl)
  · rfl

lemma commonStep_same (hcall : call.tenantId = t) (hp : p.stage.WithinCall call) :
    (commonStep x s p).map (stepView t) = (commonStep x s' p).map (stepView t) := by
  subst hcall
  unfold commonStep
  split
  · rename_i now guard entry answer
    exact congrArg some (write_same h (writeLog_same h (hp _ rfl) now)
      (fun db db' hdb => Prod.ext hdb rfl))
  · exact congrArg some (Prod.ext h rfl)
  · change Option.map _ (if _ then _ else _) = Option.map _ (if _ then _ else _)
    split_ifs
    · rfl
    · exact congrArg some (Prod.ext h rfl)
  · change Option.map _ (if _ then _ else _) = Option.map _ (if _ then _ else _)
    split_ifs
    · rfl
    · exact congrArg some (Prod.ext h rfl)
  · rfl

/-- A step other than the wait for the lock is the same from both states. -/
theorem toolStep_same (hcall : call.tenantId = t) (hp : p.stage.WithinCall call)
    (hx : x ≠ .acquire) (hdraws : SameDraws O t x p.stage s.db s'.db) :
    (toolStep O call x s p).map (stepView t) = (toolStep O call x s' p).map (stepView t) :=
  or_map (entryStep_same h hcall hp hx hdraws)
    (or_map (workStep_same h hcall hp hdraws) (commonStep_same h hcall hp))

/-- Enters a lock that is free. -/
lemma acquire_same {key : String} {p' : Process} (hlocks : ∀ k ∈ s'.locks, k ∈ s.locks)
    {y : ToolStore × Process}
    (hstep : (if key ∈ s.locks then none else some ({ s with locks := key :: s.locks }, p')) =
      some y) :
    ∃ y', (if key ∈ s'.locks then none else some ({ s' with locks := key :: s'.locks }, p')) =
      some y' ∧ stepView t y = stepView t y' := by
  split_ifs at hstep with hkey
  obtain rfl := Option.some.inj hstep
  refine ⟨_, if_neg (fun hmem => hkey (hlocks key hmem)), ?_⟩
  exact Prod.ext h rfl

lemma executeStep_acquire {t' : String} {a : ActionType} {payload : Dict}
    {y : ToolStore × Process} (hlocks : ∀ k ∈ s'.locks, k ∈ s.locks) (hx : x = .acquire)
    (hstep : executeStep O t' a payload x s p = some y) :
    ∃ y', executeStep O t' a payload x s' p = some y' ∧ stepView t y = stepView t y' := by
  unfold executeStep at hstep ⊢
  split at hstep
  · cases hx
  · cases hx
  · exact acquire_same h hlocks hstep
  · cases hx
  · cases hx
  · cases hx
  · exact absurd hstep (by simp)

lemma executeApprovedStep_acquire {t' r : String} {y : ToolStore × Process}
    (hlocks : ∀ k ∈ s'.locks, k ∈ s.locks) (hx : x = .acquire)
    (hstep : executeApprovedStep O t' r x s p = some y) :
    ∃ y', executeApprovedStep O t' r x s' p = some y' ∧ stepView t y = stepView t y' := by
  unfold executeApprovedStep at hstep ⊢
  split at hstep
  · cases hx
  · exact acquire_same h hlocks hstep
  · cases hx
  · exact absurd hstep (by simp)

/-- A lock that is free among more keys is free among fewer. -/
lemma toolStep_acquire {y : ToolStore × Process} (hlocks : ∀ k ∈ s'.locks, k ∈ s.locks)
    (hstep : toolStep O call .acquire s p = some y) :
    ∃ y', toolStep O call .acquire s' p = some y' ∧ stepView t y = stepView t y' := by
  have hentry : ∀ u, toolStep O call .acquire u p = entryStep O call .acquire u p := by
    intro u
    have hrest : (workStep O .acquire u p).or (commonStep .acquire u p) = none := rfl
    rw [toolStep, hrest, Option.or_none]
  rw [hentry] at hstep ⊢
  cases call with
  | execute t' a payload => exact executeStep_acquire h hlocks rfl hstep
  | executeApproved t' r => exact executeApprovedStep_acquire h hlocks rfl hstep
  | resolveApproval t' r v =>
    have hlate : ∀ u, entryStep O (.resolveApproval t' r v) .acquire u p =
        executeApprovedStep O t' r .acquire u p := fun _ => Option.none_or
    rw [hlate] at hstep ⊢
    exact executeApprovedStep_acquire h hlocks rfl hstep
  | propose _ _ _ | observe _ _ | request _ _ _ | resolve _ _ _ =>
    exact absurd hstep (by simp [entryStep, proposeStep])

end Alike

/-! ### Identifiers -/

/-- What the step draws is not the identifier of another tenant's row. -/
def DrawsFree (t : String) (x : ToolAction) (db : Db) : Prop :=
  match x with
  | .persist id => ∀ r ∈ db.decisions, r.id = id → r.tenantId = t
  | .request id => ∀ r ∈ db.approvalRequests, r.id = id → r.tenantId = t
  | .append draw =>
    (∀ e ∈ db.events, e.id = draw.eventId → e.tenantId = t) ∧
      ∀ r ∈ db.tables.staffShifts, r.id = draw.rowId → r.tenantId = t
  | _ => True

instance (t : String) : (x : ToolAction) → (db : Db) → Decidable (DrawsFree t x db)
  | .persist id, db => (inferInstance : Decidable (∀ r ∈ db.decisions, r.id = id → r.tenantId = t))
  | .request id, db =>
    (inferInstance : Decidable (∀ r ∈ db.approvalRequests, r.id = id → r.tenantId = t))
  | .append draw, db =>
    (inferInstance : Decidable ((∀ e ∈ db.events, e.id = draw.eventId → e.tenantId = t) ∧
      ∀ r ∈ db.tables.staffShifts, r.id = draw.rowId → r.tenantId = t))
  | .simulate, _ | .acquire, _ | .timeout, _ | .judge, _ | .log _, _ | .claim, _ | .observe _ _, _
  | .complete, _ | .release, _ | .get, _ | .readDecision, _ | .recheck, _ | .resolve, _
  | .fault _, _ | .crash, _ => .isTrue trivial

/-- Whether a key is taken can be told from the own rows when nobody else has it. -/
lemma any_own {α : Type} {rows rows' : List α} {key own : α → Prop} [DecidablePred key]
    [DecidablePred own] (h : ∀ r ∈ rows, key r → own r) (h' : ∀ r ∈ rows', key r → own r)
    (hsame : rows.filter (fun r => own r) = rows'.filter (fun r => own r)) :
    rows.any (fun r => key r) = rows'.any (fun r => key r) := by
  have hnone : ∀ rows : List α, (∀ r ∈ rows, key r → own r) →
      rows.any (fun r => key r ∧ ¬own r) = false := by
    intro rows hrows
    rw [List.any_eq_false]
    rintro r hr hother
    obtain ⟨hkey, hforeign⟩ := of_decide_eq_true hother
    exact hforeign (hrows r hr hkey)
  rw [any_own_or_other rows key own, any_own_or_other rows' key own, hnone rows h, hnone rows' h',
    hsame]

section Identifiers

variable {O : Outside} {t : String} {x : ToolAction} {stage : Stage} {db db' start : Db}

/-- A row that another tenant has kept was there before. -/
lemma mem_start_of_other {α : Type} (rows : Db → List α) {tenant : α → String} {o : String} {r : α}
    (hrows : ∀ db u, rows (db.rowsOf u) = (rows db).filter (fun r => tenant r = u))
    (hothers : db'.rowsOf o = start.rowsOf o) (hr : r ∈ rows db') (ho : tenant r = o) :
    r ∈ rows start := by
  have hmem : r ∈ (rows db').filter (fun r => tenant r = o) :=
    List.mem_filter.mpr ⟨hr, decide_eq_true ho⟩
  rw [← hrows, hothers, hrows] at hmem
  exact (List.mem_filter.mp hmem).1

/-- The identifiers of other tenants that are left after their calls are taken away were taken
before. -/
lemma DrawsFree.purged (h : DrawsFree t x db) (hgrown : start.Grows db)
    (hothers : ∀ o, o ≠ t → db'.rowsOf o = start.rowsOf o) : DrawsFree t x db' := by
  cases x with
  | persist id =>
    intro r hr hid
    by_contra hne
    have hmem : r ∈ start.decisions :=
      mem_start_of_other Db.decisions (fun _ _ => rfl) (hothers _ hne) hr rfl
    obtain ⟨r', hr', hid', ht'⟩ := hgrown.decisions r hmem
    exact hne (ht'.symm.trans (h r' hr' (hid'.trans hid)))
  | request id =>
    intro r hr hid
    by_contra hne
    have hmem : r ∈ start.approvalRequests :=
      mem_start_of_other Db.approvalRequests (fun _ _ => rfl) (hothers _ hne) hr rfl
    obtain ⟨r', hr', hid', ht'⟩ := hgrown.approvalRequests r hmem
    exact hne (ht'.symm.trans (h r' hr' (hid'.trans hid)))
  | append draw =>
    refine ⟨fun e he hid => ?_, fun r hr hid => ?_⟩
    · by_contra hne
      have hmem : e ∈ start.events :=
        mem_start_of_other Db.events (fun _ _ => rfl) (hothers _ hne) he rfl
      exact hne (h.1 e (hgrown.events e hmem) hid)
    · by_contra hne
      have hmem : r ∈ start.tables.staffShifts :=
        mem_start_of_other (fun db => db.tables.staffShifts) (fun _ _ => rfl)
          (hothers _ hne) hr rfl
      obtain ⟨r', hr', hid', ht'⟩ := hgrown.staffShifts r hmem
      exact hne (ht'.symm.trans (h.2 r' hr' (hid'.trans hid)))
  | simulate | acquire | timeout | judge | log _ | claim | observe _ _ | complete | release | get
  | readDecision | recheck | resolve | fault _ | crash => trivial

/-- The event of an action gives no identifier to a new row but that of a shift. -/
lemma agreeFor_of_free {w : Work} {event : Dict} {draw : Draw} (h : db.rowsOf t = db'.rowsOf t)
    (hnamed : w.actionType.eventType = .staffingChange → NamesOwnShift db.tables t event)
    (hfree : ∀ r ∈ db.tables.staffShifts, r.id = draw.rowId → r.tenantId = t)
    (hfree' : ∀ r ∈ db'.tables.staffShifts, r.id = draw.rowId → r.tenantId = t) :
    AgreeFor O ⟨t, event, draw.now, draw.rowId⟩ db.tables db'.tables w.actionType.eventType := by
  refine ⟨tables_same h, fun id hid => ?_⟩
  have hshifts : db.tables.staffShifts.filter (fun r => r.tenantId = t) =
      db'.tables.staffShifts.filter (fun r => r.tenantId = t) :=
    congrArg (fun U => Tables.staffShifts (Db.tables U)) h
  cases haction : w.actionType with
  | priceChange | supplierSwitch | menuSwap =>
    rw [haction] at hid
    exact (hid : False).elim
  | staffingChange =>
    rw [haction] at hid hnamed
    change givenId O (event.get "staff_shift_id") draw.rowId = .ok id at hid
    change db.tables.staffShifts.any (fun r => r.id = id) =
      db'.tables.staffShifts.any (fun r => r.id = id)
    rcases hnamed rfl with hnone | ⟨r, hr, ht, hid'⟩
    · rw [hnone] at hid
      obtain rfl := Except.ok.inj hid
      exact any_own hfree hfree' hshifts
    · rw [hid'] at hid
      have hkey := bindText_ok hid
      have hr' : r ∈ db'.tables.staffShifts := by
        have hmem : r ∈ db'.tables.staffShifts.filter (fun r => r.tenantId = t) :=
          hshifts ▸ List.mem_filter.mpr ⟨hr, decide_eq_true ht⟩
        exact (List.mem_filter.mp hmem).1
      rw [List.any_eq_true.mpr ⟨r, hr, decide_eq_true hkey.symm⟩,
        List.any_eq_true.mpr ⟨r, hr', decide_eq_true hkey.symm⟩]

lemma sameDraws_of_free (h : db.rowsOf t = db'.rowsOf t) (hfits : stage.EventFits)
    (hnamed : stage.NamesOwnShift db.tables) (htenant : ∀ u, stage.tenant? = some u → u = t)
    (hfree : DrawsFree t x db) (hfree' : DrawsFree t x db') :
    SameDraws O t x stage db db' := by
  refine ⟨fun id hx => ?_, fun id hx => ?_, ?_⟩
  · subst hx
    exact any_own hfree hfree' (congrArg Db.decisions h)
  · subst hx
    exact any_own hfree hfree' (congrArg Db.approvalRequests h)
  · rintro draw w evaluation eventType event rfl rfl
    obtain rfl := hfits w evaluation eventType event rfl
    have ht : w.tenantId = t := htenant _ rfl
    refine ⟨agreeFor_of_free h (fun htype => ht ▸ hnamed w evaluation _ event rfl htype)
      hfree.2 hfree'.2, ?_⟩
    exact any_own hfree.1 hfree'.1 (congrArg Db.events h)

end Identifiers

/-! ### Runs -/

section Runs

variable {ι : Type*} [DecidableEq ι] {O : Outside} {call : ι → ToolCall} {t : String} {start : Db}
  {c c' d d' : Config ι ToolStore Process} {i : ι} {x : ToolAction}

/-- What holds of the calls of all tenants in every state of a run from `start`. -/
structure CallsKept (O : Outside) (call : ι → ToolCall) (start : Db)
    (c : Config ι ToolStore Process) : Prop where
  locks : LocksKept O call c
  within : ∀ i, (c.proc i).stage.WithinCall (call i)
  named : ∀ i, (c.proc i).stage.NamesOwnShift c.shared.db.tables
  grown : start.Grows c.shared.db

lemma NamesOwnShift.grows {db db' : Db} {event : Dict} (h : NamesOwnShift db.tables t event)
    (hgrows : db.Grows db') : NamesOwnShift db'.tables t event := by
  rcases h with hnone | ⟨r, hr, ht, hid⟩
  · exact .inl hnone
  · obtain ⟨r', hr', hid', ht'⟩ := hgrows.staffShifts r hr
    exact .inr ⟨r', hr', ht'.trans ht, by rw [hid, hid']⟩

lemma CallsKept.fire (hc : CallsKept O call start c)
    (h : (toolCalls O call).fire c i x = some d) : CallsKept O call start d := by
  have hmove := toolCalls_move h
  have hother : ∀ j, j ≠ i → d.proc j = c.proc j := fun j => (toolCalls O call).proc_of_fire h
  have hgrows := hmove.grows (hc.locks.eventFits i)
  refine ⟨hc.locks.fire h, fun j => ?_, fun j => ?_, hc.grown.trans hgrows⟩
  · by_cases hji : j = i
    · exact hji ▸ hmove.withinCall (hc.within i)
    · rw [hother j hji]
      exact hc.within j
  · intro w evaluation eventType event hj hstaffing
    by_cases hji : j = i
    · subst hji
      exact (stateChangeEvent_namesOwnShift (hmove.appending_cases hj) hstaffing).grows hgrows
    · rw [hother j hji] at hj
      exact (hc.named j w evaluation eventType event hj hstaffing).grows hgrows

omit [DecidableEq ι] in
lemma callsKept_start (O : Outside) (call : ι → ToolCall) (db : Db) :
    CallsKept O call db db.start := by
  refine ⟨locksKept_start, ?_, ?_, .refl db⟩
  · intro i u hu
    exact absurd hu (by simp [Db.start, Process.idle, Stage.tenant?])
  · intro i w evaluation eventType event hi
    exact absurd hi (by simp [Db.start, Process.idle])

/-- `c'` is what is left of `c` without the calls of the other tenants. -/
structure Purged (call : ι → ToolCall) (t : String) (start : Db)
    (c c' : Config ι ToolStore Process) : Prop where
  procs : ∀ i, (call i).tenantId = t → c'.proc i = c.proc i
  rows : c.shared.db.rowsOf t = c'.shared.db.rowsOf t
  locks : HeldBy (fun i => (call i).tenantId = t) (fun i => (c.proc i).guard) c'.shared.locks
  others : ∀ o, o ≠ t → c'.shared.db.rowsOf o = start.rowsOf o

/-- What the calls of the tenant draw are no identifiers of rows of other tenants. -/
def DrawsApart (call : ι → ToolCall) (t : String) (c : Config ι ToolStore Process) (i : ι)
    (x : ToolAction) : Prop :=
  (call i).tenantId = t → DrawsFree t x c.shared.db

instance (call : ι → ToolCall) (t : String) (c : Config ι ToolStore Process) (i : ι)
    (x : ToolAction) : Decidable (DrawsApart call t c i x) :=
  inferInstanceAs (Decidable (_ → _))

omit [DecidableEq ι] in
/-- A step of the tenant's call can be taken without the others too. -/
lemma Purged.step_own (hR : Purged call t start c c') (hc : CallsKept O call start c)
    (hi : (call i).tenantId = t) (hdraws : DrawsApart call t c i x)
    {y : ToolStore × Process}
    (hstep : toolStep O (call i) x c.shared (c.proc i) = some y) :
    ∃ y', toolStep O (call i) x c'.shared (c'.proc i) = some y' ∧ stepView t y = stepView t y' := by
  rw [hR.procs i hi]
  by_cases hx : x = .acquire
  · subst hx
    exact toolStep_acquire hR.rows (hR.locks.held hc.locks.exclusive) hstep
  · have hfree := hdraws hi
    have hsame := sameDraws_of_free (O := O) hR.rows (hc.locks.eventFits i) (hc.named i)
      (fun u hu => (hc.within i u hu).trans hi) hfree (hfree.purged hc.grown hR.others)
    have hview := toolStep_same hR.rows hi (hc.within i) hx hsame
    rw [hstep, Option.map_some] at hview
    obtain ⟨y', hy', hsame⟩ := Option.map_eq_some_iff.mp hview.symm
    exact ⟨y', hy', hsame.symm⟩

lemma Purged.own (hR : Purged call t start c c') (hc : CallsKept O call start c)
    (hi : (call i).tenantId = t) (hdraws : DrawsApart call t c i x)
    (h : (toolCalls O call).fire c i x = some d) :
    ∃ d', (toolCalls O call).fire c' i x = some d' ∧ Purged call t start d d' := by
  have hother : ∀ j, j ≠ i → d.proc j = c.proc j := fun j => (toolCalls O call).proc_of_fire h
  obtain ⟨⟨s', p'⟩, hstep', hview⟩ := hR.step_own hc hi hdraws ((toolCalls O call).step_of_fire h)
  obtain ⟨hrows, hproc⟩ := Prod.ext_iff.mp hview
  change d.shared.db.rowsOf t = s'.db.rowsOf t at hrows
  change d.proc i = p' at hproc
  subst hproc
  have hfire : (toolCalls O call).fire c' i x = some ⟨s', Function.update c'.proc i (d.proc i)⟩ :=
    (toolCalls O call).fire_eq_some.mpr ⟨_, _, hstep', rfl⟩
  have hmove := toolCalls_move hfire
  rw [hR.procs i hi] at hmove
  have hupdated : Function.update c'.proc i (d.proc i) i = d.proc i := Function.update_self ..
  simp only [hupdated] at hmove
  refine ⟨_, hfire, fun j hj => ?_, hrows, ?_, fun o ho => ?_⟩
  · by_cases hji : j = i
    · exact hji ▸ hupdated
    · exact (Function.update_of_ne hji _ _).trans ((hR.procs j hj).trans (hother j hji).symm)
  · exact hR.locks.move hi hmove.lockMove (fun j hj => congrArg Process.guard (hother j hj))
  · exact (hmove.others (hc.within i) (hi ▸ ho)).trans (hR.others o ho)

lemma Purged.other (hR : Purged call t start c c') (hc : CallsKept O call start c)
    (hi : (call i).tenantId ≠ t) (h : (toolCalls O call).fire c i x = some d) :
    Purged call t start d c' := by
  have hother : ∀ j, j ≠ i → d.proc j = c.proc j := fun j => (toolCalls O call).proc_of_fire h
  refine ⟨fun j hj => ?_, ?_, ?_, hR.others⟩
  · rw [hR.procs j hj, hother j (fun hji => hi (hji ▸ hj))]
  · exact ((toolCalls_move h).others (hc.within i) hi.symm).trans hR.rows
  · exact hR.locks.other hi (fun j hj => congrArg Process.guard (hother j hj))

/-- Without the calls of all other tenants, the calls of a tenant go the same way. -/
theorem tenants_isolated {db : Db} {schedule : List (ι × ToolAction)}
    (hdraws : (toolCalls O call).Along (DrawsApart call t) db.start schedule)
    (hc : (toolCalls O call).run db.start schedule = some c) :
    ∃ c', (toolCalls O call).run db.start
        (schedule.filter (fun y => (call y.1).tenantId = t)) = some c' ∧
      (∀ i, (call i).tenantId = t → c'.proc i = c.proc i) ∧
      c'.shared.db.rowsOf t = c.shared.db.rowsOf t ∧
      ∀ o, o ≠ t → c'.shared.db.rowsOf o = db.rowsOf o := by
  have hstart : Purged call t db (db.start : Config ι ToolStore Process) db.start :=
    ⟨fun _ _ => rfl, rfl, heldBy_nil _ _, fun _ _ => rfl⟩
  have hown : ∀ c c' i x d, (call i).tenantId = t →
      (CallsKept O call db c ∧ Purged call t db c c') → DrawsApart call t c i x →
      (toolCalls O call).fire c i x = some d →
      ∃ d', (toolCalls O call).fire c' i x = some d' ∧
        (CallsKept O call db d ∧ Purged call t db d d') := by
    rintro c c' i x d hi ⟨hkept, hR⟩ hok hfire
    obtain ⟨d', hfire', hd⟩ := hR.own hkept hi hok hfire
    exact ⟨d', hfire', hkept.fire hfire, hd⟩
  obtain ⟨c', hrun, -, hR⟩ := (toolCalls O call).run_purge hown
    (fun c c' i x d hi hR _ hfire => ⟨hR.1.fire hfire, hR.2.other hR.1 hi hfire⟩)
    ⟨callsKept_start O call db, hstart⟩ hdraws hc
  exact ⟨c', hrun, hR.procs, hR.rows.symm, hR.others⟩

end Runs

/-! ### A concrete run -/

/-- The bistro and a second tenant with a dish of the same name. -/
def twoBistros : Db :=
  { bistro with
    tenants := ["t", "u"]
    tables := { bistro.tables with
      menuItems := bistro.tables.menuItems ++
        bistro.tables.menuItems.map (fun r => { r with id := "broth", tenantId := "u" })
      ingredients := bistro.tables.ingredients ++
        bistro.tables.ingredients.map (fun r => { r with id := "kale", tenantId := "u" })
      recipes := bistro.tables.recipes ++
        bistro.tables.recipes.map
          (fun r => { r with id := "s", tenantId := "u", menuItemId := "broth" })
      recipeIngredients := bistro.tables.recipeIngredients ++
        bistro.tables.recipeIngredients.map
          (fun r => { r with tenantId := "u", recipeId := "s", ingredientId := "kale" }) } }

/-- Each tenant raises the price of its own dish. -/
def raisePerTenant : Bool → ToolCall
  | true => .execute "t" .priceChange (soupPrice 1050)
  | false => .execute "u" .priceChange
      [(.str "menu_item_id", .str "broth"),
        (.str "new_price", .float (.finite (.ofDigits false 1050 (-2))))]

/-- Both calls at once, step by step. -/
def raisesAtOnce : List (Bool × ToolAction) :=
  [(false, .simulate), (true, .simulate), (false, .persist "d2"), (true, .persist "d"),
    (true, .acquire), (false, .acquire), (false, .judge), (true, .judge), (false, .claim),
    (false, .observe calmDraws 7), (true, .claim), (true, .observe calmDraws 7),
    (true, .complete), (false, .complete), (false, .append ⟨8, "e2", "r2"⟩),
    (true, .append ⟨8, "e", "r"⟩), (true, .log 9), (false, .log 9), (false, .release),
    (true, .release)]

theorem bistros_isolated : ∃ c c',
    (toolCalls (.prescribed []) raisePerTenant).run twoBistros.start raisesAtOnce = some c ∧
      (toolCalls (.prescribed []) raisePerTenant).run twoBistros.start
        (raisesAtOnce.filter (fun y => (raisePerTenant y.1).tenantId = "t")) = some c' ∧
      c'.proc true = c.proc true ∧ c'.shared.db.rowsOf "t" = c.shared.db.rowsOf "t" ∧
      (c.proc true).stage.hasExecuted = true ∧ (c.proc false).stage.hasExecuted = true := by
  have hdraws : (toolCalls (.prescribed []) raisePerTenant).Along (DrawsApart raisePerTenant "t")
      twoBistros.start raisesAtOnce := by decide +kernel
  have hrun : ((toolCalls (.prescribed []) raisePerTenant).run twoBistros.start raisesAtOnce).any
      (fun c => (c.proc true).stage.hasExecuted ∧ (c.proc false).stage.hasExecuted) = true := by
    decide +kernel
  obtain ⟨c, hc, hexecuted⟩ := (Option.any_eq_true _ _).mp hrun
  obtain ⟨htrue, hfalse⟩ := of_decide_eq_true hexecuted
  obtain ⟨c', hc', hprocs, hrows, -⟩ := tenants_isolated hdraws hc
  exact ⟨c, c', hc, hc', hprocs true rfl, hrows, htrue, hfalse⟩

end OpsCopilot
