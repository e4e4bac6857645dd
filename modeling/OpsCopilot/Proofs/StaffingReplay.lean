import OpsCopilot.Lib.PyDatetimeText
import OpsCopilot.Proofs.ReplayRun
import OpsCopilot.Proofs.TenantIsolation

/-!
# Rebuilt staffing

The table of shifts has a row for each identifier, the rebuilt staffing an entry for each role and
day. The two agree as long as an identifier stays with its role and day.
-/

namespace OpsCopilot

open Python Sql Fallible

/-- The shifts of a tenant. -/
def Tables.shiftsOf (T : Tables) (t : String) : List StaffShift :=
  T.staffShifts.filter (fun r => r.tenantId = t)

/-- The key of an entry of `state["staffing"]`. -/
def shiftKey (role : String) (day : ℤ) : String := role ++ ":" ++ String.ofList (intText day)

/-- The entry holds the role, the day and the headcount of the row. -/
structure StaffingState.Describes (entry : StaffingState) (row : StaffShift) : Prop where
  role : entry.role = .str row.role
  day : entry.dayOfWeek = .int row.dayOfWeek
  headcount : entry.headcount.sameKey (.int row.headcount) = true

/-- There is at most one shift for a role and day, every shift has its entry, and every entry is
that of a shift. -/
structure StaffingAgrees (shifts : List StaffShift) (staffing : Mapping StaffingState) : Prop where
  distinct : (shifts.map (fun r => (r.role, r.dayOfWeek))).Nodup
  keys : staffing.StrKeys
  listed : ∀ row ∈ shifts, ∃ entry,
    staffing.find? (.str (shiftKey row.role row.dayOfWeek)) = some entry ∧ entry.Describes row
  only : ∀ key entry, staffing.find? (.str key) = some entry →
    ∃ row ∈ shifts, key = shiftKey row.role row.dayOfWeek

/-- The role is a string, the day an integer and the headcount equal to one; and if the change names
a shift, then that is the shift of the role and day, and the role and day have no other. -/
structure FitsReplay (shifts : List StaffShift) (payload : Dict) : Prop where
  role : ∃ role, payload.get "role" = .str role
  day : ∃ day, payload.get "day_of_week" = .int day
  headcount : ∀ n, (payload.get "headcount").toInt = .ok n →
    (payload.get "headcount").sameKey (.int n) = true
  shift : (payload.get "staff_shift_id").truthy = true → ∀ row ∈ shifts,
    payload.get "staff_shift_id" = .str row.id ↔
      payload.get "role" = .str row.role ∧ payload.get "day_of_week" = .int row.dayOfWeek

lemma shiftKey_inj {role role' : String} {day day' : ℤ}
    (h : shiftKey role day = shiftKey role' day') : role = role' ∧ day = day' := by
  have hcolon : ∀ n : ℤ, ':' ∉ (intText n).reverse := by
    intro n hmem
    rcases mem_intText (List.mem_reverse.mp hmem) with heq | hdigit
    · exact absurd heq (by decide)
    · exact absurd hdigit (by decide)
  have hlist := congrArg (fun s => s.toList.reverse) h
  simp only [shiftKey, String.toList_append, String.toList_ofList, List.reverse_append] at hlist
  obtain ⟨hday, hrole⟩ := append_sep_inj (hcolon day) (hcolon day') (by simpa using hlist)
  exact ⟨String.toList_inj.mp (List.reverse_injective hrole), intText_inj (List.reverse_injective hday)⟩

/-! ### The table -/

section Table

variable {O : Outside} {e : Projection} {T T' : Tables}

/-- What an accepted staffing change has read and found. -/
structure StaffingApplied (O : Outside) (e : Projection) (T T' : Tables) (role : String)
    (day count : ℤ) (shift : Option StaffShift) : Prop where
  role_eq : pyStr O (e.payload.get "role") = role
  role_given : e.payload.get "role" ≠ .none
  day_given : e.payload.get "day_of_week" ≠ .none
  day_eq : (e.payload.get "day_of_week").toInt = .ok day
  headcount_eq : (e.payload.get "headcount").toInt = .ok count
  found : findShift e T (e.payload.get "staff_shift_id") role day = .ok shift
  written : match shift with
    | some row => T' = T.changeStaffShift e.tenantId row.id
        (fun r => { r with role := role, dayOfWeek := day, headcount := count })
    | none => ∃ id, (∀ r ∈ T.staffShifts, r.id ≠ id) ∧
        T' = { T with staffShifts := T.staffShifts ++ [⟨id, e.tenantId, role, day, count⟩] }

lemma staffingInt_ok {v : Value} {n : ℤ} (h : staffingInt v = .ok n) : v.toInt = .ok n := by
  unfold staffingInt at h
  split at h
  · rename_i m hm
    obtain rfl := Except.ok.inj h
    exact hm
  · exact nomatch h
  · exact nomatch h

theorem applyStaffingChange_spec (h : applyStaffingChange O e T = .ok T') :
    ∃ role day count shift, StaffingApplied O e T T' role day count shift := by
  obtain ⟨v, hrole, h⟩ := bind_ok.mp h
  obtain ⟨_, hdayGiven, h⟩ := bind_ok.mp h
  obtain ⟨_, -, h⟩ := bind_ok.mp h
  obtain ⟨day, hday, h⟩ := bind_ok.mp h
  obtain ⟨headcount, hheadcount, h⟩ := bind_ok.mp h
  obtain ⟨_, -, h⟩ := bind_ok.mp h
  obtain ⟨_, -, h⟩ := bind_ok.mp h
  obtain ⟨shift, hshift, h⟩ := bind_ok.mp h
  obtain ⟨text, htext, h⟩ := bind_ok.mp h
  obtain ⟨count, hcount, hlast⟩ := bind_ok.mp h
  have hv := requirePayloadField_ok hrole
  have hgiven : v ≠ .none := by
    rintro rfl
    rw [requirePayloadField, hv] at hrole
    cases hrole
  obtain rfl := bindText_ok htext
  have hstored : count = headcount := by
    unfold storeInteger at hcount
    split_ifs at hcount
    exact (Except.ok.inj hcount).symm
  subst hstored hv
  refine ⟨_, day, count, shift, rfl, hgiven, ?_, staffingInt_ok hday, staffingInt_ok hheadcount,
    hshift, ?_⟩
  · intro hnone
    exact raiseIf_ok.mp hdayGiven (by rw [hnone])
  · cases shift with
    | some row => exact (pure_ok.mp hlast).symm
    | none =>
      obtain ⟨id, -, hlast⟩ := bind_ok.mp hlast
      obtain ⟨_, hfresh, hlast⟩ := bind_ok.mp hlast
      refine ⟨id, fun r hr heq => raiseIf_ok.mp hfresh ?_, (pure_ok.mp hlast).symm⟩
      exact List.any_eq_true.mpr ⟨r, hr, decide_eq_true heq⟩

/-- The rows of the tenant: the shift of the role and day has a new headcount, or there is one more
shift. -/
inductive StaffingWritten (shifts shifts' : List StaffShift) (role : String) (day count : ℤ) : Prop
  | updated (row : StaffShift) (hrow : row ∈ shifts) (hkey : row.role = role ∧ row.dayOfWeek = day)
      (hshifts : shifts' = shifts.map (fun r =>
        if r.role = role ∧ r.dayOfWeek = day then { r with headcount := count } else r))
  | added (new : StaffShift) (hnew : new.role = role ∧ new.dayOfWeek = day ∧ new.headcount = count)
      (hid : ∀ r ∈ shifts, r.id ≠ new.id) (hkey : ∀ r ∈ shifts, ¬(r.role = role ∧ r.dayOfWeek = day))
      (hshifts : shifts' = shifts ++ [new])

lemma mem_shiftsOf {t : String} {r : StaffShift} :
    r ∈ T.shiftsOf t ↔ r ∈ T.staffShifts ∧ r.tenantId = t := by
  rw [Tables.shiftsOf, List.mem_filter, decide_eq_true_eq]

lemma shiftsOf_change {t id : String} {f : StaffShift → StaffShift}
    (hf : ∀ r, (f r).tenantId = r.tenantId) :
    (T.changeStaffShift t id f).shiftsOf t =
      (T.shiftsOf t).map (fun r => if r.id = id then f r else r) := by
  rw [Tables.shiftsOf, Tables.changeStaffShift, filter_change (change_tenant hf)]
  refine List.map_congr_left (fun r hr => ?_)
  have htenant : r.tenantId = t := (mem_shiftsOf.mp hr).2
  simp only [htenant, and_true]

/-- With distinct identifiers, a change of the shift with the role and day is a change of its
headcount. -/
lemma StaffingApplied.updated {role : String} {day count : ℤ} {row : StaffShift}
    (h : StaffingApplied O e T T' role day count (some row)) (hrow : row ∈ T.shiftsOf e.tenantId)
    (hiff : ∀ r ∈ T.shiftsOf e.tenantId, r.id = row.id ↔ r.role = role ∧ r.dayOfWeek = day) :
    StaffingWritten (T.shiftsOf e.tenantId) (T'.shiftsOf e.tenantId) role day count := by
  refine .updated row hrow ((hiff row hrow).mp rfl) ?_
  rw [h.written, shiftsOf_change (by exact fun _ => rfl)]
  refine List.map_congr_left (fun r hr => ?_)
  by_cases hid : r.id = row.id
  · obtain ⟨hrole, hday⟩ := (hiff r hr).mp hid
    rw [if_pos hid, if_pos ⟨hrole, hday⟩, ← hrole, ← hday]
  · rw [if_neg hid, if_neg (fun hkey => hid ((hiff r hr).mpr hkey))]

lemma StaffingApplied.added {role : String} {day count : ℤ}
    (h : StaffingApplied O e T T' role day count none)
    (hkey : ∀ r ∈ T.shiftsOf e.tenantId, ¬(r.role = role ∧ r.dayOfWeek = day)) :
    StaffingWritten (T.shiftsOf e.tenantId) (T'.shiftsOf e.tenantId) role day count := by
  obtain ⟨id, hfresh, hT⟩ := h.written
  refine .added ⟨id, e.tenantId, role, day, count⟩ ⟨rfl, rfl, rfl⟩
    (fun r hr => hfresh r (mem_shiftsOf.mp hr).1) hkey ?_
  rw [hT, Tables.shiftsOf, List.filter_append]
  simp [Tables.shiftsOf]

lemma oneOrNone_ok {α : Type} {rows : List α} {found : Option α} (h : oneOrNone rows = .ok found) :
    rows = found.toList := by
  unfold oneOrNone at h
  split at h
  · rw [← Except.ok.inj h]; rfl
  · rw [← Except.ok.inj h]; rfl
  · exact nomatch h

/-- What fits the replay is read as it was given. -/
lemma StaffingApplied.fields_of_fits {role : String} {day count : ℤ} {shift : Option StaffShift}
    {shifts : List StaffShift} (h : StaffingApplied O e T T' role day count shift)
    (hfits : FitsReplay shifts e.payload) :
    e.payload.get "role" = .str role ∧ e.payload.get "day_of_week" = .int day ∧
      (e.payload.get "headcount").sameKey (.int count) = true := by
  obtain ⟨role', hrole⟩ := hfits.role
  obtain ⟨day', hday⟩ := hfits.day
  refine ⟨?_, ?_, hfits.headcount count h.headcount_eq⟩
  · rw [← h.role_eq, hrole]
    rfl
  · have hint := h.day_eq
    rw [hday] at hint
    rw [hday, Except.ok.inj hint]

/-- A change that fits the replay writes the row of its role and day. -/
theorem StaffingApplied.of_fits {role : String} {day count : ℤ} {shift : Option StaffShift}
    (h : StaffingApplied O e T T' role day count shift)
    (hids : ((T.shiftsOf e.tenantId).map StaffShift.id).Nodup)
    (hfits : FitsReplay (T.shiftsOf e.tenantId) e.payload) :
    StaffingWritten (T.shiftsOf e.tenantId) (T'.shiftsOf e.tenantId) role day count := by
  have hfound := h.found
  unfold findShift at hfound
  obtain ⟨hrole, hday, -⟩ := h.fields_of_fits hfits
  by_cases htruthy : (e.payload.get "staff_shift_id").truthy = true
  · rw [if_pos htruthy] at hfound
    obtain ⟨key, hkey, hlast⟩ := bind_ok.mp hfound
    have hshift := hfits.shift htruthy
    obtain ⟨id, hid⟩ : ∃ id, e.payload.get "staff_shift_id" = .str id := by
      cases hv : e.payload.get "staff_shift_id" with
      | str s => exact ⟨s, rfl⟩
      | none => rw [hv] at htruthy; exact absurd htruthy (by decide)
      | bool _ | int _ | float _ | decimal _ | list _ | dict _ =>
        rw [hv] at hkey; exact nomatch hkey
    rw [hid] at hkey hshift
    obtain ⟨_, hbind, rfl⟩ := map_ok.mp hkey
    obtain rfl := (bindText_ok hbind).symm
    obtain rfl := pure_ok.mp hlast
    have hown : ∀ r ∈ T.shiftsOf e.tenantId, r.id = id ↔ r.role = role ∧ r.dayOfWeek = day := by
      intro r hr
      have hiff := hshift r hr
      rw [hrole, hday] at hiff
      simp only [Value.str.injEq, Value.int.injEq] at hiff
      rw [eq_comm, hiff, eq_comm, @eq_comm _ day]
    cases hrow : T.staffShifts.find? (fun r => r.id = id ∧ r.tenantId = e.tenantId) with
    | some row =>
      rw [Option.bind_some, hrow] at h
      have hp := List.find?_some hrow
      simp only [decide_eq_true_eq] at hp
      refine h.updated (mem_shiftsOf.mpr ⟨List.mem_of_find?_eq_some hrow, hp.2⟩) ?_
      rw [hp.1]
      exact hown
    | none =>
      rw [Option.bind_some, hrow] at h
      refine h.added (fun r hr hkey => ?_)
      have hnone := List.find?_eq_none.mp hrow r (mem_shiftsOf.mp hr).1
      exact hnone (decide_eq_true ⟨(hown r hr).mpr hkey, (mem_shiftsOf.mp hr).2⟩)
  · rw [if_neg htruthy] at hfound
    obtain ⟨text, htext, hlast⟩ := bind_ok.mp hfound
    obtain rfl := (bindText_ok htext).symm
    have hrows := oneOrNone_ok hlast
    have hmem : ∀ r ∈ T.shiftsOf e.tenantId, r.role = role ∧ r.dayOfWeek = day ↔ r ∈ shift.toList := by
      intro r hr
      rw [← hrows, List.mem_filter, decide_eq_true_eq]
      obtain ⟨hr, htenant⟩ := mem_shiftsOf.mp hr
      exact ⟨fun hkey => ⟨hr, htenant, hkey⟩, fun hkey => hkey.2.2⟩
    cases shift with
    | some row =>
      have hrow : row ∈ T.shiftsOf e.tenantId := by
        have hfilter : row ∈ T.staffShifts.filter (fun r =>
            r.tenantId = e.tenantId ∧ r.role = role ∧ r.dayOfWeek = day) := by
          rw [hrows]
          exact List.mem_singleton_self row
        rw [List.mem_filter, decide_eq_true_eq] at hfilter
        exact mem_shiftsOf.mpr ⟨hfilter.1, hfilter.2.1⟩
      refine h.updated hrow (fun r hr => ?_)
      rw [hmem r hr, Option.toList_some, List.mem_singleton]
      exact ⟨fun hid => List.inj_on_of_nodup_map hids hr hrow hid, fun heq => heq ▸ rfl⟩
    | none => exact h.added (fun r hr hkey => absurd ((hmem r hr).mp hkey) (by simp))

end Table

/-! ### Side by side -/

section Step

variable {shifts shifts' : List StaffShift} {role : String} {day count : ℤ}
  {staffing : Mapping StaffingState}

/-- The table and the rebuilt staffing take the same change. -/
lemma StaffingAgrees.set {entry : StaffingState} (h : StaffingAgrees shifts staffing)
    (hwritten : StaffingWritten shifts shifts' role day count) (hrole : entry.role = .str role)
    (hday : entry.dayOfWeek = .int day) (hcount : entry.headcount.sameKey (.int count) = true) :
    StaffingAgrees shifts' (staffing.set (.str (shiftKey role day)) entry) := by
  have hkeys := h.keys.set (shiftKey role day) entry
  have hself : (staffing.set (.str (shiftKey role day)) entry).find? (.str (shiftKey role day)) =
      some entry := by
    rw [Mapping.find?_set, if_pos rfl]
  have hold : ∀ row ∈ shifts, ¬(row.role = role ∧ row.dayOfWeek = day) → ∃ entry',
      (staffing.set (.str (shiftKey role day)) entry).find?
        (.str (shiftKey row.role row.dayOfWeek)) = some entry' ∧ entry'.Describes row := by
    intro row hrow hkey
    rw [Mapping.find?_set, if_neg (fun heq => hkey (shiftKey_inj heq))]
    exact h.listed row hrow
  cases hwritten with
  | updated row hrow hkey hshifts =>
    subst hshifts
    refine ⟨?_, hkeys, ?_, ?_⟩
    · rw [List.map_map]
      refine (List.map_congr_left (fun r hr => ?_)) ▸ h.distinct
      rw [Function.comp_apply]
      split_ifs <;> rfl
    · intro r' hr'
      obtain ⟨r, hr, rfl⟩ := List.mem_map.mp hr'
      by_cases hr'key : r.role = role ∧ r.dayOfWeek = day
      · rw [if_pos hr'key]
        refine ⟨entry, ?_, ?_, ?_, hcount⟩
        · rw [hr'key.1, hr'key.2]
          exact hself
        · rw [hrole, hr'key.1]
        · rw [hday, hr'key.2]
      · rw [if_neg hr'key]
        exact hold r hr hr'key
    · intro key found hfound
      rw [Mapping.find?_set] at hfound
      split_ifs at hfound with hkey'
      · refine ⟨_, List.mem_map_of_mem hrow, ?_⟩
        rw [if_pos hkey]
        rw [hkey', hkey.1, hkey.2]
      · obtain ⟨r, hr, hr'⟩ := h.only key found hfound
        refine ⟨_, List.mem_map_of_mem hr, ?_⟩
        split_ifs <;> exact hr'
  | added new hnew hid hkey hshifts =>
    subst hshifts
    refine ⟨?_, hkeys, ?_, ?_⟩
    · rw [List.map_append, List.nodup_append]
      refine ⟨h.distinct, List.nodup_singleton _, fun a ha b hb hab => ?_⟩
      obtain ⟨r, hr, rfl⟩ := List.mem_map.mp ha
      rw [List.map_singleton, List.mem_singleton] at hb
      obtain ⟨hr1, hr2⟩ := Prod.mk.inj (hab.trans hb)
      exact hkey r hr ⟨hr1.trans hnew.1, hr2.trans hnew.2.1⟩
    · intro r hr
      rcases List.mem_append.mp hr with hr | hr
      · exact hold r hr (hkey r hr)
      · obtain rfl := List.mem_singleton.mp hr
        obtain ⟨hnew1, hnew2, hnew3⟩ := hnew
        refine ⟨entry, ?_, ?_, ?_, ?_⟩
        · rw [hnew1, hnew2]
          exact hself
        · rw [hrole, hnew1]
        · rw [hday, hnew2]
        · rw [hnew3]
          exact hcount
    · intro key found hfound
      rw [Mapping.find?_set] at hfound
      split_ifs at hfound with hkey'
      · refine ⟨new, List.mem_append_right _ (List.mem_singleton_self new), ?_⟩
        rw [hkey', hnew.1, hnew.2.1]
      · obtain ⟨r, hr, hr'⟩ := h.only key found hfound
        exact ⟨r, List.mem_append_left _ hr, hr'⟩

lemma StaffingWritten.ids (h : StaffingWritten shifts shifts' role day count)
    (hids : (shifts.map StaffShift.id).Nodup) : (shifts'.map StaffShift.id).Nodup := by
  cases h with
  | updated row hrow hkey hshifts =>
    subst hshifts
    rw [List.map_map]
    refine (List.map_congr_left (fun r hr => ?_)) ▸ hids
    rw [Function.comp_apply]
    split_ifs <;> rfl
  | added new hnew hid hkey hshifts =>
    subst hshifts
    rw [List.map_append, List.nodup_append]
    refine ⟨hids, List.nodup_singleton _, fun a ha b hb hab => ?_⟩
    obtain ⟨r, hr, rfl⟩ := List.mem_map.mp ha
    rw [List.map_singleton, List.mem_singleton] at hb
    exact hid r hr (hab.trans hb)

/-- A headcount that equals an integer is a number, and is stored as it is. -/
lemma loadsDumps_of_sameKey {v : Value} {n : ℤ} (h : v.sameKey (.int n) = true) :
    loadsDumps v = .ok v := by
  cases v with
  | none | bool _ | int _ | float _ | str _ => rfl
  | decimal _ | list _ | dict _ => exact absurd h (by simp [Value.sameKey, Value.number?])

/-- The replay reads from the row what the handler has read from the payload. -/
lemma replayStaffingChange_of_fits {O : Outside} {payload stored : Dict} (s : ReplayState)
    (hstored : ∀ name, FieldName name → StoredField stored payload name)
    (hrole : payload.get "role" = .str role) (hday : payload.get "day_of_week" = .int day)
    (hcount : (payload.get "headcount").sameKey (.int count) = true) :
    replayStaffingChange O stored s = { s with
      staffing := s.staffing.set (.str (shiftKey role day))
        ⟨.str role, .int day, payload.get "headcount"⟩ } := by
  have hname : ∀ name ∈ ["role", "day_of_week", "headcount"], FieldName name := by
    intro name hname
    have hheads : ∀ name ∈ ["role", "day_of_week", "headcount"],
        name.toList.head?.any (fun c => !c.isDigit && c != '-') = true := by decide
    have hwords : ∀ name ∈ ["role", "day_of_week", "headcount"],
        name ≠ "null" ∧ name ≠ "true" ∧ name ≠ "false" := by decide
    obtain ⟨c, hc, hhead⟩ := (Option.any_eq_true _ _).mp (hheads name hname)
    rw [Bool.and_eq_true, Bool.not_eq_true', bne_iff_ne] at hhead
    exact fieldName_of_head hc hhead.1 hhead.2 (hwords name hname)
  have hread : ∀ name ∈ ["role", "day_of_week", "headcount"], payload.get name ≠ .none →
      loadsDumps (payload.get name) = .ok (payload.get name) →
      stored.get name = payload.get name := by
    intro name hmem hgiven hload
    exact get_of_find? ((hstored name (hname name hmem)).leaf (find?_of_get rfl hgiven) hload)
  have hstoredRole : stored.get "role" = .str role := by
    rw [hread "role" (by simp) (by rw [hrole]; simp) (by rw [hrole]; rfl), hrole]
  have hstoredDay : stored.get "day_of_week" = .int day := by
    rw [hread "day_of_week" (by simp) (by rw [hday]; simp) (by rw [hday]; rfl), hday]
  have hstoredCount : stored.get "headcount" = payload.get "headcount" := by
    refine hread "headcount" (by simp) (fun hnone => ?_) (loadsDumps_of_sameKey hcount)
    rw [hnone] at hcount
    exact absurd hcount (by simp [Value.sameKey, Value.number?])
  rw [replayStaffingChange, hstoredRole, hstoredDay, hstoredCount]
  rfl

end Step

/-! ### Runs -/

/-- A run in which the tenant starts without shifts and only its staffing changes. -/
structure StaffingRun (O : Outside) (t : String) (calls : List AppendCall) (start final : Db) : Prop
    extends AppendRun O t calls start final where
  noShifts : start.tables.shiftsOf t = []
  staffing : ∀ call ∈ calls, call.tenantId = t →
    normalizeEventType call.eventType = .ok .staffingChange

/-- Every staffing change fits the shifts that it meets. -/
def FitsAlong (O : Outside) (t : String) (calls : List AppendCall) (start : Db) : Prop :=
  ∀ before call after db, calls = before ++ call :: after → appendAll O before start = .ok db →
    call.tenantId = t → FitsReplay (db.tables.shiftsOf t) call.payload

section Runs

variable {O : Outside} {t : String} {calls : List AppendCall} {start db final : Db}

lemma FitsAlong.left {after : List AppendCall} (h : FitsAlong O t (calls ++ after) start) :
    FitsAlong O t calls start := by
  rintro before call rest db rfl
  exact h before call (rest ++ after) db (by simp)

/-- An append for another tenant leaves the shifts alone. -/
lemma shiftsOf_other {call : AppendCall} {db' : Db} (htenant : call.tenantId ≠ t)
    (h : call.append O db = .ok db') : db'.tables.shiftsOf t = db.tables.shiftsOf t := by
  have hrows := (confined_appendEvent O call.tenantId call.eventType call.payload call.source
    call.draw).others db db' h t htenant.symm
  exact congrArg (fun U => Tables.staffShifts (Db.tables U)) hrows

theorem staffing_replayed (hfresh : start.tenantEvents t = [])
    (hnone : start.tables.shiftsOf t = [])
    (hstaffing : ∀ call ∈ calls, call.tenantId = t →
      normalizeEventType call.eventType = .ok .staffingChange)
    (hdicts : ∀ call ∈ calls, (Value.dict call.payload).DistinctKeys)
    (hfits : FitsAlong O t calls start) (hrun : appendAll O calls start = .ok db)
    (skuToIngredient : Mapping String) :
    ∃ r, (db.tenantEvents t).foldlM (replayEvent O skuToIngredient) ⟨ReplayState.empty, none⟩ =
        .ok r ∧ StaffingAgrees (db.tables.shiftsOf t) r.state.staffing ∧
      ((db.tables.shiftsOf t).map StaffShift.id).Nodup := by
  induction calls using List.reverseRecOn generalizing db with
  | nil =>
    obtain rfl := pure_ok.mp hrun
    rw [hfresh, hnone]
    refine ⟨_, rfl, ⟨List.nodup_nil, ?_, ?_, ?_⟩, List.nodup_nil⟩
    · simp [ReplayState.empty, Mapping.StrKeys]
    · simp
    · simp [ReplayState.empty, Mapping.find?]
  | append_singleton calls call ih =>
    obtain ⟨db₁, hcalls, hcall⟩ := appendAll_concat hrun
    obtain ⟨r, hr, hagrees, hids⟩ := ih (fun c hc => hstaffing c (List.mem_append_left _ hc))
      (fun c hc => hdicts c (List.mem_append_left _ hc)) hfits.left hcalls
    obtain ⟨member, hmember, -, happended⟩ := appendEvent_spec hcall
    by_cases htenant : call.tenantId = t
    · subst htenant
      obtain rfl := Except.ok.inj ((hstaffing call (by simp) rfl).symm.trans hmember)
      obtain ⟨row, hrow, hevents, -⟩ := happended.tenantEvents_eq
      obtain ⟨stored, hstored, hfields⟩ :=
        loadsDumps_field (hdicts call (by simp)) hrow.payload_eq
      have hfit := hfits calls call [] db₁ (by simp) hcalls rfl
      obtain ⟨role, day, count, shift, happlied⟩ := applyStaffingChange_spec happended.tables
      have hwritten := happlied.of_fits hids hfit
      obtain ⟨hrole, hday, hcount⟩ := happlied.fields_of_fits hfit
      have hreplay := replayStaffingChange_of_fits (O := O) r.state hfields hrole hday hcount
      have hstep : replayEvent O skuToIngredient r row =
          .ok { r with state := replayStaffingChange O stored r.state } := by
        rw [replayEvent, hstored, hrow.eventType_eq]
        rfl
      refine ⟨{ r with state := replayStaffingChange O stored r.state }, ?_, ?_,
        hwritten.ids hids⟩
      · rw [hevents, List.foldlM_append]
        refine bind_ok.mpr ⟨r, hr, ?_⟩
        rw [List.foldlM_cons]
        exact bind_ok.mpr ⟨_, hstep, rfl⟩
      · rw [hreplay]
        exact hagrees.set hwritten rfl rfl hcount
    · obtain ⟨_, -, -, hothers⟩ := happended.tenantEvents_eq
      rw [hothers t (Ne.symm htenant), shiftsOf_other htenant hcall]
      exact ⟨r, hr, hagrees, hids⟩

/-- In every run whose staffing changes fit, the rebuilt staffing of every moment is the table of
shifts as it was after the tenant's last event up to that moment. -/
theorem replayed_staffing (O : Outside) (t : String) (calls : List AppendCall) (start final : Db)
    (hrun : StaffingRun O t calls start final) (hfits : FitsAlong O t calls start)
    (target : Timestamp) : ∃ db rebuilt,
      appendAll O (callsUpTo t target calls) start = .ok db ∧
        reconstructStateAt O t target final = .ok rebuilt ∧
        StaffingAgrees (db.tables.shiftsOf t) rebuilt.state.staffing := by
  obtain ⟨after, db, hsplit⟩ := hrun.toAppendRun.split target
  have hprefix : callsUpTo t target calls ++
      calls.dropWhile (fun call => !call.isAfter t target) = calls := List.takeWhile_append_dropWhile
  have hfitsBefore : FitsAlong O t (callsUpTo t target calls) start := by
    rw [← hprefix] at hfits
    exact hfits.left
  obtain ⟨r, hr, hagrees, -⟩ := staffing_replayed hrun.fresh hrun.noShifts
    (fun call hcall => hrun.staffing call (List.takeWhile_subset _ hcall)) hsplit.dicts hfitsBefore
    hsplit.run (final.tables.skuToIngredient t)
  refine ⟨db, ⟨r.state, (db.tenantEvents t).length⟩, hsplit.run, ?_, hagrees⟩
  rw [reconstructStateAt, hsplit.replayed_eq]
  exact bind_ok.mpr ⟨r, hr, rfl⟩

end Runs

/-! ### A shift that moves -/

def staffingCall (shiftId : Value) (role : String) (day headcount : ℤ) (draw : Draw) : AppendCall :=
  ⟨"t", .member .staffingChange, [(.str "staff_shift_id", shiftId), (.str "role", .str role),
    (.str "day_of_week", .int day), (.str "headcount", .int headcount)], "api", draw⟩

/-- The shift of the cook moves from Monday to Tuesday. -/
def movedShift : List AppendCall :=
  [staffingCall (.str "s1") "cook" 0 2 ⟨1, "e1", "r1"⟩,
    staffingCall (.str "s1") "cook" 1 2 ⟨2, "e2", "r2"⟩]

lemma staffingRun_of_ok {calls : List AppendCall} {final : Db}
    (hstaffing : ∀ call ∈ calls, call.eventType = .member .staffingChange)
    (hdicts : ∀ call ∈ calls, (Value.dict call.payload).DistinctKeys)
    (hordered : ((calls.filter (fun call => call.tenantId = "t")).map
      (fun call => call.draw.now)).Pairwise (· < ·))
    (hrun : appendAll (.prescribed []) calls (oneTenant "t") = .ok final) :
    StaffingRun (.prescribed []) "t" calls (oneTenant "t") final where
  fresh := rfl
  skus := List.nodup_nil
  dicts := hdicts
  run := hrun
  ordered := hordered
  noShifts := rfl
  staffing call hcall _ := by rw [hstaffing call hcall]; rfl

theorem moved_shift_rebuilt_twice : ∃ final rebuilt,
    StaffingRun (.prescribed []) "t" movedShift (oneTenant "t") final ∧
      callsUpTo "t" 2 movedShift = movedShift ∧
      reconstructStateAt (.prescribed []) "t" 2 final = .ok rebuilt ∧
      ¬StaffingAgrees (final.tables.shiftsOf "t") rebuilt.state.staffing := by
  have hcomputed : (appendAll (.prescribed []) movedShift (oneTenant "t")).toOption.map (fun db =>
      (db.tables.shiftsOf "t", (reconstructStateAt (.prescribed []) "t" 2 db).toOption.map
        (fun rebuilt => (rebuilt.state.staffing.find? (.str "cook:0")).isSome))) =
      some ([⟨"s1", "t", "cook", 1, 2⟩], some true) := by
    decide +kernel
  obtain ⟨final, hfinal, hresult⟩ := exists_ok_of_toOption hcomputed
  obtain ⟨hshifts, hrebuilt⟩ := Prod.mk.inj hresult
  obtain ⟨rebuilt, hrebuilt, hentry⟩ := exists_ok_of_toOption hrebuilt
  refine ⟨final, rebuilt, staffingRun_of_ok ?_ ?_ (by decide) hfinal, rfl, hrebuilt,
    fun h => ?_⟩
  · simp [movedShift, staffingCall]
  · simp [movedShift, staffingCall, Value.DistinctKeys, MembersDistinctKeys, Key.Same, Key.isNumber]
  · obtain ⟨entry, hentry⟩ := Option.isSome_iff_exists.mp hentry
    obtain ⟨row, hrow, hkey⟩ := h.only "cook:0" entry hentry
    rw [hshifts, List.mem_singleton] at hrow
    rw [hrow] at hkey
    exact absurd hkey (by decide)

/-- The shift stays where it is, and is then found by its role and day. -/
def keptShift : List AppendCall :=
  [staffingCall (.str "s1") "cook" 0 2 ⟨1, "e1", "r1"⟩, staffingCall .none "cook" 0 5 ⟨2, "e2", "r2"⟩]

theorem kept_shift_rebuilt : ∃ db rebuilt final,
    appendAll (.prescribed []) keptShift (oneTenant "t") = .ok final ∧
      appendAll (.prescribed []) (callsUpTo "t" 2 keptShift) (oneTenant "t") = .ok db ∧
      reconstructStateAt (.prescribed []) "t" 2 final = .ok rebuilt ∧
      StaffingAgrees (db.tables.shiftsOf "t") rebuilt.state.staffing := by
  have hcomputed : (appendAll (.prescribed []) keptShift (oneTenant "t")).toOption.map (fun db =>
      db.tables.shiftsOf "t") = some [⟨"s1", "t", "cook", 0, 5⟩] := by
    decide +kernel
  obtain ⟨final, hfinal, -⟩ := exists_ok_of_toOption hcomputed
  have hrun : StaffingRun (.prescribed []) "t" keptShift (oneTenant "t") final := by
    refine staffingRun_of_ok ?_ ?_ (by decide) hfinal
    · simp [keptShift, staffingCall]
    · simp [keptShift, staffingCall, Value.DistinctKeys, MembersDistinctKeys, Key.Same, Key.isNumber]
  have hfits : FitsAlong (.prescribed []) "t" keptShift (oneTenant "t") := by
    intro before call after db hcalls hdb _
    have hfields : ∀ (id : Value) (count : ℤ) (draw : Draw) (shifts : List StaffShift),
        (id.truthy = true → shifts = []) →
        FitsReplay shifts (staffingCall id "cook" 0 count draw).payload := by
      intro id count draw shifts hid
      refine ⟨⟨"cook", rfl⟩, ⟨0, rfl⟩, fun n hn => ?_, fun htruthy row hrow => ?_⟩
      · obtain rfl := Except.ok.inj hn
        exact decide_eq_true rfl
      · rw [hid htruthy] at hrow
        exact absurd hrow List.not_mem_nil
    rcases before with _ | ⟨_, _ | ⟨_, _ | ⟨_, _⟩⟩⟩
    · obtain ⟨rfl, -⟩ := List.cons.inj hcalls
      obtain rfl := pure_ok.mp hdb
      exact hfields _ _ _ _ (fun _ => rfl)
    · obtain ⟨-, hcalls⟩ := List.cons.inj hcalls
      obtain ⟨rfl, -⟩ := List.cons.inj hcalls
      exact hfields _ _ _ _ (fun htruthy => absurd htruthy (by decide))
    · exact absurd hcalls (by simp [keptShift])
    · exact absurd (congrArg List.length hcalls) (by simp [keptShift])
  obtain ⟨db, rebuilt, hdb, hrebuilt, hagrees⟩ :=
    replayed_staffing (.prescribed []) "t" keptShift (oneTenant "t") final hrun hfits 2
  exact ⟨db, rebuilt, final, hfinal, hdb, hrebuilt, hagrees⟩

end OpsCopilot
