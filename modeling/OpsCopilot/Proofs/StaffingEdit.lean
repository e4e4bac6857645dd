import OpsCopilot.Proofs.StaffingTarget

/-!
# The shift that a staffing change edits

Between the payload and the table stands an event with a role and a day of its own. The row keeps
its role and day only when those of the payload are the row's already.
-/

namespace OpsCopilot

open Python Sql Fallible

/-! ### A change to the table -/

/-- What the columns of the table and its primary key say about the tenant's shifts, together with
there being one shift at most for a role and day. -/
structure ShiftRows (T : Tables) (t : String) : Prop where
  ids : (T.staffShifts.map StaffShift.id).Nodup
  texts : ∀ r ∈ T.shiftsOf t, '\x00' ∉ r.id.toList ∧ '\x00' ∉ r.role.toList
  days : ∀ r ∈ T.shiftsOf t, 0 ≤ r.dayOfWeek ∧ r.dayOfWeek ≤ 6
  distinct : ((T.shiftsOf t).map (fun r => (r.role, r.dayOfWeek))).Nodup

/-- The row has the role and day that the payload gives, as far as it gives them. -/
structure FitsPayload (O : Outside) (payload : Dict) (row : StaffShift) : Prop where
  role : ∀ role, givenRole O payload = some role → row.role = role
  day : ∀ day, givenInt payload "day_of_week" = some day → row.dayOfWeek = day

/-- One row is new, or one row of the tenant that fits the payload has a new headcount. -/
inductive ShiftEdited (O : Outside) (payload : Dict) (t : String) (delta : ℤ) (T T' : Tables) : Prop
  | added (new : StaffShift) (htenant : new.tenantId = t) (hcount : new.headcount = delta)
      (hrows : T' = { T with staffShifts := T.staffShifts ++ [new] })
  | changed (row : StaffShift) (hrow : row ∈ T.shiftsOf t) (hfits : FitsPayload O payload row)
      (hrows : T' = { T with staffShifts := T.staffShifts.map (fun r =>
        if r = row then { r with headcount := r.headcount + delta } else r) })

/-- The event is applied, edits the right shift, and leaves one shift at most for a role and day. -/
def RightShiftEdited (O : Outside) (payload : Dict) (delta : ℤ) (e : Projection) (T : Tables) :
    Prop :=
  ∃ T', applyStaffingChange O e T = .ok T' ∧ ShiftEdited O payload e.tenantId delta T T' ∧
    ((T'.shiftsOf e.tenantId).map (fun r => (r.role, r.dayOfWeek))).Nodup

/-- The role, the day and the headcount can be stored. -/
structure Storable (role : String) (day count : ℤ) : Prop where
  role : '\x00' ∉ role.toList
  day : 0 ≤ day ∧ day ≤ 6
  count : 0 ≤ count ∧ count < 2 ^ 31

/-- The row that a change writes. -/
def writeShift (O : Outside) (e : Projection) (T : Tables) (role : String) (day count : ℤ) :
    Option StaffShift → Except PyException Tables
  | some existing => .ok (T.changeStaffShift e.tenantId existing.id
      (fun r => { r with role := role, dayOfWeek := day, headcount := count }))
  | none => do
    let id ← givenId O (e.payload.get "staff_shift_id") e.rowId
    raiseIf (T.staffShifts.any (fun r => r.id = id)) duplicateKey
    return { T with staffShifts := T.staffShifts ++ [⟨id, e.tenantId, role, day, count⟩] }

section Apply

variable {O : Outside} {e : Projection} {T T' : Tables} {role : String} {day count : ℤ}

lemma bindText_of_clean {text : String} (h : '\x00' ∉ text.toList) : bindText text = .ok text :=
  if_neg h

lemma clean_of_bindText {text text' : String} (h : bindText text = .ok text') :
    '\x00' ∉ text.toList := by
  intro hmem
  rw [bindText, if_pos hmem] at h
  cases h

/-- A change with a role, a day and a headcount is applied when they can be stored. -/
lemma applyStaffingChange_iff (T' : Tables) (hrole : e.payload.get "role" = .str role)
    (hday : e.payload.get "day_of_week" = .int day)
    (hcount : e.payload.get "headcount" = .int count) :
    applyStaffingChange O e T = .ok T' ↔ Storable role day count ∧
      ∃ shift, findShift e T (e.payload.get "staff_shift_id") role day = .ok shift ∧
        writeShift O e T role day count shift = .ok T' := by
  have hsteps : applyStaffingChange O e T = (do
      raiseIf (day < 0 ∨ 6 < day) (invalidEvent "day_of_week must be between 0 and 6.")
      raiseIf (count < 0) (invalidEvent "headcount cannot be negative.")
      let shift ← findShift e T (e.payload.get "staff_shift_id") role day
      let role ← bindText role
      let count ← storeInteger count
      writeShift O e T role day count shift) := by
    unfold applyStaffingChange
    rw [requirePayloadField, hrole, hday, hcount]
    rfl
  rw [hsteps]
  constructor
  · intro h
    obtain ⟨_, hdays, h⟩ := bind_ok.mp h
    obtain ⟨_, hnonneg, h⟩ := bind_ok.mp h
    obtain ⟨shift, hshift, h⟩ := bind_ok.mp h
    obtain ⟨text, htext, h⟩ := bind_ok.mp h
    obtain ⟨stored, hstored, hlast⟩ := bind_ok.mp h
    have hdays := not_or.mp (raiseIf_ok.mp hdays)
    have hclean := clean_of_bindText htext
    obtain rfl := bindText_ok htext
    unfold storeInteger at hstored
    split_ifs at hstored with hrange
    obtain rfl := Except.ok.inj hstored
    exact ⟨⟨hclean, ⟨not_lt.mp hdays.1, not_lt.mp hdays.2⟩,
      ⟨not_lt.mp (raiseIf_ok.mp hnonneg), hrange.2⟩⟩, shift, hshift, hlast⟩
  · rintro ⟨hstorable, shift, hshift, hwrite⟩
    obtain ⟨hlow, hhigh⟩ := hstorable.day
    obtain ⟨hnonneg, hlimit⟩ := hstorable.count
    refine bind_ok.mpr ⟨(), raiseIf_ok.mpr (not_or.mpr ⟨not_lt.mpr hlow, not_lt.mpr hhigh⟩), ?_⟩
    refine bind_ok.mpr ⟨(), raiseIf_ok.mpr (not_lt.mpr hnonneg), ?_⟩
    refine bind_ok.mpr ⟨shift, hshift, ?_⟩
    refine bind_ok.mpr ⟨role, bindText_of_clean hstorable.role, ?_⟩
    exact bind_ok.mpr ⟨count, if_pos ⟨by linarith, hlimit⟩, hwrite⟩

/-- With one shift at most for a role and day, a lookup by both finds it. -/
lemma ShiftRows.oneOrNone_eq (hrows : ShiftRows T e.tenantId) (role : String) (day : ℤ) :
    oneOrNone ((T.shiftsOf e.tenantId).filter (fun r => r.role = role ∧ r.dayOfWeek = day)) =
      .ok ((T.shiftsOf e.tenantId).find? (fun r => r.role = role ∧ r.dayOfWeek = day)) := by
  have hone : ((T.shiftsOf e.tenantId).filter
      (fun r => r.role = role ∧ r.dayOfWeek = day)).Pairwise (fun _ _ => False) := by
    have hne := (List.pairwise_map.mp hrows.distinct).filter
      (fun r => r.role = role ∧ r.dayOfWeek = day)
    refine hne.imp_of_mem (fun {a b} ha hb hab => hab ?_)
    rw [List.mem_filter, decide_eq_true_eq] at ha hb
    exact Prod.ext (ha.2.1.trans hb.2.1.symm) (ha.2.2.trans hb.2.2.symm)
  rw [← List.head?_filter]
  rcases hfound : (T.shiftsOf e.tenantId).filter
      (fun r => r.role = role ∧ r.dayOfWeek = day) with _ | ⟨a, _ | ⟨b, rest⟩⟩
  · rw [hfound]
    rfl
  · rw [hfound]
    rfl
  · rw [hfound] at hone
    exact absurd (List.rel_of_pairwise_cons hone List.mem_cons_self) id

/-- Without an identifier that is a nonempty string, the shift is looked up by role and day. -/
lemma findShift_falsy {id : Value} (hrows : ShiftRows T e.tenantId) (hid : id.truthy = false)
    (hclean : '\x00' ∉ role.toList) : findShift e T id role day =
      .ok ((T.shiftsOf e.tenantId).find? (fun r => r.role = role ∧ r.dayOfWeek = day)) := by
  have hsplit : T.staffShifts.filter
      (fun r => r.tenantId = e.tenantId ∧ r.role = role ∧ r.dayOfWeek = day) =
      (T.shiftsOf e.tenantId).filter (fun r => r.role = role ∧ r.dayOfWeek = day) := by
    rw [Tables.shiftsOf, List.filter_filter]
    exact List.filter_congr (fun r _ => by rw [Bool.decide_and, Bool.and_comm])
  rw [findShift, hid, if_neg Bool.false_ne_true, bindText_of_clean hclean]
  refine bind_ok.mpr ⟨role, rfl, ?_⟩
  rw [hsplit]
  exact hrows.oneOrNone_eq role day

lemma findShift_named {s : StaffShift} (hrows : ShiftRows T e.tenantId)
    (hs : s ∈ T.shiftsOf e.tenantId) (hid : s.id ≠ "") :
    findShift e T (.str s.id) role day = .ok (some s) := by
  obtain ⟨hmem, htenant⟩ := mem_shiftsOf.mp hs
  have htruthy : (Value.str s.id).truthy = true := decide_eq_true hid
  have hkey : filterText (.str s.id) = .ok (some s.id) := by
    rw [filterText, bindText_of_clean (hrows.texts s hs).1]
    rfl
  rw [findShift, if_pos htruthy, hkey]
  refine bind_ok.mpr ⟨some s.id, rfl, congrArg Except.ok ?_⟩
  rw [Option.bind_some]
  exact KeepFirst.find?_of_nodup hrows.ids hmem (decide_eq_true ⟨rfl, htenant⟩)
    (fun _ _ hfound => (of_decide_eq_true hfound).1)

end Apply

/-! ### The event -/

/-- What the payload gives can be stored, and so can the sum of the headcounts. -/
structure PayloadStorable (O : Outside) (payload : Dict) (starting delta : ℤ) : Prop where
  role : ∀ role, givenRole O payload = some role → '\x00' ∉ role.toList
  day : ∀ day, givenInt payload "day_of_week" = some day → 0 ≤ day ∧ day ≤ 6
  count : starting + delta < 2 ^ 31

/-- The other shift has the role and day that the payload gives, and those of the first shift where
it gives none, and the same headcount. -/
structure StandsIn (O : Outside) (payload : Dict) (s other : StaffShift) : Prop where
  role : other.role = (givenRole O payload).getD s.role
  day : other.dayOfWeek = (givenInt payload "day_of_week").getD s.dayOfWeek
  headcount : other.headcount = s.headcount

section Edit

variable {O : Outside} {T T' : Tables} {t : String} {payload event : Dict} {delta count : ℤ}

lemma FitsPayload.role_eq {s : StaffShift} (h : FitsPayload O payload s) :
    (givenRole O payload).getD s.role = s.role := by
  cases hgiven : givenRole O payload with
  | none => rfl
  | some role => exact (h.role role hgiven).symm

lemma FitsPayload.day_eq {s : StaffShift} (h : FitsPayload O payload s) :
    (givenInt payload "day_of_week").getD s.dayOfWeek = s.dayOfWeek := by
  cases hgiven : givenInt payload "day_of_week" with
  | none => rfl
  | some day => exact (h.day day hgiven).symm

lemma fitsPayload_of_eq {s row : StaffShift}
    (hrole : row.role = (givenRole O payload).getD s.role)
    (hday : row.dayOfWeek = (givenInt payload "day_of_week").getD s.dayOfWeek) :
    FitsPayload O payload row := by
  constructor
  · intro role hgiven
    rw [hrole, hgiven]
    rfl
  · intro day hgiven
    rw [hday, hgiven]
    rfl

/-- The change of a shift by its identifier is the change of that row. -/
lemma ShiftRows.change_eq (hrows : ShiftRows T t) {g : StaffShift} (hg : g ∈ T.shiftsOf t)
    (f : StaffShift → StaffShift) : T.changeStaffShift t g.id f =
      { T with staffShifts := T.staffShifts.map (fun r => if r = g then f r else r) } := by
  obtain ⟨hmem, htenant⟩ := mem_shiftsOf.mp hg
  have hshifts : T.staffShifts.map (fun r => if r.id = g.id ∧ r.tenantId = t then f r else r) =
      T.staffShifts.map (fun r => if r = g then f r else r) := by
    refine List.map_congr_left (fun r hr => ?_)
    have hiff : (r.id = g.id ∧ r.tenantId = t) ↔ r = g := by
      constructor
      · rintro ⟨hid, -⟩
        exact List.inj_on_of_nodup_map hrows.ids hr hmem hid
      · rintro rfl
        exact ⟨rfl, htenant⟩
    simp only [hiff]
  rw [Tables.changeStaffShift, hshifts]

/-- A change of the headcount of the shift with the role and day edits that shift. -/
lemma ShiftRows.changed (hrows : ShiftRows T t) {g : StaffShift} (hg : g ∈ T.shiftsOf t)
    (hfits : FitsPayload O payload g) (hcount : count = g.headcount + delta) :
    ShiftEdited O payload t delta T (T.changeStaffShift t g.id
        (fun r => { r with role := g.role, dayOfWeek := g.dayOfWeek, headcount := count })) ∧
      (((T.changeStaffShift t g.id (fun r =>
        { r with role := g.role, dayOfWeek := g.dayOfWeek, headcount := count })).shiftsOf t).map
          (fun r => (r.role, r.dayOfWeek))).Nodup := by
  have hchange : T.changeStaffShift t g.id
      (fun r => { r with role := g.role, dayOfWeek := g.dayOfWeek, headcount := count }) =
      { T with staffShifts := T.staffShifts.map (fun r =>
        if r = g then { r with headcount := r.headcount + delta } else r) } := by
    rw [hrows.change_eq hg]
    congr 1
    refine List.map_congr_left (fun r _ => ?_)
    split_ifs with hr
    · rw [hr, hcount]
    · rfl
  refine ⟨.changed g hg hfits hchange, ?_⟩
  rw [shiftsOf_change (by exact fun _ => rfl), List.map_map]
  refine (List.map_congr_left (fun r hr => ?_)) ▸ hrows.distinct
  rw [Function.comp_apply]
  split_ifs with hid
  · have hr' := List.inj_on_of_nodup_map hrows.ids (mem_shiftsOf.mp hr).1 (mem_shiftsOf.mp hg).1 hid
    rw [hr']
  · rfl

/-- What has edited the right shift has left the role and day of the row alone, and has added the
delta to its headcount. -/
lemma ShiftRows.of_edited (hrows : ShiftRows T t) {g : StaffShift} (hg : g ∈ T.shiftsOf t)
    {role : String} {day : ℤ}
    (h : ShiftEdited O payload t delta T (T.changeStaffShift t g.id
      (fun r => { r with role := role, dayOfWeek := day, headcount := count }))) :
    g.role = role ∧ g.dayOfWeek = day ∧ count = g.headcount + delta := by
  rw [hrows.change_eq hg] at h
  have hmem := (mem_shiftsOf.mp hg).1
  cases h with
  | added new _ _ hrowsEq =>
    have hlength := congrArg (fun U => U.staffShifts.length) hrowsEq
    simp at hlength
  | changed row hrow _ hrowsEq =>
    have hpoint := List.map_inj_left.mp (congrArg Tables.staffShifts hrowsEq)
    have hself := hpoint g hmem
    rw [if_pos rfl] at hself
    by_cases heq : g = row
    · rw [if_pos heq] at hself
      injection hself with _ _ hrole hday hcount
      exact ⟨hrole.symm, hday.symm, hcount⟩
    · rw [if_neg heq] at hself
      have hother := hpoint row (mem_shiftsOf.mp hrow).1
      rw [if_neg (Ne.symm heq), if_pos rfl] at hother
      have hzero := congrArg StaffShift.headcount hother
      have hsum := congrArg StaffShift.headcount hself
      have hrole := congrArg StaffShift.role hself
      have hday := congrArg StaffShift.dayOfWeek hself
      dsimp only at hzero hsum hrole hday
      exact ⟨hrole.symm, hday.symm, by linarith⟩

lemma ShiftRows.storable_iff (hrows : ShiftRows T t)
    (hcount : count = startingHeadcount O (T.shiftsOf t) payload + delta) (hnonneg : 0 ≤ count) :
    Storable (eventRole O (T.shiftsOf t) payload) (eventDay O (T.shiftsOf t) payload) count ↔
      PayloadStorable O payload (startingHeadcount O (T.shiftsOf t) payload) delta := by
  constructor
  · intro h
    refine ⟨fun role hgiven => ?_, fun day hgiven => ?_, hcount ▸ h.count.2⟩
    · have hclean := h.role
      rwa [eventRole, hgiven, Option.getD_some] at hclean
    · have hrange := h.day
      rwa [eventDay, hgiven, Option.getD_some] at hrange
  · intro h
    refine ⟨?_, ?_, hnonneg, hcount ▸ h.count⟩
    · rw [eventRole]
      cases hgiven : givenRole O payload with
      | some role => exact h.role role hgiven
      | none =>
        cases hshift : requestedShift O (T.shiftsOf t) payload with
        | none => decide
        | some s => exact (hrows.texts s (requestedShift_mem hshift)).2
    · rw [eventDay]
      cases hgiven : givenInt payload "day_of_week" with
      | some day => exact h.day day hgiven
      | none =>
        cases hshift : requestedShift O (T.shiftsOf t) payload with
        | none => decide
        | some s => exact hrows.days s (requestedShift_mem hshift)

/-- When the payload picks no shift, there is none with the role and day of the event. -/
lemma find?_of_requested_none (hid : payload.get "staff_shift_id" = .none)
    {shifts : List StaffShift} (h : requestedShift O shifts payload = none) :
    shifts.find? (fun r => r.role = eventRole O shifts payload ∧
      r.dayOfWeek = eventDay O shifts payload) = none := by
  rw [eventRole, eventDay, h]
  rw [requestedShift, hid] at h
  dsimp only at h
  split at h
  · rename_i role day hrole hday
    rw [hrole, hday]
    exact h
  · rw [List.head?_eq_none_iff.mp h]
    rfl

/-- A shift for a role and day that had none is an edit. -/
lemma ShiftRows.added (hrows : ShiftRows T t) (new : StaffShift) (htenant : new.tenantId = t)
    (hcount : new.headcount = delta)
    (hnone : (T.shiftsOf t).find?
      (fun r => r.role = new.role ∧ r.dayOfWeek = new.dayOfWeek) = none) :
    ShiftEdited O payload t delta T { T with staffShifts := T.staffShifts ++ [new] } ∧
      ((({ T with staffShifts := T.staffShifts ++ [new] } : Tables).shiftsOf t).map
        (fun r => (r.role, r.dayOfWeek))).Nodup := by
  refine ⟨.added new htenant hcount rfl, ?_⟩
  have hshifts : ({ T with staffShifts := T.staffShifts ++ [new] } : Tables).shiftsOf t =
      T.shiftsOf t ++ [new] := by
    rw [Tables.shiftsOf, List.filter_append, List.filter_singleton, decide_eq_true htenant]
    rfl
  rw [hshifts, List.map_append, List.nodup_append]
  refine ⟨hrows.distinct, List.nodup_singleton _, fun a ha b hb hab => ?_⟩
  obtain ⟨r, hr, rfl⟩ := List.mem_map.mp ha
  obtain rfl := List.mem_singleton.mp hb
  obtain ⟨hrole, hday⟩ := Prod.mk.inj hab
  exact List.find?_eq_none.mp hnone r hr (decide_eq_true ⟨hrole, hday⟩)

/-- Among the shifts there is no other one with the role and day. -/
lemma ShiftRows.find?_eq (hrows : ShiftRows T t) {g : StaffShift} (hg : g ∈ T.shiftsOf t) :
    (T.shiftsOf t).find? (fun r => r.role = g.role ∧ r.dayOfWeek = g.dayOfWeek) = some g := by
  refine KeepFirst.find?_of_nodup hrows.distinct hg (decide_eq_true ⟨rfl, rfl⟩) ?_
  intro r _ hfound
  obtain ⟨hrole, hday⟩ := of_decide_eq_true hfound
  exact Prod.ext hrole hday

lemma FitsPayload.standsIn {s : StaffShift} (h : FitsPayload O payload s) :
    StandsIn O payload s s := ⟨h.role_eq.symm, h.day_eq.symm, rfl⟩

/-! ### The right shift -/

/-- What stands between the payload and the table: the event of a payload that names no shift and
gives no headcount. -/
structure DeltaEvent (O : Outside) (T : Tables) (t : String) (payload event : Dict)
    (delta count : ℤ) : Prop where
  resolved : StaffingResolved O (T.shiftsOf t) payload event delta count
  unnamed : payload.get "staff_shift_id" = .none
  sum : count = startingHeadcount O (T.shiftsOf t) payload + delta

lemma deltaEvent_of_resolve (hid : payload.get "staff_shift_id" = .none)
    (hheadcount : payload.get "headcount" = .none)
    (hdelta : givenInt payload "headcount_delta" = some delta)
    (hresolve : resolveStaffingEventPayload O T t payload = .ok event) :
    ∃ count, DeltaEvent O T t payload event delta count := by
  obtain ⟨delta', count, hevent⟩ := resolveStaffing_spec hresolve
  obtain rfl : delta' = delta := by
    obtain ⟨v, hv, hint⟩ := hevent.delta_eq
    rw [givenInt, get_of_find? hv, hint] at hdelta
    exact Option.some.inj hdelta
  have hnone : givenInt payload "headcount" = none := by
    rw [givenInt, hheadcount]
    rfl
  refine ⟨count, hevent, hid, ?_⟩
  rw [hevent.count_eq, hnone, Option.getD_none]

variable {now : Timestamp} {rowId : String} {s : StaffShift}

lemma DeltaEvent.apply_iff (h : DeltaEvent O T t payload event delta count) (T' : Tables) :
    applyStaffingChange O ⟨t, event, now, rowId⟩ T = .ok T' ↔
      Storable (eventRole O (T.shiftsOf t) payload) (eventDay O (T.shiftsOf t) payload) count ∧
        ∃ shift, findShift ⟨t, event, now, rowId⟩ T (event.get "staff_shift_id")
            (eventRole O (T.shiftsOf t) payload) (eventDay O (T.shiftsOf t) payload) = .ok shift ∧
          writeShift O ⟨t, event, now, rowId⟩ T (eventRole O (T.shiftsOf t) payload)
            (eventDay O (T.shiftsOf t) payload) count shift = .ok T' :=
  applyStaffingChange_iff (e := ⟨t, event, now, rowId⟩) T' h.resolved.role_field
    h.resolved.day_field h.resolved.headcount_field

lemma DeltaEvent.storable_iff (h : DeltaEvent O T t payload event delta count)
    (hrows : ShiftRows T t) :
    Storable (eventRole O (T.shiftsOf t) payload) (eventDay O (T.shiftsOf t) payload) count ↔
      PayloadStorable O payload (startingHeadcount O (T.shiftsOf t) payload) delta :=
  hrows.storable_iff h.sum h.resolved.nonneg

/-- Where the payload picks no shift, the event adds one. -/
lemma DeltaEvent.adds (h : DeltaEvent O T t payload event delta count) (hrows : ShiftRows T t)
    (hfresh : ∀ r ∈ T.staffShifts, r.id ≠ rowId)
    (hshift : requestedShift O (T.shiftsOf t) payload = none)
    (hst : Storable (eventRole O (T.shiftsOf t) payload) (eventDay O (T.shiftsOf t) payload)
      count) : RightShiftEdited O payload delta ⟨t, event, now, rowId⟩ T := by
  have hnone := find?_of_requested_none h.unnamed hshift
  have hfield := h.resolved.shift_field
  rw [hshift] at hfield
  have hzero : count = delta := by
    rw [h.sum, startingHeadcount, hshift]
    exact zero_add delta
  obtain ⟨hedited, hdistinct⟩ := hrows.added
    ⟨rowId, t, eventRole O (T.shiftsOf t) payload, eventDay O (T.shiftsOf t) payload, count⟩
    rfl hzero hnone
  refine ⟨_, (h.apply_iff _).mpr ⟨hst, none, ?_, ?_⟩, hedited, hdistinct⟩
  · rw [hfield, findShift_falsy hrows rfl hst.role, hnone]
  · rw [writeShift, hfield]
    refine bind_ok.mpr ⟨rowId, rfl, bind_ok.mpr ⟨(), raiseIf_ok.mpr (fun hany => ?_), rfl⟩⟩
    obtain ⟨r, hr, heq⟩ := List.any_eq_true.mp hany
    exact hfresh r hr (of_decide_eq_true heq)

/-- The event of a payload that picks a shift. -/
structure PickEvent (O : Outside) (T : Tables) (t : String) (payload event : Dict)
    (delta count : ℤ) (s : StaffShift) : Prop extends DeltaEvent O T t payload event delta count where
  mem : s ∈ T.shiftsOf t
  field : event.get "staff_shift_id" = .str s.id
  role : eventRole O (T.shiftsOf t) payload = (givenRole O payload).getD s.role
  day : eventDay O (T.shiftsOf t) payload = (givenInt payload "day_of_week").getD s.dayOfWeek
  count_eq : count = s.headcount + delta

lemma DeltaEvent.pick (h : DeltaEvent O T t payload event delta count)
    (hshift : requestedShift O (T.shiftsOf t) payload = some s) :
    PickEvent O T t payload event delta count s where
  toDeltaEvent := h
  mem := requestedShift_mem hshift
  field := by
    have hfield := h.resolved.shift_field
    rwa [hshift] at hfield
  role := by
    rw [eventRole, hshift]
    rfl
  day := by
    rw [eventDay, hshift]
    rfl
  count_eq := by
    rw [h.sum, startingHeadcount, hshift]
    rfl

/-- A shift with the empty identifier is looked up by its role and day. -/
lemma PickEvent.find_empty (h : PickEvent O T t payload event delta count s) (hrows : ShiftRows T t)
    (hempty : s.id = "") (hclean : '\x00' ∉ (eventRole O (T.shiftsOf t) payload).toList) :
    findShift ⟨t, event, now, rowId⟩ T (event.get "staff_shift_id")
        (eventRole O (T.shiftsOf t) payload) (eventDay O (T.shiftsOf t) payload) =
      .ok ((T.shiftsOf t).find? (fun r => r.role = eventRole O (T.shiftsOf t) payload ∧
        r.dayOfWeek = eventDay O (T.shiftsOf t) payload)) := by
  rw [h.field, hempty]
  exact findShift_falsy (e := ⟨t, event, now, rowId⟩) hrows rfl hclean

/-- Where the event edits the right shift, it has edited the picked one or, for the empty
identifier, one that stands in for it. -/
lemma PickEvent.fits_of_edited (h : PickEvent O T t payload event delta count s)
    (hrows : ShiftRows T t)
    (hright : RightShiftEdited O payload delta ⟨t, event, now, rowId⟩ T) :
    FitsPayload O payload s ∨ s.id = "" ∧ ∃ other ∈ T.shiftsOf t, StandsIn O payload s other := by
  obtain ⟨T', hT', hedited, -⟩ := hright
  obtain ⟨hst, shift, hfound, hwrite⟩ := (h.apply_iff T').mp hT'
  by_cases hempty : s.id = ""
  · rw [h.find_empty hrows hempty hst.role] at hfound
    obtain rfl := Except.ok.inj hfound
    cases hother : (T.shiftsOf t).find? (fun r =>
        r.role = eventRole O (T.shiftsOf t) payload ∧
          r.dayOfWeek = eventDay O (T.shiftsOf t) payload) with
    | none =>
      -- The identifier is taken by the first shift itself.
      rw [hother, writeShift, h.field, hempty] at hwrite
      obtain ⟨id, hgiven, hwrite⟩ := bind_ok.mp hwrite
      obtain ⟨_, hunused, -⟩ := bind_ok.mp hwrite
      have hgiven : bindText "" = .ok id := hgiven
      obtain rfl := bindText_ok hgiven
      refine absurd (List.any_eq_true.mpr ?_) (raiseIf_ok.mp hunused)
      exact ⟨s, (mem_shiftsOf.mp h.mem).1, decide_eq_true hempty⟩
    | some other =>
      rw [hother] at hwrite
      obtain rfl := Except.ok.inj hwrite
      have hmem := List.mem_of_find?_eq_some hother
      obtain ⟨hrole, hday, hcount⟩ := hrows.of_edited hmem hedited
      refine .inr ⟨hempty, other, hmem, hrole.trans h.role, hday.trans h.day, ?_⟩
      have hsum := h.count_eq
      linarith
  · rw [h.field, findShift_named (e := ⟨t, event, now, rowId⟩) hrows h.mem hempty] at hfound
    obtain rfl := Except.ok.inj hfound
    obtain rfl := Except.ok.inj hwrite
    obtain ⟨hrole, hday, -⟩ := hrows.of_edited h.mem hedited
    exact .inl (fitsPayload_of_eq (hrole.trans h.role) (hday.trans h.day))

/-- A shift that stands in for the picked one is found and edited. -/
lemma PickEvent.edits (h : PickEvent O T t payload event delta count s) (hrows : ShiftRows T t)
    (hst : Storable (eventRole O (T.shiftsOf t) payload) (eventDay O (T.shiftsOf t) payload) count)
    {other : StaffShift} (hmem : other ∈ T.shiftsOf t) (hstands : StandsIn O payload s other)
    (hsame : s.id = "" ∨ other = s) :
    RightShiftEdited O payload delta ⟨t, event, now, rowId⟩ T := by
  have hrole := h.role.trans hstands.role.symm
  have hday := h.day.trans hstands.day.symm
  have hfound : findShift ⟨t, event, now, rowId⟩ T (event.get "staff_shift_id")
      (eventRole O (T.shiftsOf t) payload) (eventDay O (T.shiftsOf t) payload) =
        .ok (some other) := by
    by_cases hempty : s.id = ""
    · rw [h.find_empty hrows hempty hst.role, hrole, hday, hrows.find?_eq hmem]
    · obtain rfl := hsame.resolve_left hempty
      rw [h.field]
      exact findShift_named hrows hmem hempty
  have hcount : count = other.headcount + delta := by rw [h.count_eq, hstands.headcount]
  refine ⟨_, (h.apply_iff _).mpr ⟨hst, some other, hfound, ?_⟩,
    hrows.changed hmem (fitsPayload_of_eq hstands.role hstands.day) hcount⟩
  rw [writeShift, hrole, hday]

/-- The event for a payload that names no shift and gives no headcount edits the right shift exactly
when everything can be stored and the shift that the payload picks, if there is one, has the role
and day that the payload gives. The one exception is a shift whose identifier is empty: the event
finds another one in its place, which may happen to have the same headcount. -/
theorem staffing_edit_iff (O : Outside) (T : Tables) (t : String) (payload event : Dict)
    (delta : ℤ) (now : Timestamp) (rowId : String) (hrows : ShiftRows T t)
    (hfresh : ∀ r ∈ T.staffShifts, r.id ≠ rowId) (hid : payload.get "staff_shift_id" = .none)
    (hheadcount : payload.get "headcount" = .none)
    (hdelta : givenInt payload "headcount_delta" = some delta)
    (hresolve : resolveStaffingEventPayload O T t payload = .ok event) :
    RightShiftEdited O payload delta ⟨t, event, now, rowId⟩ T ↔
      PayloadStorable O payload (startingHeadcount O (T.shiftsOf t) payload) delta ∧
        ∀ s, requestedShift O (T.shiftsOf t) payload = some s → FitsPayload O payload s ∨
          s.id = "" ∧ ∃ other ∈ T.shiftsOf t, StandsIn O payload s other := by
  obtain ⟨count, hevent⟩ := deltaEvent_of_resolve hid hheadcount hdelta hresolve
  rw [← hevent.storable_iff hrows]
  constructor
  · intro hright
    refine ⟨?_, fun s hs => (hevent.pick hs).fits_of_edited hrows hright⟩
    obtain ⟨T', hT', -⟩ := hright
    exact ((hevent.apply_iff T').mp hT').1
  · rintro ⟨hst, hpick⟩
    cases hshift : requestedShift O (T.shiftsOf t) payload with
    | none => exact hevent.adds hrows hfresh hshift hst
    | some s =>
      have hpicked := hevent.pick hshift
      rcases hpick s hshift with hfits | ⟨hempty, other, hmem, hstands⟩
      · exact hpicked.edits hrows hst hpicked.mem hfits.standsIn (.inr rfl)
      · exact hpicked.edits hrows hst hmem hstands (.inl hempty)

end Edit

/-! ### A waiter who becomes a chef -/

def anotherChef : Dict := [(.str "headcount_delta", .int 1), (.str "role", .str "chef")]

/-- The shift of the waiter is turned into one of a chef. -/
theorem waiter_becomes_chef : ∃ event,
    resolveStaffingEventPayload (.prescribed []) shiftTables "t" anotherChef = .ok event ∧
      ¬RightShiftEdited (.prescribed []) anotherChef 1 ⟨"t", event, 1, "s3"⟩ shiftTables := by
  refine ⟨[(.str "staff_shift_id", .str "s1"), (.str "role", .str "chef"),
    (.str "day_of_week", .int 0), (.str "headcount", .int 3)], rfl, ?_⟩
  rintro ⟨T', hT', hedited, -⟩
  obtain rfl := Except.ok.inj hT'
  cases hedited with
  | added new _ _ hrows =>
    have hlength := congrArg (fun U => U.staffShifts.length) hrows
    simp [Tables.changeStaffShift, shiftTables] at hlength
  | changed row _ _ hrows =>
    have hkept : (shiftTables.staffShifts.map (fun r =>
        if r = row then { r with headcount := r.headcount + 1 } else r)).map StaffShift.role =
        shiftTables.staffShifts.map StaffShift.role := by
      rw [List.map_map]
      refine List.map_congr_left (fun r _ => ?_)
      rw [Function.comp_apply]
      split_ifs <;> rfl
    have hroles := congrArg (fun U => U.staffShifts.map StaffShift.role) hrows
    exact absurd (hroles.trans hkept) (by decide)

def mondayWaiter : Dict :=
  [(.str "headcount_delta", .int 1), (.str "role", .str "waiter"), (.str "day_of_week", .int 0)]

theorem monday_waiter_edited : ∃ event,
    resolveStaffingEventPayload (.prescribed []) shiftTables "t" mondayWaiter = .ok event ∧
      RightShiftEdited (.prescribed []) mondayWaiter 1 ⟨"t", event, 1, "s3"⟩ shiftTables := by
  refine ⟨_, rfl, (staffing_edit_iff (.prescribed []) shiftTables "t" mondayWaiter _ 1 1 "s3"
    ⟨by decide, by decide, by decide, by decide⟩ (by decide) rfl rfl rfl rfl).mpr ⟨?_, ?_⟩⟩
  · refine ⟨fun role hrole => ?_, fun day hday => ?_, by decide⟩
    · obtain rfl := Option.some.inj hrole
      decide
    · obtain rfl := Option.some.inj hday
      decide
  · intro s hs
    obtain rfl := Option.some.inj hs
    refine .inl ⟨fun role hrole => ?_, fun day hday => ?_⟩
    · exact Option.some.inj hrole
    · exact Option.some.inj hday

end OpsCopilot
