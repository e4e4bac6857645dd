import OpsCopilot.Lib.KeepFirst
import OpsCopilot.Model.Policy
import OpsCopilot.Model.StateChange
import OpsCopilot.Proofs.StaffingReplay

/-!
# The shift that a staffing change is about

A payload picks a shift by its identifier, by role and day, or takes the tenant's first one. The
event repeats the role and day of the payload for that shift, whether they are its own or not, and
an explicit headcount for whatever headcount the delta would give.
-/

namespace OpsCopilot

open Python Sql Fallible

/-! ### What a payload gives -/

/-- The role that a payload gives. -/
def givenRole (O : Outside) (payload : Dict) : Option String :=
  match payload.get "role" with
  | .none => none
  | v => some (pyStr O v)

/-- The integer that a payload gives in a field. -/
def givenInt (payload : Dict) (field : String) : Option ℤ := (payload.get field).toInt.toOption

/-- The shift that a payload picks among those of the tenant. -/
def requestedShift (O : Outside) (shifts : List StaffShift) (payload : Dict) : Option StaffShift :=
  match payload.get "staff_shift_id" with
  | .none =>
    match givenRole O payload, givenInt payload "day_of_week" with
    | some role, some day => shifts.find? (fun r => r.role = role ∧ r.dayOfWeek = day)
    | _, _ => shifts.head?
  | .str id => shifts.find? (fun r => r.id = id)
  | _ => none

section Resolved

variable (O : Outside) (shifts : List StaffShift) (payload : Dict)

/-- The headcount that the change starts from, 0 for a new shift. -/
def startingHeadcount : ℤ := (requestedShift O shifts payload).elim 0 StaffShift.headcount

/-- The role that the payload gives, else that of the shift. -/
def eventRole : String :=
  (givenRole O payload).getD ((requestedShift O shifts payload).elim "general" StaffShift.role)

/-- The day that the payload gives, else that of the shift. -/
def eventDay : ℤ :=
  (givenInt payload "day_of_week").getD
    ((requestedShift O shifts payload).elim 0 StaffShift.dayOfWeek)

/-- What the event for an accepted payload says. -/
structure StaffingResolved (event : Dict) (delta count : ℤ) : Prop where
  delta_eq : ∃ v, payload.find? "headcount_delta" = some v ∧ v.toInt = .ok delta
  shift_field : event.get "staff_shift_id" =
    (requestedShift O shifts payload).elim .none (fun s => .str s.id)
  role_field : event.get "role" = .str (eventRole O shifts payload)
  day_field : event.get "day_of_week" = .int (eventDay O shifts payload)
  headcount_field : event.get "headcount" = .int count
  count_eq : count =
    (givenInt payload "headcount").getD (startingHeadcount O shifts payload + delta)
  nonneg : 0 ≤ count

end Resolved

section Resolver

variable {O : Outside} {T : Tables} {t : String} {payload event : Dict}

lemma toolInt_ok {v : Value} {field : String} {n : ℤ} (h : toolInt v field = .ok n) :
    v.toInt = .ok n := by
  unfold toolInt at h
  split at h
  · rename_i m hm
    rw [hm, Except.ok.inj h]
  · cases h
  · cases h

lemma optionalInt_ok {field label : String} {n : Option ℤ}
    (h : optionalInt (payload.get field) label = .ok n) : n = givenInt payload field := by
  unfold optionalInt at h
  split at h
  · rename_i hnone
    rw [givenInt, hnone]
    exact (Except.ok.inj h).symm
  · obtain ⟨m, hm, rfl⟩ := map_ok.mp h
    rw [givenInt, toolInt_ok hm]
    rfl

lemma staffingEvent_spec {shift : Option StaffShift} {shiftId : Option Value} {role : Option String}
    {day headcount : Option ℤ} {delta : ℤ}
    (h : staffingEvent shift shiftId role day headcount delta = .ok event) :
    event.get "staff_shift_id" = shiftId.getD .none ∧
      event.get "role" = .str (role.getD (shift.elim "general" StaffShift.role)) ∧
      event.get "day_of_week" = .int (day.getD (shift.elim 0 StaffShift.dayOfWeek)) ∧
      event.get "headcount" =
        .int (headcount.getD (shift.elim 0 StaffShift.headcount + delta)) ∧
      0 ≤ headcount.getD (shift.elim 0 StaffShift.headcount + delta) := by
  obtain ⟨_, hnonneg, hlast⟩ := bind_ok.mp h
  have hcount := not_lt.mp (raiseIf_ok.mp hnonneg)
  obtain rfl := pure_ok.mp hlast
  cases shiftId with
  | none =>
    cases shift with
    | none => exact ⟨rfl, rfl, rfl, rfl, hcount⟩
    | some row => exact ⟨rfl, rfl, rfl, rfl, hcount⟩
  | some id =>
    cases shift with
    | none => exact ⟨rfl, rfl, rfl, rfl, hcount⟩
    | some row => exact ⟨rfl, rfl, rfl, rfl, hcount⟩

/-- The shift that the resolver has found is the one that the payload picks. -/
lemma StaffingResolved.of_event {shift : Option StaffShift} {shiftId : Option Value} {v : Value}
    {delta : ℤ} (hdelta : payload.find? "headcount_delta" = some v) (hint : v.toInt = .ok delta)
    (hshift : requestedShift O (T.shiftsOf t) payload = shift)
    (hid : shiftId.getD .none = shift.elim .none (fun s => .str s.id))
    (h : staffingEvent shift shiftId (givenRole O payload) (givenInt payload "day_of_week")
      (givenInt payload "headcount") delta = .ok event) :
    ∃ delta count, StaffingResolved O (T.shiftsOf t) payload event delta count := by
  obtain ⟨hidField, hrole, hday, hcount, hnonneg⟩ := staffingEvent_spec h
  refine ⟨delta, _, ⟨v, hdelta, hint⟩, hidField.trans ?_, hrole.trans ?_, hday.trans ?_, hcount, ?_,
    hnonneg⟩
  · rw [hshift, hid]
  · rw [eventRole, hshift]
  · rw [eventDay, hshift]
  · rw [startingHeadcount, hshift]

theorem resolveStaffing_spec (h : resolveStaffingEventPayload O T t payload = .ok event) :
    ∃ delta count, StaffingResolved O (T.shiftsOf t) payload event delta count := by
  unfold resolveStaffingEventPayload at h
  dsimp only at h
  split at h
  · cases h
  · cases h
  · rename_i v _ hv
    obtain ⟨delta, hdelta, h⟩ := bind_ok.mp h
    obtain ⟨day, hday, h⟩ := bind_ok.mp h
    obtain ⟨headcount, hheadcount, h⟩ := bind_ok.mp h
    obtain rfl := optionalInt_ok hday
    obtain rfl := optionalInt_ok hheadcount
    have hint := toolInt_ok hdelta
    split at h
    · rename_i hnone
      split at h
      · rename_i role day hrole hday
        obtain ⟨text, htext, h⟩ := bind_ok.mp h
        obtain ⟨shift, hshift, hlast⟩ := bind_ok.mp h
        obtain rfl := bindText_ok htext
        have hrole' : givenRole O payload = some text := hrole
        rw [← hrole', ← hday] at hlast
        refine StaffingResolved.of_event hv hint ?_ ?_ hlast
        · rw [requestedShift, hnone, hrole', hday]
          dsimp only
          have hrows := oneOrNone_ok hshift
          rw [← List.head?_filter]
          exact (congrArg List.head? hrows).trans Option.head?_toList
        · cases shift <;> rfl
      · rename_i hsome
        refine StaffingResolved.of_event hv hint ?_ ?_ h
        · rw [requestedShift, hnone]
          dsimp only
          split
          · rename_i role day hrole hday
            exact absurd hday (hsome role day hrole)
          · rfl
        · cases (tenantShifts T t).head? <;> rfl
    · rename_i hgiven
      obtain ⟨key, hkey, h⟩ := bind_ok.mp h
      split at h
      · cases h
      · rename_i shift hshift
        have hfound := List.find?_some hshift
        obtain rfl := of_decide_eq_true hfound
        have hid := filterText_some hkey
        refine StaffingResolved.of_event hv hint ?_ ?_ h
        · rw [requestedShift, hid]
          simp only [Option.some.injEq] at hshift
          exact hshift
        · exact hid

end Resolver

/-! ### The headcount that the critic has seen -/

section Bounded

variable {O : Outside} {T : Tables} {t : String} {payload event : Dict} {verdict : CriticVerdict}

/-- The headcount of the shift that an event names, or 0 when the event names none. -/
def currentHeadcount (shifts : List StaffShift) (event : Dict) : ℤ :=
  match event.get "staff_shift_id" with
  | .str id => (shifts.find? (fun r => r.id = id)).elim 0 StaffShift.headcount
  | _ => 0

/-- The event changes the headcount by no more than the critic lets a delta be. -/
def HeadcountBounded (shifts : List StaffShift) (event : Dict) : Prop :=
  ∃ n, event.get "headcount" = .int n ∧ |n - currentHeadcount shifts event| ≤ maxHeadcountDelta

lemma requestedShift_mem {shifts : List StaffShift} {s : StaffShift}
    (h : requestedShift O shifts payload = some s) : s ∈ shifts := by
  unfold requestedShift at h
  split at h
  · split at h
    · exact List.mem_of_find?_eq_some h
    · exact List.mem_of_mem_head? h
  · exact List.mem_of_find?_eq_some h
  · cases h

lemma StaffingResolved.currentHeadcount_eq {shifts : List StaffShift} {delta count : ℤ}
    (h : StaffingResolved O shifts payload event delta count)
    (hids : (shifts.map StaffShift.id).Nodup) :
    currentHeadcount shifts event = startingHeadcount O shifts payload := by
  rw [currentHeadcount, startingHeadcount, h.shift_field]
  cases hshift : requestedShift O shifts payload with
  | none => rfl
  | some s =>
    dsimp only [Option.elim]
    rw [KeepFirst.find?_of_nodup hids (requestedShift_mem hshift) (decide_eq_true rfl)
      (fun _ _ hid => of_decide_eq_true hid)]

/-- A payload that the critic lets pass has a delta within the limit. -/
lemma critique_staffing_bound {v : Value} {delta : ℤ} {currentValue : Option ℚ}
    (hv : payload.find? "headcount_delta" = some v) (hint : v.toInt = .ok delta)
    (hcritic : critique O .staffingChange payload currentValue = .ok verdict)
    (happroved : verdict.approved = true) : |delta| ≤ maxHeadcountDelta := by
  simp only [critique, critiqueStaffing, hv] at hcritic
  obtain ⟨valid, -, hcritic⟩ := bind_ok.mp hcritic
  split_ifs at hcritic with hvalid hintegral
  · rw [hint] at hcritic
    obtain ⟨n, hn, hlast⟩ := bind_ok.mp hcritic
    obtain rfl := Except.ok.inj hn
    split_ifs at hlast with hlimit
    · rw [← pure_ok.mp hlast] at happroved
      cases happroved
    · rw [Int.abs_eq_natAbs]
      exact_mod_cast not_lt.mp hlimit
  · rw [← pure_ok.mp hcritic] at happroved
    cases happroved
  · rw [← pure_ok.mp hcritic] at happroved
    cases happroved

/-- The critic bounds the change of the headcount exactly when the payload gives no headcount, or
one that is within the limit already: the critic looks at the delta only. -/
theorem staffing_bounded_iff (O : Outside) (T : Tables) (t : String) (payload event : Dict)
    (currentValue : Option ℚ) (verdict : CriticVerdict)
    (hids : (T.staffShifts.map StaffShift.id).Nodup)
    (hcritic : critique O .staffingChange payload currentValue = .ok verdict)
    (happroved : verdict.approved = true)
    (hresolve : resolveStaffingEventPayload O T t payload = .ok event) :
    HeadcountBounded (T.shiftsOf t) event ↔ ∀ n, givenInt payload "headcount" = some n →
      |n - startingHeadcount O (T.shiftsOf t) payload| ≤ maxHeadcountDelta := by
  obtain ⟨delta, count, hevent⟩ := resolveStaffing_spec hresolve
  obtain ⟨v, hv, hint⟩ := hevent.delta_eq
  have hbound := critique_staffing_bound hv hint hcritic happroved
  have hcurrent := hevent.currentHeadcount_eq
    (hids.sublist (List.filter_sublist.map StaffShift.id))
  have hcount := hevent.count_eq
  rw [HeadcountBounded, hcurrent, hevent.headcount_field]
  cases hgiven : givenInt payload "headcount" with
  | none =>
    rw [hgiven, Option.getD_none] at hcount
    refine iff_of_true ⟨count, rfl, ?_⟩ (fun n hn => nomatch hn)
    rw [hcount, add_sub_cancel_left]
    exact hbound
  | some n =>
    rw [hgiven, Option.getD_some] at hcount
    subst hcount
    constructor
    · rintro ⟨m, hm, hle⟩ n' hn'
      rw [← Option.some.inj hn', Value.int.inj hm]
      exact hle
    · intro h
      exact ⟨count, rfl, h count rfl⟩

end Bounded

/-! ### A shift for a hundred -/

/-- A waiter on Monday, a chef on Tuesday. -/
def shiftTables : Tables :=
  { Tables.empty with staffShifts := [⟨"s1", "t", "waiter", 0, 2⟩, ⟨"s2", "t", "chef", 1, 3⟩] }

def hundredWaiters : Dict := [(.str "headcount_delta", .int 1), (.str "headcount", .int 100)]

theorem hundred_waiters_approved : ∃ verdict event,
    critique (.prescribed []) .staffingChange hundredWaiters none = .ok verdict ∧
      verdict.approved = true ∧
      resolveStaffingEventPayload (.prescribed []) shiftTables "t" hundredWaiters = .ok event ∧
      ¬HeadcountBounded (shiftTables.shiftsOf "t") event := by
  refine ⟨⟨true, "Within staffing-change bounds."⟩, [(.str "staff_shift_id", .str "s1"),
    (.str "role", .str "waiter"), (.str "day_of_week", .int 0), (.str "headcount", .int 100)],
    by decide +kernel, rfl, rfl, ?_⟩
  rintro ⟨n, hn, hle⟩
  obtain rfl := Value.int.inj hn
  exact absurd hle (by decide)

def twoMoreWaiters : Dict := [(.str "headcount_delta", .int 2)]

theorem two_more_waiters_bounded : ∃ event,
    resolveStaffingEventPayload (.prescribed []) shiftTables "t" twoMoreWaiters = .ok event ∧
      HeadcountBounded (shiftTables.shiftsOf "t") event :=
  ⟨_, rfl, (staffing_bounded_iff (.prescribed []) shiftTables "t" twoMoreWaiters _ none
    ⟨true, "Within staffing-change bounds."⟩ (by decide) (by decide +kernel) rfl rfl).mpr
    (fun _ h => nomatch h)⟩

end OpsCopilot
