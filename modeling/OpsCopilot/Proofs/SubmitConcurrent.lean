import Mathlib.Data.Fintype.EquivFin
import OpsCopilot.Proofs.SubmitStranded

/-!
# When concurrent submissions agree

The loser of the race for a key rolls back, which also undoes the `SET LOCAL` of its tenant,
so that its second query sees no row. The calls agree as long as nobody looks a key up while
another call is between its own lookup and its commit.
-/

namespace OpsCopilot

open Python Interleaving

/-- Between an empty lookup and the commit. -/
def SubmitPhase.inWindow : SubmitPhase → Bool
  | .absent | .inserted _ => true
  | _ => false

section

variable {ι : Type*} [DecidableEq ι]

/-- By its own steps, call `i` answers with the id of the one row of its key, whose message has
then been published exactly once. -/
def ComesToAnswer (sub : ι → Submission) (c : Config ι Intake SubmitPhase) (i : ι) : Prop :=
  ∃ actions d row status, (submitCalls true sub).run c (own i actions) = some d ∧
    d.shared.rowsFor (sub i) = [row] ∧
    d.proc i = .returned ⟨row.id, status, (sub i).idempotencyKey⟩ ∧
    d.shared.published.count ((sub i).tenantId, row.id) = 1

/-- No call looks a key up while another one is in its window for that key. -/
def LooksUpAlone (sub : ι → Submission) (c : Config ι Intake SubmitPhase) (i : ι)
    (a : SubmitAction) : Prop :=
  a = .lookup → ∀ j, (sub j).SameKey (sub i) → (c.proc j).inWindow = false

/-- What a call may rely on in a phase. -/
def SubmitPhase.Sound (s : Submission) (g : Intake) : SubmitPhase → Prop
  | .idle => True
  | .absent => g.rowsFor s = []
  | .inserted row => g.rowsFor s = [] ∧ ∃ id, row = s.row id ∧ row ∈ g.flushed
  | .committed id => s.row id ∈ g.rows ∧ (s.tenantId, id) ∉ g.published
  | .returned response => ∃ row ∈ g.rows, s.names row = true ∧ response.requestId = row.id ∧
      response.idempotencyKey = s.idempotencyKey
  | .conflicted | .rolledBack | .failed _ => False

/-- The tables hold one row a key, and messages only for their rows. -/
structure Intake.Sound (g : Intake) : Prop where
  ids : ((g.rows ++ g.flushed).map RequestRow.id).Nodup
  one : g.rows.Pairwise (fun row row' =>
    ¬(row.tenantId = row'.tenantId ∧ row.idempotencyKey = row'.idempotencyKey))
  messages : ∀ m ∈ g.published, ∃ row ∈ g.rows, m = (row.tenantId, row.id)

structure Submits (sub : ι → Submission) (c : Config ι Intake SubmitPhase) : Prop where
  table : c.shared.Sound
  sound : ∀ i, (c.proc i).Sound (sub i) c.shared
  window : ∀ i j, (c.proc i).inWindow = true → (c.proc j).inWindow = true →
    (sub i).SameKey (sub j) → i = j
  creator : ∀ i j id, c.proc i = .committed id → c.proc j = .committed id → i = j
  published : ∀ row ∈ c.shared.rows,
    c.shared.published.count (row.tenantId, row.id) = 1 ∨
      c.shared.published.count (row.tenantId, row.id) = 0 ∧
        ∃ i, c.proc i = .committed row.id ∧ (sub i).names row = true
  flushed : ∀ row ∈ c.shared.flushed, ∃ i, c.proc i = .inserted row

end

/-! ### The tables -/

lemma Intake.Sound.eq_of_id {g : Intake} (hg : g.Sound) {row row' : RequestRow}
    (h : row ∈ g.rows) (h' : row' ∈ g.rows) (hid : row.id = row'.id) : row = row' := by
  have hids := hg.ids
  rw [List.map_append] at hids
  exact List.inj_on_of_nodup_map (List.nodup_append.mp hids).1 h h' hid

lemma filter_names_eq {s : Submission} {row : RequestRow} (hnames : s.names row = true)
    {rows : List RequestRow} (h : row ∈ rows) (hone : rows.Pairwise (fun row row' =>
      ¬(row.tenantId = row'.tenantId ∧ row.idempotencyKey = row'.idempotencyKey))) :
    rows.filter s.names = [row] := by
  have hkey := Submission.names_iff.mp hnames
  induction rows with
  | nil => exact absurd h List.not_mem_nil
  | cons r rows ih =>
    rw [List.pairwise_cons] at hone
    rcases List.mem_cons.mp h with rfl | h
    · have hrest : rows.filter s.names = [] := by
        refine List.filter_eq_nil_iff.mpr (fun r hr hnames' => ?_)
        have hkey' := Submission.names_iff.mp hnames'
        exact hone.1 r hr ⟨hkey.1.trans hkey'.1.symm, hkey.2.trans hkey'.2.symm⟩
      rw [List.filter_cons_of_pos hnames, hrest]
    · have hother : ¬s.names r = true := by
        intro hnames'
        have hkey' := Submission.names_iff.mp hnames'
        exact hone.1 row h ⟨hkey'.1.trans hkey.1.symm, hkey'.2.trans hkey.2.symm⟩
      rw [List.filter_cons_of_neg hother]
      exact ih h hone.2

/-- A named row is the only one of its key. -/
lemma Intake.Sound.rowsFor_eq {g : Intake} (hg : g.Sound) {s : Submission} {row : RequestRow}
    (h : row ∈ g.rows) (hnames : s.names row = true) : g.rowsFor s = [row] :=
  filter_names_eq hnames h hg.one

lemma Intake.rowsFor_eq_nil {g : Intake} {s : Submission} :
    g.rowsFor s = [] ↔ ∀ row ∈ g.rows, s.names row = false := by
  simp only [Intake.rowsFor, List.filter_eq_nil_iff, Bool.not_eq_true]

/-- A flushed row shares its id with no other row. -/
lemma Intake.Sound.id_ne {g : Intake} (hg : g.Sound) {row row' : RequestRow}
    (h : row ∈ g.flushed) (h' : row' ∈ g.rows) : row'.id ≠ row.id := by
  have hids := hg.ids
  rw [List.map_append] at hids
  exact (List.nodup_append.mp hids).2.2 _ (List.mem_map_of_mem h') _ (List.mem_map_of_mem h)

lemma Intake.Sound.eq_of_flushed_id {g : Intake} (hg : g.Sound) {row row' : RequestRow}
    (h : row ∈ g.flushed) (h' : row' ∈ g.flushed) (hid : row.id = row'.id) : row = row' := by
  have hids := hg.ids
  rw [List.map_append] at hids
  exact List.inj_on_of_nodup_map (List.nodup_append.mp hids).2.1 h h' hid

lemma Intake.Sound.insert {g : Intake} (hg : g.Sound) {row : RequestRow}
    (hfresh : ∀ r ∈ g.rows ++ g.flushed, r.id ≠ row.id) :
    ({ g with flushed := row :: g.flushed } : Intake).Sound where
  ids := by
    have hperm : ((g.rows ++ row :: g.flushed).map RequestRow.id).Perm
        ((row :: (g.rows ++ g.flushed)).map RequestRow.id) := List.perm_middle.map _
    rw [hperm.nodup_iff, List.map_cons, List.nodup_cons]
    refine ⟨fun hmem => ?_, hg.ids⟩
    obtain ⟨r, hr, hid⟩ := List.mem_map.mp hmem
    exact hfresh r hr hid
  one := hg.one
  messages := hg.messages

lemma Intake.Sound.commit {g : Intake} (hg : g.Sound) {s : Submission} {row : RequestRow}
    (hflushed : row ∈ g.flushed) (hnames : s.names row = true) (hnone : g.rowsFor s = []) :
    ({ g with rows := row :: g.rows, flushed := g.flushed.filter (fun r => r.id ≠ row.id) } :
      Intake).Sound where
  ids := by
    rw [List.cons_append, List.map_cons, List.nodup_cons]
    constructor
    · intro hmem
      obtain ⟨r, hr, hid⟩ := List.mem_map.mp hmem
      rcases List.mem_append.mp hr with hr | hr
      · exact hg.id_ne hflushed hr hid
      · exact absurd hid (by simpa using (List.mem_filter.mp hr).2)
    · have hsub : (g.rows ++ g.flushed.filter (fun r => r.id ≠ row.id)).Sublist
          (g.rows ++ g.flushed) := List.Sublist.append_left List.filter_sublist g.rows
      exact (hsub.map _).nodup hg.ids
  one := by
    refine List.pairwise_cons.mpr ⟨fun r hr hkey => ?_, hg.one⟩
    have hrow := Submission.names_iff.mp hnames
    have hnot := Intake.rowsFor_eq_nil.mp hnone r hr
    rw [Submission.names_iff.mpr ⟨hkey.1.symm.trans hrow.1, hkey.2.symm.trans hrow.2⟩] at hnot
    exact Bool.noConfusion hnot
  messages m hm := by
    obtain ⟨r, hr, heq⟩ := hg.messages m hm
    exact ⟨r, List.mem_cons_of_mem _ hr, heq⟩

lemma Intake.Sound.publish {g : Intake} (hg : g.Sound) {row : RequestRow} (hrow : row ∈ g.rows) :
    ({ g with published := (row.tenantId, row.id) :: g.published } : Intake).Sound where
  ids := hg.ids
  one := hg.one
  messages m hm := by
    rcases List.mem_cons.mp hm with rfl | hm
    · exact ⟨row, hrow, rfl⟩
    · exact hg.messages m hm

/-! ### The steps -/

section Steps

variable {ι : Type*} [DecidableEq ι] {sub : ι → Submission} {c d : Config ι Intake SubmitPhase}
  {i : ι} {a : SubmitAction} {g' : Intake} {p' : SubmitPhase}

/-- The parts of the invariant that a step of call `i` has to restore. -/
lemma Submits.frame (hc : Submits sub c) (htable : g'.Sound) (hown : p'.Sound (sub i) g')
    (hothers : ∀ j, j ≠ i → (c.proc j).Sound (sub j) g')
    (hwindow : p'.inWindow = true → ∀ j, j ≠ i → (sub j).SameKey (sub i) →
      (c.proc j).inWindow = false)
    (hcreator : ∀ id j, p' = .committed id → j ≠ i → c.proc j ≠ .committed id)
    (hpublished : ∀ row ∈ g'.rows, g'.published.count (row.tenantId, row.id) = 1 ∨
      g'.published.count (row.tenantId, row.id) = 0 ∧
        ∃ j, Function.update c.proc i p' j = .committed row.id ∧ (sub j).names row = true)
    (hflushed : ∀ row ∈ g'.flushed, p' = .inserted row ∨
      row ∈ c.shared.flushed ∧ c.proc i ≠ .inserted row) :
    Submits sub ⟨g', Function.update c.proc i p'⟩ := by
  refine ⟨htable, fun j => ?_, fun j k hj hk hsame => ?_, fun j k id hj hk => ?_, hpublished,
    fun row hrow => ?_⟩
  · change (Function.update c.proc i p' j).Sound (sub j) g'
    by_cases hji : j = i
    · subst hji
      rwa [Function.update_self]
    · rw [Function.update_of_ne hji]
      exact hothers j hji
  · change (Function.update c.proc i p' j).inWindow = true at hj
    change (Function.update c.proc i p' k).inWindow = true at hk
    by_cases hji : j = i <;> by_cases hki : k = i
    · rw [hji, hki]
    · subst hji
      rw [Function.update_self] at hj
      rw [Function.update_of_ne hki, hwindow hj k hki hsame.symm] at hk
      exact Bool.noConfusion hk
    · subst hki
      rw [Function.update_self] at hk
      rw [Function.update_of_ne hji, hwindow hk j hji hsame] at hj
      exact Bool.noConfusion hj
    · rw [Function.update_of_ne hji] at hj
      rw [Function.update_of_ne hki] at hk
      exact hc.window j k hj hk hsame
  · change Function.update c.proc i p' j = _ at hj
    change Function.update c.proc i p' k = _ at hk
    by_cases hji : j = i <;> by_cases hki : k = i
    · rw [hji, hki]
    · subst hji
      rw [Function.update_self] at hj
      rw [Function.update_of_ne hki] at hk
      exact absurd hk (hcreator id k hj hki)
    · subst hki
      rw [Function.update_self] at hk
      rw [Function.update_of_ne hji] at hj
      exact absurd hj (hcreator id j hk hji)
    · rw [Function.update_of_ne hji] at hj
      rw [Function.update_of_ne hki] at hk
      exact hc.creator j k id hj hk
  · rcases hflushed row hrow with rfl | ⟨hold, hi⟩
    · exact ⟨i, Function.update_self ..⟩
    · obtain ⟨j, hj⟩ := hc.flushed row hold
      have hji : j ≠ i := by
        rintro rfl
        exact hi hj
      exact ⟨j, (Function.update_of_ne hji ..).trans hj⟩

/-- A row without a message keeps its creator while another call moves. -/
lemma Submits.creator_kept (hc : Submits sub c) {row : RequestRow} (hrow : row ∈ c.shared.rows)
    (hi : c.proc i ≠ .committed row.id) :
    c.shared.published.count (row.tenantId, row.id) = 1 ∨
      c.shared.published.count (row.tenantId, row.id) = 0 ∧
        ∃ j, Function.update c.proc i p' j = .committed row.id ∧ (sub j).names row = true := by
  rcases hc.published row hrow with hone | ⟨hzero, j, hj, hnames⟩
  · exact .inl hone
  · have hji : j ≠ i := by
      rintro rfl
      exact hi hj
    exact .inr ⟨hzero, j, by rwa [Function.update_of_ne hji], hnames⟩

/-- A lookup that changes nothing but the phase of its call. -/
lemma Submits.lookup (hc : Submits sub c) (hi : c.proc i = .idle)
    (hown : p'.Sound (sub i) c.shared) (hcommitted : ∀ id, p' ≠ .committed id)
    (hwindow : ∀ j, (sub j).SameKey (sub i) → (c.proc j).inWindow = false) :
    Submits sub ⟨c.shared, Function.update c.proc i p'⟩ :=
  hc.frame hc.table hown (fun j _ => hc.sound j) (fun _ j _ hsame => hwindow j hsame)
    (fun id _ h => absurd h (hcommitted id))
    (fun row hrow => hc.creator_kept hrow (by rw [hi]; simp))
    (fun row hrow => .inr ⟨hrow, by rw [hi]; simp⟩)

lemma Submits.insert (hc : Submits sub c) {id : String} (hi : c.proc i = .absent)
    (hfresh : ∀ row ∈ c.shared.rows ++ c.shared.flushed, row.id ≠ id) :
    Submits sub ⟨{ c.shared with flushed := (sub i).row id :: c.shared.flushed },
      Function.update c.proc i (.inserted ((sub i).row id))⟩ := by
  have hsound := hc.sound i
  rw [hi] at hsound
  refine hc.frame (hc.table.insert hfresh) ⟨hsound, id, rfl, List.mem_cons_self⟩
    (fun j _ => ?_) (fun _ j hji hsame => ?_) (fun _ _ h => absurd h (by simp))
    (fun row hrow => hc.creator_kept hrow (by rw [hi]; simp)) (fun row hrow => ?_)
  · have hj := hc.sound j
    match hp : c.proc j with
    | .inserted row =>
      rw [hp] at hj
      obtain ⟨hrows, id', hrow, hmem⟩ := hj
      exact ⟨hrows, id', hrow, List.mem_cons_of_mem _ hmem⟩
    | .idle | .absent | .committed _ | .returned _ | .conflicted | .rolledBack | .failed _ =>
      rw [hp] at hj
      exact hj
  · cases hj : (c.proc j).inWindow with
    | false => rfl
    | true => exact absurd (hc.window j i hj (by rw [hi]; rfl) hsame) hji
  · rcases List.mem_cons.mp hrow with rfl | hrow
    · exact .inl rfl
    · exact .inr ⟨hrow, by rw [hi]; simp⟩

omit [DecidableEq ι] in
/-- The other calls are not disturbed by the commit of call `i`. -/
lemma Submits.commit_others (hc : Submits sub c) {id : String} {j : ι} (hji : j ≠ i)
    (hi : c.proc i = .inserted ((sub i).row id)) :
    (c.proc j).Sound (sub j)
      { c.shared with
        rows := (sub i).row id :: c.shared.rows
        flushed := c.shared.flushed.filter (fun r => r.id ≠ ((sub i).row id).id) } := by
  have hnotOurs : (c.proc j).inWindow = true → (sub j).names ((sub i).row id) = false := by
    intro hj
    refine Bool.eq_false_iff.mpr (fun hnames => hji ?_)
    have hkey := Submission.names_iff.mp hnames
    exact hc.window j i hj (by rw [hi]; rfl) ⟨hkey.1.symm, hkey.2.symm⟩
  have hnone : (c.proc j).inWindow = true → c.shared.rowsFor (sub j) = [] →
      ((sub i).row id :: c.shared.rows).filter (sub j).names = [] := by
    intro hj hrows
    rw [List.filter_cons_of_neg (by simp [hnotOurs hj])]
    exact hrows
  have hj := hc.sound j
  have hsound := hc.sound i
  rw [hi] at hsound
  obtain ⟨-, -, -, hmine⟩ := hsound
  match hp : c.proc j with
  | .absent =>
    rw [hp] at hj
    exact hnone (by rw [hp]; rfl) hj
  | .inserted row =>
    rw [hp] at hj
    obtain ⟨hrows, id', rfl, hmem⟩ := hj
    refine ⟨hnone (by rw [hp]; rfl) hrows, id', rfl, List.mem_filter.mpr ⟨hmem, ?_⟩⟩
    refine decide_eq_true (fun hid => ?_)
    have hsame := hc.table.eq_of_flushed_id hmem hmine hid
    have hours := hnotOurs (by rw [hp]; rfl)
    rw [← hsame, Submission.names_row] at hours
    exact Bool.noConfusion hours
  | .committed id' =>
    rw [hp] at hj
    exact ⟨List.mem_cons_of_mem _ hj.1, hj.2⟩
  | .returned response =>
    rw [hp] at hj
    obtain ⟨row, hrow, hresponse⟩ := hj
    exact ⟨row, List.mem_cons_of_mem _ hrow, hresponse⟩
  | .idle => trivial
  | .conflicted | .rolledBack | .failed _ =>
    rw [hp] at hj
    exact hj.elim

lemma Submits.commit (hc : Submits sub c) {row : RequestRow} (hi : c.proc i = .inserted row) :
    Submits sub ⟨{ c.shared with
        rows := row :: c.shared.rows
        flushed := c.shared.flushed.filter (fun r => r.id ≠ row.id) },
      Function.update c.proc i (.committed row.id)⟩ := by
  have hsound := hc.sound i
  rw [hi] at hsound
  obtain ⟨hnone, id, rfl, hflushed⟩ := hsound
  have hunpublished : ((sub i).tenantId, id) ∉ c.shared.published := by
    intro hmem
    obtain ⟨r, hr, heq⟩ := hc.table.messages _ hmem
    exact hc.table.id_ne hflushed hr (congrArg Prod.snd heq).symm
  refine hc.frame (hc.table.commit hflushed ((sub i).names_row id) hnone)
    ⟨List.mem_cons_self, hunpublished⟩ (fun j hji => hc.commit_others hji hi)
    (fun h => absurd h (by simp [SubmitPhase.inWindow])) (fun id' j hid hji hj => ?_)
    (fun r hr => ?_) (fun r hr => ?_)
  · obtain rfl := SubmitPhase.committed.inj hid
    have hjsound := hc.sound j
    rw [hj] at hjsound
    exact hc.table.id_ne hflushed hjsound.1 rfl
  · rcases List.mem_cons.mp hr with rfl | hr
    · exact .inr ⟨List.count_eq_zero.mpr hunpublished, i, Function.update_self ..,
        (sub i).names_row id⟩
    · exact hc.creator_kept hr (by rw [hi]; simp)
  · obtain ⟨hold, hid⟩ := List.mem_filter.mp hr
    refine .inr ⟨hold, fun h => ?_⟩
    rw [hi, SubmitPhase.inserted.injEq] at h
    exact absurd hid (by simp [h])

lemma Submits.publish (hc : Submits sub c) {id : String} (hi : c.proc i = .committed id) :
    Submits sub ⟨{ c.shared with published := ((sub i).tenantId, id) :: c.shared.published },
      Function.update c.proc i (.returned ⟨id, .pending, (sub i).idempotencyKey⟩)⟩ := by
  have hsound := hc.sound i
  rw [hi] at hsound
  refine hc.frame (hc.table.publish hsound.1)
    ⟨_, hsound.1, (sub i).names_row id, rfl, rfl⟩ (fun j hji => ?_)
    (fun h => absurd h (by simp [SubmitPhase.inWindow])) (fun _ _ h => absurd h (by simp))
    (fun row hrow => ?_) (fun row hrow => .inr ⟨hrow, by rw [hi]; simp⟩)
  · have hj := hc.sound j
    match hp : c.proc j with
    | .committed id' =>
      rw [hp] at hj
      refine ⟨hj.1, fun hmem => ?_⟩
      rcases List.mem_cons.mp hmem with heq | hmem
      · obtain rfl : id' = id := congrArg Prod.snd heq
        exact hji (hc.creator j i id' hp hi)
      · exact hj.2 hmem
    | .idle | .absent | .inserted _ | .returned _ | .conflicted | .rolledBack | .failed _ =>
      rw [hp] at hj
      exact hj
  · by_cases hid : row.id = id
    · have hrow' : row = (sub i).row id := hc.table.eq_of_id hrow hsound.1 hid
      refine .inl ?_
      subst hrow'
      change List.count ((sub i).tenantId, id) (((sub i).tenantId, id) :: _) = 1
      rw [List.count_cons_self, List.count_eq_zero.mpr hsound.2]
    · have hother : (row.tenantId, row.id) ≠ ((sub i).tenantId, id) :=
        fun h => hid (congrArg Prod.snd h)
      rw [List.count_cons_of_ne hother.symm]
      exact hc.creator_kept hrow (by rw [hi]; simpa using Ne.symm hid)

theorem Submits.step (hvalid : ∀ i, ActionType.ofValue (sub i).actionType ≠ none)
    (hc : Submits sub c) (hok : LooksUpAlone sub c i a ∧ a.faultless = true)
    (hfire : (submitCalls true sub).fire c i a = some d) : Submits sub d := by
  obtain ⟨g', p', hstep, rfl⟩ := ((submitCalls true sub).fire_eq_some).mp hfire
  have hmove := submitMove_of_step hstep
  have hsound := hc.sound i
  generalize hp : c.proc i = p at hmove hsound
  cases hmove with
  | refuse htype => exact absurd htype (hvalid i)
  | absent hnone => exact hc.lookup hp hnone (by simp) (hok.1 rfl)
  | @found _ row hrows =>
    have hmem := Intake.mem_rowsFor.mp (hrows ▸ List.mem_cons_self)
    exact hc.lookup hp ⟨row, hmem.1, hmem.2, rfl, (Submission.names_iff.mp hmem.2).2⟩ (by simp)
      (hok.1 rfl)
  | @ambiguous _ row row' rest hrows =>
    have hmem := Intake.mem_rowsFor.mp (hrows ▸ List.mem_cons_self)
    rw [hc.table.rowsFor_eq hmem.1 hmem.2] at hrows
    exact absurd hrows (by simp)
  | conflict hrow =>
    change c.shared.rowsFor (sub i) = [] at hsound
    rw [hsound] at hrow
    exact absurd hrow List.not_mem_nil
  | insert hfresh => exact hc.insert hp hfresh
  | commit => exact hc.commit hp
  | publish => exact hc.publish hp
  | rollback | refound _ | lost => exact hsound.elim
  | publishFails | undo | fault _ _ => exact absurd hok.2 (by simp [SubmitAction.faultless])

omit [DecidableEq ι] in
lemma Submits.answered (hc : Submits sub c) {i : ι} (hi : (c.proc i).ended = true) :
    ∃ row, c.shared.rowsFor (sub i) = [row] ∧
      (∃ status, c.proc i = .returned ⟨row.id, status, (sub i).idempotencyKey⟩) ∧
      ((∀ j, (sub j).SameKey (sub i) → (c.proc j).started = true → (c.proc j).ended = true) →
        c.shared.published.count ((sub i).tenantId, row.id) = 1) := by
  have hsound := hc.sound i
  match hp : c.proc i with
  | .returned response =>
    rw [hp] at hsound
    obtain ⟨row, hrow, hnames, hid, hkey⟩ := hsound
    refine ⟨row, hc.table.rowsFor_eq hrow hnames, ⟨response.status, ?_⟩, fun hquiet => ?_⟩
    · rw [← hid, ← hkey]
    · rw [← (Submission.names_iff.mp hnames).1]
      rcases hc.published row hrow with hone | ⟨-, j, hj, hnames'⟩
      · exact hone
      · have hrowi := Submission.names_iff.mp hnames
        have hrowj := Submission.names_iff.mp hnames'
        have hended := hquiet j ⟨hrowj.1.symm.trans hrowi.1, hrowj.2.symm.trans hrowi.2⟩
          (by rw [hj]; rfl)
        rw [hj] at hended
        exact Bool.noConfusion hended
  | .failed _ =>
    rw [hp] at hsound
    exact hsound.elim
  | .idle | .absent | .inserted _ | .conflicted | .rolledBack | .committed _ =>
    rw [hp] at hi
    exact Bool.noConfusion hi

/-! ### A call under way -/

lemma ComesToAnswer.cons (hfire : (submitCalls true sub).fire c i a = some d)
    (h : ComesToAnswer sub d i) : ComesToAnswer sub c i := by
  obtain ⟨actions, e, row, status, hrun, he⟩ := h
  exact ⟨a :: actions, e, row, status,
    (submitCalls true sub).run_cons_eq_some.mpr ⟨d, hfire, hrun⟩, he⟩

end Steps

/-! ### Two submissions in a race -/

end OpsCopilot
