import OpsCopilot.Proofs.SubmitSteps

/-!
# When no accepted request is stranded

A row is committed before its message is published, and a resubmission is answered from the
row alone. The answer is backed by a message as long as nobody looks a row up whose creator
has not come back from publishing.
-/

namespace OpsCopilot

open Python Interleaving

section

variable {ι : Type*}

/-- Every accepted response is backed by a published message. -/
def NoneStranded (sub : ι → Submission) (c : Config ι Intake SubmitPhase) : Prop :=
  ∀ i response, c.proc i = .returned response →
    ((sub i).tenantId, response.requestId) ∈ c.shared.published

/-- The call has committed the row `id` and not come back from publishing, or never will. -/
def SubmitPhase.Unpublished (id : String) (p : SubmitPhase) : Prop :=
  p = .committed id ∨ p = .failed (some id)

/-- Whenever a call looks for its row, the calls with the same key that have committed a row
have published its message. -/
def LooksUpPublished (sub : ι → Submission) (c : Config ι Intake SubmitPhase) (i : ι)
    (a : SubmitAction) : Prop :=
  a = .lookup ∨ a = .requery → ∀ j id, (sub j).SameKey (sub i) → (c.proc j).Unpublished id →
    ((sub j).tenantId, id) ∈ c.shared.published

/-- A row without a message belongs to a call that has not come back from publishing. -/
structure Backed (sub : ι → Submission) (c : Config ι Intake SubmitPhase) : Prop where
  inserted : ∀ i row, c.proc i = .inserted row → (sub i).names row = true
  rows : ∀ row ∈ c.shared.rows, (row.tenantId, row.id) ∈ c.shared.published ∨
    ∃ i, (sub i).names row = true ∧ (c.proc i).Unpublished row.id
  returned : NoneStranded sub c

end

section Moves

variable {enforced : Bool} {s : Submission} {a : SubmitAction} {g g' : Intake}
  {p p' : SubmitPhase}

lemma SubmitMove.published (h : SubmitMove enforced s a g p g' p') {m : String × String}
    (hm : m ∈ g.published) : m ∈ g'.published := by
  cases h with
  | publish => exact List.mem_cons_of_mem _ hm
  | publishFails =>
    split_ifs
    · exact List.mem_cons_of_mem _ hm
    · exact hm
  | refuse _ | absent _ | found _ | ambiguous _ | conflict _ | insert _ | commit | rollback
  | refound _ | lost | undo | fault _ _ => exact hm

lemma SubmitMove.rows (h : SubmitMove enforced s a g p g' p') :
    g'.rows = g.rows ∨ ∃ row, p = .inserted row ∧ p' = .committed row.id ∧
      g'.rows = row :: g.rows := by
  cases h with
  | @commit _ row => exact .inr ⟨row, rfl, rfl, rfl⟩
  | publishFails =>
    split_ifs
    · exact .inl rfl
    · exact .inl rfl
  | refuse _ | absent _ | found _ | ambiguous _ | conflict _ | insert _ | rollback | refound _
  | lost | publish | undo | fault _ _ => exact .inl rfl

lemma SubmitMove.inserted (h : SubmitMove enforced s a g p g' p') {row : RequestRow}
    (hp' : p' = .inserted row) : s.names row = true := by
  cases h with
  | @insert _ id _ =>
    obtain rfl := SubmitPhase.inserted.inj hp'
    exact s.names_row id
  | refuse _ | absent _ | found _ | ambiguous _ | conflict _ | commit | rollback | refound _
  | lost | publish | publishFails | undo | fault _ _ => exact absurd hp' (by simp)

/-- A call that has committed its row publishes it or stays without. -/
lemma SubmitMove.unpublished (h : SubmitMove enforced s a g p g' p') {id : String}
    (hp : p.Unpublished id) : p'.Unpublished id ∨ (s.tenantId, id) ∈ g'.published := by
  rcases hp with rfl | rfl
  · cases h with
    | publish => exact .inr List.mem_cons_self
    | publishFails => exact .inl (.inr rfl)
    | fault _ hcreated => exact .inl (.inr (by rw [hcreated id rfl]))
  · cases h with
    | fault hlive _ => exact absurd hlive (by simp [SubmitPhase.ended])

/-- A call returns a row that it has found or published. -/
lemma SubmitMove.returned (h : SubmitMove enforced s a g p g' p')
    {response : ActionAcceptedResponse} (hp' : p' = .returned response) :
    (s.tenantId, response.requestId) ∈ g'.published ∨
      (a = .lookup ∨ a = .requery) ∧ g'.published = g.published ∧
        ∃ row ∈ g.rows, s.names row = true ∧ response = row.response := by
  cases h with
  | @found _ row hrows =>
    have hmem := Intake.mem_rowsFor.mp (hrows ▸ List.mem_cons_self)
    exact .inr ⟨.inl rfl, rfl, row, hmem.1, hmem.2, (SubmitPhase.returned.inj hp').symm⟩
  | @refound _ row hrow =>
    have hmem := Intake.mem_rowsFor.mp (List.mem_filter.mp hrow).1
    exact .inr ⟨.inr rfl, rfl, row, hmem.1, hmem.2, (SubmitPhase.returned.inj hp').symm⟩
  | publish =>
    obtain rfl := SubmitPhase.returned.inj hp'
    exact .inl List.mem_cons_self
  | refuse _ | absent _ | ambiguous _ | conflict _ | insert _ | commit | rollback | lost
  | publishFails | undo | fault _ _ => exact absurd hp' (by simp)

end Moves

section Runs

variable {ι : Type*} [DecidableEq ι] {enforced : Bool} {sub : ι → Submission}
  {c d : Config ι Intake SubmitPhase} {i : ι} {a : SubmitAction} {g' : Intake} {p' : SubmitPhase}

omit [DecidableEq ι] in
lemma backed_start : Backed sub (Intake.start : Config ι Intake SubmitPhase) :=
  ⟨fun _ _ h => absurd h (by simp [Intake.start]),
    fun _ h => absurd h (by simp [Intake.start, Intake.empty]),
    fun _ _ h => absurd h (by simp [Intake.start])⟩

lemma Backed.rows_step (hc : Backed sub c)
    (hmove : SubmitMove enforced (sub i) a c.shared (c.proc i) g' p') {row : RequestRow}
    (hrow : row ∈ g'.rows) : (row.tenantId, row.id) ∈ g'.published ∨
      ∃ j, (sub j).names row = true ∧ (Function.update c.proc i p' j).Unpublished row.id := by
  have hold : row ∈ c.shared.rows → (row.tenantId, row.id) ∈ g'.published ∨
      ∃ j, (sub j).names row = true ∧ (Function.update c.proc i p' j).Unpublished row.id := by
    intro hrow
    rcases hc.rows row hrow with hpublished | ⟨j, hnames, hj⟩
    · exact .inl (hmove.published hpublished)
    · by_cases hji : j = i
      · subst hji
        rcases hmove.unpublished hj with hstill | hpublished
        · exact .inr ⟨j, hnames, by rwa [Function.update_self]⟩
        · rw [← (Submission.names_iff.mp hnames).1] at hpublished
          exact .inl hpublished
      · exact .inr ⟨j, hnames, by rwa [Function.update_of_ne hji]⟩
  rcases hmove.rows with heq | ⟨new, hp, hp', heq⟩
  · exact hold (heq ▸ hrow)
  · rw [heq] at hrow
    rcases List.mem_cons.mp hrow with rfl | hrow
    · exact .inr ⟨i, hc.inserted i row hp, by rw [Function.update_self, hp']; exact .inl rfl⟩
    · exact hold hrow

lemma Backed.returned_step (hc : Backed sub c) (hok : LooksUpPublished sub c i a)
    (hmove : SubmitMove enforced (sub i) a c.shared (c.proc i) g' p') {j : ι}
    {response : ActionAcceptedResponse}
    (hj : Function.update c.proc i p' j = .returned response) :
    ((sub j).tenantId, response.requestId) ∈ g'.published := by
  by_cases hji : j = i
  · subst hji
    rw [Function.update_self] at hj
    rcases hmove.returned hj with hpublished | ⟨hlooks, heq, row, hrow, hnames, rfl⟩
    · exact hpublished
    · have htenant := (Submission.names_iff.mp hnames).1
      rw [heq]
      rcases hc.rows row hrow with hpublished | ⟨k, hk, hunpublished⟩
      · rw [htenant] at hpublished
        exact hpublished
      · have hkey := Submission.names_iff.mp hk
        have hkey' := Submission.names_iff.mp hnames
        have hmem := hok hlooks k row.id ⟨hkey.1.symm.trans hkey'.1, hkey.2.symm.trans hkey'.2⟩
          hunpublished
        rw [← hkey.1, htenant] at hmem
        exact hmem
  · rw [Function.update_of_ne hji] at hj
    exact hmove.published (hc.returned j response hj)

theorem Backed.step (hc : Backed sub c) (hok : LooksUpPublished sub c i a)
    (hfire : (submitCalls enforced sub).fire c i a = some d) : Backed sub d := by
  obtain ⟨g', p', hstep, rfl⟩ := ((submitCalls enforced sub).fire_eq_some).mp hfire
  have hmove := submitMove_of_step hstep
  refine ⟨fun j row hj => ?_, fun row hrow => hc.rows_step hmove hrow,
    fun j response hj => hc.returned_step hok hmove hj⟩
  change Function.update c.proc i p' j = _ at hj
  by_cases hji : j = i
  · subst hji
    rw [Function.update_self] at hj
    exact hmove.inserted hj
  · rw [Function.update_of_ne hji] at hj
    exact hc.inserted j row hj

/-- No accepted request is stranded in any run in which every look for a row comes after the
publication of the rows committed for that key. -/
theorem noneStranded_of_looksUpPublished {schedule : List (ι × SubmitAction)}
    (hok : (submitCalls enforced sub).Along (LooksUpPublished sub) Intake.start schedule)
    (hrun : (submitCalls enforced sub).run Intake.start schedule = some c) :
    NoneStranded sub c :=
  ((submitCalls enforced sub).run_invariant (fun _ _ _ _ h hstep hfire => h.step hstep hfire)
    backed_start hok hrun).returned

end Runs

/-! ### A publication that fails -/

/-- One client sends the same request again and again. -/
def resubmitted (_ : Fin 2) : Submission :=
  ⟨"t", "k", "price_change", [(.str "menu_item_id", .str "m1"), (.str "new_price", .int 9)]⟩

/-- The queue is down for call 0, and the client retries as call 1. -/
theorem failed_publish_stranded : ∃ c, (submitCalls true resubmitted).run Intake.start
    [(0, .lookup), (0, .insert "w"), (0, .commit), (0, .publishFails false), (1, .lookup)] = some c ∧
      ¬NoneStranded resubmitted c := by
  refine ⟨_, rfl, fun h => ?_⟩
  exact absurd (h 1 ⟨"w", .pending, "k"⟩ rfl) List.not_mem_nil

def publishedFirst : List (Fin 2 × SubmitAction) :=
  [(0, .lookup), (0, .insert "w"), (0, .commit), (0, .publish), (1, .lookup)]

lemma looksUpPublished_of_write {i : Fin 2} {c : Config (Fin 2) Intake SubmitPhase}
    {a : SubmitAction} (ha : a ≠ .lookup ∧ a ≠ .requery) : LooksUpPublished resubmitted c i a :=
  fun h => absurd h (by simp [ha.1, ha.2])

theorem resubmission_not_stranded :
    ∃ c, (submitCalls true resubmitted).run Intake.start publishedFirst = some c ∧
      NoneStranded resubmitted c := by
  have hrun : (submitCalls true resubmitted).run Intake.start publishedFirst = some _ := rfl
  refine ⟨_, hrun, noneStranded_of_looksUpPublished ?_ hrun⟩
  refine Program.along_cons _ (fun _ j id _ h => ?_) rfl ?_
  · rcases h with h | h <;> exact SubmitPhase.noConfusion h
  refine Program.along_cons _ (looksUpPublished_of_write (by simp)) rfl ?_
  refine Program.along_cons _ (looksUpPublished_of_write (by simp)) rfl ?_
  refine Program.along_cons _ (looksUpPublished_of_write (by simp)) rfl ?_
  refine Program.along_cons _ (fun _ j id _ h => ?_) rfl trivial
  match j with
  | 0 | 1 => rcases h with h | h <;> exact SubmitPhase.noConfusion h

end OpsCopilot
