import OpsCopilot.Model.Submit

namespace OpsCopilot

open Python Interleaving

def Submission.SameKey (s t : Submission) : Prop :=
  s.tenantId = t.tenantId ∧ s.idempotencyKey = t.idempotencyKey

lemma Submission.SameKey.symm {s t : Submission} (h : s.SameKey t) : t.SameKey s :=
  ⟨h.1.symm, h.2.symm⟩

lemma Submission.names_iff {s : Submission} {row : RequestRow} :
    s.names row = true ↔ row.tenantId = s.tenantId ∧ row.idempotencyKey = s.idempotencyKey := by
  simp [Submission.names]

lemma Submission.names_row (s : Submission) (id : String) : s.names (s.row id) = true :=
  Submission.names_iff.mpr ⟨rfl, rfl⟩

lemma Intake.mem_rowsFor {g : Intake} {s : Submission} {row : RequestRow} :
    row ∈ g.rowsFor s ↔ row ∈ g.rows ∧ s.names row = true := List.mem_filter

/-- Under the tenant of the caller, the policy hides none of the caller's rows. -/
lemma Intake.query_own (g : Intake) (enforced : Bool) (s : Submission) :
    g.query enforced (some s.tenantId) s = g.rowsFor s := by
  refine List.filter_eq_self.mpr (fun row hrow => ?_)
  have htenant := (Submission.names_iff.mp (Intake.mem_rowsFor.mp hrow).2).1
  simp [visible, htenant]

/-- What one step of a call can do. -/
inductive SubmitMove (enforced : Bool) (s : Submission) :
    SubmitAction → Intake → SubmitPhase → Intake → SubmitPhase → Prop
  | refuse {g : Intake} : ActionType.ofValue s.actionType = none →
      SubmitMove enforced s .lookup g .idle g (.failed none)
  | absent {g : Intake} : g.rowsFor s = [] → SubmitMove enforced s .lookup g .idle g .absent
  | found {g : Intake} {row : RequestRow} : g.rowsFor s = [row] →
      SubmitMove enforced s .lookup g .idle g (.returned row.response)
  | ambiguous {g : Intake} {row row' : RequestRow} {rest : List RequestRow} :
      g.rowsFor s = row :: row' :: rest →
      SubmitMove enforced s .lookup g .idle g (.failed none)
  | conflict {g : Intake} {id : String} {row : RequestRow} : row ∈ g.rowsFor s →
      SubmitMove enforced s (.insert id) g .absent g .conflicted
  | insert {g : Intake} {id : String} : (∀ row ∈ g.rows ++ g.flushed, row.id ≠ id) →
      SubmitMove enforced s (.insert id) g .absent { g with flushed := s.row id :: g.flushed }
        (.inserted (s.row id))
  | commit {g : Intake} {row : RequestRow} :
      SubmitMove enforced s .commit g (.inserted row)
        { g with rows := row :: g.rows, flushed := g.flushed.filter (fun r => r.id ≠ row.id) }
        (.committed row.id)
  | rollback {g : Intake} : SubmitMove enforced s .rollback g .conflicted g .rolledBack
  | refound {g : Intake} {row : RequestRow} : row ∈ g.query enforced none s →
      SubmitMove enforced s .requery g .rolledBack g (.returned row.response)
  | lost {g : Intake} : SubmitMove enforced s .requery g .rolledBack g (.failed none)
  | publish {g : Intake} {id : String} :
      SubmitMove enforced s .publish g (.committed id)
        { g with published := (s.tenantId, id) :: g.published }
        (.returned ⟨id, .pending, s.idempotencyKey⟩)
  | publishFails {g : Intake} {id : String} {sent : Bool} :
      SubmitMove enforced s (.publishFails sent) g (.committed id)
        (if sent then { g with published := (s.tenantId, id) :: g.published } else g)
        (.failed (some id))
  | undo {g : Intake} {row : RequestRow} :
      SubmitMove enforced s .fault g (.inserted row)
        { g with flushed := g.flushed.filter (fun r => r.id ≠ row.id) } (.failed none)
  | fault {g : Intake} {p : SubmitPhase} {created : Option String} : p.ended = false →
      (∀ id, p = .committed id → created = some id) →
      SubmitMove enforced s .fault g p g (.failed created)

theorem submitMove_of_step {enforced : Bool} {s : Submission} {a : SubmitAction} {g g' : Intake}
    {p p' : SubmitPhase} (h : submitStep enforced s a g p = some (g', p')) :
    SubmitMove enforced s a g p g' p' := by
  unfold submitStep at h
  split at h
  · rw [Intake.query_own] at h
    split_ifs at h with htype
    · rw [Option.some.injEq, Prod.mk.injEq] at h
      obtain ⟨rfl, rfl⟩ := h
      exact .refuse htype
    · match hrows : g.rowsFor s with
      | [] =>
        simp only [hrows, Option.some.injEq, Prod.mk.injEq] at h
        obtain ⟨rfl, rfl⟩ := h
        exact .absent hrows
      | [row] =>
        simp only [hrows, Option.some.injEq, Prod.mk.injEq] at h
        obtain ⟨rfl, rfl⟩ := h
        exact .found hrows
      | row :: row' :: rest =>
        simp only [hrows, Option.some.injEq, Prod.mk.injEq] at h
        obtain ⟨rfl, rfl⟩ := h
        exact .ambiguous hrows
  · split_ifs at h with hid hblocked hconflict
    · rw [Option.some.injEq, Prod.mk.injEq] at h
      obtain ⟨rfl, rfl⟩ := h
      obtain ⟨row, hrow, hnames⟩ := List.any_eq_true.mp hconflict
      exact .conflict (Intake.mem_rowsFor.mpr ⟨hrow, hnames⟩)
    · rw [Option.some.injEq, Prod.mk.injEq] at h
      obtain ⟨rfl, rfl⟩ := h
      refine .insert (fun row hrow heq => hid ?_)
      exact List.any_eq_true.mpr ⟨row, hrow, decide_eq_true heq⟩
  · rw [Option.some.injEq, Prod.mk.injEq] at h
    obtain ⟨rfl, rfl⟩ := h
    exact .commit
  · rw [Option.some.injEq, Prod.mk.injEq] at h
    obtain ⟨rfl, rfl⟩ := h
    exact .rollback
  · split at h
    · rename_i g row hrows
      rw [Option.some.injEq, Prod.mk.injEq] at h
      obtain ⟨rfl, rfl⟩ := h
      exact .refound (hrows ▸ List.mem_cons_self)
    · rw [Option.some.injEq, Prod.mk.injEq] at h
      obtain ⟨rfl, rfl⟩ := h
      exact .lost
  · rw [Option.some.injEq, Prod.mk.injEq] at h
    obtain ⟨rfl, rfl⟩ := h
    exact .publish
  · rw [Option.some.injEq, Prod.mk.injEq] at h
    obtain ⟨rfl, rfl⟩ := h
    exact .publishFails
  · split at h
    · rw [Option.some.injEq, Prod.mk.injEq] at h
      obtain ⟨rfl, rfl⟩ := h
      exact .fault rfl (by simp)
    · rw [Option.some.injEq, Prod.mk.injEq] at h
      obtain ⟨rfl, rfl⟩ := h
      exact .fault rfl (by simp)
    · rw [Option.some.injEq, Prod.mk.injEq] at h
      obtain ⟨rfl, rfl⟩ := h
      exact .fault rfl (by simp)
    · rw [Option.some.injEq, Prod.mk.injEq] at h
      obtain ⟨rfl, rfl⟩ := h
      exact .undo
    · rw [Option.some.injEq, Prod.mk.injEq] at h
      obtain ⟨rfl, rfl⟩ := h
      exact .fault rfl (by simp)
    · exact absurd h (by simp)
  · exact absurd h (by simp)

end OpsCopilot
