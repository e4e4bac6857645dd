import OpsCopilot.Model.Worker

namespace OpsCopilot

open Python Interleaving

/-- The two messages name one work request. -/
def QueueMessage.SameRequest (m n : QueueMessage) : Prop :=
  m.tenantId = n.tenantId ∧ m.workRequestId = n.workRequestId

lemma QueueMessage.SameRequest.rfl {m : QueueMessage} : m.SameRequest m := ⟨Eq.refl _, Eq.refl _⟩

lemma QueueMessage.SameRequest.symm {m n : QueueMessage} (h : m.SameRequest n) :
    n.SameRequest m := ⟨h.1.symm, h.2.symm⟩

lemma QueueMessage.SameRequest.trans {m n o : QueueMessage} (h : m.SameRequest n)
    (h' : n.SameRequest o) : m.SameRequest o := ⟨h.1.trans h'.1, h.2.trans h'.2⟩

lemma Backend.request_eq {b : Backend} {m n : QueueMessage} (h : m.SameRequest n) :
    b.request m = b.request n := by
  rw [Backend.request, Backend.request, h.1, h.2]

lemma Backend.request_update_same {m n : QueueMessage} (h : m.SameRequest n) (b : Backend)
    (f : WorkRequest → WorkRequest) : (b.update n f).request m = (b.request m).map f := by
  rw [Backend.request, Backend.update]
  exact if_pos h

lemma Backend.request_update_other {m n : QueueMessage} (h : ¬m.SameRequest n) (b : Backend)
    (f : WorkRequest → WorkRequest) : (b.update n f).request m = b.request m := by
  rw [Backend.request, Backend.update]
  exact if_neg h

/-- What one step of a delivery can do. -/
inductive DeliverMove (O : Outside) (syntheticOnly : Bool) (m : QueueMessage) :
    WorkerAction → Backend → Delivery → Backend → Delivery → Prop
  | receive {b : Backend} : m.message ∉ b.deleted →
      DeliverMove O syntheticOnly m .receive b .idle b .received
  | missing {b : Backend} : b.request m = none →
      DeliverMove O syntheticOnly m .read b .received b (.decided true)
  | skip {b : Backend} {row : WorkRequest} : b.request m = some row → row.status ≠ .pending →
      DeliverMove O syntheticOnly m .read b .received b (.decided true)
  | see {b : Backend} {row : WorkRequest} : b.request m = some row → row.status = .pending →
      DeliverMove O syntheticOnly m .read b .received b (.pendingSeen row)
  | start {b : Backend} {row : WorkRequest} :
      DeliverMove O syntheticOnly m .start b (.pendingSeen row)
        (b.update m (fun r => { r with status := .processing })) (validated syntheticOnly m row)
  | call {b : Backend} {a : CallAction} {request : Request} {call call' : Phase} {g' : Registry} :
      a ≠ .crash → callStep O request a b.registry call = some (g', call') →
      DeliverMove O syntheticOnly m (.call a) b (.calling request call) { b with registry := g' }
        (.calling request call')
  | outcome {b : Backend} {request : Request} {own : Bool} {outcome : Except PyException Value} :
      DeliverMove O syntheticOnly m .outcome b (.calling request (.done own outcome)) b
        (afterCall outcome)
  | mark {b : Backend} {mark : Mark} :
      DeliverMove O syntheticOnly m .mark b (.marking mark) (b.update m (WorkRequest.mark mark))
        (.decided true)
  | delete {b : Backend} :
      DeliverMove O syntheticOnly m .conclude b (.decided true)
        { b with deleted := m.message :: b.deleted } (.finished true)
  | leave {b : Backend} :
      DeliverMove O syntheticOnly m .conclude b (.decided false) b (.finished false)
  | fault {b : Backend} {p : Delivery} : p ≠ .decided true → p.ended = false →
      DeliverMove O syntheticOnly m .fault b p b (.decided false)
  | crash {b : Backend} {p : Delivery} : p.ended = false →
      DeliverMove O syntheticOnly m .crash b p b .crashed

theorem deliverMove_of_step {O : Outside} {syntheticOnly : Bool} {m : QueueMessage}
    {a : WorkerAction} {b b' : Backend} {p p' : Delivery}
    (h : deliverStep O syntheticOnly m a b p = some (b', p')) :
    DeliverMove O syntheticOnly m a b p b' p' := by
  unfold deliverStep at h
  split at h
  · split_ifs at h with hdeleted
    rw [Option.some.injEq, Prod.mk.injEq] at h
    obtain ⟨rfl, rfl⟩ := h
    exact .receive hdeleted
  · cases hrow : b.request m with
    | none =>
      simp only [hrow, Option.some.injEq, Prod.mk.injEq] at h
      obtain ⟨rfl, rfl⟩ := h
      exact .missing hrow
    | some row =>
      simp only [hrow] at h
      split_ifs at h with hstatus
      · rw [Option.some.injEq, Prod.mk.injEq] at h
        obtain ⟨rfl, rfl⟩ := h
        exact .skip hrow hstatus
      · rw [Option.some.injEq, Prod.mk.injEq] at h
        obtain ⟨rfl, rfl⟩ := h
        exact .see hrow (not_not.mp hstatus)
  · rw [Option.some.injEq, Prod.mk.injEq] at h
    obtain ⟨rfl, rfl⟩ := h
    exact .start
  · exact absurd h (by simp)
  · rename_i hlive
    rw [Option.map_eq_some_iff] at h
    obtain ⟨⟨g', call'⟩, hcall, heq⟩ := h
    rw [Prod.mk.injEq] at heq
    obtain ⟨rfl, rfl⟩ := heq
    exact .call hlive hcall
  · rw [Option.some.injEq, Prod.mk.injEq] at h
    obtain ⟨rfl, rfl⟩ := h
    exact .outcome
  · rw [Option.some.injEq, Prod.mk.injEq] at h
    obtain ⟨rfl, rfl⟩ := h
    exact .mark
  · rename_i b handled
    rw [Option.some.injEq, Prod.mk.injEq] at h
    obtain ⟨rfl, rfl⟩ := h
    cases handled with
    | true => exact .delete
    | false => exact .leave
  · split at h
    · rw [Option.some.injEq, Prod.mk.injEq] at h
      obtain ⟨rfl, rfl⟩ := h
      exact .fault (by simp) rfl
    · rw [Option.some.injEq, Prod.mk.injEq] at h
      obtain ⟨rfl, rfl⟩ := h
      exact .fault (by simp) rfl
    · rw [Option.some.injEq, Prod.mk.injEq] at h
      obtain ⟨rfl, rfl⟩ := h
      exact .fault (by simp) rfl
    · rw [Option.some.injEq, Prod.mk.injEq] at h
      obtain ⟨rfl, rfl⟩ := h
      exact .fault (by simp) rfl
    · exact absurd h (by simp)
  · split_ifs at h with hended
    rw [Option.some.injEq, Prod.mk.injEq] at h
    obtain ⟨rfl, rfl⟩ := h
    exact .crash (Bool.eq_false_iff.mpr hended)
  · exact absurd h (by simp)

/-! ### Where a delivery can go -/

lemma validated_cases (syntheticOnly : Bool) (m : QueueMessage) (row : WorkRequest) :
    (∃ mark, validated syntheticOnly m row = .marking mark) ∨
      ∃ request, validated syntheticOnly m row = .calling request .idle := by
  unfold validated
  split
  · exact .inl ⟨_, rfl⟩
  · split
    · exact .inl ⟨_, rfl⟩
    · exact .inr ⟨_, rfl⟩

lemma validated_working (syntheticOnly : Bool) (m : QueueMessage) (row : WorkRequest) :
    (validated syntheticOnly m row).working = true := by
  rcases validated_cases syntheticOnly m row with ⟨mark, hmark⟩ | ⟨request, hcalling⟩
  · rw [hmark]
    rfl
  · rw [hcalling]
    rfl

/-- Whether the handler leaves an outcome of the call to a redelivery: any error but a
`ToolFrameworkError`, and an answer that is not a dictionary. -/
def transient : Except PyException Value → Bool
  | .ok (.dict _) => false
  | .ok _ => true
  | .error e => !e.cls.isToolFrameworkError

lemma transient_of_afterCall {outcome : Except PyException Value}
    (h : afterCall outcome = .decided false) : transient outcome = true := by
  unfold afterCall at h
  split at h
  · exact absurd h (by simp)
  · rename_i v hdict
    cases v with
    | dict d => exact absurd rfl (hdict d)
    | _ => rfl
  · rename_i e
    cases hclass : e.cls.isToolFrameworkError with
    | true => exact absurd h (by simp [hclass])
    | false => simp [transient, hclass]

lemma afterCall_of_transient {outcome : Except PyException Value}
    (h : transient outcome = true) : (afterCall outcome).working = false := by
  unfold afterCall
  split
  · exact absurd h (by simp [transient])
  · rfl
  · rename_i e
    have hclass : e.cls.isToolFrameworkError = false := by simpa [transient] using h
    rw [hclass]
    rfl

lemma afterCall_cases (outcome : Except PyException Value) :
    (∃ mark, afterCall outcome = .marking mark) ∨ afterCall outcome = .decided false := by
  unfold afterCall
  split
  · exact .inl ⟨_, rfl⟩
  · exact .inr rfl
  · split
    · exact .inl ⟨_, rfl⟩
    · exact .inr rfl

end OpsCopilot
