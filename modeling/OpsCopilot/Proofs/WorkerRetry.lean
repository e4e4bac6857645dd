import OpsCopilot.Proofs.WorkerSteps

/-!
# When no retry is lost

A message may be deleted once its request needs no further attempt. The handler reads
`processing` as "another worker is on it", which a worker that gives up alone makes false.
-/

namespace OpsCopilot

open Python Interleaving

section

variable {ι : Type*}

/-- Another live worker is processing the request of delivery `i`. -/
def ProcessedByOther (msg : ι → QueueMessage) (c : Config ι Backend Delivery) (i : ι) : Prop :=
  ∃ j, j ≠ i ∧ (c.proc j).working = true ∧ (msg j).SameRequest (msg i)

/-- The request does not exist, has reached its end, or is in the hands of another worker. -/
def NeedsNoAttempt (msg : ι → QueueMessage) (c : Config ι Backend Delivery) (i : ι) : Prop :=
  c.shared.request (msg i) = none ∨
    (∃ row, c.shared.request (msg i) = some row ∧ row.status.terminal = true) ∨
    ProcessedByOther msg c i

/-- A message is deleted only if its request needs no attempt, and a delivery of a request
that needs one makes it. -/
def NoLostRetry (O : Outside) (syntheticOnly : Bool) (msg : ι → QueueMessage)
    (c : Config ι Backend Delivery) (i : ι) (a : WorkerAction) : Prop :=
  (a = .conclude → c.proc i = .decided true → NeedsNoAttempt msg c i) ∧
  (a = .read → ¬NeedsNoAttempt msg c i →
    ∀ b p, deliverStep O syntheticOnly (msg i) a c.shared (c.proc i) = some (b, p) →
      ∃ row, p = .pendingSeen row)

/-- Whether the step ends a delivery that is at work, without a final status: the database or the
network fails, the process dies, or the call has come to a transient outcome. -/
def Delivery.givesUp : WorkerAction → Delivery → Bool
  | .fault, p | .crash, p => p.working
  | .outcome, .calling _ (.done _ outcome) => transient outcome
  | _, _ => false

/-- A delivery at work gives up only on a request that has its final status or that another
delivery is at work on. -/
def RetrySafe (msg : ι → QueueMessage) (c : Config ι Backend Delivery) (i : ι)
    (a : WorkerAction) : Prop :=
  (c.proc i).givesUp a = true →
    (∃ row, c.shared.request (msg i) = some row ∧ row.status.terminal = true) ∨
    ProcessedByOther msg c i

/-- Whatever fails: a request at work exists and is past `pending`. -/
structure Started (msg : ι → QueueMessage) (c : Config ι Backend Delivery) : Prop where
  seen : ∀ i row, c.proc i = .pendingSeen row → ∃ now, c.shared.request (msg i) = some now
  started : ∀ i, (c.proc i).working = true →
    ∃ row, c.shared.request (msg i) = some row ∧ row.status ≠ .pending

/-- The invariant: `processing` means that a delivery is at work, and a decided delivery is
right. -/
structure Retries (msg : ι → QueueMessage) (c : Config ι Backend Delivery) : Prop where
  started : Started msg c
  processing : ∀ m row, c.shared.request m = some row → row.status = .processing →
    ∃ i, (c.proc i).working = true ∧ (msg i).SameRequest m
  decided : ∀ i, c.proc i = .decided true → NeedsNoAttempt msg c i

end

/-! ### What one step does to a row -/

section Moves

variable {O : Outside} {syntheticOnly : Bool} {m n : QueueMessage} {a : WorkerAction}
  {b b' : Backend} {p p' : Delivery}

/-- A step leaves a row alone, starts it, or gives it a final status. -/
lemma DeliverMove.row_change (h : DeliverMove O syntheticOnly m a b p b' p') :
    b'.request n = b.request n ∨ n.SameRequest m ∧
      ((∃ row, p = .pendingSeen row ∧ p'.working = true ∧
          b'.request n = (b.request n).map (fun r => { r with status := .processing })) ∨
        ∃ mark, p = .marking mark ∧ b'.request n = (b.request n).map (WorkRequest.mark mark)) := by
  cases h with
  | receive _ | missing _ | skip _ _ | see _ _ | call _ _ | outcome | delete | leave | fault _ _
  | crash _ => exact .inl rfl
  | @start _ row =>
    by_cases hsame : n.SameRequest m
    · exact .inr ⟨hsame, .inl ⟨row, rfl, validated_working _ _ _,
        Backend.request_update_same hsame b _⟩⟩
    · exact .inl (Backend.request_update_other hsame b _)
  | @mark _ mark =>
    by_cases hsame : n.SameRequest m
    · exact .inr ⟨hsame, .inr ⟨mark, rfl, Backend.request_update_same hsame b _⟩⟩
    · exact .inl (Backend.request_update_other hsame b _)

lemma DeliverMove.request_none (h : DeliverMove O syntheticOnly m a b p b' p')
    (hnone : b.request n = none) : b'.request n = none := by
  rcases h.row_change (n := n) with heq | ⟨-, ⟨_, -, -, heq⟩ | ⟨_, -, heq⟩⟩
  · rw [heq, hnone]
  · rw [heq, hnone, Option.map_none]
  · rw [heq, hnone, Option.map_none]

/-- A started row stays started. -/
lemma DeliverMove.started (h : DeliverMove O syntheticOnly m a b p b' p')
    (hrow : ∃ row, b.request n = some row ∧ row.status ≠ .pending) :
    ∃ row, b'.request n = some row ∧ row.status ≠ .pending := by
  obtain ⟨row, hrow, hstatus⟩ := hrow
  rcases h.row_change (n := n) with heq | ⟨-, ⟨_, -, -, heq⟩ | ⟨mark, -, heq⟩⟩
  · exact ⟨row, heq.trans hrow, hstatus⟩
  · rw [hrow, Option.map_some] at heq
    exact ⟨_, heq, by simp⟩
  · rw [hrow, Option.map_some] at heq
    refine ⟨_, heq, ?_⟩
    intro hpending
    have hfinal := mark.final
    change mark.status = .pending at hpending
    rw [hpending] at hfinal
    exact Bool.noConfusion hfinal

/-- A delivery at work goes on, marks its row, or gives up. -/
lemma DeliverMove.of_working (h : DeliverMove O syntheticOnly m a b p b' p')
    (hp : p.working = true) :
    p'.working = true ∨ (∃ mark, p = .marking mark ∧ p' = .decided true ∧
      b'.request m = (b.request m).map (WorkRequest.mark mark)) ∨
      p.givesUp a = true ∧ p' ≠ .decided true ∧ b' = b := by
  cases h with
  | receive _ | missing _ | skip _ _ | see _ _ | start | delete | leave =>
    exact absurd hp (by simp [Delivery.working])
  | call _ _ => exact .inl rfl
  | @outcome _ _ _ outcome =>
    rcases afterCall_cases outcome with ⟨mark, hmark⟩ | hdecided
    · exact .inl (by rw [hmark]; rfl)
    · exact .inr (.inr ⟨transient_of_afterCall hdecided, by simp [hdecided], rfl⟩)
  | @mark _ mark => exact .inr (.inl ⟨mark, rfl, rfl, Backend.request_update_same .rfl b _⟩)
  | fault _ _ => exact .inr (.inr ⟨by simpa [Delivery.givesUp] using hp, by simp, rfl⟩)
  | crash _ => exact .inr (.inr ⟨by simpa [Delivery.givesUp] using hp, by simp, rfl⟩)

lemma Delivery.working_of_givesUp (h : p.givesUp a = true) : p.working = true := by
  unfold Delivery.givesUp at h
  split at h
  · exact h
  · exact h
  · rfl
  · exact absurd h (by simp)

lemma DeliverMove.of_givesUp (h : DeliverMove O syntheticOnly m a b p b' p')
    (hgives : p.givesUp a = true) : b' = b ∧ p'.working = false := by
  cases h with
  | fault _ _ | crash _ => exact ⟨rfl, rfl⟩
  | @outcome _ _ _ outcome => exact ⟨rfl, afterCall_of_transient hgives⟩
  | receive _ | missing _ | skip _ _ | see _ _ | start | call _ _ | mark | delete | leave =>
    exact absurd hgives (by simp [Delivery.givesUp])

/-- A delivery gets to work only by starting its row. -/
lemma DeliverMove.working (h : DeliverMove O syntheticOnly m a b p b' p')
    (hp' : p'.working = true) : p.working = true ∨ ∃ row, p = .pendingSeen row ∧
      b'.request m = (b.request m).map (fun r => { r with status := .processing }) := by
  cases h with
  | call _ _ | outcome => exact .inl rfl
  | @start _ row => exact .inr ⟨row, rfl, Backend.request_update_same .rfl b _⟩
  | receive _ | missing _ | skip _ _ | see _ _ | mark | delete | leave | fault _ _ | crash _ =>
    exact absurd hp' (by simp [Delivery.working])

lemma DeliverMove.pendingSeen (h : DeliverMove O syntheticOnly m a b p b' p') {row : WorkRequest}
    (hp' : p' = .pendingSeen row) : ∃ now, b.request m = some now := by
  cases h with
  | see hrow _ => exact ⟨_, hrow⟩
  | @start _ row =>
    have hworking := validated_working syntheticOnly m row
    rw [hp'] at hworking
    exact absurd hworking (by simp [Delivery.working])
  | @outcome _ _ _ outcome =>
    rcases afterCall_cases outcome with ⟨mark, hmark⟩ | hdecided
    · exact absurd (hmark.symm.trans hp') (by simp)
    · exact absurd (hdecided.symm.trans hp') (by simp)
  | receive _ | missing _ | skip _ _ | call _ _ | mark | delete | leave | fault _ _ | crash _ =>
    exact absurd hp' (by simp)

/-- How a delivery comes to report its message as handled. -/
lemma DeliverMove.decided (h : DeliverMove O syntheticOnly m a b p b' (.decided true)) :
    (p = .received ∧ b' = b ∧
      (b.request m = none ∨ ∃ row, b.request m = some row ∧ row.status ≠ .pending)) ∨
    ∃ mark, p = .marking mark ∧ b'.request m = (b.request m).map (WorkRequest.mark mark) := by
  generalize hp' : Delivery.decided true = p' at h
  cases h with
  | missing hnone => exact .inl ⟨rfl, rfl, .inl hnone⟩
  | skip hrow hstatus => exact .inl ⟨rfl, rfl, .inr ⟨_, hrow, hstatus⟩⟩
  | @mark _ mark => exact .inr ⟨mark, rfl, Backend.request_update_same .rfl b _⟩
  | @start _ row =>
    have hworking := validated_working syntheticOnly m row
    rw [← hp'] at hworking
    exact absurd hworking (by simp [Delivery.working])
  | @outcome _ _ _ outcome =>
    rcases afterCall_cases outcome with ⟨mark, hmark⟩ | hdecided
    · exact absurd (hp'.trans hmark) (by simp)
    · exact absurd (hp'.trans hdecided) (by simp)
  | receive _ | see _ _ | call _ _ | delete | leave | fault _ _ | crash _ =>
    exact absurd hp' (by simp)

end Moves

/-! ### The invariant over a run -/

section Runs

variable {ι : Type*} [DecidableEq ι] {O : Outside} {syntheticOnly : Bool}
  {msg : ι → QueueMessage} {c d : Config ι Backend Delivery} {i j : ι} {a : WorkerAction}
  {b' : Backend} {p' : Delivery}

lemma Started.started_step (hc : Started msg c)
    (hmove : DeliverMove O syntheticOnly (msg i) a c.shared (c.proc i) b' p')
    (hj : (Function.update c.proc i p' j).working = true) :
    ∃ row, b'.request (msg j) = some row ∧ row.status ≠ .pending := by
  by_cases hji : j = i
  · subst hji
    rw [Function.update_self] at hj
    rcases hmove.working hj with hold | ⟨row, hpending, heq⟩
    · exact hmove.started (hc.started j hold)
    · obtain ⟨now, hnow⟩ := hc.seen j row hpending
      rw [hnow, Option.map_some] at heq
      exact ⟨_, heq, by simp⟩
  · rw [Function.update_of_ne hji] at hj
    exact hmove.started (hc.started j hj)

lemma Started.seen_step (hc : Started msg c)
    (hmove : DeliverMove O syntheticOnly (msg i) a c.shared (c.proc i) b' p') {row : WorkRequest}
    (hj : Function.update c.proc i p' j = .pendingSeen row) :
    ∃ now, b'.request (msg j) = some now := by
  have hnow : ∃ now, c.shared.request (msg j) = some now := by
    by_cases hji : j = i
    · subst hji
      rw [Function.update_self] at hj
      exact hmove.pendingSeen hj
    · rw [Function.update_of_ne hji] at hj
      exact hc.seen j row hj
  obtain ⟨now, hnow⟩ := hnow
  rcases hmove.row_change (n := msg j) with heq | ⟨-, ⟨_, -, -, heq⟩ | ⟨_, -, heq⟩⟩
  · exact ⟨now, heq.trans hnow⟩
  · rw [hnow] at heq
    exact ⟨_, heq⟩
  · rw [hnow] at heq
    exact ⟨_, heq⟩

theorem Started.step (hc : Started msg c)
    (hfire : (workers O syntheticOnly msg).fire c i a = some d) : Started msg d := by
  obtain ⟨b', p', hstep, rfl⟩ := ((workers O syntheticOnly msg).fire_eq_some).mp hfire
  have hmove := deliverMove_of_step hstep
  exact ⟨fun j row hj => hc.seen_step hmove hj, fun j hj => hc.started_step hmove hj⟩

omit [DecidableEq ι] in
lemma started_start (b : Backend) : Started msg (b.start : Config ι Backend Delivery) :=
  ⟨fun _ _ h => absurd h (by simp [Backend.start]),
    fun _ h => absurd h (by simp [Backend.start, Delivery.working])⟩

lemma WorkRequest.mark_not_processing (mark : Mark) (row : WorkRequest) :
    (row.mark mark).status ≠ .processing := by
  intro h
  change mark.status = .processing at h
  have hfinal := mark.final
  rw [h] at hfinal
  exact Bool.noConfusion hfinal

omit [DecidableEq ι] in
/-- A request at work without a final status is in status `processing`. -/
lemma Started.processing (hc : Started msg c) (hi : (c.proc i).working = true) :
    ∃ row, c.shared.request (msg i) = some row ∧
      (row.status.terminal = true ∨ row.status = .processing) := by
  obtain ⟨row, hrow, hstatus⟩ := hc.started i hi
  refine ⟨row, hrow, ?_⟩
  cases hs : row.status with
  | pending => exact absurd hs hstatus
  | processing => exact .inr rfl
  | completed | failed => exact .inl rfl

/-- A row stays or gets `processing` only while a delivery is at work on it. -/
lemma Retries.processing_step (hc : Retries msg c) (hok : RetrySafe msg c i a)
    (hmove : DeliverMove O syntheticOnly (msg i) a c.shared (c.proc i) b' p') {m : QueueMessage}
    {row : WorkRequest} (hrow : b'.request m = some row) (hstatus : row.status = .processing) :
    ∃ j, (Function.update c.proc i p' j).working = true ∧ (msg j).SameRequest m := by
  rcases hmove.row_change (n := m) with heq | ⟨hsame, ⟨-, -, hworking, -⟩ | ⟨mark, -, heq⟩⟩
  · obtain ⟨j, hj, hsame⟩ := hc.processing m row (heq ▸ hrow) hstatus
    by_cases hji : j = i
    · subst hji
      rcases hmove.of_working hj with hworking | ⟨mark, -, -, hmarked⟩ | ⟨hgives, -, rfl⟩
      · exact ⟨j, by rwa [Function.update_self], hsame⟩
      · rw [← Backend.request_eq hsame, hmarked] at hrow
        obtain ⟨old, -, rfl⟩ := Option.map_eq_some_iff.mp hrow
        exact absurd hstatus (old.mark_not_processing mark)
      · rcases hok hgives with ⟨now, hnow, hterminal⟩ | ⟨k, hkj, hk, hsame'⟩
        · rw [Backend.request_eq hsame, hrow, Option.some.injEq] at hnow
          rw [← hnow, hstatus] at hterminal
          exact Bool.noConfusion hterminal
        · exact ⟨k, by rwa [Function.update_of_ne hkj], hsame'.trans hsame⟩
    · exact ⟨j, by rwa [Function.update_of_ne hji], hsame⟩
  · exact ⟨i, by rwa [Function.update_self], hsame.symm⟩
  · rw [heq] at hrow
    obtain ⟨old, -, rfl⟩ := Option.map_eq_some_iff.mp hrow
    exact absurd hstatus (old.mark_not_processing mark)

/-- Worker `i` leaves its work while `j` has decided to delete the message: the request is
still finished or in other hands. -/
lemma Retries.needsNoAttempt_of_working (hc : Retries msg c) (hok : RetrySafe msg c i a)
    (hmove : DeliverMove O syntheticOnly (msg i) a c.shared (c.proc i) b' p')
    (hi : (c.proc i).working = true) (hij : i ≠ j) (hsame : (msg i).SameRequest (msg j))
    (hj : c.proc j = .decided true) :
    NeedsNoAttempt msg ⟨b', Function.update c.proc i p'⟩ j := by
  rcases hmove.of_working hi with hworking | ⟨mark, -, -, heq⟩ | ⟨hgives, -, rfl⟩
  · exact .inr (.inr ⟨i, hij, by simpa using hworking, hsame⟩)
  · obtain ⟨row, hrow, -⟩ := hc.started.started i hi
    rw [hrow, Option.map_some, Backend.request_eq hsame] at heq
    exact .inr (.inl ⟨_, heq, mark.final⟩)
  · rcases hok hgives with ⟨row, hrow, hterminal⟩ | ⟨k, hki, hk, hsame'⟩
    · exact .inr (.inl ⟨row, Backend.request_eq hsame ▸ hrow, hterminal⟩)
    · have hkj : k ≠ j := by
        rintro rfl
        rw [hj] at hk
        exact Bool.noConfusion hk
      refine .inr (.inr ⟨k, hkj, ?_, hsame'.trans hsame⟩)
      change (Function.update c.proc i p' k).working = true
      rwa [Function.update_of_ne hki]

/-- A delivery that has decided rightly stays right. -/
lemma Retries.decided_other (hc : Retries msg c) (hok : RetrySafe msg c i a)
    (hmove : DeliverMove O syntheticOnly (msg i) a c.shared (c.proc i) b' p') (hji : j ≠ i)
    (hj : c.proc j = .decided true) :
    NeedsNoAttempt msg ⟨b', Function.update c.proc i p'⟩ j := by
  rcases hc.decided j hj with hnone | ⟨row, hrow, hterminal⟩ | ⟨k, hkj, hk, hsame⟩
  · exact .inl (hmove.request_none hnone)
  · rcases hmove.row_change (n := msg j) with
      heq | ⟨hsame, ⟨-, -, hworking, -⟩ | ⟨mark, -, heq⟩⟩
    · exact .inr (.inl ⟨row, heq.trans hrow, hterminal⟩)
    · exact .inr (.inr ⟨i, Ne.symm hji, by simpa using hworking, hsame.symm⟩)
    · rw [hrow, Option.map_some] at heq
      exact .inr (.inl ⟨_, heq, mark.final⟩)
  · by_cases hki : k = i
    · subst hki
      exact hc.needsNoAttempt_of_working hok hmove hk hkj hsame hj
    · refine .inr (.inr ⟨k, hkj, ?_, hsame⟩)
      change (Function.update c.proc i p' k).working = true
      rwa [Function.update_of_ne hki]

omit [DecidableEq ι] in
/-- A delivery that has not started finds its row pending, or needs no attempt. -/
lemma Retries.needsNoAttempt_of_status (hc : Retries msg c) (hi : (c.proc i).working = false)
    {row : WorkRequest} (hrow : c.shared.request (msg i) = some row) (hstatus : row.status ≠ .pending) :
    NeedsNoAttempt msg c i := by
  cases hs : row.status with
  | pending => exact absurd hs hstatus
  | completed | failed => exact .inr (.inl ⟨row, hrow, by simp [hs, RequestStatus.terminal]⟩)
  | processing =>
    obtain ⟨j, hj, hsame⟩ := hc.processing (msg i) row hrow hs
    have hji : j ≠ i := by
      rintro rfl
      exact absurd hj (by simp [hi])
    exact .inr (.inr ⟨j, hji, hj, hsame⟩)

/-- A delivery that now decides is right. -/
lemma Retries.decided_self (hc : Retries msg c)
    (hmove : DeliverMove O syntheticOnly (msg i) a c.shared (c.proc i) b' (.decided true)) :
    NeedsNoAttempt msg ⟨b', Function.update c.proc i (.decided true)⟩ i := by
  rcases hmove.decided with ⟨hp, rfl, hnone | ⟨row, hrow, hstatus⟩⟩ | ⟨mark, hp, heq⟩
  · exact .inl hnone
  · rcases hc.needsNoAttempt_of_status (by rw [hp]; rfl) hrow hstatus with
      hnone | hterminal | ⟨j, hji, hj, hsame⟩
    · exact .inl hnone
    · exact .inr (.inl hterminal)
    · refine .inr (.inr ⟨j, hji, ?_, hsame⟩)
      change (Function.update c.proc i (.decided true) j).working = true
      rwa [Function.update_of_ne hji]
  · obtain ⟨row, hrow, -⟩ := hc.started.started i (by rw [hp]; rfl)
    rw [hrow, Option.map_some] at heq
    exact .inr (.inl ⟨_, heq, mark.final⟩)

theorem Retries.step (hc : Retries msg c) (hok : RetrySafe msg c i a)
    (hfire : (workers O syntheticOnly msg).fire c i a = some d) : Retries msg d := by
  have hstarted := hc.started.step hfire
  obtain ⟨b', p', hstep, rfl⟩ := ((workers O syntheticOnly msg).fire_eq_some).mp hfire
  have hmove := deliverMove_of_step hstep
  refine ⟨hstarted, fun m row hrow hstatus => hc.processing_step hok hmove hrow hstatus,
    fun j hj => ?_⟩
  by_cases hji : j = i
  · subst hji
    obtain rfl : p' = .decided true := by simpa using hj
    exact hc.decided_self hmove
  · have hold : c.proc j = .decided true := by
      change Function.update c.proc i p' j = .decided true at hj
      rwa [Function.update_of_ne hji] at hj
    exact hc.decided_other hok hmove hji hold

omit [DecidableEq ι] in
/-- A delivery that reads a request in need of an attempt makes it. -/
lemma Retries.attempts (hc : Retries msg c) (hneeds : ¬NeedsNoAttempt msg c i) {p : Delivery}
    (hmove : DeliverMove O syntheticOnly (msg i) .read c.shared (c.proc i) b' p) :
    ∃ row, p = .pendingSeen row := by
  generalize hq : c.proc i = q at hmove
  cases hmove with
  | missing hnone => exact absurd (.inl hnone) hneeds
  | see _ _ => exact ⟨_, rfl⟩
  | skip hrow hstatus =>
    exact absurd (hc.needsNoAttempt_of_status (by rw [hq]; rfl) hrow hstatus) hneeds

/-- A delivery gives up on a request that nobody else is at work on: the next one to read it
takes it for handled. -/
lemma Started.lost (hc : Started msg c) (hbreach : ¬RetrySafe msg c i a)
    (hfire : (workers O syntheticOnly msg).fire c i a = some d) (hj : c.proc j = .received)
    (hsame : (msg j).SameRequest (msg i)) : ¬NoLostRetry O syntheticOnly msg d j .read := by
  obtain ⟨b', p', hstep, rfl⟩ := ((workers O syntheticOnly msg).fire_eq_some).mp hfire
  obtain ⟨hgives, hnot⟩ := Classical.not_imp.mp hbreach
  have hmove := deliverMove_of_step hstep
  have hworking : (c.proc i).working = true := Delivery.working_of_givesUp hgives
  obtain ⟨hb, hp'⟩ := hmove.of_givesUp hgives
  obtain ⟨row, hrow, hterminal | hprocessing⟩ := hc.processing hworking
  · exact absurd (.inl ⟨row, hrow, hterminal⟩) hnot
  have hji : j ≠ i := by
    rintro rfl
    rw [hj] at hworking
    exact Bool.noConfusion hworking
  have hrowj : b'.request (msg j) = some row := by rw [hb, Backend.request_eq hsame, hrow]
  have hread : deliverStep O syntheticOnly (msg j) .read b' (Function.update c.proc i p' j) =
      some (b', .decided true) := by
    rw [Function.update_of_ne hji, hj, deliverStep]
    simp only [hrowj]
    exact if_pos (by simp [hprocessing])
  intro h
  refine absurd (h.2 rfl ?_ _ _ hread) (by simp)
  rintro (hnone | ⟨row', hrow', hterminal⟩ | ⟨k, hkj, hk, hsame'⟩)
  · exact absurd (hnone.symm.trans hrowj) (by simp)
  · obtain rfl := Option.some.inj (hrow'.symm.trans hrowj)
    rw [hprocessing] at hterminal
    exact Bool.noConfusion hterminal
  · change (Function.update c.proc i p' k).working = true at hk
    by_cases hki : k = i
    · rw [hki, Function.update_self, hp'] at hk
      exact Bool.noConfusion hk
    · rw [Function.update_of_ne hki] at hk
      exact hnot (.inr ⟨k, hki, hk, hsame'.trans hsame⟩)

/-- From any tables in which no request is `processing`: as long as a delivery at work gives up
only on a request that is finished or in other hands, no message is deleted too early and every
needed attempt is made. Where a delivery gives up otherwise, the next reading of its request
misses an attempt. -/
theorem noLostRetry_of_retrySafe (b : Backend)
    (hidle : ∀ m row, b.request m = some row → row.status ≠ .processing)
    (schedule : List (ι × WorkerAction)) :
    ((workers O syntheticOnly msg).Along (RetrySafe msg) b.start schedule →
      (workers O syntheticOnly msg).Along (NoLostRetry O syntheticOnly msg) b.start schedule) ∧
    ∀ c i a d j, (workers O syntheticOnly msg).run b.start schedule = some c →
      ¬RetrySafe msg c i a → (workers O syntheticOnly msg).fire c i a = some d →
      c.proc j = .received → (msg j).SameRequest (msg i) →
      ¬NoLostRetry O syntheticOnly msg d j .read := by
  constructor
  · intro hok
    have hstart : Retries msg (b.start : Config ι Backend Delivery) :=
      ⟨started_start b, fun m row hrow hstatus => absurd hstatus (hidle m row hrow),
        fun _ h => absurd h (by simp [Backend.start])⟩
    refine (workers O syntheticOnly msg).along_of_invariant
      (fun _ _ _ _ hc hok hfire => hc.step hok hfire) (fun c i a hc _ => ⟨?_, ?_⟩) hstart hok
    · intro _ hi
      exact hc.decided i hi
    · rintro rfl hneeds b' p hstep
      exact hc.attempts hneeds (deliverMove_of_step hstep)
  · intro c i a d j hrun hbreach hfire hj hsame
    have hc : Started msg c := (workers O syntheticOnly msg).run_invariant'
      (fun _ _ _ _ h hstep => h.step hstep) (started_start b) hrun
    exact hc.lost hbreach hfire hj hsame

end Runs

/-! ### One message delivered twice -/

def pendingPriceChange : WorkRequest where
  idempotencyKey := "k"
  actionType := "price_change"
  payload := [(.str "menu_item_id", .str "m1"), (.str "new_price", .int 9)]
  status := .pending
  result := none
  error := none

def onePending : Backend where
  requests t w := if t = "t" ∧ w = "w" then some pendingPriceChange else none
  registry := Registry.empty
  deleted := []

def redelivered (_ : Bool) : QueueMessage := ⟨7, "t", "w"⟩

def plainOutside : Outside := Outside.prescribed []

def connectionLost : PyException := ⟨.operationalError, "server closed the connection"⟩

/-- The first attempt fails with a database error, and the message comes back. -/
def failedAttempt : List (Bool × WorkerAction) :=
  [(false, .receive), (false, .read), (false, .start), (false, .call (.claim 0)), (false, .call .enter),
    (false, .call (.executes (.error connectionLost))), (false, .call (.finish 1)), (false, .outcome),
    (false, .conclude), (true, .receive), (true, .read)]

/-- The second delivery deletes the message of a request that nobody has finished. -/
theorem redelivery_deletes_unfinished : ¬(workers plainOutside true redelivered).Along
    (NoLostRetry plainOutside true redelivered) onePending.start
    (failedAttempt ++ [(true, .conclude)]) := by
  intro h
  have hlast := (workers plainOutside true redelivered).along_append h rfl
  rcases hlast.1.1 rfl rfl with hnone | ⟨row, hrow, hterminal⟩ | ⟨j, hj, hworking, -⟩
  · change some { pendingPriceChange with status := .processing } = none at hnone
    exact absurd hnone (by simp)
  · obtain rfl := Option.some.inj hrow
    exact Bool.noConfusion hterminal
  · cases j with
    | false => exact Bool.noConfusion hworking
    | true => exact hj rfl

/-- The second delivery comes while the first is at work, and the first completes. -/
def concurrentDelivery : List (Bool × WorkerAction) :=
  [(false, .receive), (false, .read), (false, .start), (true, .receive), (true, .read), (true, .conclude),
    (false, .call (.claim 0)), (false, .call .enter),
    (false, .call (.executes (.ok [(.str "executed", .bool true)]))), (false, .call (.finish 1)),
    (false, .outcome), (false, .mark), (false, .conclude)]

lemma onePending_idle (m : QueueMessage) (row : WorkRequest) (h : onePending.request m = some row) :
    row.status ≠ .processing := by
  change (if m.tenantId = "t" ∧ m.workRequestId = "w" then some pendingPriceChange else none) =
    some row at h
  split_ifs at h
  obtain rfl := Option.some.inj h
  simp [pendingPriceChange]

theorem concurrent_delivery_not_lost : (workers plainOutside true redelivered).Along
    (NoLostRetry plainOutside true redelivered) onePending.start concurrentDelivery := by
  refine (noLostRetry_of_retrySafe onePending onePending_idle concurrentDelivery).1 ?_
  have hplain : ∀ {c d : Config Bool Backend Delivery} {i : Bool} {a : WorkerAction}
      {rest : List (Bool × WorkerAction)}, (c.proc i).givesUp a = false →
      (workers plainOutside true redelivered).fire c i a = some d →
      (workers plainOutside true redelivered).Along (RetrySafe redelivered) d rest →
      (workers plainOutside true redelivered).Along (RetrySafe redelivered) c ((i, a) :: rest) :=
    fun hgives hfire hrest =>
      Program.along_cons _ (fun h => absurd h (by simp [hgives])) hfire hrest
  refine hplain rfl rfl ?_
  refine hplain rfl rfl ?_
  refine hplain rfl rfl ?_
  refine hplain rfl rfl ?_
  refine hplain rfl rfl ?_
  refine hplain rfl rfl ?_
  refine hplain rfl rfl ?_
  refine hplain rfl rfl ?_
  refine hplain rfl rfl ?_
  refine hplain rfl rfl ?_
  refine hplain rfl rfl ?_
  refine hplain rfl rfl ?_
  exact hplain rfl rfl trivial

end OpsCopilot
