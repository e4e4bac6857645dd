import OpsCopilot.Proofs.WorkerRetry
import OpsCopilot.Proofs.IdempotencyReplay

/-!
# When the status of a work request tells the truth

The check for `pending` and the update to `processing` are two statements without a lock, so
two workers may pass the check. As long as that does not happen, one worker at most is past
the check, and the row ends with what that worker did, unless it fails in between.
-/

namespace OpsCopilot

open Python Interleaving

section

variable {ι : Type*} [DecidableEq ι]

/-- Whether the delivery has read its row as pending and not yet come to a decision. -/
def Delivery.busy : Delivery → Bool
  | .pendingSeen _ => true
  | p => p.working

/-- No delivery reads its row as pending while another one is between its own reading and
its update to `processing`. -/
def ExclusiveStart (msg : ι → QueueMessage) (c : Config ι Backend Delivery) (i : ι)
    (a : WorkerAction) : Prop :=
  a = .read → ∀ row, c.shared.request (msg i) = some row → row.status = .pending →
    ∀ j seen, (msg j).SameRequest (msg i) → c.proc j ≠ .pendingSeen seen

/-- Whether the delivery holds a result that says executed and has not yet written it to its
row. -/
def Delivery.unrecorded : Delivery → Bool
  | .calling _ (.executed (.ok result)) | .calling _ (.done _ (.ok (.dict result))) =>
    (Dict.get result "executed").truthy
  | .marking mark => mark.status = .completed
  | _ => false

/-- Nothing fails between the execution of an action and the final status of its row, and what
`execute_tool_call` returns for an executed action is plain JSON data. -/
def ResultKept (c : Config ι Backend Delivery) (i : ι) (a : WorkerAction) : Prop :=
  (a = .fault ∨ a = .crash → (c.proc i).unrecorded = false) ∧
  ∀ result, a = .call (.executes (.ok result)) → (Dict.get result "executed").truthy = true →
    JsonMembers result

/-- The idempotent call of a delivery has executed the action with this result. -/
def Delivery.HasExecuted (result : Dict) : Delivery → Prop
  | .calling _ (.executed (.ok r)) => r = result ∧ (Dict.get result "executed").truthy = true
  | _ => False

/-- The row of a message is completed with this result. -/
def Recorded (b : Backend) (m : QueueMessage) (result : Dict) : Prop :=
  ∃ row, b.request m = some row ∧ row.status = .completed ∧ row.result = some (.dict result)

/-- What holds between any two moments of a run: a final status and its result stay, and the row
of a delivery that had executed the action is completed with the result as soon as the delivery
has come to its decision, which it always can. -/
def StatusTruthful (O : Outside) (syntheticOnly : Bool) (msg : ι → QueueMessage) (b : Backend)
    (schedule later : List (ι × WorkerAction)) : Prop :=
  ∀ c d, (workers O syntheticOnly msg).run b.start schedule = some c →
    (workers O syntheticOnly msg).run c later = some d →
    (∀ m row, c.shared.request m = some row → row.status.terminal = true →
      ∃ row', d.shared.request m = some row' ∧ row'.status = row.status ∧
        row'.result = row.result) ∧
    ∀ i result, (c.proc i).HasExecuted result →
      ((d.proc i).busy = false → Recorded d.shared (msg i) result) ∧
      ∃ actions e, (workers O syntheticOnly msg).run d (own i actions) = some e ∧
        Recorded e.shared (msg i) result

/-- One delivery at most is busy with a request, and the row shows how far it has come. -/
structure Exclusive (msg : ι → QueueMessage) (c : Config ι Backend Delivery) : Prop where
  unique : ∀ i j, (c.proc i).busy = true → (c.proc j).busy = true →
    (msg i).SameRequest (msg j) → i = j
  pending : ∀ i seen, c.proc i = .pendingSeen seen →
    ∃ row, c.shared.request (msg i) = some row ∧ row.status = .pending
  processing : ∀ i, (c.proc i).working = true →
    ∃ row, c.shared.request (msg i) = some row ∧ row.status = .processing

end

section Moves

variable {O : Outside} {syntheticOnly : Bool} {m : QueueMessage} {a : WorkerAction}
  {b b' : Backend} {p p' : Delivery}

/-- A delivery gets busy only by reading its row as pending. -/
lemma DeliverMove.busy (h : DeliverMove O syntheticOnly m a b p b' p') (hp' : p'.busy = true) :
    p.busy = true ∨ a = .read ∧ ∃ row, b.request m = some row ∧ row.status = .pending := by
  cases h with
  | see hrow hstatus => exact .inr ⟨rfl, _, hrow, hstatus⟩
  | start | call _ _ | outcome => exact .inl rfl
  | receive _ | missing _ | skip _ _ | mark | delete | leave | fault _ _ | crash _ =>
    exact absurd hp' (by simp [Delivery.busy, Delivery.working])

/-- Only a busy delivery changes a row. -/
lemma DeliverMove.row_of_idle (h : DeliverMove O syntheticOnly m a b p b' p')
    {n : QueueMessage} (hidle : n.SameRequest m → p.busy = false) :
    b'.request n = b.request n := by
  rcases h.row_change (n := n) with heq | ⟨hsame, ⟨row, hp, -⟩ | ⟨mark, hp, -⟩⟩
  · exact heq
  · exact absurd (hidle hsame) (by simp [hp, Delivery.busy])
  · exact absurd (hidle hsame) (by simp [hp, Delivery.busy, Delivery.working])

lemma Delivery.busy_of_working (hp : p.working = true) : p.busy = true := by
  match p with
  | .calling _ _ | .marking _ => rfl

/-- What a step of a delivery does to its own row, seen from its new place. -/
lemma DeliverMove.own_row (h : DeliverMove O syntheticOnly m a b p b' p')
    (hpending : ∀ seen, p = .pendingSeen seen → ∃ row, b.request m = some row ∧
      row.status = .pending)
    (hprocessing : p.working = true → ∃ row, b.request m = some row ∧ row.status = .processing) :
    (∀ seen, p' = .pendingSeen seen → ∃ row, b'.request m = some row ∧ row.status = .pending) ∧
    (p'.working = true → ∃ row, b'.request m = some row ∧ row.status = .processing) := by
  cases h with
  | see hrow hstatus =>
    exact ⟨fun _ _ => ⟨_, hrow, hstatus⟩, fun h => absurd h (by simp [Delivery.working])⟩
  | @start _ row =>
    obtain ⟨now, hnow, -⟩ := hpending row rfl
    have hworking := validated_working syntheticOnly m row
    refine ⟨fun seen hseen => ?_, fun _ => ⟨{ now with status := .processing }, ?_, rfl⟩⟩
    · rw [hseen] at hworking
      exact absurd hworking (by simp [Delivery.working])
    · rw [Backend.request_update_same .rfl, hnow, Option.map_some]
  | call _ _ => exact ⟨fun _ h => absurd h (by simp), fun _ => hprocessing rfl⟩
  | @outcome _ _ _ outcome =>
    refine ⟨fun seen hseen => ?_, fun _ => hprocessing rfl⟩
    rcases afterCall_cases outcome with ⟨mark, hmark⟩ | hdecided
    · exact absurd (hmark.symm.trans hseen) (by simp)
    · exact absurd (hdecided.symm.trans hseen) (by simp)
  | receive _ | missing _ | skip _ _ | mark | delete | leave | fault _ _ | crash _ =>
    exact ⟨fun _ h => absurd h (by simp), fun h => absurd h (by simp [Delivery.working])⟩

end Moves

section Runs

variable {ι : Type*} [DecidableEq ι] {O : Outside} {syntheticOnly : Bool}
  {msg : ι → QueueMessage} {c d : Config ι Backend Delivery} {i j : ι} {a : WorkerAction}
  {b' : Backend} {p' : Delivery}

omit [DecidableEq ι] in
lemma exclusive_start (b : Backend) : Exclusive msg (b.start : Config ι Backend Delivery) :=
  ⟨fun _ _ h => absurd h (by simp [Backend.start, Delivery.busy, Delivery.working]),
    fun _ _ h => absurd h (by simp [Backend.start]),
    fun _ h => absurd h (by simp [Backend.start, Delivery.working])⟩

omit [DecidableEq ι] in
/-- A delivery that starts to be busy meets no other busy one. -/
lemma Exclusive.alone (hc : Exclusive msg c) (hok : ExclusiveStart msg c i a)
    (hmove : DeliverMove O syntheticOnly (msg i) a c.shared (c.proc i) b' p')
    (hp' : p'.busy = true) (hj : (c.proc j).busy = true) (hsame : (msg j).SameRequest (msg i)) :
    j = i := by
  rcases hmove.busy hp' with hbusy | ⟨rfl, row, hrow, hstatus⟩
  · exact hc.unique j i hj hbusy hsame
  · match hp : c.proc j with
    | .pendingSeen seen => exact absurd hp (hok rfl row hrow hstatus j seen hsame)
    | .calling _ _ | .marking _ =>
      obtain ⟨now, hnow, hprocessing⟩ := hc.processing j (by rw [hp]; rfl)
      rw [Backend.request_eq hsame, hrow, Option.some.injEq] at hnow
      rw [hnow, hprocessing] at hstatus
      exact absurd hstatus (by simp)
    | .idle | .received | .decided _ | .finished _ | .crashed =>
      exact absurd hj (by simp [hp, Delivery.busy, Delivery.working])

lemma Exclusive.unique_step (hc : Exclusive msg c) (hok : ExclusiveStart msg c i a)
    (hmove : DeliverMove O syntheticOnly (msg i) a c.shared (c.proc i) b' p') (j k : ι)
    (hj : (Function.update c.proc i p' j).busy = true)
    (hk : (Function.update c.proc i p' k).busy = true) (hsame : (msg j).SameRequest (msg k)) :
    j = k := by
  by_cases hji : j = i
  · by_cases hki : k = i
    · rw [hji, hki]
    · subst hji
      rw [Function.update_self] at hj
      rw [Function.update_of_ne hki] at hk
      exact (hc.alone hok hmove hj hk hsame.symm).symm
  · rw [Function.update_of_ne hji] at hj
    by_cases hki : k = i
    · subst hki
      rw [Function.update_self] at hk
      exact hc.alone hok hmove hk hj hsame
    · rw [Function.update_of_ne hki] at hk
      exact hc.unique j k hj hk hsame

omit [DecidableEq ι] in
/-- The row of a busy delivery is left alone by every other delivery. -/
lemma Exclusive.row_kept (hc : Exclusive msg c)
    (hmove : DeliverMove O syntheticOnly (msg i) a c.shared (c.proc i) b' p') (hji : j ≠ i)
    (hj : (c.proc j).busy = true) : b'.request (msg j) = c.shared.request (msg j) := by
  refine hmove.row_of_idle (fun hsame => ?_)
  cases hbusy : (c.proc i).busy with
  | false => rfl
  | true => exact absurd (hc.unique j i hj hbusy hsame) hji

theorem Exclusive.step (hc : Exclusive msg c) (hok : ExclusiveStart msg c i a)
    (hfire : (workers O syntheticOnly msg).fire c i a = some d) : Exclusive msg d := by
  obtain ⟨b', p', hstep, rfl⟩ := ((workers O syntheticOnly msg).fire_eq_some).mp hfire
  have hmove := deliverMove_of_step hstep
  have hown := hmove.own_row (hc.pending i) (hc.processing i)
  refine ⟨hc.unique_step hok hmove, fun j seen hj => ?_, fun j hj => ?_⟩
  · change Function.update c.proc i p' j = _ at hj
    by_cases hji : j = i
    · subst hji
      rw [Function.update_self] at hj
      exact hown.1 seen hj
    · rw [Function.update_of_ne hji] at hj
      obtain ⟨row, hrow, hstatus⟩ := hc.pending j seen hj
      exact ⟨row, (hc.row_kept hmove hji (by rw [hj]; rfl)).trans hrow, hstatus⟩
  · change (Function.update c.proc i p' j).working = true at hj
    by_cases hji : j = i
    · subst hji
      rw [Function.update_self] at hj
      exact hown.2 hj
    · rw [Function.update_of_ne hji] at hj
      obtain ⟨row, hrow, hstatus⟩ := hc.processing j hj
      exact ⟨row, (hc.row_kept hmove hji (Delivery.busy_of_working hj)).trans hrow, hstatus⟩

/-- A row with a final status is left alone. -/
lemma Exclusive.terminal_kept (hc : Exclusive msg c)
    (hfire : (workers O syntheticOnly msg).fire c i a = some d) {m : QueueMessage}
    {row : WorkRequest} (hrow : c.shared.request m = some row)
    (hterminal : row.status.terminal = true) : d.shared.request m = some row := by
  obtain ⟨b', p', hstep, rfl⟩ := ((workers O syntheticOnly msg).fire_eq_some).mp hfire
  refine ((deliverMove_of_step hstep).row_of_idle (fun hsame => ?_)).trans hrow
  rw [Backend.request_eq hsame] at hrow
  match hp : c.proc i with
  | .pendingSeen seen =>
    obtain ⟨now, hnow, hstatus⟩ := hc.pending i seen hp
    obtain rfl := Option.some.inj (hnow.symm.trans hrow)
    exact absurd hterminal (by simp [hstatus, RequestStatus.terminal])
  | .calling _ _ | .marking _ =>
    obtain ⟨now, hnow, hstatus⟩ := hc.processing i (by rw [hp]; rfl)
    obtain rfl := Option.some.inj (hnow.symm.trans hrow)
    exact absurd hterminal (by simp [hstatus, RequestStatus.terminal])
  | .idle | .received | .decided _ | .finished _ | .crashed => rfl

/-! ### A delivery that has executed the action -/

/-- A result that says executed is plain JSON data. -/
structure Executed (result : Dict) : Prop where
  json : JsonMembers result
  executed : (Dict.get result "executed").truthy = true

/-- What a call that says executed returns is plain JSON data. -/
def PlainResults (c : Config ι Backend Delivery) : Prop :=
  ∀ i r result, c.proc i = .calling r (.executed (.ok result)) →
    (Dict.get result "executed").truthy = true → JsonMembers result

lemma DeliverMove.executes {m : QueueMessage} {b : Backend} {p : Delivery} {r : Request}
    {result : Dict}
    (h : DeliverMove O syntheticOnly m a b p b' (.calling r (.executed (.ok result)))) :
    a = .call (.executes (.ok result)) := by
  generalize hp' : Delivery.calling r (.executed (.ok result)) = p' at h
  cases h with
  | @call _ _ _ _ call' _ _ hcall =>
    obtain ⟨rfl, rfl⟩ := Delivery.calling.inj hp'
    generalize hq : Phase.executed (.ok result) = q at hcall
    have hmove := callMove_of_step hcall
    cases hmove with
    | execute =>
      obtain rfl := Phase.executed.inj hq
      rfl
    | refuse _ | insert _ _ _ | conflict _ _ _ | lost _ | read _ | settle | abandon | enter
    | unserialisable _ | complete _ _ | fail | crash _ => exact absurd hq (by simp)
  | @start _ row =>
    rcases validated_cases syntheticOnly m row with ⟨mark, hmark⟩ | ⟨request, hcalling⟩
    · exact absurd (hp'.trans hmark) (by simp)
    · exact absurd (hp'.trans hcalling) (by simp)
  | @outcome _ _ _ outcome =>
    rcases afterCall_cases outcome with ⟨mark, hmark⟩ | hdecided
    · exact absurd (hp'.trans hmark) (by simp)
    · exact absurd (hp'.trans hdecided) (by simp)
  | receive _ | missing _ | skip _ _ | see _ _ | mark | delete | leave | fault _ _ | crash _ =>
    exact absurd hp' (by simp)

lemma PlainResults.step (hc : PlainResults c) (hok : ResultKept c i a)
    (hfire : (workers O syntheticOnly msg).fire c i a = some d) : PlainResults d := by
  obtain ⟨b', p', hstep, rfl⟩ := ((workers O syntheticOnly msg).fire_eq_some).mp hfire
  intro j r result hj hexecuted
  change Function.update c.proc i p' j = _ at hj
  by_cases hji : j = i
  · subst hji
    rw [Function.update_self] at hj
    subst hj
    exact hok.2 result (deliverMove_of_step hstep).executes hexecuted
  · rw [Function.update_of_ne hji] at hj
    exact hc j r result hj hexecuted

omit [DecidableEq ι] in
lemma PlainResults.executed {result : Dict} (hc : PlainResults c)
    (hi : (c.proc i).HasExecuted result) : Executed result := by
  match hp : c.proc i with
  | .calling r (.executed (.ok answer)) =>
    rw [hp] at hi
    obtain ⟨rfl, hexecuted⟩ := hi
    exact ⟨hc i r answer hp hexecuted, hexecuted⟩
  | .idle | .received | .pendingSeen _ | .marking _ | .decided _ | .finished _ | .crashed
  | .calling _ .idle | .calling _ (.conflicted _) | .calling _ (.seen _ _ _) | .calling _ .owned
  | .calling _ .executing | .calling _ (.executed (.error _)) | .calling _ (.done _ _)
  | .calling _ (.crashed _) =>
    rw [hp] at hi
    exact hi.elim

/-- A delivery on its way to recording a result. -/
def Delivery.Records (result : Dict) (b : Backend) (m : QueueMessage) : Delivery → Prop
  | .calling _ (.executed (.ok r)) => r = result
  | .calling _ (.done _ (.ok v)) => v = .dict result
  | .marking mark => mark.status = .completed ∧ mark.result = some (.dict result)
  | .decided _ | .finished _ | .crashed => Recorded b m result
  | _ => False

lemma Delivery.HasExecuted.records {p : Delivery} {result : Dict} (h : p.HasExecuted result)
    (b : Backend) (m : QueueMessage) : p.Records result b m := by
  match p with
  | .calling _ (.executed (.ok r)) => exact h.1

lemma Executed.jsonSafe {result : Dict} (h : Executed result) (O : Outside) :
    jsonSafe O (.dict result) = .ok (.dict result) := by
  obtain ⟨j, hj, hload⟩ := Value.IsJson.load_prepare (jsonDefault O) (.dict result) h.json
  rw [OpsCopilot.jsonSafe, hj, Except.map, hload]

lemma Executed.outcomeMark {result : Dict} (h : Executed result) :
    outcomeMark result = ⟨.completed, some (.dict result), none, rfl⟩ := by
  rw [OpsCopilot.outcomeMark, if_pos h.executed]

lemma Delivery.Records.recorded {result : Dict} {b : Backend} {m : QueueMessage} {p : Delivery}
    (h : p.Records result b m) (hbusy : p.busy = false) : Recorded b m result := by
  match p with
  | .decided _ | .finished _ | .crashed => exact h
  | .calling _ _ | .marking _ | .pendingSeen _ => exact Bool.noConfusion hbusy
  | .idle | .received => exact h.elim

/-- A busy delivery on its way to recording a result holds it. -/
lemma Delivery.Records.unrecorded {result : Dict} {b : Backend} {m : QueueMessage} {p : Delivery}
    (h : p.Records result b m) (hresult : Executed result) (hbusy : p.busy = true) :
    p.unrecorded = true := by
  match p with
  | .calling _ (.executed (.ok r)) =>
    obtain rfl := h
    exact hresult.executed
  | .calling _ (.done _ (.ok v)) =>
    obtain rfl := h
    exact hresult.executed
  | .marking mark => exact decide_eq_true h.1

lemma CallMove.records {r : Request} {g g' : Registry} {call' : Phase} {a : CallAction}
    {result : Dict} (h : CallMove O r a g (.executed (.ok result)) g' call') (hlive : a ≠ .crash)
    (hresult : Executed result) : call' = .done true (.ok (.dict result)) := by
  cases h with
  | unserialisable herror =>
    obtain ⟨e, he⟩ := herror _ (hresult.jsonSafe O)
    have hload := Value.IsJson.loadsDumps_eq (v := .dict result) hresult.json
    exact absurd (he.symm.trans hload) (by simp)
  | complete hsafe _ => rw [Except.ok.inj (hsafe.symm.trans (hresult.jsonSafe O))]
  | crash _ => exact absurd rfl hlive

lemma DeliverMove.records {m : QueueMessage} {b : Backend} {p : Delivery} {result : Dict}
    (h : DeliverMove O syntheticOnly m a b p b' p') (hp : p.Records result b m)
    (hresult : Executed result) (hkept : a = .fault ∨ a = .crash → p.unrecorded = false)
    (hexists : p.working = true → ∃ row, b.request m = some row) :
    p'.Records result b' m := by
  have hfailed : a = .fault ∨ a = .crash → Recorded b m result := by
    intro ha
    refine hp.recorded (Bool.eq_false_iff.mpr (fun hbusy => ?_))
    exact absurd (hp.unrecorded hresult hbusy) (by simp [hkept ha])
  cases h with
  | @call _ _ _ call _ _ hlive hcall =>
    have hmove := callMove_of_step hcall
    cases call with
    | executed outcome =>
      cases outcome with
      | ok r =>
        obtain rfl := hp
        rw [hmove.records hlive hresult]
        rfl
      | error _ => exact hp.elim
    | done _ _ => exact absurd hmove.live (by simp [Phase.ended])
    | idle | conflicted _ | seen _ _ _ | owned | executing | crashed _ => exact hp.elim
  | @outcome _ _ _ outcome =>
    cases outcome with
    | ok v =>
      obtain rfl := hp
      change (Delivery.marking (outcomeMark result)).Records result _ m
      rw [hresult.outcomeMark]
      exact ⟨rfl, rfl⟩
    | error _ => exact hp.elim
  | @mark _ mark =>
    obtain ⟨row, hrow⟩ := hexists rfl
    refine ⟨WorkRequest.mark mark row, ?_, hp⟩
    rw [Backend.request_update_same .rfl, hrow, Option.map_some]
  | delete | leave => exact hp
  | fault _ _ => exact hfailed (.inl rfl)
  | crash _ => exact hfailed (.inr rfl)
  | receive _ | missing _ | skip _ _ | see _ _ | start => exact hp.elim

structure Recording (msg : ι → QueueMessage) (i : ι) (result : Dict)
    (c : Config ι Backend Delivery) : Prop where
  exclusive : Exclusive msg c
  records : (c.proc i).Records result c.shared (msg i)

lemma Recording.step {result : Dict} (hresult : Executed result) (hc : Recording msg j result c)
    (hok : ExclusiveStart msg c i a ∧ ResultKept c i a)
    (hfire : (workers O syntheticOnly msg).fire c i a = some d) : Recording msg j result d := by
  have hterminal := fun {row : WorkRequest} (hrow : c.shared.request (msg j) = some row) =>
    hc.exclusive.terminal_kept hfire hrow
  refine ⟨hc.exclusive.step hok.1 hfire, ?_⟩
  obtain ⟨b', p', hstep, rfl⟩ := ((workers O syntheticOnly msg).fire_eq_some).mp hfire
  change (Function.update c.proc i p' j).Records result b' (msg j)
  have hrecords := hc.records
  by_cases hji : j = i
  · subst hji
    rw [Function.update_self]
    refine (deliverMove_of_step hstep).records hrecords hresult hok.2.1 (fun hworking => ?_)
    obtain ⟨row, hrow, -⟩ := hc.exclusive.processing j hworking
    exact ⟨row, hrow⟩
  · rw [Function.update_of_ne hji]
    match hp : c.proc j with
    | .decided _ | .finished _ | .crashed =>
      rw [hp] at hrecords
      obtain ⟨row, hrow, hstatus, hkept⟩ := hrecords
      exact ⟨row, hterminal hrow (by simp [hstatus, RequestStatus.terminal]), hstatus, hkept⟩
    | .calling _ (.executed (.ok _)) | .calling _ (.done _ (.ok _)) | .marking _ =>
      rw [hp] at hrecords
      exact hrecords
    | .idle | .received | .pendingSeen _ | .calling _ .idle | .calling _ (.conflicted _)
    | .calling _ (.seen _ _ _) | .calling _ .owned | .calling _ .executing
    | .calling _ (.executed (.error _)) | .calling _ (.done _ (.error _))
    | .calling _ (.crashed _) =>
      rw [hp] at hrecords
      exact hrecords.elim

/-! ### The way to the row -/

/-- By its own steps, delivery `i` gets its row completed with the result. -/
def ComesToRecord (O : Outside) (syntheticOnly : Bool) (msg : ι → QueueMessage) (i : ι)
    (result : Dict) (c : Config ι Backend Delivery) : Prop :=
  ∃ actions e, (workers O syntheticOnly msg).run c (own i actions) = some e ∧
    Recorded e.shared (msg i) result

lemma ComesToRecord.cons {result : Dict}
    (hfire : (workers O syntheticOnly msg).fire c i a = some d)
    (h : ComesToRecord O syntheticOnly msg i result d) :
    ComesToRecord O syntheticOnly msg i result c := by
  obtain ⟨actions, e, hrun, he⟩ := h
  exact ⟨a :: actions, e, (workers O syntheticOnly msg).run_cons_eq_some.mpr ⟨d, hfire, hrun⟩, he⟩

lemma Recording.comesToRecord_marking {result : Dict} (hc : Recording msg i result c) {mark : Mark}
    (hi : c.proc i = .marking mark) : ComesToRecord O syntheticOnly msg i result c := by
  have hrecords := hc.records
  rw [hi] at hrecords
  obtain ⟨row, hrow, -⟩ := hc.exclusive.processing i (by rw [hi]; rfl)
  have hfire : (workers O syntheticOnly msg).fire c i .mark = some
      ⟨c.shared.update (msg i) (WorkRequest.mark mark),
        Function.update c.proc i (.decided true)⟩ := by
    simp only [Program.fire, workers, hi, deliverStep, Option.map_some]
  refine .cons hfire ⟨[], _, rfl, WorkRequest.mark mark row, ?_, hrecords⟩
  rw [Backend.request_update_same .rfl, hrow, Option.map_some]

lemma Recording.comesToRecord_done {result : Dict} (hresult : Executed result)
    (hc : Recording msg i result c) {r : Request} {mine : Bool} {v : Value}
    (hi : c.proc i = .calling r (.done mine (.ok v))) :
    ComesToRecord O syntheticOnly msg i result c := by
  have hrecords := hc.records
  rw [hi] at hrecords
  obtain rfl := hrecords
  have hfire : (workers O syntheticOnly msg).fire c i .outcome = some
      ⟨c.shared, Function.update c.proc i (.marking (outcomeMark result))⟩ := by
    simp only [Program.fire, workers, hi, deliverStep, Option.map_some, afterCall]
  exact .cons hfire ((hc.step hresult ⟨fun h => absurd h (by simp), by simp, by simp⟩
    hfire).comesToRecord_marking (Function.update_self ..))

lemma Recording.comesToRecord_executed {result : Dict} (hresult : Executed result)
    (hc : Recording msg i result c) {r : Request} {answer : Dict}
    (hi : c.proc i = .calling r (.executed (.ok answer))) :
    ComesToRecord O syntheticOnly msg i result c := by
  have hrecords := hc.records
  rw [hi] at hrecords
  obtain rfl := hrecords
  have hload := Value.IsJson.loadsDumps_eq (v := .dict answer) hresult.json
  have hfire : (workers O syntheticOnly msg).fire c i (.call (.finish 0)) = some
      ⟨{ c.shared with registry := c.shared.registry.put r ((c.shared.registry.row r).map
          (fun row => row.finish .completed (.dict answer) 0)) },
        Function.update c.proc i (.calling r (.done true (.ok (.dict answer))))⟩ := by
    simp only [Program.fire, workers, hi, deliverStep, callStep, hresult.jsonSafe O, hload,
      Option.map_some]
  exact .cons hfire ((hc.step hresult ⟨fun h => absurd h (by simp), by simp, by simp⟩
    hfire).comesToRecord_done hresult (Function.update_self ..))

lemma Recording.comesToRecord {result : Dict} (hresult : Executed result)
    (hc : Recording msg i result c) : ComesToRecord O syntheticOnly msg i result c := by
  have hrecords := hc.records
  match hp : c.proc i with
  | .calling _ (.executed (.ok _)) => exact hc.comesToRecord_executed hresult hp
  | .calling _ (.done _ (.ok _)) => exact hc.comesToRecord_done hresult hp
  | .marking _ => exact hc.comesToRecord_marking hp
  | .decided _ | .finished _ | .crashed =>
    rw [hp] at hrecords
    exact ⟨[], c, rfl, hrecords⟩
  | .idle | .received | .pendingSeen _ | .calling _ .idle | .calling _ (.conflicted _)
  | .calling _ (.seen _ _ _) | .calling _ .owned | .calling _ .executing
  | .calling _ (.executed (.error _)) | .calling _ (.done _ (.error _)) | .calling _ (.crashed _) =>
    rw [hp] at hrecords
    exact hrecords.elim

/-- The status of a work request tells the truth in every run in which no two deliveries read
it as pending before one of them has switched it to `processing`, and in which no delivery fails
between the execution of its action and its final status. -/
theorem statusTruthful_of_exclusiveStart (b : Backend) {schedule later : List (ι × WorkerAction)}
    (hok : (workers O syntheticOnly msg).Along
      (fun c i a => ExclusiveStart msg c i a ∧ ResultKept c i a) b.start (schedule ++ later)) :
    StatusTruthful O syntheticOnly msg b schedule later := by
  intro c d hrun hlater
  have hstart : Exclusive msg (b.start : Config ι Backend Delivery) ∧
      PlainResults (b.start : Config ι Backend Delivery) :=
    ⟨exclusive_start b, fun _ _ _ h => absurd h (by simp [Backend.start])⟩
  have hkeep : ∀ c i a d, Exclusive msg c ∧ PlainResults c →
      ExclusiveStart msg c i a ∧ ResultKept c i a →
      (workers O syntheticOnly msg).fire c i a = some d → Exclusive msg d ∧ PlainResults d :=
    fun _ _ _ _ h hstep hfire => ⟨h.1.step hstep.1 hfire, h.2.step hstep.2 hfire⟩
  obtain ⟨hc, hplain⟩ := (workers O syntheticOnly msg).run_invariant hkeep hstart
    ((workers O syntheticOnly msg).along_left hok) hrun
  have hok' := (workers O syntheticOnly msg).along_append hok hrun
  refine ⟨fun m row hrow hterminal => ?_, fun i result hexecuted => ?_⟩
  · have hstep : ∀ c i a d, Exclusive msg c ∧ c.shared.request m = some row →
        ExclusiveStart msg c i a ∧ ResultKept c i a →
        (workers O syntheticOnly msg).fire c i a = some d →
        Exclusive msg d ∧ d.shared.request m = some row :=
      fun _ _ _ _ h hok hfire => ⟨h.1.step hok.1 hfire, h.1.terminal_kept hfire h.2 hterminal⟩
    have hd := (workers O syntheticOnly msg).run_invariant hstep ⟨hc, hrow⟩ hok' hlater
    exact ⟨row, hd.2, rfl, rfl⟩
  · have hresult : Executed result := hplain.executed hexecuted
    have hd : Recording msg i result d := (workers O syntheticOnly msg).run_invariant
      (fun _ _ _ _ h hstep hfire => h.step hresult hstep hfire) ⟨hc, hexecuted.records _ _⟩ hok'
      hlater
    exact ⟨fun hidle => hd.records.recorded hidle, hd.comesToRecord hresult⟩

end Runs

/-! ### Two workers past the check -/

/-- Both workers read the row as pending; worker `true` meets the claim of worker `false`. -/
def bothPending : List (Bool × WorkerAction) :=
  [(false, .receive), (true, .receive), (false, .read), (true, .read), (false, .start), (true, .start),
    (false, .call (.claim 0)), (false, .call .enter), (true, .call (.claim 1)), (true, .call (.read 2)),
    (true, .call .settle), (true, .outcome),
    (false, .call (.executes (.ok [(.str "executed", .bool true)])))]

/-- Worker `false` has executed the price change, and the row ends as failed without a result. -/
theorem both_pending_status_wrong : ¬StatusTruthful plainOutside true redelivered onePending
    bothPending [(false, .call (.finish 3)), (false, .outcome), (false, .mark), (true, .mark)] := by
  intro h
  obtain ⟨hrecorded, -⟩ := (h _ _ rfl rfl).2 false [(.str "executed", .bool true)] ⟨rfl, rfl⟩
  obtain ⟨row, hrow, hstatus, -⟩ := hrecorded rfl
  obtain rfl := Option.some.inj hrow
  exact RequestStatus.noConfusion hstatus

theorem concurrent_delivery_status : StatusTruthful plainOutside true redelivered onePending
    (concurrentDelivery.take 9) (concurrentDelivery.drop 9) := by
  refine statusTruthful_of_exclusiveStart onePending ?_
  have hkept : ∀ {c : Config Bool Backend Delivery} {i : Bool} {a : WorkerAction}, a ≠ .fault →
      a ≠ .crash → (∀ outcome, a ≠ .call (.executes outcome)) → ResultKept c i a :=
    fun hfault hcrash hexecutes => ⟨fun h => h.elim (fun h => absurd h hfault)
      (fun h => absurd h hcrash), fun result h => absurd h (hexecutes _)⟩
  have hplain : ∀ {c d : Config Bool Backend Delivery} {i : Bool} {a : WorkerAction}
      {rest : List (Bool × WorkerAction)}, a ≠ .read → ResultKept c i a →
      (workers plainOutside true redelivered).fire c i a = some d →
      (workers plainOutside true redelivered).Along
        (fun c i a => ExclusiveStart redelivered c i a ∧ ResultKept c i a) d rest →
      (workers plainOutside true redelivered).Along
        (fun c i a => ExclusiveStart redelivered c i a ∧ ResultKept c i a) c ((i, a) :: rest) :=
    fun hread hresult hfire hrest =>
      Program.along_cons _ ⟨fun h => absurd h hread, hresult⟩ hfire hrest
  refine hplain (by simp) (hkept (by simp) (by simp) (by simp)) rfl ?_
  refine Program.along_cons _ ⟨?_, hkept (by simp) (by simp) (by simp)⟩ rfl ?_
  · intro _ _ _ _ j seen _ hj
    cases j with
    | false | true => exact Delivery.noConfusion hj
  refine hplain (by simp) (hkept (by simp) (by simp) (by simp)) rfl ?_
  refine hplain (by simp) (hkept (by simp) (by simp) (by simp)) rfl ?_
  refine Program.along_cons _ ⟨?_, hkept (by simp) (by simp) (by simp)⟩ rfl ?_
  · intro _ row hrow hpending
    obtain rfl := Option.some.inj hrow
    exact RequestStatus.noConfusion hpending
  refine hplain (by simp) (hkept (by simp) (by simp) (by simp)) rfl ?_
  refine hplain (by simp) (hkept (by simp) (by simp) (by simp)) rfl ?_
  refine hplain (by simp) (hkept (by simp) (by simp) (by simp)) rfl ?_
  refine hplain (by simp) ⟨by simp, fun result h _ => ?_⟩ rfl ?_
  · obtain rfl := Except.ok.inj (CallAction.executes.inj (WorkerAction.call.inj h))
    simp [JsonMembers, Key.isStr, Value.IsJson]
  refine hplain (by simp) (hkept (by simp) (by simp) (by simp)) rfl ?_
  refine hplain (by simp) (hkept (by simp) (by simp) (by simp)) rfl ?_
  refine hplain (by simp) (hkept (by simp) (by simp) (by simp)) rfl ?_
  exact hplain (by simp) (hkept (by simp) (by simp) (by simp)) rfl trivial

end OpsCopilot
