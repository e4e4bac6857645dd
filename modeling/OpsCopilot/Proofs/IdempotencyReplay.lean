import OpsCopilot.Proofs.IdempotencyClaims

/-!
# When a replayed result is the returned one

The owner's `complete` does not notice that its claim was abandoned. As long as no caller
finds a claim stale whose owner is still at work, the row of a key holds what its owner
returned, and later callers get it.
-/

namespace OpsCopilot

open Python Interleaving

/-- The call has ended without a result to return. -/
def Phase.Stopped : Phase → Prop
  | .crashed _ | .done _ (.error _) => True
  | _ => False

section

variable {ι : Type*} [DecidableEq ι]

/-- Whenever the step of call `i` finds the row in progress and stale, its owner has stopped. -/
def NoLiveAbandon (req : ι → Request) (c : Config ι Registry Phase) (i : ι) (a : CallAction) :
    Prop :=
  ∀ now fingerprint row j, a = .read now → c.proc i = .conflicted fingerprint →
    c.shared.row (req i) = some row → row.isStale now = true →
    (c.proc j).owns = true → (req j).SameKey (req i) → (c.proc j).Stopped

/-- If the owner of a key has returned a result after `schedule`, then a call with the same
key and request that starts in `later` never gets to execute the action itself, answers with
nothing but that result, and can always come to that answer. -/
def ReplaysResult (O : Outside) (req : ι → Request) (schedule later : List (ι × CallAction)) :
    Prop :=
  ∀ c d i j v, (idempotentCalls O req).run Registry.start schedule = some c →
    c.proc i = .done true (.ok v) → c.proc j = .idle → (req i).SameKey (req j) →
    (req i).fingerprint O = (req j).fingerprint O →
    (idempotentCalls O req).run c later = some d →
    (d.proc j).owns = false ∧ (∀ own outcome, d.proc j = .done own outcome → outcome = .ok v) ∧
    ((d.proc j).ended = false → ∃ actions e, (idempotentCalls O req).run d (own j actions) = some e ∧
      e.proc j = .done false (.ok v))

end

/-! ### The row of a live owner -/

/-- The row that an owner relies on: in progress while it works, completed with its result
once it has returned one. -/
def Phase.Holds (r : Request) (g : Registry) : Phase → Prop
  | .owned | .executing | .executed _ =>
    ∃ row, g.row r = some row ∧ row.status = .inProgress
  | .done true (.ok v) =>
    ∃ row, g.row r = some row ∧ row.status = .completed ∧ row.result = some v ∧ ∃ d, v = .dict d
  | _ => True

lemma Phase.Holds.of_row_eq {r : Request} {g g' : Registry} {p : Phase}
    (hrow : g'.row r = g.row r) (h : p.Holds r g) : p.Holds r g' := by
  match p with
  | .owned | .executing | .executed _ =>
    obtain ⟨row, hg, hstatus⟩ := h
    exact ⟨row, hrow.trans hg, hstatus⟩
  | .done true (.ok v) =>
    obtain ⟨row, hg, hdone⟩ := h
    exact ⟨row, hrow.trans hg, hdone⟩
  | .idle | .conflicted _ | .seen _ _ _ | .done true (.error _) | .done false _ | .crashed _ =>
    trivial

lemma Phase.Stopped.holds {p : Phase} (h : p.Stopped) (r : Request) (g : Registry) :
    p.Holds r g := by
  match p with
  | .crashed _ | .done true (.error _) | .done false _ => trivial

lemma Phase.Stopped.ended {p : Phase} (h : p.Stopped) : p.ended = true := by
  match p with
  | .crashed _ | .done _ (.error _) => rfl

/-- `_json_safe` of a result is a dictionary that a JSON column keeps. -/
lemma jsonSafe_dict {O : Outside} {result : Dict} {safe : Value}
    (h : jsonSafe O (.dict result) = .ok safe) :
    (∃ d, safe = .dict d) ∧ loadsDumps safe = .ok safe := by
  unfold jsonSafe at h
  rw [prepare] at h
  cases hms : prepareMembers ⟨false, jsonDefault O⟩ result with
  | error e =>
    rw [hms] at h
    exact absurd h (by simp [Except.map, Except.bind])
  | ok js =>
    rw [hms] at h
    have hload : (Json.obj (js.map (fun m => (m.1.text, m.2)))).load = safe := Except.ok.inj h
    have hjson := Json.load_isJson (Json.obj (js.map (fun m => (m.1.text, m.2))))
    rw [hload] at hjson
    refine ⟨?_, hjson.loadsDumps_eq⟩
    rw [Json.load] at hload
    exact ⟨_, hload.symm⟩

section Moves

variable {O : Outside} {r s : Request} {a : CallAction} {g g' : Registry} {p p' : Phase}

lemma CallMove.live (h : CallMove O r a g p g' p') : p.ended = false := by
  cases h with
  | crash hlive => exact hlive
  | _ => rfl

/-- A step changes at most the row under its own key, and only as the inserting caller, as the
owner, or to abandon the claim. -/
lemma CallMove.row_change (h : CallMove O r a g p g' p') :
    g'.row s = g.row s ∨ s.SameKey r ∧
      (g.row r = none ∨ p.owns = true ∨ ∃ fingerprint row, p = .seen fingerprint row true) := by
  by_cases hsame : s.SameKey r
  · cases h with
    | refuse _ | conflict _ _ _ | lost _ | read _ | settle | enter | execute | unserialisable _
    | crash _ => exact .inl rfl
    | insert _ _ hnone => exact .inr ⟨hsame, .inl hnone⟩
    | abandon => exact .inr ⟨hsame, .inr (.inr ⟨_, _, rfl⟩)⟩
    | complete _ _ | fail => exact .inr ⟨hsame, .inr (.inl rfl)⟩
  · refine .inl ?_
    cases h with
    | refuse _ | conflict _ _ _ | lost _ | read _ | settle | enter | execute | unserialisable _
    | crash _ => rfl
    | insert _ _ _ | abandon | complete _ _ | fail => exact Registry.row_put_other hsame g _

/-- A step of the owner keeps the hold on its row. -/
lemma CallMove.holds (h : CallMove O r a g p g' p') (hp : p.Holds r g) : p'.Holds r g' := by
  cases h with
  | refuse _ | conflict _ _ _ | lost _ | read _ | settle | abandon | unserialisable _ | fail
  | crash _ => trivial
  | insert _ _ _ => exact ⟨_, Registry.row_put_same .rfl g _, rfl⟩
  | enter | execute => exact hp
  | complete hsafe hstored =>
    obtain ⟨row, hrow, hstatus⟩ := hp
    obtain ⟨hdict, hkept⟩ := jsonSafe_dict hsafe
    rw [hkept] at hstored
    obtain rfl := Except.ok.inj hstored
    refine ⟨_, (Registry.row_put_same .rfl g _).trans (by rw [hrow, Option.map_some]), ?_⟩
    rw [IdempotencyKey.finish, if_pos hstatus]
    exact ⟨rfl, rfl, hdict⟩

end Moves

/-! ### The invariant -/

section Runs

variable {ι : Type*} [DecidableEq ι] {O : Outside} {req : ι → Request}
  {c d : Config ι Registry Phase}

structure Replay (O : Outside) (req : ι → Request) (c : Config ι Registry Phase) : Prop where
  claims : Claims O req c
  abandoning : ∀ i fingerprint row, c.proc i = .seen fingerprint row true →
    ∀ j, (c.proc j).owns = true → (req j).SameKey (req i) → (c.proc j).Stopped
  holds : ∀ i, (c.proc i).Holds (req i) c.shared

omit [DecidableEq ι] in
lemma replay_start : Replay O req (Registry.start : Config ι Registry Phase) where
  claims := claims_start O req
  abandoning i _ _ hi := absurd hi (by simp [Registry.start])
  holds _ := trivial

lemma Replay.holds_step {i j : ι} {a : CallAction} {g' : Registry} {p' : Phase}
    (hc : Replay O req c) (hmove : CallMove O (req i) a c.shared (c.proc i) g' p') :
    (Function.update c.proc i p' j).Holds (req j) g' := by
  by_cases hji : j = i
  · subst hji
    rw [Function.update_self]
    exact hmove.holds (hc.holds j)
  · rw [Function.update_of_ne hji]
    rcases hmove.row_change (s := req j) with heq | ⟨hsame, hwriter⟩
    · exact (hc.holds j).of_row_eq heq
    · cases howns : (c.proc j).owns with
      | false =>
        match hp : c.proc j with
        | .idle | .conflicted _ | .seen _ _ _ | .done false _ | .done true (.error _)
        | .crashed _ => trivial
        | .owned | .executing | .executed _ | .done true (.ok _) =>
          exact absurd howns (by simp [hp, Phase.owns])
      | true =>
        rcases hwriter with hnone | hi | ⟨fingerprint, row, hseen⟩
        · obtain ⟨row, hrow, -⟩ := (hc.claims.knows j).of_owns howns
          rw [Registry.row_eq hsame, hnone] at hrow
          exact absurd hrow (by simp)
        · exact absurd (hc.claims.unique j i howns hi hsame) hji
        · exact (hc.abandoning i fingerprint row hseen j howns hsame).holds _ _

lemma Replay.abandoning_step {i : ι} {a : CallAction} {g' : Registry} {p' : Phase}
    (hc : Replay O req c) (hok : NoLiveAbandon req c i a)
    (hmove : CallMove O (req i) a c.shared (c.proc i) g' p') (j k : ι) {fingerprint : String}
    {row : IdempotencyKey} (hj : Function.update c.proc i p' j = .seen fingerprint row true)
    (hk : (Function.update c.proc i p' k).owns = true) (hsame : (req k).SameKey (req j)) :
    (Function.update c.proc i p' k).Stopped := by
  have hstopped : ∀ q, (c.proc q).Stopped → Function.update c.proc i p' q = c.proc q := by
    intro q hq
    refine Function.update_of_ne ?_ _ _
    rintro rfl
    exact absurd hq.ended (by simp [hmove.live])
  by_cases hki : k = i
  · subst hki
    rw [Function.update_self] at hk
    have hjk : j ≠ k := by
      rintro rfl
      rw [Function.update_self] at hj
      rw [hj] at hk
      exact absurd hk (by simp [Phase.owns])
    rw [Function.update_of_ne hjk] at hj
    rcases hmove.owns hk with hold | ⟨-, hnone⟩
    · have hstop := hc.abandoning j fingerprint row hj k hold hsame
      exact absurd hstop.ended (by simp [hmove.live])
    · obtain ⟨-, now, hrow, -⟩ := hj ▸ hc.claims.knows j
      rw [← Registry.row_eq hsame, hnone] at hrow
      exact absurd hrow (by simp)
  · rw [Function.update_of_ne hki] at hk
    have hstop : (c.proc k).Stopped := by
      by_cases hji : j = i
      · subst hji
        rw [Function.update_self] at hj
        subst hj
        generalize hp : c.proc j = p at hmove
        generalize hstale : true = stale at hmove
        cases hmove with
        | read hrow => exact hok _ _ _ k rfl hp hrow hstale.symm hk hsame
      · rw [Function.update_of_ne hji] at hj
        exact hc.abandoning j fingerprint row hj k hk hsame
    rw [hstopped k hstop]
    exact hstop

theorem Replay.step {i : ι} {a : CallAction} (hc : Replay O req c) (hok : NoLiveAbandon req c i a)
    (hfire : (idempotentCalls O req).fire c i a = some d) : Replay O req d := by
  have hclaims := hc.claims.step hfire
  obtain ⟨g', p', hstep, rfl⟩ := ((idempotentCalls O req).fire_eq_some).mp hfire
  have hmove := callMove_of_step hstep
  exact ⟨hclaims, fun j _ _ hj k hk hsame => hc.abandoning_step hok hmove j k hj hk hsame,
    fun j => hc.holds_step hmove⟩

/-! ### Callers after the owner has returned -/

/-- A caller on its way to answering with the owner's result. -/
def Phase.Repeats (fingerprint : String) (v : Value) : Phase → Prop
  | .idle | .crashed false => True
  | .conflicted f => f = fingerprint
  | .seen f row stale => f = fingerprint ∧ stale = false ∧
      row.requestFingerprint = fingerprint ∧ row.status = .completed ∧ row.result = some v
  | .done false outcome => outcome = .ok v
  | _ => False

omit [DecidableEq ι] in
/-- The owner of a key has returned `v`, so its row is completed with `v`. -/
lemma Replay.returned (hc : Replay O req c) {i : ι} {v : Value}
    (hi : c.proc i = .done true (.ok v)) :
    ∃ row, c.shared.row (req i) = some row ∧ (req i).fingerprint O = .ok row.requestFingerprint ∧
      validateKey (req i).idempotencyKey = .ok (req i).idempotencyKey ∧
      row.status = .completed ∧ row.result = some v ∧ ∃ d, v = .dict d := by
  obtain ⟨row, hrow, hfp, hkey⟩ := (hc.claims.knows i).of_owns (by rw [hi]; rfl)
  have hholds := hc.holds i
  rw [hi] at hholds
  obtain ⟨row', hrow', hdone⟩ := hholds
  obtain rfl : row = row' := Option.some.inj (hrow.symm.trans hrow')
  exact ⟨row, hrow, hfp, hkey, hdone⟩

lemma IdempotencyKey.answer_completed {row : IdempotencyKey} {v : Value}
    (hstatus : row.status = .completed) (hresult : row.result = some v) (hdict : ∃ d, v = .dict d) :
    row.answer false row.requestFingerprint = .ok v := by
  obtain ⟨d, rfl⟩ := hdict
  simp [IdempotencyKey.answer, hstatus, hresult]

lemma CallMove.repeats {r : Request} {a : CallAction} {g g' : Registry} {p p' : Phase}
    {row : IdempotencyKey} {v : Value} (h : CallMove O r a g p g' p')
    (hrow : g.row r = some row) (hfp : r.fingerprint O = .ok row.requestFingerprint)
    (hkey : validateKey r.idempotencyKey = .ok r.idempotencyKey)
    (hstatus : row.status = .completed) (hresult : row.result = some v) (hdict : ∃ d, v = .dict d)
    (hp : p.Repeats row.requestFingerprint v) : p'.Repeats row.requestFingerprint v := by
  cases h with
  | refuse hrefused =>
    rcases hrefused with ⟨e, he⟩ | ⟨e, he⟩
    · exact absurd (he.symm.trans hfp) (by simp)
    · exact absurd (he.symm.trans hkey) (by simp)
  | insert _ _ hnone | lost hnone => exact absurd (hnone.symm.trans hrow) (by simp)
  | conflict hfp' _ _ => exact Except.ok.inj (hfp'.symm.trans hfp)
  | @read now _ _ row' hrow' =>
    obtain rfl := Option.some.inj (hrow'.symm.trans hrow)
    exact ⟨hp, by simp [IdempotencyKey.isStale, hstatus], rfl, hstatus, hresult⟩
  | settle =>
    obtain ⟨rfl, -, hsame, hdone, hv⟩ := hp
    change _ = _
    rw [← hsame]
    exact IdempotencyKey.answer_completed hdone hv hdict
  | abandon => exact absurd hp.2.1 (by simp)
  | enter | execute | unserialisable _ | complete _ _ | fail => exact absurd hp (by simp [Phase.Repeats])
  | @crash _ p hlive =>
    match p with
    | .idle | .conflicted _ | .seen _ _ _ => trivial
    | .owned | .executing | .executed _ => exact absurd hp (by simp [Phase.Repeats])
    | .done _ _ | .crashed _ => exact absurd hlive (by simp [Phase.ended])

/-- The owner `i` has returned `v`, and call `j` repeats it. -/
structure Follows (O : Outside) (req : ι → Request) (i j : ι) (v : Value)
    (c : Config ι Registry Phase) : Prop where
  replay : Replay O req c
  returned : c.proc i = .done true (.ok v)
  repeats : ∀ fingerprint, (req i).fingerprint O = .ok fingerprint →
    (c.proc j).Repeats fingerprint v

lemma Follows.step {i j k : ι} {v : Value} {a : CallAction} (hkey : (req i).SameKey (req j))
    (hsame : (req i).fingerprint O = (req j).fingerprint O) (hc : Follows O req i j v c)
    (hok : NoLiveAbandon req c k a) (hfire : (idempotentCalls O req).fire c k a = some d) :
    Follows O req i j v d := by
  have hreplay := hc.replay.step hok hfire
  obtain ⟨row, hrow, hfp, hvalid, hstatus, hresult, hdict⟩ := hc.replay.returned hc.returned
  obtain ⟨g', p', hstep, rfl⟩ := ((idempotentCalls O req).fire_eq_some).mp hfire
  have hmove := callMove_of_step hstep
  have hik : i ≠ k := by
    rintro rfl
    exact absurd hmove.live (by simp [hc.returned, Phase.ended])
  refine ⟨hreplay, ?_, ?_⟩
  · change Function.update c.proc k p' i = _
    rw [Function.update_of_ne hik, hc.returned]
  · intro fingerprint hf
    obtain rfl := Except.ok.inj (hfp.symm.trans hf)
    change (Function.update c.proc k p' j).Repeats _ v
    by_cases hjk : j = k
    · subst hjk
      rw [Function.update_self]
      exact hmove.repeats (Registry.row_eq hkey ▸ hrow) (hsame ▸ hfp) (hkey.2 ▸ hvalid) hstatus
        hresult hdict (hc.repeats _ hfp)
    · rw [Function.update_of_ne hjk]
      exact hc.repeats _ hfp

omit [DecidableEq ι] in
/-- A call that repeats a result finds a completed row, which is never stale. -/
lemma Follows.noLiveAbandon {i j : ι} {v : Value} {a : CallAction} (hkey : (req i).SameKey (req j))
    (hc : Follows O req i j v c) : NoLiveAbandon req c j a := by
  intro now fingerprint row k _ _ hrow hstale
  obtain ⟨done, hdone, -, -, hstatus, -⟩ := hc.replay.returned hc.returned
  rw [Registry.row_eq hkey, hrow, Option.some.injEq] at hdone
  rw [← hdone] at hstatus
  exact absurd hstale (by simp [IdempotencyKey.isStale, hstatus])

omit [DecidableEq ι] in
lemma Follows.owns {i j : ι} {v : Value} (hc : Follows O req i j v c) :
    (c.proc j).owns = false ∧ ∀ own outcome, c.proc j = .done own outcome → outcome = .ok v := by
  obtain ⟨row, -, hfp, -⟩ := hc.replay.returned hc.returned
  have hrepeats := hc.repeats _ hfp
  match hp : c.proc j with
  | .idle | .conflicted _ | .seen _ _ _ | .crashed false => exact ⟨rfl, fun _ _ h => nomatch h⟩
  | .done false outcome =>
    rw [hp] at hrepeats
    refine ⟨rfl, fun own outcome' h => ?_⟩
    obtain ⟨-, rfl⟩ := Phase.done.inj h
    exact hrepeats
  | .owned | .executing | .executed _ | .done true _ | .crashed true =>
    rw [hp] at hrepeats
    exact hrepeats.elim

/-- A call that repeats a result comes to its answer by its own steps. -/
lemma Follows.answers {i j : ι} {v : Value} (hkey : (req i).SameKey (req j))
    (hsame : (req i).fingerprint O = (req j).fingerprint O) (hc : Follows O req i j v c)
    (hlive : (c.proc j).ended = false) :
    ∃ actions e, (idempotentCalls O req).run c (own j actions) = some e ∧
      e.proc j = .done false (.ok v) := by
  obtain ⟨row, hrow, hfp, hvalid, -⟩ := hc.replay.returned hc.returned
  obtain ⟨actions, e, outcome, hrun, he⟩ := idempotentCall_answers 0 0 (Registry.row_eq hkey ▸ hrow)
    (hsame ▸ hfp) (hkey.2 ▸ hvalid) hlive hc.owns.1
  have hd : Follows O req i j v e := (idempotentCalls O req).run_invariant
    (fun _ k _ _ h (hk : k = j) hfire => by
      subst hk
      exact h.step hkey hsame (h.noLiveAbandon hkey) hfire)
    hc ((idempotentCalls O req).along_own c (fun _ _ => rfl) actions) hrun
  exact ⟨actions, e, hrun, by rw [he, hd.owns.2 _ _ he]⟩

/-- Replayed results are returned results in every run in which a claim is only abandoned
after its owner has stopped. -/
theorem replaysResult_of_noLiveAbandon {schedule later : List (ι × CallAction)}
    (hok : (idempotentCalls O req).Along (NoLiveAbandon req) Registry.start (schedule ++ later)) :
    ReplaysResult O req schedule later := by
  intro c d i j v hrun hi hj hkey hsame hlater
  have hc : Replay O req c := (idempotentCalls O req).run_invariant
    (fun _ _ _ _ h hstep hfire => h.step hstep hfire) replay_start
    ((idempotentCalls O req).along_left hok) hrun
  have hd : Follows O req i j v d := (idempotentCalls O req).run_invariant
    (fun _ _ _ _ h hstep hfire => h.step hkey hsame hstep hfire)
    ⟨hc, hi, fun _ _ => by rw [hj]; trivial⟩
    ((idempotentCalls O req).along_append hok hrun) hlater
  exact ⟨hd.owns.1, hd.owns.2, hd.answers hkey hsame⟩

end Runs

/-! ### An owner slower than the stale limit -/

def executedResult : Dict := [(.str "executed", .bool true)]

/-- Worker 0 needs eight minutes; worker 1 finds its claim stale after six. -/
def slowOwner : List (ℕ × CallAction) :=
  [(0, .claim 0), (0, .enter), (1, .claim 360000000), (1, .read 360000000), (1, .settle),
    (0, .executes (.ok executedResult)), (0, .finish 480000000)]

def lateCaller : List (ℕ × CallAction) :=
  [(2, .claim 500000000), (2, .read 500000000), (2, .settle)]

def sameRequest (_ : ℕ) : Request := threeRequests 0

/-- Worker 0 returns its result, and worker 2 hears of an incomplete attempt. -/
theorem slow_owner_not_replayed :
    ¬ReplaysResult threeDigests sameRequest slowOwner lateCaller := by
  intro h
  obtain ⟨-, hanswer, -⟩ := h _ _ 0 2 (.dict executedResult) rfl rfl rfl ⟨rfl, rfl⟩ rfl rfl
  have hreplay := hanswer false (.ok (notExecuted "previous_attempt_incomplete")) rfl
  exact absurd hreplay (by simp [notExecuted, executedResult])

/-- Worker 0 is done in four minutes, and worker 2 asks six minutes after its claim. -/
def quickOwner : List (ℕ × CallAction) :=
  [(0, .claim 0), (0, .enter), (0, .executes (.ok executedResult)), (0, .finish 240000000)]

lemma noLiveAbandon_of_not_read {ι : Type*} {req : ι → Request} {c : Config ι Registry Phase}
    {i : ι} {a : CallAction} (ha : ∀ now, a ≠ .read now) : NoLiveAbandon req c i a :=
  fun now _ _ _ h => absurd h (ha now)

theorem quick_owner_replayed : ReplaysResult threeDigests sameRequest quickOwner
    [(2, .claim 360000000), (2, .read 360000000), (2, .settle)] := by
  refine replaysResult_of_noLiveAbandon ?_
  refine Program.along_cons _ (noLiveAbandon_of_not_read (by simp)) rfl ?_
  refine Program.along_cons _ (noLiveAbandon_of_not_read (by simp)) rfl ?_
  refine Program.along_cons _ (noLiveAbandon_of_not_read (by simp)) rfl ?_
  refine Program.along_cons _ (noLiveAbandon_of_not_read (by simp)) rfl ?_
  refine Program.along_cons _ (noLiveAbandon_of_not_read (by simp)) rfl ?_
  refine Program.along_cons _ ?_ rfl ?_
  · intro now fingerprint row j _ _ hrow hstale
    have hdone : row.status = .completed := by
      rw [← Option.some.inj hrow]
      rfl
    exact absurd hstale (by simp [IdempotencyKey.isStale, hdone])
  · exact Program.along_cons _ (noLiveAbandon_of_not_read (by simp)) rfl trivial

end OpsCopilot
