import OpsCopilot.Proofs.Fingerprint

/-!
# At most one execution for an idempotency key

`CallMove` lists what one step of a call can do. `Claims` is the invariant of every
interleaving: a row stays under its key with the fingerprint of the one call that owns it,
and that call is the only one that ever enters `execute_tool_call`.
-/

namespace OpsCopilot

open Python Interleaving

/-- The arguments never reach the table: no fingerprint, or no valid key. -/
def Request.Refused (O : Outside) (r : Request) : Prop :=
  (∃ e, r.fingerprint O = .error e) ∨ ∃ e, validateKey r.idempotencyKey = .error e

def Request.SameKey (r s : Request) : Prop :=
  r.tenantId = s.tenantId ∧ r.idempotencyKey = s.idempotencyKey

/-! ### The steps of a call -/

inductive CallMove (O : Outside) (r : Request) :
    CallAction → Registry → Phase → Registry → Phase → Prop
  | refuse {now : Timestamp} {g : Registry} {e : PyException} :
      r.Refused O → CallMove O r (.claim now) g .idle g (.done false (.error e))
  | insert {now : Timestamp} {g : Registry} {fingerprint : String} :
      r.fingerprint O = .ok fingerprint →
      validateKey r.idempotencyKey = .ok r.idempotencyKey → g.row r = none →
      CallMove O r (.claim now) g .idle
        (g.put r (some ⟨fingerprint, .inProgress, none, now, none⟩)) .owned
  | conflict {now : Timestamp} {g : Registry} {fingerprint : String} {row : IdempotencyKey} :
      r.fingerprint O = .ok fingerprint →
      validateKey r.idempotencyKey = .ok r.idempotencyKey → g.row r = some row →
      CallMove O r (.claim now) g .idle g (.conflicted fingerprint)
  | lost {now : Timestamp} {g : Registry} {fingerprint : String} {e : PyException} :
      g.row r = none →
      CallMove O r (.read now) g (.conflicted fingerprint) g (.done false (.error e))
  | read {now : Timestamp} {g : Registry} {fingerprint : String} {row : IdempotencyKey} :
      g.row r = some row →
      CallMove O r (.read now) g (.conflicted fingerprint) g
        (.seen fingerprint row (row.isStale now))
  | settle {g : Registry} {fingerprint : String} {row : IdempotencyKey} :
      CallMove O r .settle g (.seen fingerprint row false) g
        (.done false (row.answer false fingerprint))
  | abandon {g : Registry} {fingerprint : String} {row : IdempotencyKey} :
      CallMove O r .settle g (.seen fingerprint row true)
        (g.put r ((g.row r).map IdempotencyKey.abandon)) (.done false (row.answer true fingerprint))
  | enter {g : Registry} :
      CallMove O r .enter g .owned { g with entered := r :: g.entered } .executing
  | execute {g : Registry} {outcome : Except PyException Dict} :
      CallMove O r (.executes outcome) g .executing g (.executed outcome)
  | unserialisable {now : Timestamp} {g : Registry} {result : Dict} {e : PyException} :
      (∀ safe, jsonSafe O (.dict result) = .ok safe → ∃ e', loadsDumps safe = .error e') →
      CallMove O r (.finish now) g (.executed (.ok result)) g (.done true (.error e))
  | complete {now : Timestamp} {g : Registry} {result : Dict} {safe stored : Value} :
      jsonSafe O (.dict result) = .ok safe → loadsDumps safe = .ok stored →
      CallMove O r (.finish now) g (.executed (.ok result))
        (g.put r ((g.row r).map (fun row => row.finish .completed stored now)))
        (.done true (.ok safe))
  | fail {now : Timestamp} {g : Registry} {e : PyException} :
      CallMove O r (.finish now) g (.executed (.error e))
        (g.put r ((g.row r).map (fun row => row.finish .failed (errorResult e.cls.name) now)))
        (.done true (.error e))
  | crash {g : Registry} {p : Phase} : p.ended = false →
      CallMove O r .crash g p g (.crashed p.owns)

lemma validateKey_ok {key k : String} (h : validateKey key = .ok k) : k = key := by
  unfold validateKey at h
  split_ifs at h
  exact (Except.ok.inj h).symm

theorem callMove_of_step {O : Outside} {r : Request} {a : CallAction} {g g' : Registry}
    {p p' : Phase} (h : callStep O r a g p = some (g', p')) : CallMove O r a g p g' p' := by
  unfold callStep at h
  split at h
  · cases hfp : r.fingerprint O with
    | error e =>
      simp only [hfp, Option.some.injEq, Prod.mk.injEq] at h
      obtain ⟨rfl, rfl⟩ := h
      exact .refuse (.inl ⟨e, hfp⟩)
    | ok fingerprint =>
      cases hkey : validateKey r.idempotencyKey with
      | error e =>
        simp only [hfp, hkey, Option.some.injEq, Prod.mk.injEq] at h
        obtain ⟨rfl, rfl⟩ := h
        exact .refuse (.inr ⟨e, hkey⟩)
      | ok k =>
        obtain rfl := validateKey_ok hkey
        cases hrow : g.row r with
        | none =>
          simp only [hfp, hkey, hrow, Option.some.injEq, Prod.mk.injEq] at h
          obtain ⟨rfl, rfl⟩ := h
          exact .insert hfp hkey hrow
        | some row =>
          simp only [hfp, hkey, hrow, Option.some.injEq, Prod.mk.injEq] at h
          obtain ⟨rfl, rfl⟩ := h
          exact .conflict hfp hkey hrow
  · cases hrow : g.row r with
    | none =>
      simp only [hrow, Option.some.injEq, Prod.mk.injEq] at h
      obtain ⟨rfl, rfl⟩ := h
      exact .lost hrow
    | some row =>
      simp only [hrow, Option.some.injEq, Prod.mk.injEq] at h
      obtain ⟨rfl, rfl⟩ := h
      exact .read hrow
  · rename_i g fingerprint row stale
    rw [Option.some.injEq, Prod.mk.injEq] at h
    obtain ⟨rfl, rfl⟩ := h
    cases stale with
    | false => exact .settle
    | true => exact .abandon
  · rw [Option.some.injEq, Prod.mk.injEq] at h
    obtain ⟨rfl, rfl⟩ := h
    exact .enter
  · rw [Option.some.injEq, Prod.mk.injEq] at h
    obtain ⟨rfl, rfl⟩ := h
    exact .execute
  · rename_i g result
    cases hsafe : jsonSafe O (.dict result) with
    | error e =>
      simp only [hsafe, Option.some.injEq, Prod.mk.injEq] at h
      obtain ⟨rfl, rfl⟩ := h
      exact .unserialisable (fun _ h => absurd (h.symm.trans hsafe) (by simp))
    | ok safe =>
      cases hstored : loadsDumps safe with
      | error e =>
        simp only [hsafe, hstored, Option.some.injEq, Prod.mk.injEq] at h
        obtain ⟨rfl, rfl⟩ := h
        refine .unserialisable (fun safe' h => ⟨e, ?_⟩)
        obtain rfl := Except.ok.inj (h.symm.trans hsafe)
        exact hstored
      | ok stored =>
        simp only [hsafe, hstored, Option.some.injEq, Prod.mk.injEq] at h
        obtain ⟨rfl, rfl⟩ := h
        exact .complete hsafe hstored
  · rw [Option.some.injEq, Prod.mk.injEq] at h
    obtain ⟨rfl, rfl⟩ := h
    exact .fail
  · split_ifs at h with hended
    rw [Option.some.injEq, Prod.mk.injEq] at h
    obtain ⟨rfl, rfl⟩ := h
    exact .crash (Bool.eq_false_iff.mpr hended)
  · exact absurd h (by simp)

/-! ### The table -/

lemma Registry.row_eq {g : Registry} {r s : Request} (h : r.SameKey s) : g.row r = g.row s := by
  rw [Registry.row, Registry.row, h.1, h.2]

lemma Registry.row_put_same {r s : Request} (h : r.SameKey s) (g : Registry)
    (row : Option IdempotencyKey) : (g.put s row).row r = row := by
  rw [Registry.row, Registry.put]
  exact if_pos h

lemma Registry.row_put_other {r s : Request} (h : ¬r.SameKey s) (g : Registry)
    (row : Option IdempotencyKey) : (g.put s row).row r = g.row r := by
  rw [Registry.row, Registry.put]
  exact if_neg h

lemma Request.SameKey.rfl {r : Request} : r.SameKey r := ⟨Eq.refl _, Eq.refl _⟩

lemma Request.SameKey.symm {r s : Request} (h : r.SameKey s) : s.SameKey r :=
  ⟨h.1.symm, h.2.symm⟩

/-- Rows stay, and keep their fingerprints. -/
def Registry.Extends (g g' : Registry) : Prop :=
  ∀ (r : Request) row, g.row r = some row →
    ∃ row', g'.row r = some row' ∧ row'.requestFingerprint = row.requestFingerprint

lemma Registry.extends_refl (g : Registry) : g.Extends g := fun _ row h => ⟨row, h, rfl⟩

/-- An update of a row that leaves its fingerprint alone. -/
lemma Registry.extends_put (g : Registry) (r : Request) (f : IdempotencyKey → IdempotencyKey)
    (hf : ∀ row, (f row).requestFingerprint = row.requestFingerprint) :
    g.Extends (g.put r ((g.row r).map f)) := by
  intro s row hrow
  by_cases hsame : s.SameKey r
  · rw [Registry.row_put_same hsame, ← Registry.row_eq hsame, hrow]
    exact ⟨f row, rfl, hf row⟩
  · rw [Registry.row_put_other hsame]
    exact ⟨row, hrow, rfl⟩

lemma IdempotencyKey.finish_fingerprint (row : IdempotencyKey) (status : KeyStatus)
    (result : Value) (now : Timestamp) :
    (row.finish status result now).requestFingerprint = row.requestFingerprint := by
  unfold IdempotencyKey.finish
  split_ifs <;> rfl

section Moves

variable {O : Outside} {r : Request} {a : CallAction} {g g' : Registry} {p p' : Phase}

lemma CallMove.extends (h : CallMove O r a g p g' p') : g.Extends g' := by
  cases h with
  | refuse _ | conflict _ _ _ | lost _ | read _ | settle | execute | unserialisable _ | crash _ =>
    exact g.extends_refl
  | enter => exact fun s row hrow => ⟨row, hrow, rfl⟩
  | abandon => exact g.extends_put r _ (fun _ => rfl)
  | complete _ _ => exact g.extends_put r _ (fun row => row.finish_fingerprint _ _ _)
  | fail => exact g.extends_put r _ (fun row => row.finish_fingerprint _ _ _)
  | insert _ _ hnone =>
    intro s row hrow
    by_cases hsame : s.SameKey r
    · rw [Registry.row_eq hsame, hnone] at hrow
      exact absurd hrow (by simp)
    · exact ⟨row, by rw [Registry.row_put_other hsame, hrow], rfl⟩

/-- Only an insert under a free key makes an owner. -/
lemma CallMove.owns (h : CallMove O r a g p g' p') (hp' : p'.owns = true) :
    p.owns = true ∨ p = .idle ∧ g.row r = none := by
  cases h with
  | insert _ _ hnone => exact .inr ⟨rfl, hnone⟩
  | enter | execute | unserialisable _ | complete _ _ | fail => exact .inl rfl
  | crash _ => exact .inl hp'
  | refuse _ | conflict _ _ _ | lost _ | read _ | settle | abandon =>
    exact absurd hp' (by simp [Phase.owns])

/-- Only the owner enters `execute_tool_call`, and leaves the phase `owned` by it. -/
lemma CallMove.entered (h : CallMove O r a g p g' p') :
    g'.entered = g.entered ∨
      p = .owned ∧ p' = .executing ∧ g'.entered = r :: g.entered ∧ g'.keys = g.keys := by
  cases h with
  | enter => exact .inr ⟨rfl, rfl, rfl, rfl⟩
  | _ => exact .inl rfl

lemma CallMove.owned (h : CallMove O r a g p g' .owned) : p = .idle ∧ g.row r = none := by
  cases h with
  | insert _ _ hnone => exact ⟨rfl, hnone⟩

end Moves

/-! ### What a call knows about its row -/

/-- The facts about its own row that a call may rely on in a phase. -/
def Phase.Knows (O : Outside) (r : Request) (g : Registry) : Phase → Prop
  | .idle | .crashed false => True
  | .conflicted fingerprint => r.fingerprint O = .ok fingerprint ∧ ∃ row, g.row r = some row
  | .seen fingerprint row _ => r.fingerprint O = .ok fingerprint ∧
      ∃ now, g.row r = some now ∧ now.requestFingerprint = row.requestFingerprint
  | .done false outcome => r.Refused O ∨
      ∃ fingerprint row, r.fingerprint O = .ok fingerprint ∧ g.row r = some row ∧
        (outcome = .error keyReuse ↔ row.requestFingerprint ≠ fingerprint)
  | .owned | .executing | .executed _ | .done true _ | .crashed true =>
      ∃ row, g.row r = some row ∧ r.fingerprint O = .ok row.requestFingerprint ∧
        validateKey r.idempotencyKey = .ok r.idempotencyKey

lemma IdempotencyKey.answer_eq_keyReuse (row : IdempotencyKey) (stale : Bool)
    (fingerprint : String) :
    row.answer stale fingerprint = .error keyReuse ↔ row.requestFingerprint ≠ fingerprint := by
  unfold IdempotencyKey.answer
  by_cases hfp : row.requestFingerprint ≠ fingerprint
  · rw [if_pos hfp]
    exact ⟨fun _ => hfp, fun _ => rfl⟩
  · rw [if_neg hfp]
    refine ⟨fun h => absurd h ?_, fun h => absurd h hfp⟩
    generalize (if stale then KeyStatus.failed else row.status) = status
    cases status with
    | completed =>
      dsimp only
      split <;> simp [keyReuse]
    | inProgress | failed => simp

lemma Phase.Knows.of_owns {O : Outside} {r : Request} {g : Registry} {p : Phase}
    (h : p.Knows O r g) (hp : p.owns = true) :
    ∃ row, g.row r = some row ∧ r.fingerprint O = .ok row.requestFingerprint ∧
      validateKey r.idempotencyKey = .ok r.idempotencyKey := by
  match p with
  | .owned | .executing | .executed _ | .done true _ | .crashed true => exact h
  | .idle | .conflicted _ | .seen _ _ _ | .done false _ | .crashed false =>
    exact absurd hp (by simp [Phase.owns])

lemma Phase.Knows.mono {O : Outside} {r : Request} {g g' : Registry} {p : Phase}
    (hg : g.Extends g') (h : p.Knows O r g) : p.Knows O r g' := by
  match p with
  | .idle | .crashed false => trivial
  | .conflicted fingerprint =>
    obtain ⟨hfp, row, hrow⟩ := h
    obtain ⟨row', hrow', -⟩ := hg r row hrow
    exact ⟨hfp, row', hrow'⟩
  | .seen fingerprint row stale =>
    obtain ⟨hfp, now, hrow, heq⟩ := h
    obtain ⟨row', hrow', heq'⟩ := hg r now hrow
    exact ⟨hfp, row', hrow', heq'.trans heq⟩
  | .done false outcome =>
    rcases h with hrefused | ⟨fingerprint, row, hfp, hrow, hiff⟩
    · exact .inl hrefused
    · obtain ⟨row', hrow', heq⟩ := hg r row hrow
      exact .inr ⟨fingerprint, row', hfp, hrow', heq ▸ hiff⟩
  | .owned | .executing | .executed _ | .done true _ | .crashed true =>
    obtain ⟨row, hrow, hfp, hkey⟩ := h
    obtain ⟨row', hrow', heq⟩ := hg r row hrow
    exact ⟨row', hrow', heq ▸ hfp, hkey⟩

/-- A step keeps what its own call knows. -/
lemma CallMove.knows {O : Outside} {r : Request} {a : CallAction} {g g' : Registry} {p p' : Phase}
    (hmove : CallMove O r a g p g' p') (h : p.Knows O r g) : p'.Knows O r g' := by
  have hg := hmove.extends
  cases hmove with
  | refuse hrefused => exact .inl hrefused
  | insert hfp hkey _ => exact ⟨_, Registry.row_put_same .rfl _ _, hfp, hkey⟩
  | conflict hfp _ hrow => exact ⟨hfp, _, hrow⟩
  | lost hnone =>
    obtain ⟨-, row, hrow⟩ := h
    rw [hnone] at hrow
    exact absurd hrow (by simp)
  | read hrow => exact ⟨h.1, _, hrow, rfl⟩
  | @settle _ fingerprint row =>
    obtain ⟨hfp, now, hrow, heq⟩ := h
    exact .inr ⟨fingerprint, now, hfp, hrow, heq ▸ row.answer_eq_keyReuse false fingerprint⟩
  | @abandon _ fingerprint row =>
    obtain ⟨hfp, now, hrow, heq⟩ := h.mono hg
    exact .inr ⟨fingerprint, now, hfp, hrow, heq ▸ row.answer_eq_keyReuse true fingerprint⟩
  | enter | execute | unserialisable _ | complete _ _ | fail => exact h.mono hg
  | @crash _ p _ =>
    cases howns : p.owns with
    | false => trivial
    | true => exact h.of_owns howns

/-! ### The invariant -/

variable {ι : Type*}

structure Claims (O : Outside) (req : ι → Request) (c : Config ι Registry Phase) : Prop where
  knows : ∀ i, (c.proc i).Knows O (req i) c.shared
  unique : ∀ i j, (c.proc i).owns = true → (c.proc j).owns = true →
    (req i).SameKey (req j) → i = j
  waiting : ∀ i, c.proc i = .owned →
    c.shared.entries (req i).tenantId (req i).idempotencyKey = []
  fresh : ∀ r : Request, c.shared.row r = none →
    c.shared.entries r.tenantId r.idempotencyKey = []
  once : ∀ tenantId key, (c.shared.entries tenantId key).length ≤ 1

lemma claims_start (O : Outside) (req : ι → Request) : Claims O req Registry.start where
  knows _ := trivial
  unique i j hi := absurd hi (by simp [Registry.start, Phase.owns])
  waiting i hi := absurd hi (by simp [Registry.start])
  fresh _ _ := rfl
  once _ _ := Nat.zero_le 1

lemma Registry.entries_eq_of_entered {g g' : Registry} (h : g'.entered = g.entered)
    (tenantId key : String) : g'.entries tenantId key = g.entries tenantId key := by
  rw [Registry.entries, Registry.entries, h]

lemma Registry.entries_cons_same {g g' : Registry} {r s : Request}
    (h : g'.entered = r :: g.entered) (hsame : r.SameKey s) :
    g'.entries s.tenantId s.idempotencyKey = r :: g.entries s.tenantId s.idempotencyKey := by
  rw [Registry.entries, h, List.filter_cons_of_pos (by simpa [Request.SameKey] using hsame)]
  rfl

lemma Registry.entries_cons_other {g g' : Registry} {r s : Request}
    (h : g'.entered = r :: g.entered) (hother : ¬r.SameKey s) :
    g'.entries s.tenantId s.idempotencyKey = g.entries s.tenantId s.idempotencyKey := by
  rw [Registry.entries, h, List.filter_cons_of_neg (by simpa [Request.SameKey] using hother)]
  rfl

section Step

variable {O : Outside} {req : ι → Request} {c : Config ι Registry Phase} {i : ι} {a : CallAction}
  {g' : Registry} {p' : Phase}

lemma Claims.fresh_step (hc : Claims O req c)
    (hmove : CallMove O (req i) a c.shared (c.proc i) g' p') (r : Request)
    (hr : g'.row r = none) : g'.entries r.tenantId r.idempotencyKey = [] := by
  have hnone : c.shared.row r = none := by
    cases hrow : c.shared.row r with
    | none => rfl
    | some row =>
      obtain ⟨row', hrow', -⟩ := hmove.extends r row hrow
      rw [hr] at hrow'
      exact absurd hrow' (by simp)
  rcases hmove.entered with heq | ⟨howned, -, hcons, -⟩
  · rw [Registry.entries_eq_of_entered heq]
    exact hc.fresh r hnone
  · have hother : ¬(req i).SameKey r := by
      intro hsame
      obtain ⟨row, hrow, -⟩ := (hc.knows i).of_owns (by rw [howned]; rfl)
      rw [Registry.row_eq hsame, hnone] at hrow
      exact absurd hrow (by simp)
    rw [Registry.entries_cons_other hcons hother]
    exact hc.fresh r hnone

lemma Claims.once_step (hc : Claims O req c)
    (hmove : CallMove O (req i) a c.shared (c.proc i) g' p') (tenantId key : String) :
    (g'.entries tenantId key).length ≤ 1 := by
  let r : Request := ⟨tenantId, key, .priceChange, []⟩
  rcases hmove.entered with heq | ⟨howned, -, hcons, -⟩
  · rw [Registry.entries_eq_of_entered heq]
    exact hc.once tenantId key
  · by_cases hsame : (req i).SameKey r
    · have hempty : c.shared.entries tenantId key = [] := by
        have hwait := hc.waiting i howned
        rwa [hsame.1, hsame.2] at hwait
      have hone : g'.entries tenantId key = req i :: c.shared.entries tenantId key :=
        Registry.entries_cons_same hcons hsame
      rw [hone, hempty]
      exact le_rfl
    · have hsub : g'.entries tenantId key = c.shared.entries tenantId key :=
        Registry.entries_cons_other hcons hsame
      rw [hsub]
      exact hc.once tenantId key

/-- Once call `i` has claimed a key, a call `j` for that key that comes to an answer raises the
reuse error exactly when it carries another request. -/
lemma Claims.keyReuse_iff (hc : Claims O req c) (hsha : Function.Injective O.sha256) {i j : ι}
    {outcome : Except PyException Value} (hi : (c.proc i).owns = true)
    (hsame : (req i).SameKey (req j)) (hpi : JsonMembers (req i).payload)
    (hpj : JsonMembers (req j).payload) (hj : c.proc j = .done false outcome) :
    outcome = .error keyReuse ↔ ¬(req i).Same (req j) := by
  obtain ⟨row, hrow, hfpi, hkey⟩ := (hc.knows i).of_owns hi
  have hknows := hc.knows j
  rw [hj] at hknows
  rcases hknows with hrefused | ⟨fingerprint, row', hfpj, hrow', hiff⟩
  · rcases hrefused with ⟨e, he⟩ | ⟨e, he⟩
    · obtain ⟨fingerprint, hfp⟩ := Request.fingerprint_ok O hpj
      exact absurd (he.symm.trans hfp) (by simp)
    · rw [← hsame.2] at he
      exact absurd (he.symm.trans hkey) (by simp)
  · obtain rfl : row = row' := by
      rw [Registry.row_eq hsame, hrow'] at hrow
      exact (Option.some.inj hrow).symm
    rw [hiff, ← Request.fingerprint_eq_iff hsha hpi hpj, hfpi, hfpj, Except.ok.injEq]

variable [DecidableEq ι]

lemma Claims.unique_step (hc : Claims O req c)
    (hmove : CallMove O (req i) a c.shared (c.proc i) g' p') (j k : ι)
    (hj : (Function.update c.proc i p' j).owns = true)
    (hk : (Function.update c.proc i p' k).owns = true) (hsame : (req j).SameKey (req k)) :
    j = k := by
  have hfree : ∀ l, p'.owns = true → (c.proc l).owns = true → (req i).SameKey (req l) →
      (c.proc i).owns = true := by
    intro l hp' hl hil
    rcases hmove.owns hp' with hold | ⟨-, hnone⟩
    · exact hold
    · obtain ⟨row, hrow, -⟩ := (hc.knows l).of_owns hl
      rw [← Registry.row_eq hil, hnone] at hrow
      exact absurd hrow (by simp)
  by_cases hji : j = i
  · by_cases hki : k = i
    · rw [hji, hki]
    · subst hji
      rw [Function.update_self] at hj
      rw [Function.update_of_ne hki] at hk
      exact hc.unique j k (hfree k hj hk hsame) hk hsame
  · rw [Function.update_of_ne hji] at hj
    by_cases hki : k = i
    · subst hki
      rw [Function.update_self] at hk
      exact hc.unique j k hj (hfree j hk hj hsame.symm) hsame
    · rw [Function.update_of_ne hki] at hk
      exact hc.unique j k hj hk hsame

lemma Claims.waiting_step (hc : Claims O req c)
    (hmove : CallMove O (req i) a c.shared (c.proc i) g' p') (j : ι)
    (hj : Function.update c.proc i p' j = .owned) :
    g'.entries (req j).tenantId (req j).idempotencyKey = [] := by
  by_cases hji : j = i
  · subst hji
    rw [Function.update_self] at hj
    subst hj
    rcases hmove.entered with heq | ⟨-, hexec, -⟩
    · rw [Registry.entries_eq_of_entered heq]
      exact hc.fresh (req j) hmove.owned.2
    · exact absurd hexec (by simp)
  · rw [Function.update_of_ne hji] at hj
    rcases hmove.entered with heq | ⟨howned, -, hcons, -⟩
    · rw [Registry.entries_eq_of_entered heq]
      exact hc.waiting j hj
    · have hother : ¬(req i).SameKey (req j) := fun hsame =>
        hji (hc.unique i j (by rw [howned]; rfl) (by rw [hj]; rfl) hsame).symm
      rw [Registry.entries_cons_other hcons hother]
      exact hc.waiting j hj

theorem Claims.step {d : Config ι Registry Phase} (hc : Claims O req c)
    (hfire : (idempotentCalls O req).fire c i a = some d) : Claims O req d := by
  obtain ⟨g', p', hstep, rfl⟩ := ((idempotentCalls O req).fire_eq_some).mp hfire
  have hmove := callMove_of_step hstep
  refine ⟨fun j => ?_, hc.unique_step hmove, hc.waiting_step hmove, hc.fresh_step hmove,
    hc.once_step hmove⟩
  by_cases hji : j = i
  · subst hji
    simp only [Function.update_self]
    exact hmove.knows (hc.knows j)
  · simp only [Function.update_of_ne hji]
    exact (hc.knows j).mono hmove.extends

theorem claims_of_run {schedule : List (ι × CallAction)} {d : Config ι Registry Phase}
    (hrun : (idempotentCalls O req).run Registry.start schedule = some d) : Claims O req d :=
  (idempotentCalls O req).run_invariant' (fun _ _ _ _ hc hfire => hc.step hfire)
    (claims_start O req) hrun

/-- A call that meets a claimed key always comes to its answer, whatever the clock says. -/
lemma idempotentCall_answers {j : ι} {row : IdempotencyKey} {fingerprint : String}
    (now now' : Timestamp) (hrow : c.shared.row (req j) = some row)
    (hfp : (req j).fingerprint O = .ok fingerprint)
    (hkey : validateKey (req j).idempotencyKey = .ok (req j).idempotencyKey)
    (hlive : (c.proc j).ended = false) (hfree : (c.proc j).owns = false) :
    ∃ actions d outcome, (idempotentCalls O req).run c (own j actions) = some d ∧
      d.proc j = .done false outcome := by
  have hsettle : ∀ (c : Config ι Registry Phase) fingerprint row stale,
      c.proc j = .seen fingerprint row stale → ∃ d outcome,
      (idempotentCalls O req).fire c j .settle = some d ∧ d.proc j = .done false outcome := by
    intro c fingerprint row stale hseen
    refine ⟨⟨if stale then c.shared.put (req j) ((c.shared.row (req j)).map IdempotencyKey.abandon)
      else c.shared, Function.update c.proc j (.done false (row.answer stale fingerprint))⟩,
      row.answer stale fingerprint, ?_, Function.update_self ..⟩
    simp only [Program.fire, idempotentCalls, hseen, callStep, Option.map_some]
  have hread : ∀ (c : Config ι Registry Phase) fingerprint,
      c.shared.row (req j) = some row → c.proc j = .conflicted fingerprint → ∃ d outcome,
      (idempotentCalls O req).run c (own j [.read now', .settle]) = some d ∧
        d.proc j = .done false outcome := by
    intro c fingerprint hrow hconflicted
    obtain ⟨d, outcome, hfire, hd⟩ := hsettle
      ⟨c.shared, Function.update c.proc j (.seen fingerprint row (row.isStale now'))⟩ fingerprint
      row (row.isStale now') (Function.update_self ..)
    refine ⟨d, outcome, ?_, hd⟩
    simp only [own, List.map_cons, List.map_nil, Program.run_cons, Program.run_nil]
    simp only [Program.fire, idempotentCalls, hconflicted, callStep, hrow, Option.map_some,
      Option.bind_some] at hfire ⊢
    rw [hfire, Option.bind_some]
  cases hp : c.proc j with
  | idle =>
    obtain ⟨d, outcome, hrest, hd⟩ := hread
      ⟨c.shared, Function.update c.proc j (.conflicted fingerprint)⟩ fingerprint hrow
      (Function.update_self ..)
    refine ⟨[.claim now, .read now', .settle], d, outcome, ?_, hd⟩
    rw [own, List.map_cons, Program.run_cons]
    simp only [Program.fire, idempotentCalls, hp, callStep, hfp, hkey, hrow, Option.map_some,
      Option.bind_some]
    exact hrest
  | conflicted fingerprint =>
    obtain ⟨d, outcome, hrest, hd⟩ := hread c fingerprint hrow hp
    exact ⟨_, d, outcome, hrest, hd⟩
  | seen fingerprint row stale =>
    obtain ⟨d, outcome, hfire, hd⟩ := hsettle c fingerprint row stale hp
    refine ⟨[.settle], d, outcome, ?_, hd⟩
    rw [own, List.map_cons, Program.run_cons, hfire]
    rfl
  | owned | executing | executed _ => exact absurd hfree (by simp [hp, Phase.owns])
  | done _ _ | crashed _ => exact absurd hlive (by simp [hp, Phase.ended])

/-- In every interleaving, `execute_tool_call` is entered at most once for a key; a call for a
claimed key raises the reuse error exactly when its request differs from the claimed one, and
nothing can keep it from its answer. -/
theorem execute_once_per_key {schedule : List (ι × CallAction)}
    (hsha : Function.Injective O.sha256)
    (hrun : (idempotentCalls O req).run Registry.start schedule = some c) :
    (∀ tenantId key, (c.shared.entries tenantId key).length ≤ 1) ∧
    (∀ i j, (c.proc i).owns = true → (req i).SameKey (req j) →
      JsonMembers (req i).payload → JsonMembers (req j).payload →
      (∀ outcome, c.proc j = .done false outcome →
        (outcome = .error keyReuse ↔ ¬(req i).Same (req j))) ∧
      ((c.proc j).ended = false → (c.proc j).owns = false →
        ∃ actions d outcome, (idempotentCalls O req).run c (own j actions) = some d ∧
          d.proc j = .done false outcome)) := by
  have hc : Claims O req c := claims_of_run hrun
  refine ⟨hc.once, fun i j hi hsame hpi hpj => ⟨fun outcome hj => ?_, fun hlive hfree => ?_⟩⟩
  · exact hc.keyReuse_iff hsha hi hsame hpi hpj hj
  · obtain ⟨row, hrow, -, hkey⟩ := (hc.knows i).of_owns hi
    rw [hsame.2] at hkey
    obtain ⟨fingerprint, hfp⟩ := Request.fingerprint_ok O hpj
    exact idempotentCall_answers 0 0 (Registry.row_eq hsame ▸ hrow) hfp hkey hlive hfree

end Step

/-! ### Three workers -/

def priceChange (members : Dict) : Request := ⟨"t", "k", .priceChange, members⟩

def newPrice (coeff : ℕ) (exp : ℤ) : Key × Value :=
  (.str "new_price", .float (.finite (.ofDigits false coeff exp)))

/-- The price change to 9.5, the same with its members swapped, and one to 12.5. -/
def threeRequests : ℕ → Request
  | 0 => priceChange [(.str "menu_item_id", .str "m1"), newPrice 95 (-1)]
  | 1 => priceChange [newPrice 95 (-1), (.str "menu_item_id", .str "m1")]
  | _ => priceChange [(.str "menu_item_id", .str "m1"), newPrice 125 (-1)]

def priceChangeText (price : String) : String :=
  "\x7b\"action_type\":\"price_change\",\"payload\":\x7b\"menu_item_id\":\"m1\",\"new_price\":" ++
    price ++ "\x7d\x7d"

def threeDigests : Outside := Outside.prescribed
  [(priceChangeText "9.5", "fa930f085d3cb9b95e61cec6d85c73854d574f83d2cf63fd586f5d4379159b79"),
    (priceChangeText "12.5", "0dfb2d9b3a80da6344e09b1a2589b7d74860c24e9789bc3d8039ced063778286")]

lemma threeDigests_injective : Function.Injective threeDigests.sha256 :=
  Outside.prescribed_injective (by decide) (by decide)

lemma threeRequests_json (i : ℕ) : JsonMembers (threeRequests i).payload := by
  match i with
  | 0 | 1 | _ + 2 => simp [threeRequests, priceChange, newPrice, JsonMembers, Key.isStr, Value.IsJson]

/-- Worker 0 claims and enters; workers 1 and 2 ask for the same key meanwhile. -/
def threeSchedule : List (ℕ × CallAction) :=
  [(0, .claim 0), (1, .claim 3), (0, .enter), (2, .claim 5), (1, .read 7), (2, .read 8),
    (1, .settle), (2, .settle), (0, .executes (.ok [(.str "executed", .bool true)])), (0, .finish 9)]

theorem execute_once_three_workers :
    ∃ c, (idempotentCalls threeDigests threeRequests).run Registry.start threeSchedule = some c ∧
      (c.shared.entries "t" "k").length ≤ 1 ∧
      (c.proc 1 = .done false (.ok (notExecuted "request_in_progress")) ∧
        (threeRequests 0).Same (threeRequests 1)) ∧
      (c.proc 2 = .done false (.error keyReuse) ∧ ¬(threeRequests 0).Same (threeRequests 2)) := by
  have hrun : (idempotentCalls threeDigests threeRequests).run Registry.start threeSchedule =
      some _ := rfl
  obtain ⟨honce, hreuse⟩ := execute_once_per_key threeDigests_injective hrun
  refine ⟨_, hrun, honce "t" "k", ⟨rfl, ?_⟩, ⟨rfl, ?_⟩⟩
  · have hiff := (hreuse 0 1 rfl ⟨rfl, rfl⟩ (threeRequests_json 0) (threeRequests_json 1)).1
      (.ok (notExecuted "request_in_progress")) rfl
    exact not_not.mp (fun hother => nomatch hiff.mpr hother)
  · have hiff := (hreuse 0 2 rfl ⟨rfl, rfl⟩ (threeRequests_json 0) (threeRequests_json 2)).1
      (.error keyReuse) rfl
    exact hiff.mp rfl

end OpsCopilot
