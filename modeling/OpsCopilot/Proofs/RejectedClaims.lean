import OpsCopilot.Model.IdempotencyRegistry
import OpsCopilot.Proofs.IdempotencyClaims

/-!
# Rejected claims

What a claim leaves behind that is refused because its key belongs to another request.
-/

namespace OpsCopilot

open Python Interleaving

section Claim

variable {table : KeyTable} {tenantId key fingerprint : String} {inserted looked : Timestamp}
  {row : IdempotencyKey}

lemma claim_of_row (hkey : validateKey key = .ok key) (hrow : table tenantId key = some row) :
    claim table tenantId key fingerprint inserted looked =
      (if row.isStale looked then table.write tenantId key row.abandon else table,
        (row.answer (row.isStale looked) fingerprint).map (fun result => ⟨false, some result⟩)) := by
  unfold claim
  simp only [hkey, hrow]

lemma validateKey_ne_keyReuse (key : String) : validateKey key ≠ .error keyReuse := by
  unfold validateKey
  split_ifs
  · intro h
    cases h
  · intro h
    cases h
  · intro h
    cases h

/-- A refused claim has met the row of another request. -/
lemma claim_refused (h : (claim table tenantId key fingerprint inserted looked).2 =
    .error keyReuse) :
    validateKey key = .ok key ∧
      ∃ row, table tenantId key = some row ∧ row.requestFingerprint ≠ fingerprint := by
  cases hkey : validateKey key with
  | error e =>
    simp only [claim, hkey] at h
    exact absurd (hkey.trans (congrArg _ (Except.error.inj h))) (validateKey_ne_keyReuse key)
  | ok k =>
    obtain rfl := validateKey_ok hkey
    refine ⟨rfl, ?_⟩
    cases hrow : table tenantId k with
    | none =>
      simp only [claim, hkey, hrow] at h
      cases h
    | some row =>
      refine ⟨row, rfl, ?_⟩
      rw [claim_of_row hkey hrow] at h
      cases hanswer : row.answer (row.isStale looked) fingerprint with
      | ok result =>
        simp only [hanswer, Except.map] at h
        cases h
      | error e =>
        simp only [hanswer, Except.map] at h
        exact (row.answer_eq_keyReuse _ _).mp (hanswer.trans (congrArg _ (Except.error.inj h)))

/-- The statements of a call that claims a key by itself amount to `claim`. -/
theorem claim_of_steps {ι : Type*} [DecidableEq ι] {O : Outside} {req : ι → Request}
    {c : Config ι Registry Phase} {j : ι} (hfp : (req j).fingerprint O = .ok fingerprint)
    (hkey : validateKey (req j).idempotencyKey = .ok (req j).idempotencyKey)
    (hrow : c.shared.row (req j) = some row) (hidle : c.proc j = .idle) :
    ∃ d, (idempotentCalls O req).run c (own j [.claim inserted, .read looked, .settle]) = some d ∧
      d.shared.keys = (claim c.shared.keys (req j).tenantId (req j).idempotencyKey fingerprint
        inserted looked).1 ∧
      d.proc j = .done false ((claim c.shared.keys (req j).tenantId (req j).idempotencyKey
        fingerprint inserted looked).2.map (fun answer => answer.result.getD .none)) := by
  refine ⟨⟨if row.isStale looked then
      c.shared.put (req j) ((c.shared.row (req j)).map IdempotencyKey.abandon) else c.shared,
    Function.update c.proc j (.done false (row.answer (row.isStale looked) fingerprint))⟩,
    ?_, ?_, ?_⟩
  · simp only [own, List.map_cons, List.map_nil, Program.run_cons, Program.run_nil, Program.fire,
      idempotentCalls, hidle, callStep, hfp, hkey, hrow, Option.map_some, Option.bind_some,
      Function.update_self, Function.update_idem]
  · rw [claim_of_row hkey hrow, hrow]
    split_ifs
    · rfl
    · rfl
  · rw [claim_of_row hkey hrow]
    refine (Function.update_self ..).trans ?_
    cases row.answer (row.isStale looked) fingerprint with
    | ok result => rfl
    | error e => rfl

/-- A refused claim leaves the table as it was, but for a row under its key that had been in
progress for more than five minutes: that row is marked as abandoned. -/
theorem rejected_claim_effect
    (h : (claim table tenantId key fingerprint inserted looked).2 = .error keyReuse) :
    ∃ row, table tenantId key = some row ∧ row.requestFingerprint ≠ fingerprint ∧
      (claim table tenantId key fingerprint inserted looked).1 =
        if row.status = .inProgress ∧ staleAfter < looked - row.createdAt then
          table.write tenantId key
            { row with status := .failed, result := some (errorResult "abandoned") }
        else table := by
  obtain ⟨hkey, row, hrow, hfp⟩ := claim_refused h
  refine ⟨row, hrow, hfp, ?_⟩
  rw [claim_of_row hkey hrow]
  simp only [IdempotencyKey.isStale, decide_eq_true_eq, IdempotencyKey.abandon]

end Claim

/-- The table whose only key has been in progress since time zero. -/
def slowRequest : KeyTable :=
  KeyTable.write (fun _ _ => none) "t" "k" ⟨"slow", .inProgress, none, 0, none⟩

theorem rejected_claim_effect_slow :
    (claim slowRequest "t" "k" "other" 0 360000000).2 = .error keyReuse ∧
      (claim slowRequest "t" "k" "other" 0 360000000).1 = slowRequest.write "t" "k"
        ⟨"slow", .failed, some (errorResult "abandoned"), 0, none⟩ := by
  have hrefused : (claim slowRequest "t" "k" "other" 0 360000000).2 = .error keyReuse := rfl
  obtain ⟨row, hrow, -, heffect⟩ := rejected_claim_effect hrefused
  obtain rfl := Option.some.inj hrow
  exact ⟨rfl, heffect⟩

/-- A claim for another request fails the row of a slow owner, whose `complete` then finds nothing
to do. -/
theorem rejected_claim_changes_table :
    (claim slowRequest "t" "k" "other" 0 360000000).2 = .error keyReuse ∧
      (claim slowRequest "t" "k" "other" 0 360000000).1 ≠ slowRequest ∧
      ∀ result now, ((claim slowRequest "t" "k" "other" 0 360000000).1 "t" "k").map
        (fun row => row.finish .completed result now) =
          (claim slowRequest "t" "k" "other" 0 360000000).1 "t" "k" := by
  refine ⟨rfl, fun h => ?_, fun result now => rfl⟩
  have hrow := congrArg (fun table => (table "t" "k").map IdempotencyKey.status) h
  cases hrow

end OpsCopilot
