import OpsCopilot.Model.Idempotency

/-!
# The methods of the idempotency registry

`claim` on the whole table, and `claim`, `complete` and `fail` of one tenant and key by any number
of workers, one database statement a step, where the store is the row under the key.
-/

namespace OpsCopilot

open Python Interleaving

/-! ### A claim on its own -/

structure Claim where
  owned : Bool
  result : Option Value

/-- The table `idempotency_keys` by tenant and key. -/
abbrev KeyTable := String → String → Option IdempotencyKey

/-- Writes the row under a key. -/
def KeyTable.write (table : KeyTable) (tenantId key : String) (row : IdempotencyKey) : KeyTable :=
  fun t k => if t = tenantId ∧ k = key then some row else table t k

/-- `claim`, with the clock when the row is inserted and when the row in its way is looked at. -/
def claim (table : KeyTable) (tenantId key fingerprint : String) (inserted looked : Timestamp) :
    KeyTable × Except PyException Claim :=
  match validateKey key with
  | .error e => (table, .error e)
  | .ok key =>
    match table tenantId key with
    | none =>
      (table.write tenantId key ⟨fingerprint, .inProgress, none, inserted, none⟩, .ok ⟨true, none⟩)
    | some row =>
      (if row.isStale looked then table.write tenantId key row.abandon else table,
        (row.answer (row.isStale looked) fingerprint).map (fun result => ⟨false, some result⟩))

/-! ### Statement by statement -/

/-- Where a worker stands between the statements of `claim`. -/
inductive ClaimPhase where
  | free
  | conflicted
  | seen (row : IdempotencyKey) (stale : Bool)

inductive RegistryAction where
  /-- The insert of `claim`, which commits, or does nothing on a conflict. -/
  | insert (fingerprint : String) (now : Timestamp)
  /-- The query of `claim` for the row that it has met. -/
  | read (now : Timestamp)
  /-- The end of the transaction of `claim`, which flushes what it has changed of the row. -/
  | settle
  | complete (result : Dict) (now : Timestamp)
  | fail (error : PyException) (now : Timestamp)

section Registry

variable (O : Outside)

def registryStep : RegistryAction → Option IdempotencyKey → ClaimPhase →
    Option (Option IdempotencyKey × ClaimPhase)
  | .insert fingerprint now, none, .free =>
    some (some ⟨fingerprint, .inProgress, none, now, none⟩, .free)
  | .insert _ _, some row, .free => some (some row, .conflicted)
  | .read _, none, .conflicted => some (none, .free)
  | .read now, some row, .conflicted => some (some row, .seen row (row.isStale now))
  -- The update names the row by its primary key alone.
  | .settle, found, .seen _ stale =>
    some (if stale then found.map IdempotencyKey.abandon else found, .free)
  | .complete result now, found, .free =>
    match (jsonSafe O (.dict result)).bind loadsDumps with
    | .error _ => some (found, .free)
    | .ok stored => some (found.map (fun row => row.finish .completed stored now), .free)
  | .fail error now, found, .free =>
    some (found.map (fun row => row.finish .failed (errorResult error.cls.name) now), .free)
  | _, _, _ => none

/-- The workers that share a key. -/
def registryCalls (ι : Type*) : Program ι (Option IdempotencyKey) ClaimPhase RegistryAction :=
  ⟨fun _ => registryStep O⟩

end Registry

end OpsCopilot
