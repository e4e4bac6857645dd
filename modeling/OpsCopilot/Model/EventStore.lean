import OpsCopilot.Lib.HashChain
import OpsCopilot.Lib.PyDatetime
import OpsCopilot.Model.Projections

/-!
# The event store

`append_event` and `verify_chain_integrity`. The clock reading and the identifiers drawn by a
call are arguments; an append is one transaction under the lock of the tenant's row.
-/

namespace OpsCopilot

open Python Sql Fallible

def genesisHash : String := String.ofList (List.replicate 64 '0')

/-! ### Event types -/

def EventType.all : List EventType :=
  [.supplierPriceChange, .supplierSwitch, .stockout, .restock, .inventoryAdjustment,
    .wasteRecorded, .demandSpike, .orderRecorded, .menuItemAdded, .menuItemRemoved,
    .menuPriceChange, .staffingChange, .invoiceRecorded]

/-- An event type is passed as a member or by its name. -/
inductive EventTypeArg where
  | member (eventType : EventType)
  | name (text : String)

/-- `text.lower()`, as far as a lower-case letter of the ASCII alphabet can come out of it. -/
def lower (text : String) : String :=
  String.ofList (text.toList.map (fun c => if c = '\u212a' then 'k' else c.toLower))

def normalizeEventType : EventTypeArg → Except PyException EventType
  | .member eventType => .ok eventType
  | .name text =>
    if strip text = "" then .error (invalidEvent "event_type must be a valid EventType.")
    else
      let value := lower (strip text)
      -- The old event generator called a supplier price change a price change.
      let value := if value = "price_change" then EventType.supplierPriceChange.value else value
      match EventType.all.find? (fun t => t.value = value) with
      | some eventType => .ok eventType
      | none => .error (invalidEvent ("Unsupported event type: '" ++ text ++ "'"))

/-! ### Hashes -/

/-- `default=str`. -/
def strDefault (d : PyDecimal) : Except StdError Json := .ok (.str (String.ofList d.text))

def canonicalTimestamp (timestamp : Timestamp) : String := isoformat timestamp

/-- The text that is hashed. -/
def canonicalData (previousHash : String) (eventType : EventType) (canonicalJson : List Char)
    (timestampIso source : String) : String :=
  previousHash ++ "|" ++ eventType.value ++ "|" ++ String.ofList canonicalJson ++ "|" ++
    timestampIso ++ "|" ++ source

def computeSha256Hash (O : Outside) (previousHash : String) (eventType : EventType)
    (payload : Value) (timestampIso source : String) : Except StdError String := do
  let j ← prepare ⟨true, strDefault⟩ payload
  let canonicalJson := j.text escapeUnicode
  -- A lone surrogate has no UTF-8 encoding; the parts that are not named here are ASCII.
  raiseIf ((canonicalJson ++ source.toList).any O.loneSurrogate = true) .unicodeEncodeError
  return O.sha256 (canonicalData previousHash eventType canonicalJson timestampIso source)

/-! ### Order of a chain -/

/-- `timestamp`, then `id`. -/
def Event.le (a b : Event) : Prop :=
  a.timestamp < b.timestamp ∨ a.timestamp = b.timestamp ∧ a.id ≤ b.id

instance : DecidableRel Event.le := fun a b => by unfold Event.le; infer_instance

/-- The rows of a tenant in the order they were inserted. -/
def Db.tenantEvents (db : Db) (tenantId : String) : List Event :=
  db.events.filter (fun e => e.tenantId = tenantId)

/-- The latest event, as `append_event` finds it. -/
def Db.latestEvent (db : Db) (tenantId : String) : Option Event :=
  HashChain.latest Event.le (db.tenantEvents tenantId)

/-- The chain, as `verify_chain_integrity` reads it. -/
def Db.chain (db : Db) (tenantId : String) : List Event :=
  HashChain.ascending Event.le (db.tenantEvents tenantId)

/-- The events that `reconstruct_state_at` replays. -/
def Db.replayed (db : Db) (tenantId : String) (target : Timestamp) : List Event :=
  HashChain.ascending Event.le
    ((db.tenantEvents tenantId).filter (fun e => e.timestamp ≤ target))

/-! ### Append -/

/-- What a call reads from the clock and from `uuid4`. -/
structure Draw where
  now : Timestamp
  eventId : String
  rowId : String

/-- The transaction of `append_event`, its errors as the session raises them. -/
def writeEvent (O : Outside) (tenantId : String) (eventType : EventType) (payload : Dict)
    (source : String) (draw : Draw) (db : Db) : Except PyException Db := do
  raiseIf (tenantId ∉ db.tenants)
    ⟨.tenantIsolationError, "Tenant " ++ tenantId ++ " does not exist."⟩
  let previousHash := ((db.latestEvent tenantId).map Event.hash).getD genesisHash
  let hash ← liftStd (computeSha256Hash O previousHash eventType (.dict payload)
    (canonicalTimestamp draw.now) source)
  let tables ← applyToCurrentState O ⟨tenantId, payload, draw.now, draw.rowId⟩ db.tables eventType
  let stored ← storeJson (.dict payload)
  let storedSource ← bindText (strip source)
  raiseIf (db.events.any (fun e => e.id = draw.eventId)) duplicateKey
  return { db with
    tables := tables
    events := db.events ++
      [⟨draw.eventId, tenantId, eventType, draw.now, stored, storedSource, hash, previousHash⟩] }

/-- How `append_event` reports the errors of its session. -/
def eventStoreFailure (e : PyException) : PyException :=
  if e.cls = .integrityError then
    ⟨.eventStoreError,
      "Event could not be persisted because a database integrity constraint was violated."⟩
  else if e.cls.isSqlAlchemyError then ⟨.eventStoreError, "Failed to append event: " ++ e.message⟩
  else e

def appendEvent (O : Outside) (tenantId : String) (eventType : EventTypeArg) (payload : Dict)
    (source : String) (draw : Draw) (db : Db) : Except PyException Db := do
  let eventType ← normalizeEventType eventType
  raiseIf (strip source = "") (invalidEvent "Event source must be a non-empty string.")
  (writeEvent O tenantId eventType payload source draw db).mapError eventStoreFailure

/-- The hash that verification computes from a stored row. -/
def Event.recomputedHash (O : Outside) (e : Event) : Except StdError String :=
  computeSha256Hash O e.previousHash e.eventType (if e.payload.truthy then e.payload else .dict [])
    (canonicalTimestamp e.timestamp) e.source

def brokenLink (e : Event) (expected : String) : PyException :=
  ⟨.hashChainCorruptedError, "Broken chain link at Event ID " ++ e.id ++ ". Expected previous hash "
    ++ expected ++ ", got " ++ e.previousHash ++ "."⟩

def hashMismatch (e : Event) (computed : String) : PyException :=
  ⟨.hashChainCorruptedError, "Payload/hash mismatch at Event ID " ++ e.id ++ ". Computed " ++
    computed ++ ", stored " ++ e.hash ++ "."⟩

/-- The loop of `verify_chain_integrity`. -/
def verifyEvents (O : Outside) : String → List Event → Except PyException Bool
  | _, [] => .ok true
  | expectedPreviousHash, e :: rest =>
    if e.previousHash ≠ expectedPreviousHash then .error (brokenLink e expectedPreviousHash)
    else
      match e.recomputedHash O with
      | .error err => .error (.ofStd err)
      | .ok computed =>
        if e.hash ≠ computed then .error (hashMismatch e computed) else verifyEvents O e.hash rest

def verifyChainIntegrity (O : Outside) (tenantId : String) (db : Db) : Except PyException Bool :=
  verifyEvents O genesisHash (db.chain tenantId)

end OpsCopilot
