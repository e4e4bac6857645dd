import OpsCopilot.Model.EventStore

/-!
# Reading the events of a tenant

`get_tenant_events`: the oldest events of a tenant, of one type or of all.
-/

namespace OpsCopilot

open Python Sql Fallible

def badLimit : PyException := ⟨.valueError, "limit must be a positive integer."⟩

/-- `limit` is an integer above zero; a boolean is none. -/
def positiveLimit : Value → Except PyException ℕ
  | .int n => if n ≤ 0 then .error badLimit else .ok n.toNat
  | _ => .error badLimit

/-- How `get_tenant_events` reports the errors of its session. -/
def queryFailure (e : PyException) : PyException :=
  if e.cls.isSqlAlchemyError then ⟨.eventStoreError, "Failed to query events: " ++ e.message⟩
  else e

/-- The rows of a tenant of the type that is asked for, in the order of the chain. -/
def Db.eventsOfType (db : Db) (tenantId : String) (eventType : Option EventType) : List Event :=
  HashChain.ascending Event.le
    ((db.tenantEvents tenantId).filter (fun e => eventType.all (fun t => e.eventType = t)))

/-- The query, whose `LIMIT` is a `bigint`. -/
def readEvents (tenantId : String) (limit : ℕ) (eventType : Option EventType) (db : Db) :
    Except PyException (List Event) := do
  raiseIf (2 ^ 63 ≤ limit) ⟨.dataError, "bigint out of range"⟩
  return (db.eventsOfType tenantId eventType).take limit

/-- The type that is asked for, `None` for all of them. -/
def wantedEventType : Option EventTypeArg → Except PyException (Option EventType)
  | none => .ok none
  | some eventType => (normalizeEventType eventType).map some

def getTenantEvents (tenantId : String) (limit : Value) (eventType : Option EventTypeArg) (db : Db) :
    Except PyException (List Event) := do
  let limit ← positiveLimit limit
  let eventType ← wantedEventType eventType
  (readEvents tenantId limit eventType db).mapError queryFailure

end OpsCopilot
