import OpsCopilot.Model.Cycle
import OpsCopilot.Model.ToolFramework

/-!
# A call of `execute_tool_call_idempotent` step by step

The transactions of the wrapper on `idempotency_keys`, with the steps of `execute_tool_call`
between them. A script says what happens during a call: its own steps, the exceptions that are
raised in it, and what other processes do to the tables meanwhile.
-/

namespace OpsCopilot

open Python

/-- The tables of the tool framework and of the idempotency registry. -/
structure ToolWorld where
  store : ToolStore
  registry : Registry

/-- Where a call stands: in the wrapper, in `execute_tool_call`, and the events it has appended. -/
structure Execution where
  phase : Phase
  tool : Process
  appended : List String

def Execution.start : Execution := ⟨.idle, .idle, []⟩

inductive ExecutionStep where
  /-- A transaction of the wrapper. -/
  | registry (x : CallAction)
  /-- A step of `execute_tool_call`. -/
  | tool (x : ToolAction)
  /-- `execute_tool_call` returns or raises. -/
  | handOver
  /-- The database, the network or the code around the wrapper's transactions raises. -/
  | raises (e : PyException)
  /-- The process dies, and its sessions end. -/
  | dies
  /-- Other processes leave the tables as they are here. -/
  | others (w : ToolWorld)

def Request.toolCall (r : Request) : ToolCall := .execute r.tenantId r.actionType r.payload

/-- The event that a step has appended, if it has. -/
def appendedBy : ToolAction → Process → List String
  | .append draw, ⟨_, .appended _ _⟩ => [draw.eventId]
  | _, _ => []

section Execution

variable (O : Outside) (r : Request)

/-- One step of the script; a step for which it is not the time changes nothing. -/
def executionStep : ExecutionStep → ToolWorld × Execution → ToolWorld × Execution
  | .registry (.executes _), c | .registry .crash, c => c
  | .registry x, (w, e) =>
    match callStep O r x w.registry e.phase with
    | some (g, phase) => ({ w with registry := g }, { e with phase := phase })
    | none => (w, e)
  | .tool .crash, c => c
  | .tool x, (w, ⟨.executing, tool, appended⟩) =>
    match toolStep O r.toolCall x w.store tool with
    | some (s, tool') =>
      ({ w with store := s }, ⟨.executing, tool', appended ++ appendedBy x tool'⟩)
    | none => (w, ⟨.executing, tool, appended⟩)
  | .tool _, c => c
  | .handOver, (w, ⟨.executing, ⟨guard, .finished outcome⟩, appended⟩) =>
    (w, ⟨.executed outcome, ⟨guard, .finished outcome⟩, appended⟩)
  | .handOver, c => c
  | .raises _, (w, ⟨.executing, tool, appended⟩) => (w, ⟨.executing, tool, appended⟩)
  | .raises err, (w, e) =>
    (w, if e.phase.ended then e else { e with phase := .done e.phase.owns (.error err) })
  | .dies, (w, e) =>
    ({ w with store :=
      { w.store with locks := e.tool.guard.elim w.store.locks w.store.locks.erase } },
      if e.phase.ended then e else { e with phase := .crashed e.phase.owns })
  | .others w, (_, e) => (w, e)

/-- What the caller sees of a call. -/
def Execution.result (e : Execution) : CallResult :=
  ⟨e.appended,
    match e.phase with
    | .done _ outcome => some outcome
    | _ => none⟩

/-- A call that goes as the script says. -/
def executeScript (script : List ExecutionStep) (w : ToolWorld) : ToolWorld × CallResult :=
  let done := script.foldl (fun c x => executionStep O r x c) (w, .start)
  (done.1, done.2.result)

end Execution

/-- The tables with the scripts of the calls to come. -/
structure ScriptedWorld where
  tables : ToolWorld
  scripts : List (List ExecutionStep)

/-- Surroundings in which every call goes as the next script says. -/
def scripted (O : Outside) (rlsEnforced : ScriptedWorld → Except PyException Unit)
    (lockAcquired : ScriptedWorld → Except PyException Bool)
    (detect : String → Timestamp → Db → Except PyException (List Opportunity)) :
    Surroundings ScriptedWorld where
  db w := w.tables.store.db
  rlsEnforced := rlsEnforced
  lockAcquired := lockAcquired
  detect := detect
  execute r w :=
    let done := executeScript O r (w.scripts.headD []) w.tables
    (⟨done.1, w.scripts.tail⟩, done.2)

end OpsCopilot
