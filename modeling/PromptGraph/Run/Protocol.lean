import PromptGraph.Document.Prompt
import PromptGraph.Failure
import PromptGraph.Run.Context
import PromptGraph.Run.Status

/-!
# The run protocol

A run submits a prompt, polls until the state is terminal or the time is up, and on success
collects the artifacts and stores them. A run whose time is up is cancelled. `Executor` answers each
kind of call; every call is noted as it is made, and `run` gives the calls beside the result.
-/

namespace PromptGraph

abbrev Artifacts := OrderedMap Json

/-- How a service answers in the course of one run. -/
structure Executor where
  submit : Prompt → ExecutionContext → Except Failure String
  /-- The answer to the poll with this number, counted from zero. -/
  poll : String → Nat → Except Failure RunStatus
  collect : String → Except Failure Artifacts
  cancel : String → Except Failure Unit

inductive Call where
  | submit (ids : List NodeId) (mode : ExecutionMode)
  | poll (handle : String)
  | cancel (handle : String)
  | collect (handle : String)
  | store (handle : String)
  deriving DecidableEq

structure RunOutcome where
  handle : String
  status : RunStatus
  artifacts : Artifacts
  manifest : String

/-- How waiting for a run comes to an end. -/
inductive Waited where
  | terminal (status : RunStatus)
  | late
  | broken (e : Failure)

namespace Run

/-- The time is up after the poll with a number. -/
def isLate (c : ExecutionContext) (elapsed : Nat → Duration) (number : Nat) : Bool :=
  c.timeout.any fun limit => decide (limit ≤ elapsed number)

/-- What the end of the waiting means: the status of a success, or a failure. -/
def settle (handle : String) : Waited → Except Failure RunStatus
  | .terminal status =>
    if status.state = .succeeded then .ok status
    else .error (.ended handle status.state.name status.message)
  | .late => .error (.timedOut handle)
  | .broken e => .error e

section

variable {m : Type → Type} [Monad m]

/-- Notes a call and makes it. -/
def calling {α : Type} (call : Call) (answer : m α) : StateT (List Call) m α := do
  modify (· ++ [call])
  answer

/-- Polls from the poll with a number on; a run that is late is cancelled, whatever comes of it.
None when `fuel` polls did not settle it. -/
def wait (x : Executor) (late : Nat → Bool) (handle : String) :
    Nat → Nat → StateT (List Call) m (Option Waited)
  | 0, _ => return none
  | fuel + 1, number => do
    match ← calling (.poll handle) (pure (x.poll handle number)) with
    | .error e => return some (.broken e)
    | .ok status =>
      if status.state.isTerminal then return some (.terminal status)
      else if late number then
        let _ ← calling (.cancel handle) (pure (x.cancel handle))
        return some .late
      else wait x late handle fuel (number + 1)

/-- Collects the artifacts of a success and stores them. -/
def finish (x : Executor) (store : String → Artifacts → m (Except Failure String))
    (handle : String) (status : RunStatus) : StateT (List Call) m (Except Failure RunOutcome) := do
  match ← calling (.collect handle) (pure (x.collect handle)) with
  | .error e => return .error e
  | .ok artifacts =>
    match ← calling (.store handle) (store handle artifacts) with
    | .error e => return .error e
    | .ok manifest => return .ok { handle, status, artifacts, manifest }

/-- What follows the waiting, by how it ended. -/
def conclude (x : Executor) (store : String → Artifacts → m (Except Failure String))
    (handle : String) (w : Waited) : StateT (List Call) m (Except Failure RunOutcome) := do
  match settle handle w with
  | .error e => return .error e
  | .ok status => finish x store handle status

/-- The steps of a run; none when `fuel` polls did not settle it. -/
def steps (x : Executor) (store : String → Artifacts → m (Except Failure String))
    (elapsed : Nat → Duration) (fuel : Nat) (p : Prompt) (c : ExecutionContext) :
    StateT (List Call) m (Option (Except Failure RunOutcome)) := do
  match ← calling (.submit p.ids c.mode) (pure (x.submit p c)) with
  | .error e => return some (.error e)
  | .ok handle =>
    match ← wait x (isLate c elapsed) handle fuel 0 with
    | none => return none
    | some w => return some (← conclude x store handle w)

/-- The calls of a run and its result; none when `fuel` polls did not settle it. -/
def run (x : Executor) (store : String → Artifacts → m (Except Failure String))
    (elapsed : Nat → Duration) (fuel : Nat) (p : Prompt) (c : ExecutionContext) :
    m (Option (List Call × Except Failure RunOutcome)) := do
  let (result?, calls) ← (steps x store elapsed fuel p c).run []
  return result?.map fun result => (calls, result)

end

end Run

end PromptGraph
