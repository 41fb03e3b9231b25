import PromptGraph.Decode.Basic
import PromptGraph.Document.Editor

/-!
# Run states

A service reports the state of a run, how far it has come, in single precision, and a message. A
run is over once its state is terminal.
-/

namespace PromptGraph

inductive RunState where
  | queued
  | running
  | succeeded
  | failed
  | cancelled
  deriving DecidableEq, Repr

namespace RunState

def variants : List (String × RunState) := [
  ("queued", .queued), ("running", .running), ("succeeded", .succeeded), ("failed", .failed),
  ("cancelled", .cancelled)]

def name : RunState → String
  | queued => "queued"
  | running => "running"
  | succeeded => "succeeded"
  | failed => "failed"
  | cancelled => "cancelled"

def isTerminal : RunState → Bool
  | queued => false
  | running => false
  | _ => true

def ofName? (name : String) : Option RunState := Entries.get? variants name

def decode : Decoder RunState := Decode.word variants

def toJson (s : RunState) : Json := .text s.name

end RunState

/-- A number in single precision. -/
inductive Single where
  | finite (x : Binary)
  /-- The number is too large for the format. -/
  | infinite
  deriving DecidableEq

namespace Single

def ofNumber : Number → Single
  | .int i => ((Binary.ofInt? binary32 i).map finite).getD infinite
  | .float x => ((x.convert? binary32).map finite).getD infinite

def decode : Decoder Single
  | .number n => .ok (ofNumber n)
  | j => .error (.wrongKind j "f32")

/-- The same number in double precision; null when there is none. -/
def toJson : Single → Json
  | finite x => ((x.convert? binary64).map fun y => Json.number (.float y)).getD .null
  | infinite => .null

end Single

structure RunStatus where
  state : RunState
  /-- The fraction that is done, when the service reports it. -/
  progress : Option Single := none
  message : Option String := none
  deriving DecidableEq

namespace RunStatus

open Decode

def form : RecordForm := ⟨"RunStatus", ["state", "progress", "message"], 3⟩

def decode : Decoder RunStatus := fun j => do
  let (state, progress, message) ← form.fold (fun (state, progress, message) key j => match key with
    | "state" => (RunState.decode j).map fun s => (some s, progress, message)
    | "progress" => (optional Single.decode j).map fun p => (state, p, message)
    | _ => (optional text j).map fun m => (state, progress, m)) (none, none, none) j
  return { state := ← required "state" state, progress, message }

/-- The record without blanks. -/
def compact (s : RunStatus) : String :=
  "\x7b\"state\":" ++ s.state.toJson.compact ++
    ",\"progress\":" ++ (s.progress.map fun p => p.toJson.compact).getD "null" ++
    ",\"message\":" ++ (Json.ofText? s.message).compact ++ "\x7d"

end RunStatus

end PromptGraph
