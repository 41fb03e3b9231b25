import PromptGraph.Document.Editor
import PromptGraph.Run.Duration

/-!
# Run contexts

What an executor knows of a run beside the prompt.
-/

namespace PromptGraph

inductive ExecutionMode where
  | onSite
  | remote
  deriving DecidableEq, Repr

namespace ExecutionMode

def variants : List (String × ExecutionMode) := [("local", .onSite), ("remote", .remote)]

def name : ExecutionMode → String
  | onSite => "local"
  | remote => "remote"

def ofName? (name : String) : Option ExecutionMode := Entries.get? variants name

def decode : Decoder ExecutionMode := Decode.word variants

def toJson (m : ExecutionMode) : Json := .text m.name

end ExecutionMode

structure ExecutionContext where
  mode : ExecutionMode := .onSite
  workDir : Option String := none
  baseUrl : Option String := none
  environment : OrderedMap String := .empty
  /-- Settings of the executor's own. -/
  extras : OrderedMap Json := .empty
  /-- The pause between two polls. -/
  pollInterval : Duration := .ofMillis 500
  /-- How long a run may take; none is forever. -/
  timeout : Option Duration := some (.ofSeconds 600)
  deriving DecidableEq

namespace ExecutionContext

/-- The context of a service at an address. -/
def remote (baseUrl : String) : ExecutionContext := { mode := .remote, baseUrl := some baseUrl }

def withWorkDir (c : ExecutionContext) (dir : String) : ExecutionContext :=
  { c with workDir := some dir }

def withEnvironment (c : ExecutionContext) (key value : String) : ExecutionContext :=
  { c with environment := c.environment.insert key value }

def withExtra (c : ExecutionContext) (key : String) (value : Json) : ExecutionContext :=
  { c with extras := c.extras.insert key value }

def withPollInterval (c : ExecutionContext) (d : Duration) : ExecutionContext :=
  { c with pollInterval := d }

def withTimeout (c : ExecutionContext) (d : Option Duration) : ExecutionContext :=
  { c with timeout := d }

open Decode

def form : RecordForm :=
  ⟨"ExecutionContext",
    ["mode", "work_dir", "base_url", "env", "extras", "poll_interval", "timeout"], 7⟩

def path : Decoder String
  | .text s => .ok s
  | j => .error (.wrongKind j "path string")

/-- The fields of a context that were read so far. -/
structure Partial where
  mode : Option ExecutionMode := none
  workDir : Option String := none
  baseUrl : Option String := none
  environment : Option (OrderedMap String) := none
  extras : Option (OrderedMap Json) := none
  pollInterval : Option Duration := none
  timeout : Option Duration := none

def decode : Decoder ExecutionContext := fun j => do
  let p ← form.fold (fun (p : Partial) key j => match key with
    | "mode" => (ExecutionMode.decode j).map fun m => { p with mode := m }
    | "work_dir" => (optional path j).map fun s => { p with workDir := s }
    | "base_url" => (optional text j).map fun s => { p with baseUrl := s }
    | "env" => (table text j).map fun m => { p with environment := m }
    | "extras" => (table any j).map fun m => { p with extras := m }
    | "poll_interval" => (Duration.decode j).map fun d => { p with pollInterval := d }
    | _ => (optional Duration.decode j).map fun d => { p with timeout := d }) {} j
  return {
    mode := ← required "mode" p.mode
    workDir := p.workDir
    baseUrl := p.baseUrl
    environment := ← required "env" p.environment
    extras := ← required "extras" p.extras
    pollInterval := ← required "poll_interval" p.pollInterval
    timeout := p.timeout }

def toJson (c : ExecutionContext) : Json := .object [
  ("mode", c.mode.toJson),
  ("work_dir", .ofText? c.workDir),
  ("base_url", .ofText? c.baseUrl),
  ("env", .object (c.environment.entries.map fun e => (e.1, .text e.2))),
  ("extras", .object c.extras.entries),
  ("poll_interval", c.pollInterval.toJson),
  ("timeout", (c.timeout.map Duration.toJson).getD .null)]

end ExecutionContext

end PromptGraph
