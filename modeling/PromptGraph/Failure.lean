import PromptGraph.Decode.Error
import PromptGraph.Files.Tree
import PromptGraph.Graph.Basic

/-!
# Failures

Every way in which an operation can fail, by cause. `Failure.kind` sorts causes by concern and
`Failure.message` gives the wording, where this library has the wording: what a system call, the
network, or a reader of patterns, settings and JSON texts says is left open.
-/

namespace PromptGraph

/-- The concern that a failure belongs to. -/
inductive FailureKind where
  | config
  | convert
  | loader
  | schema
  | graph
  | node
  | patch
  | compile
  | executor
  | output
  | io
  | http
  deriving DecidableEq

namespace FailureKind

def variants : List (String × FailureKind) := [
  ("Config", .config), ("Convert", .convert), ("Loader", .loader), ("Schema", .schema),
  ("Graph", .graph), ("Node", .node), ("Patch", .patch), ("Compile", .compile),
  ("Executor", .executor), ("Output", .output), ("IoError", .io), ("Http", .http)]

def name : FailureKind → String
  | config => "Config"
  | convert => "Convert"
  | loader => "Loader"
  | schema => "Schema"
  | graph => "Graph"
  | node => "Node"
  | patch => "Patch"
  | compile => "Compile"
  | executor => "Executor"
  | output => "Output"
  | io => "IoError"
  | http => "Http"

/-- The wording of these failures is never this library's. -/
def isForeign (k : FailureKind) : Bool := k = patch || k = io || k = http

end FailureKind

/-- Why a compilation stops. -/
inductive CompileError where
  /-- A node without a known type, where types are demanded. -/
  | unknownType (id : NodeId)
  | nothingLoaded
  deriving DecidableEq

def CompileError.message : CompileError → String
  | unknownType id => "cannot compile node " ++ id ++ ": unknown class_type"
  | nothingLoaded => "no workflow loaded"

inductive Failure where
  | badSettings
  | settingsUnreadable (path : String) (cause : FileError)
  /-- Schemas should come from a file and none is named. -/
  | schemaFileUnnamed
  | badJson
  | undecodable (cause : DecodeError)
  | workflowUnreadable (path : String) (cause : FileError)
  | templateUnreadable (path : String) (cause : FileError)
  | badTemplateId (id : String)
  | schemaUnreadable (path : String) (cause : FileError)
  | graph (cause : GraphError)
  | node (cause : NodeError)
  | badPattern
  | compile (cause : CompileError)
  | timedOut (handle : String)
  /-- A run that ended without success. -/
  | ended (handle state : String) (message : Option String)
  | badHandle (handle : String)
  | manifestUnreadable (path : String) (cause : FileError)
  | manifestNotObject (path : String)
  | notStored (cause : FileError)
  | unreachable
  /-- A failure that a collaborator reports in its own words. -/
  | reported (kind : FailureKind) (text : String)
  deriving DecidableEq

namespace Failure

def kind : Failure → FailureKind
  | badSettings => .config
  | settingsUnreadable _ _ => .config
  | schemaFileUnnamed => .config
  | badJson => .convert
  | undecodable _ => .convert
  | workflowUnreadable _ _ => .loader
  | templateUnreadable _ _ => .loader
  | badTemplateId _ => .loader
  | schemaUnreadable _ _ => .schema
  | graph _ => .graph
  | node _ => .node
  | badPattern => .patch
  | compile _ => .compile
  | timedOut _ => .executor
  | ended _ _ _ => .executor
  | badHandle _ => .output
  | manifestUnreadable _ _ => .output
  | manifestNotObject _ => .output
  | notStored _ => .io
  | unreachable => .http
  | reported k _ => k

/-- The wording, where it is fixed. -/
def message : Failure → Option String
  | badSettings => none
  | settingsUnreadable path cause =>
    some ("failed to load config file " ++ Text.quoted path ++ ": " ++ cause.message)
  | schemaFileUnnamed => some "schema.file is required when schema.source is file"
  | badJson => none
  | undecodable cause => some cause.message
  | workflowUnreadable path cause =>
    some ("failed to read workflow " ++ path ++ ": " ++ cause.message)
  | templateUnreadable path cause =>
    some ("failed to read template " ++ path ++ ": " ++ cause.message)
  | badTemplateId id => some ("invalid template id " ++ Text.quoted id)
  | schemaUnreadable path cause =>
    some ("failed to read schema file " ++ path ++ ": " ++ cause.message)
  | graph cause => some cause.message
  | node cause => some cause.message
  | badPattern => none
  | compile cause => some cause.message
  | timedOut handle => some ("run " ++ handle ++ " timed out")
  | ended handle state message =>
    some ("run " ++ handle ++ " ended " ++ state ++ ": " ++ message.getD "no message")
  | badHandle handle => some ("invalid handle id " ++ Text.quoted handle)
  | manifestUnreadable path cause =>
    some ("failed to read manifest " ++ path ++ ": " ++ cause.message)
  | manifestNotObject path => some ("manifest " ++ path ++ " is not an object")
  | notStored _ => none
  | unreachable => none
  | reported k text => if k.isForeign then none else some text

end Failure

end PromptGraph
