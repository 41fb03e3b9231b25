import PromptGraph.Failure
import PromptGraph.Workflow.Overrides

/-!
# Templates

A folder of workflow documents, addressed by file name without the extension `json`. A document
may carry overrides under `_defaults`, which are applied after it is loaded.
-/

namespace PromptGraph

structure Template where
  id : String
  path : String
  document : Json
  defaults : OverrideBundle

structure TemplateFolder where
  root : String

namespace Template

/-- The key of the overrides inside a document. -/
def defaultsKey : String := "_defaults"

/-- The overrides that a document carries; malformed ones count as none. -/
def defaultsOf (document : Json) : OverrideBundle :=
  match document.field? defaultsKey with
  | some j => (OverrideBundle.decode j).toOption.getD {}
  | none => {}

/-- Reads a template; a text that is no JSON is a null document. -/
def read (files : FileTree) (id path : String) : Except Failure Template :=
  match files.readText path with
  | .error e => .error (.templateUnreadable path e)
  | .ok text =>
    let document := (Json.parse? text).getD .null
    .ok { id, path, document, defaults := defaultsOf document }

end Template

namespace TemplateFolder

/-- The id cannot name a file of the folder. -/
def isBadId (id : String) : Bool :=
  id.isEmpty || id.toList.contains '/' || id.toList.contains '\\' || id = ".."

def get (t : TemplateFolder) (files : FileTree) (id : String) : Except Failure Template :=
  if isBadId id then .error (.badTemplateId id)
  else Template.read files id (Path.join t.root (id ++ ".json"))

/-- The template in a file of the folder, unless it is none or cannot be read. -/
def ofFileName? (t : TemplateFolder) (files : FileTree) (name : String) : Option Template := do
  let id ← Path.stem? "json" name
  (Template.read files id (Path.join t.root name)).toOption

/-- All templates, sorted by id; a folder that is missing holds none. -/
def list (t : TemplateFolder) (files : FileTree) : List Template :=
  if files.isFolder t.root then
    ((files.names t.root).filterMap (t.ofFileName? files)).mergeSort fun a b => decide (a.id ≤ b.id)
  else []

end TemplateFolder

end PromptGraph
