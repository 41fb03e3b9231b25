import PromptGraph.Document.Prompt

/-!
# Workflow documents

A document is written in one of two dialects. `Dialect.detect` tells them apart: a key `nodes` or
`links` means the editor; otherwise the first field that is not reserved decides.
-/

namespace PromptGraph

inductive Dialect where
  | editor
  | request
  deriving DecidableEq, Repr

namespace Dialect

def variants : List (String × Dialect) := [("editor", .editor), ("request", .request)]

def name : Dialect → String
  | editor => "editor"
  | request => "request"

/-- The entry has what a prompt node has. -/
def isRequestEntry (j : Json) : Bool :=
  match j with
  | .object fs => Entries.contains fs "class_type" && Entries.contains fs "inputs"
  | _ => false

def detect (fields : List (String × Json)) : Dialect :=
  if Entries.contains fields "nodes" || Entries.contains fields "links" then .editor
  else match fields.find? fun f => !reservedKeys.contains f.1 with
    | some (_, j) => if isRequestEntry j then .request else .editor
    | none => .editor

end Dialect

inductive Document where
  | editor (d : EditorDocument)
  | request (p : Prompt)

namespace Document

def dialect : Document → Dialect
  | editor _ => .editor
  | request _ => .request

def ofFields (fields : List (String × Json)) : Document :=
  match Dialect.detect fields with
  | .editor => .editor (.ofFields fields)
  | .request => .request (.ofFields fields)

def ofJson : Decoder Document
  | .object fs => .ok (ofFields fs)
  | _ => .error .notADocument

end Document

end PromptGraph
