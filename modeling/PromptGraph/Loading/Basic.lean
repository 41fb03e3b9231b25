import PromptGraph.Failure
import PromptGraph.Json.Value
import PromptGraph.Loading.Editor

/-!
# Loading

Loading never fails on content: what cannot be read as a workflow gives the empty graph. Only a
file that cannot be read is a failure.
-/

namespace PromptGraph.Loading

def ofDocument (o : Options) : Document → Graph
  | .editor d => ofEditor o d
  | .request p => ofPrompt p

def ofJson (o : Options) (j : Json) : Graph :=
  match Document.ofJson j with
  | .ok d => ofDocument o d
  | .error _ => .empty

def ofText (o : Options) (s : String) : Graph :=
  match Json.parse? s with
  | some j => ofJson o j
  | none => .empty

def ofFile (o : Options) (files : FileTree) (path : String) : Except Failure Graph :=
  match files.readText path with
  | .ok s => .ok (ofText o s)
  | .error e => .error (.workflowUnreadable path e)

end PromptGraph.Loading
