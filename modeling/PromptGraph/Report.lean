import PromptGraph.Decode.Basic
import PromptGraph.Failure

/-!
# Reports

A failure as others hear of it: its kind and its wording, written as an object with the kind as the
one key.
-/

namespace PromptGraph

structure Report where
  kind : FailureKind
  text : String
  deriving DecidableEq

namespace Report

/-- What a system call that fails with this wording is reported as. -/
def ofSystem (text : String) : Report := ⟨.io, text⟩

def decode : Decoder Report := fun j => do
  let (kind, content) ← Decode.tagged FailureKind.variants j
  return ⟨kind, ← Decode.carrying Decode.text content⟩

def toJson (r : Report) : Json := .object [(r.kind.name, .text r.text)]

end Report

end PromptGraph
