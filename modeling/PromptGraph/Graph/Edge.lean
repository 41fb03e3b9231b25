import PromptGraph.Decode.Basic
import PromptGraph.Document.NodeId

/-!
# Edges

An edge leads from an output of a node, by name or number, to an input of another.
-/

namespace PromptGraph

structure Edge where
  source : NodeId
  output : String
  dest : NodeId
  input : String
  deriving DecidableEq, Repr

namespace Edge

/-- Both edges lead into the same input. -/
def sameTarget (a b : Edge) : Bool := a.dest = b.dest && a.input = b.input

/-- Removes the item at `i`; the last item takes its place. -/
def swapRemove {α : Type} (xs : List α) (i : Nat) : List α :=
  match xs.getLast? with
  | none => xs
  | some last => (xs.set i last).dropLast

end Edge

end PromptGraph
