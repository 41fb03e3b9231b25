import PromptGraph.Json.Basic
import PromptGraph.Text.Digits

/-!
# Node ids and connections

A node id is written as a non-empty string or an integer. A connection names an output slot of a
source node; it is written as a pair of an id and a slot, the slot as a number or as digits.
-/

namespace PromptGraph

/-- The key of a node in a payload. -/
abbrev NodeId := String

def NodeId.ofJson? : Json → Option NodeId
  | .text s => if s.isEmpty then none else some s
  | .number (.int i) => some (toString i)
  | _ => none

/-- An input's source: a node and one of its output slots. -/
structure Connection where
  source : NodeId
  slot : Nat
  deriving DecidableEq, Repr

namespace Connection

def slotNumber? (j : Json) : Option Nat := j.asNat?.filter (· < Text.slotLimit)

/-- The slot that a value writes, as a number or as digits. -/
def slot? : Json → Option Nat
  | .text s => Text.readSlot? s
  | j => slotNumber? j

def ofJson? : Json → Option Connection
  | .array [id, slot] => do return ⟨← NodeId.ofJson? id, ← slot? slot⟩
  | _ => none

def toJson (c : Connection) : Json := .array [.text c.source, .nat c.slot]

end Connection

end PromptGraph
