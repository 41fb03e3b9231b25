import PromptGraph.Decode.Basic
import PromptGraph.Schema.Tag

/-!
# Declared inputs

A schema declares an input as an array of a tag and details, as an array that starts with a list of
choices, or as an object with a `type`.
-/

namespace PromptGraph

structure InputSpec where
  name : String
  /-- None for a list of choices and for an input without a tag: both take texts. -/
  tag : Option TypeTag
  details : OrderedMap Json := .empty
  deriving DecidableEq

namespace InputSpec

def ofJson (name : String) : Json → InputSpec
  | .array (head :: rest) =>
    { name
      tag := head.asText?.map TypeTag.parse
      details := .ofList ((rest.head?.bind Json.asObject?).getD []) }
  | .object fs =>
    { name
      tag := ((Entries.get? fs "type").bind Json.asText?).map TypeTag.parse
      details := .ofList fs }
  | _ => { name, tag := none }

/-- A widget value can fill the input. -/
def isPrimitive (s : InputSpec) : Bool :=
  match s.tag with
  | none => true
  | some t => t.isPrimitive

def default? (s : InputSpec) : Option Json := s.details.get? "default"

end InputSpec

end PromptGraph
