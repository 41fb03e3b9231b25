import PromptGraph.Schema.Input

/-!
# Records of declared inputs

A scalar tag is written as a word, any other tag as an object with its name.
-/

namespace PromptGraph

open Decode

namespace TypeTag

/-- Tags by the names under which records know them; the last one carries a name. -/
def variants : List (String × Option TypeTag) := [
  ("Int", some int), ("Float", some float), ("String", some text), ("Bool", some bool),
  ("Combo", some combo), ("Other", none)]

def decode : Decoder TypeTag := fun j => do
  match ← tagged variants j with
  | (some t, content) => bare content; return t
  | (none, content) => (carrying Decode.text content).map other

def toJson : TypeTag → Json
  | int => .text "Int"
  | float => .text "Float"
  | text => .text "String"
  | bool => .text "Bool"
  | combo => .text "Combo"
  | other name => .object [("Other", .text name)]

end TypeTag

namespace InputSpec

def form : RecordForm := ⟨"InputSpec", ["name", "tag", "meta"], 3⟩

def decode : Decoder InputSpec := fun j => do
  let (name, tag, details) ← form.fold (fun (name, tag, details) key j => match key with
    | "name" => (text j).map fun s => (some s, tag, details)
    | "tag" => (optional TypeTag.decode j).map fun t => (name, t, details)
    | _ => (table any j).map fun m => (name, tag, some m)) (none, none, none) j
  return { name := ← required "name" name, tag, details := ← required "meta" details }

def toRecord (s : InputSpec) : Json := .object [
  ("name", .text s.name), ("tag", (s.tag.map TypeTag.toJson).getD .null),
  ("meta", .object s.details.entries)]

end InputSpec

end PromptGraph
