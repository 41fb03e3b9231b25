import PromptGraph.Decode.Basic
import PromptGraph.Document.NodeId

/-!
# Editor documents

A workflow as the visual editor saves it: node records with positional widget values, and link
records from output slots to input slots. Records that do not decode are left out.
-/

namespace PromptGraph

/-- The type of a node that names none. -/
def unknownType : String := "Unknown"

/-- The widget that backs an input. -/
structure EditorWidget where
  name : Option String := none
  deriving DecidableEq

structure EditorInput where
  name : Option String := none
  link : Option Int := none
  widget : Option EditorWidget := none
  deriving DecidableEq

structure EditorOutput where
  name : Option String := none
  slotIndex : Option Nat := none
  deriving DecidableEq

structure EditorNode where
  id : Json
  typeName : Option String := none
  classType : Option String := none
  title : Option String := none
  inputs : List EditorInput := []
  outputs : List EditorOutput := []
  widgetValues : Json := .null
  deriving DecidableEq

structure EditorLink where
  id : Option NodeId
  origin : NodeId
  originSlot : Nat
  target : NodeId
  targetSlot : Nat
  typeTag : Option String
  deriving DecidableEq

/-- The node and link records of a workflow. -/
structure EditorDocument where
  nodes : List EditorNode := []
  links : List EditorLink := []

open Decode

/-! ## Records -/

namespace EditorWidget

def form : RecordForm := ⟨"EditorWidget", ["name"], 0⟩

def decode : Decoder EditorWidget :=
  form.fold (fun w _ j => (optional text j).map fun s => { w with name := s }) {}

def toJson (w : EditorWidget) : Json := .object [("name", .ofText? w.name)]

end EditorWidget

namespace EditorInput

def form : RecordForm := ⟨"EditorInput", ["name", "link", "widget"], 0⟩

def decode : Decoder EditorInput :=
  form.fold (fun i key j => match key with
    | "name" => (optional text j).map fun s => { i with name := s }
    | "link" => (optional int64 j).map fun n => { i with link := n }
    | _ => (optional EditorWidget.decode j).map fun w => { i with widget := w }) {}

def toJson (i : EditorInput) : Json := .object [
  ("name", .ofText? i.name),
  ("link", (i.link.map Json.int).getD .null),
  ("widget", (i.widget.map EditorWidget.toJson).getD .null)]

end EditorInput

namespace EditorOutput

def form : RecordForm := ⟨"EditorOutput", ["name", "slot_index"], 0⟩

def decode : Decoder EditorOutput :=
  form.fold (fun o key j => match key with
    | "name" => (optional text j).map fun s => { o with name := s }
    | _ => (optional nat32 j).map fun n => { o with slotIndex := n }) {}

def toJson (o : EditorOutput) : Json := .object [
  ("name", .ofText? o.name),
  ("slot_index", (o.slotIndex.map Json.nat).getD .null)]

end EditorOutput

namespace EditorNode

def form : RecordForm :=
  ⟨"EditorNode", ["id", "type", "class_type", "title", "inputs", "outputs", "widgets_values"], 1⟩

def decode : Decoder EditorNode := fun j => do
  let (id, node) ← form.fold (fun (id, n) key j => match key with
    | "id" => .ok (some j, n)
    | "type" => (optional text j).map fun s => (id, { n with typeName := s })
    | "class_type" => (optional text j).map fun s => (id, { n with classType := s })
    | "title" => (optional text j).map fun s => (id, { n with title := s })
    | "inputs" => (list EditorInput.decode j).map fun xs => (id, { n with inputs := xs })
    | "outputs" => (list EditorOutput.decode j).map fun xs => (id, { n with outputs := xs })
    | _ => .ok (id, { n with widgetValues := j })) (none, ({ id := .null } : EditorNode)) j
  return { node with id := ← required "id" id }

def toJson (n : EditorNode) : Json := .object [
  ("id", n.id),
  ("type", .ofText? n.typeName),
  ("class_type", .ofText? n.classType),
  ("title", .ofText? n.title),
  ("inputs", .array (n.inputs.map EditorInput.toJson)),
  ("outputs", .array (n.outputs.map EditorOutput.toJson)),
  ("widgets_values", n.widgetValues)]

def key? (n : EditorNode) : Option NodeId := NodeId.ofJson? n.id

/-- The type, or the class when no type is given; `unknownType` when that is missing or empty. -/
def resolvedType (n : EditorNode) : String :=
  match n.typeName.or n.classType with
  | some t => if t.isEmpty then unknownType else t
  | none => unknownType

/-- The name of an input: its own, or the number of its slot. -/
def nameAt (slot : Nat) (i : EditorInput) : String := i.name.getD (toString slot)

/-- The name of the input declared at a slot. -/
def inputName? (n : EditorNode) (slot : Nat) : Option String := n.inputs[slot]?.map (nameAt slot)

/-- The output index of a slot: the declared one, or the slot itself. -/
def outputIndex (n : EditorNode) (slot : Nat) : Nat :=
  (n.outputs[slot]?.bind EditorOutput.slotIndex).getD slot

/-- Widget values in order; only an array has an order. -/
def positionalValues (n : EditorNode) : List Json := n.widgetValues.asArray?.getD []

end EditorNode

namespace EditorLink

def ofJson? : Json → Option EditorLink
  | .array (id :: origin :: originSlot :: target :: targetSlot :: rest) => do
    return {
      id := NodeId.ofJson? id
      origin := ← NodeId.ofJson? origin
      originSlot := ← Connection.slotNumber? originSlot
      target := ← NodeId.ofJson? target
      targetSlot := ← Connection.slotNumber? targetSlot
      typeTag := rest.head?.bind Json.asText? }
  | .object fs => do
    return {
      id := (Entries.get? fs "id").bind NodeId.ofJson?
      origin := ← (Entries.get? fs "origin_id").bind NodeId.ofJson?
      originSlot := ← (Entries.get? fs "origin_slot").bind Connection.slotNumber?
      target := ← (Entries.get? fs "target_id").bind NodeId.ofJson?
      targetSlot := ← (Entries.get? fs "target_slot").bind Connection.slotNumber?
      typeTag := (Entries.get? fs "type").bind Json.asText? }
  | _ => none

end EditorLink

namespace EditorDocument

/-- The node record that a value writes, when it decodes and has an id. -/
def node? (j : Json) : Option EditorNode :=
  match EditorNode.decode j with
  | .ok n => if n.key?.isSome then some n else none
  | .error _ => none

def items (fields : List (String × Json)) (key : String) : List Json :=
  ((Entries.get? fields key).bind Json.asArray?).getD []

/-- The records of a document, the undecodable ones left out. -/
def ofFields (fields : List (String × Json)) : EditorDocument where
  nodes := (items fields "nodes").filterMap node?
  links := (items fields "links").filterMap EditorLink.ofJson?

end EditorDocument

end PromptGraph
