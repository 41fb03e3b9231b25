import PromptGraph.Document.Editor
import PromptGraph.Json.Value

/-!
# Prompts

A prompt maps node ids to a class with named inputs. It is the request dialect of a document and
the payload that compiling makes. `decode` refuses a prompt with an entry that does not decode;
`ofFields` leaves such entries out, and reserved keys with them.
-/

namespace PromptGraph

/-- What is said of a node beside its inputs. -/
structure PromptMeta where
  title : Option String := none
  deriving DecidableEq

structure PromptNode where
  classType : String := unknownType
  inputs : OrderedMap Json := .empty
  details : Option PromptMeta := none
  deriving DecidableEq

structure Prompt where
  nodes : OrderedMap PromptNode := .empty
  deriving DecidableEq

/-- The keys of a request document that name no node. -/
def reservedKeys : List String := ["_defaults"]

open Decode

namespace PromptMeta

def form : RecordForm := ⟨"PromptMeta", ["title"], 0⟩

def decode : Decoder PromptMeta :=
  form.fold (fun m _ j => (optional text j).map fun s => { m with title := s }) {}

def toJson (m : PromptMeta) : Json :=
  .object (match m.title with
    | some t => [("title", .text t)]
    | none => [])

end PromptMeta

namespace PromptNode

def form : RecordForm := ⟨"PromptNode", ["class_type", "inputs", "_meta"], 0⟩

def decode : Decoder PromptNode :=
  form.fold (fun n key j => match key with
    | "class_type" => (text j).map fun s => { n with classType := s }
    | "inputs" => (table any j).map fun m => { n with inputs := m }
    | _ => (optional PromptMeta.decode j).map fun m => { n with details := m }) {}

def toJson (n : PromptNode) : Json :=
  .object ([("class_type", .text n.classType), ("inputs", .object n.inputs.entries)] ++
    match n.details with
    | some m => [("_meta", m.toJson)]
    | none => [])

def title (n : PromptNode) : Option String := n.details.bind PromptMeta.title

end PromptNode

namespace Prompt

def empty : Prompt := {}

def get? (p : Prompt) (id : NodeId) : Option PromptNode := p.nodes.get? id

def insert (p : Prompt) (id : NodeId) (n : PromptNode) : Prompt := ⟨p.nodes.insert id n⟩

def size (p : Prompt) : Nat := p.nodes.size

def isEmpty (p : Prompt) : Bool := p.nodes.isEmpty

def ids (p : Prompt) : List NodeId := p.nodes.keys

def decode : Decoder Prompt := fun j => (table PromptNode.decode j).map Prompt.mk

def toJson (p : Prompt) : Json :=
  .object (p.nodes.entries.map fun e => (e.1, e.2.toJson))

/-- Enters a field unless its key is reserved or its value does not decode. -/
def addField (p : Prompt) (field : String × Json) : Prompt :=
  if reservedKeys.contains field.1 then p
  else match PromptNode.decode field.2 with
    | .ok n => p.insert field.1 n
    | .error _ => p

/-- The entries that decode. -/
def ofFields (fields : List (String × Json)) : Prompt := fields.foldl addField empty

/-- What decoding reads of a text. -/
def shape : Json.Shape :=
  .table (.record [("class_type", .whole), ("inputs", .whole),
    ("_meta", .record [("title", .whole)])])

def parse? (s : String) : Option Prompt := do
  (decode (← Json.parseShaped? shape s)).toOption

end Prompt

end PromptGraph
