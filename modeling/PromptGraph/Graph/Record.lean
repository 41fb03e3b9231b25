import PromptGraph.Graph.Node
import PromptGraph.Graph.Edge

/-!
# Records of graph parts

Connections, edges and identities written as records, all fields required but the title.
-/

namespace PromptGraph

open Decode

namespace Connection

def form : RecordForm := ⟨"ConnectionRef", ["source_id", "output_slot"], 2⟩

def decode : Decoder Connection := fun j => do
  let (source, slot) ← form.fold (fun (source, slot) key j => match key with
    | "source_id" => (text j).map fun s => (some s, slot)
    | _ => (nat32 j).map fun n => (source, some n)) (none, none) j
  return ⟨← required "source_id" source, ← required "output_slot" slot⟩

def toRecord (c : Connection) : Json := .object [
  ("source_id", .text c.source), ("output_slot", .nat c.slot)]

end Connection

namespace Edge

def form : RecordForm := ⟨"Edge", ["source_id", "source_port", "dest_id", "dest_port"], 4⟩

def decode : Decoder Edge := fun j => do
  let texts ← form.fold (fun ts key j => (text j).map (ts.insert key)) OrderedMap.empty j
  let field := fun name => required name (texts.get? name)
  return ⟨← field "source_id", ← field "source_port", ← field "dest_id", ← field "dest_port"⟩

def toRecord (e : Edge) : Json := .object [
  ("source_id", .text e.source), ("source_port", .text e.output),
  ("dest_id", .text e.dest), ("dest_port", .text e.input)]

end Edge

namespace Dialect

def decode : Decoder Dialect := word variants

def toJson (d : Dialect) : Json := .text d.name

def ofName? (name : String) : Option Dialect := Entries.get? variants name

end Dialect

namespace NodeIdentity

def form : RecordForm :=
  ⟨"NodeIdentity", ["file_id", "title", "type_name", "position", "dialect"], 5⟩

/-- The fields of an identity that were read so far. -/
structure Partial where
  fileId : Option String := none
  title : Option String := none
  typeName : Option String := none
  position : Option Nat := none
  dialect : Option Dialect := none

def decode : Decoder NodeIdentity := fun j => do
  let p ← form.fold (fun (p : Partial) key j => match key with
    | "file_id" => (text j).map fun s => { p with fileId := s }
    | "title" => (optional text j).map fun s => { p with title := s }
    | "type_name" => (text j).map fun s => { p with typeName := s }
    | "position" => (Decode.position j).map fun n => { p with position := n }
    | _ => (Dialect.decode j).map fun d => { p with dialect := d }) {} j
  return {
    fileId := ← required "file_id" p.fileId
    title := p.title
    typeName := ← required "type_name" p.typeName
    position := ← required "position" p.position
    dialect := ← required "dialect" p.dialect }

def toRecord (i : NodeIdentity) : Json := .object [
  ("file_id", .text i.fileId), ("title", .ofText? i.title), ("type_name", .text i.typeName),
  ("position", .nat i.position), ("dialect", i.dialect.toJson)]

end NodeIdentity

end PromptGraph
