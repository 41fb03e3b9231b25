import PromptGraph.Compile.Basic
import PromptGraph.Decode.Basic

/-!
# Known parameters

The parameters that a node knows by name: its overrides, its widgets, and what its widget values
align to. Only these can be patched. `NodeParameters` lists their current values.
-/

namespace PromptGraph

/-- The known parameters of a node and their values. -/
structure NodeParameters where
  id : NodeId
  typeName : String
  title : Option String := none
  values : OrderedMap Json
  deriving DecidableEq

namespace NodeParameters

open Decode

def form : RecordForm := ⟨"NodeParameters", ["id", "type_name", "title", "values"], 4⟩

def decode : Decoder NodeParameters := fun j => do
  let (id, typeName, title, values) ← form.fold (fun (id, typeName, title, values) key j =>
    match key with
    | "id" => (text j).map fun s => (some s, typeName, title, values)
    | "type_name" => (text j).map fun s => (id, some s, title, values)
    | "title" => (optional text j).map fun s => (id, typeName, s, values)
    | _ => (table any j).map fun m => (id, typeName, title, some m)) (none, none, none, none) j
  return {
    id := ← required "id" id
    typeName := ← required "type_name" typeName
    title
    values := ← required "values" values }

def toRecord (p : NodeParameters) : Json := .object [
  ("id", .text p.id), ("type_name", .text p.typeName), ("title", .ofText? p.title),
  ("values", .object p.values.entries)]

end NodeParameters

section Lookup

variable {m : Type → Type} [Monad m] (lookup : String → m (List InputSpec))

/-- The names that a patch of a node may use. -/
def Node.knownNames (n : Node) : m (List String) := do
  return (← Compiler.align lookup n).keys.foldl Node.appendNew n.declaredNames

/-- The names that a patch of the node with this id may use. -/
def Graph.knownNames (g : Graph) (id : NodeId) : m (List String) :=
  match g.node? id with
  | some n => n.knownNames lookup
  | none => pure []

/-- The parameters of a node, unless it knows none. -/
def Node.parameters? (n : Node) : m (Option NodeParameters) := do
  let values ← Compiler.resolvedParameters lookup n
  return if values.isEmpty then none
    else some { id := n.id, typeName := n.typeName, title := n.title, values }

/-- The parameters of all nodes that know any, in order. -/
def Graph.parameters (g : Graph) : m (List NodeParameters) := do
  return (← g.nodes.mapM (Node.parameters? lookup)).filterMap id

/-! ## Patches -/

/-- Overrides the parameters that a node knows; none when it knows none of them. -/
def Graph.patch? (params : OrderedMap Json) (g : Graph) (id : NodeId) : m (Option Graph) := do
  let known ← g.knownNames lookup id
  let kept := params.entries.filter fun p => known.contains p.1
  return if kept.isEmpty then none else g.modifyOverrides? id (·.insertAll kept)

/-- Patches nodes one after the other until so many, counted from `hits`, are changed. -/
def Graph.patchEach (limit : Option Nat) (params : OrderedMap Json) :
    List NodeId → Nat × Graph → m (Nat × Graph)
  | [], s => pure s
  | id :: rest, (hits, g) =>
    if limit.any fun l => decide (l ≤ hits) then pure (hits, g)
    else do
      match ← g.patch? lookup params id with
      | some g => Graph.patchEach limit params rest (hits + 1, g)
      | none => Graph.patchEach limit params rest (hits, g)

/-- Applies patches, each to nodes of its own; gives the sum of the changes. -/
def Graph.patchTargets : List (List NodeId × OrderedMap Json) → Nat × Graph → m (Nat × Graph)
  | [], s => pure s
  | (ids, params) :: rest, s => do
    Graph.patchTargets rest (← Graph.patchEach lookup none params ids s)

end Lookup

end PromptGraph
