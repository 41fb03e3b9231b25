import PromptGraph.Decode.Basic
import PromptGraph.Json.Value

/-!
# Override bundles

Parameter values addressed by node id, by exact title and by type.
-/

namespace PromptGraph

/-- Parameters by the name of what they address. -/
abbrev Addressed := OrderedMap (OrderedMap Json)

structure OverrideBundle where
  byId : Addressed := .empty
  byTitle : Addressed := .empty
  byType : Addressed := .empty
  deriving DecidableEq

namespace OverrideBundle

open Decode

def form : RecordForm := ⟨"OverrideBundle", ["by_id", "by_title", "by_type"], 0⟩

def decode : Decoder OverrideBundle :=
  form.fold (fun b key j => do
    let m ← table (table any) j
    return match key with
      | "by_id" => { b with byId := m }
      | "by_title" => { b with byTitle := m }
      | _ => { b with byType := m }) {}

def shape : Json.Shape :=
  .record [("by_id", .table .whole), ("by_title", .table .whole), ("by_type", .table .whole)]

def parse? (s : String) : Option OverrideBundle := do
  (decode (← Json.parseShaped? shape s)).toOption

def addressedJson (m : Addressed) : Json :=
  .object (m.entries.map fun e => (e.1, .object e.2.entries))

def toJson (b : OverrideBundle) : Json := .object [
  ("by_id", addressedJson b.byId),
  ("by_title", addressedJson b.byTitle),
  ("by_type", addressedJson b.byType)]

def isEmpty (b : OverrideBundle) : Bool := b.byId.isEmpty && b.byTitle.isEmpty && b.byType.isEmpty

/-- Adds a parameter of one target. -/
def address (m : Addressed) (target name : String) (value : Json) : Addressed :=
  m.upsert target .empty (·.insert name value)

def withId (b : OverrideBundle) (id name : String) (value : Json) : OverrideBundle :=
  { b with byId := address b.byId id name value }

def withTitle (b : OverrideBundle) (title name : String) (value : Json) : OverrideBundle :=
  { b with byTitle := address b.byTitle title name value }

def withType (b : OverrideBundle) (typeName name : String) (value : Json) : OverrideBundle :=
  { b with byType := address b.byType typeName name value }

end OverrideBundle

end PromptGraph
