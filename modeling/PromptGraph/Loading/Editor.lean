import PromptGraph.Loading.Request

/-!
# Loading editor documents

Each node record becomes a node, except those of a type that only the editor shows and those whose
id is taken. Each link between loaded records, into an input that the target declares, becomes a
connection.
-/

namespace PromptGraph.Loading

/-- What loading leaves out. -/
structure Options where
  /-- Types of records that exist in the editor only. -/
  editorOnly : List String := ["Note", "MarkdownNote"]
  deriving DecidableEq

/-- The widget that backs an input, by name. -/
def widgetName? (name : String) (i : EditorInput) : Option String :=
  i.widget.map fun w => w.name.getD name

def namedInputs (r : EditorNode) : List (String × EditorInput) :=
  r.inputs.zipIdx.map fun (i, slot) => (EditorNode.nameAt slot i, i)

/-- Output names with their slots; of equal names the first stands. -/
def outputSlots (r : EditorNode) : OrderedMap Nat :=
  r.outputs.zipIdx.foldl
    (fun m (o, slot) => m.insertNew (o.name.getD (toString slot)) (o.slotIndex.getD slot)) .empty

def nodeOfRecord (position : Nat) (id : NodeId) (r : EditorNode) : Node :=
  let title := usefulTitle r.title
  { Node.named id r.resolvedType with
    title
    values := r.positionalValues
    widgets := ((namedInputs r).filterMap fun i => widgetName? i.1 i.2).foldl Node.appendNew []
    connectors := (namedInputs r).foldl (fun ns i => Node.insertName i.1 ns) []
    outputs := outputSlots r
    identity := some ⟨id, title, r.resolvedType, position, .editor⟩ }

/-- Records of loaded nodes, the graph that holds the nodes. -/
structure Loaded where
  graph : Graph := .empty
  records : OrderedMap EditorNode := .empty

def addRecord (o : Options) (l : Loaded) (r : EditorNode × Nat) : Loaded :=
  match r.1.key? with
  | none => l
  | some id =>
    if o.editorOnly.contains r.1.resolvedType then l
    else match l.graph.add (nodeOfRecord r.2 id r.1) with
      | .ok (g, _) => ⟨g, l.records.insert id r.1⟩
      | .error _ => l

/-- The connection that a link asks for. -/
def pendingOfLink? (records : OrderedMap EditorNode) (k : EditorLink) : Option Pending := do
  let origin ← records.get? k.origin
  let target ← records.get? k.target
  let input ← target.inputName? k.targetSlot
  return (k.target, input, ⟨k.origin, origin.outputIndex k.originSlot⟩)

def ofEditor (o : Options) (d : EditorDocument) : Graph :=
  let loaded := d.nodes.zipIdx.foldl (addRecord o) {}
  (d.links.filterMap (pendingOfLink? loaded.records)).foldl wire loaded.graph

end PromptGraph.Loading
