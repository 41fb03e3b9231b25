import PromptGraph.Graph.Edge
import PromptGraph.Graph.Node
import PromptGraph.Numeric.Word
import PromptGraph.Text.Case

/-!
# Workflow graphs

Nodes stand in the order in which they were added. Tables lead from an id to a position, from a
type and from a lower-case title to positions. An input has at most one recorded edge: wiring it
again removes the earlier one, whose place the last edge takes. `recent` lists the same edges,
newest first.
-/

namespace PromptGraph

/-- Why a graph refuses an operation or a workflow. -/
inductive GraphError where
  | duplicateId (id : NodeId)
  | sourceMissing (id : NodeId)
  | targetMissing (id : NodeId)
  | noOutput (id : NodeId) (output : String)
  | empty
  /-- Connections from nodes that are not there: node, input, missing source. -/
  | dangling (refs : List (NodeId × String × NodeId))
  | cyclic
  deriving DecidableEq

namespace GraphError

def danglingText (r : NodeId × String × NodeId) : String :=
  "node " ++ r.1 ++ " input " ++ r.2.1 ++ " references missing node " ++ r.2.2

def message : GraphError → String
  | duplicateId id => "duplicate node id " ++ id
  | sourceMissing id => "source node " ++ id ++ " not found"
  | targetMissing id => "target node " ++ id ++ " not found"
  | noOutput id output => "node " ++ id ++ " has no output " ++ output
  | empty => "graph is empty"
  | dangling refs => String.intercalate ", " (refs.map danglingText)
  | cyclic => "graph connections contain a cycle"

end GraphError

/-- Nodes in order, their edges, and the tables that find them. -/
structure Graph where
  nodes : List Node := []
  edges : List Edge := []
  recent : List Edge := []
  positions : OrderedMap Nat := .empty
  byType : OrderedMap (List Nat) := .empty
  byTitle : OrderedMap (List Nat) := .empty

namespace Graph

def empty : Graph := {}

instance : Inhabited Graph := ⟨empty⟩

/-! ## Looking up -/

def size (g : Graph) : Nat := g.nodes.length

def isEmpty (g : Graph) : Bool := g.nodes.isEmpty

def contains (g : Graph) (id : NodeId) : Bool := g.positions.contains id

def position? (g : Graph) (id : NodeId) : Option Nat := g.positions.get? id

def node? (g : Graph) (id : NodeId) : Option Node := (g.position? id).bind (g.nodes[·]?)

/-- Positions are numbers of 32 bits: a larger one is taken modulo this. -/
def positionModulus : Nat := Word.span32

def nodeAt? (g : Graph) (position : Nat) : Option Node := g.nodes[position % positionModulus]?

def ids (g : Graph) : List NodeId := g.nodes.map Node.id

def nodesAt (g : Graph) (positions : List Nat) : List Node := positions.filterMap (g.nodes[·]?)

def nodesOfType (g : Graph) (typeName : String) : List Node :=
  g.nodesAt ((g.byType.get? typeName).getD [])

/-- The nodes whose title is `title` but for case, in order. -/
def nodesTitled (g : Graph) (title : String) : List Node :=
  g.nodesAt ((g.byTitle.get? (Text.toLower title)).getD [])

/-! ## Building -/

/-- Adds a node at the end, under an id of its own. -/
def add (g : Graph) (node : Node) : Except GraphError (Graph × Nat) :=
  if g.contains node.id then .error (.duplicateId node.id)
  else
    let position := g.nodes.length
    .ok ({ g with
      nodes := g.nodes ++ [node.fixId]
      positions := g.positions.insert node.id position
      byType := g.byType.upsert node.typeName [] (· ++ [position])
      byTitle := match node.title with
        | some title => g.byTitle.upsert (Text.toLower title) [] (· ++ [position])
        | none => g.byTitle }, position)

def modifyAt (g : Graph) (position : Nat) (f : Node → Node) : Graph :=
  { g with nodes := g.nodes.modify position f }

/-- Records an edge in place of the earlier one into the same input. -/
def recordEdge (g : Graph) (edge : Edge) : Graph :=
  { g with
    edges := (match g.edges.findIdx? edge.sameTarget with
      | some i => Edge.swapRemove g.edges i
      | none => g.edges) ++ [edge]
    recent := edge :: g.recent.eraseP edge.sameTarget }

/-- Sets the connection of an input and records its edge. -/
def setConnection (g : Graph) (position : Nat) (input : String) (c : Connection) (edge : Edge) :
    Graph :=
  (g.modifyAt position fun n => { n with connections := n.connections.insert input c }).recordEdge
    edge

/-- Wires an output of `source` into an input of `dest`. -/
def connect (g : Graph) (source : NodeId) (output : String) (dest : NodeId) (input : String) :
    Except GraphError Graph := do
  let some origin := g.node? source | .error (.sourceMissing source)
  let some position := g.position? dest | .error (.targetMissing dest)
  let some slot := origin.outputSlot? output | .error (.noOutput source output)
  return g.setConnection position input ⟨source, slot⟩ ⟨source, output, dest, input⟩

/-- Sets a resolved connection; none when an end is not in the graph. -/
def wire? (g : Graph) (dest : NodeId) (input : String) (c : Connection) : Option Graph := do
  let _ ← g.position? c.source
  let position ← g.position? dest
  return g.setConnection position input c ⟨c.source, toString c.slot, dest, input⟩

def modifyOverrides? (g : Graph) (id : NodeId) (f : OrderedMap Json → OrderedMap Json) :
    Option Graph := do
  let position ← g.position? id
  return g.modifyAt position fun n => { n with overrides := f n.overrides }

end Graph

end PromptGraph
