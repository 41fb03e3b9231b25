import PromptGraph.Graph.Basic

/-!
# Outlines

A listing of a graph for readers: counts, one line per node, and where each node's outputs lead,
the newest edge first.
-/

namespace PromptGraph.Graph

def nodeLine (n : Node) : String :=
  "[" ++ n.id ++ "] " ++ n.title.getD "-" ++ " (type: " ++ n.typeName ++ ", values: " ++
    toString n.values.length ++ ", overrides: " ++ toString n.overrides.size ++ ")"

/-- The edges that leave a node, newest first. -/
def outgoing (g : Graph) (id : NodeId) : List Edge := g.recent.filter fun e => e.source = id

def edgeText (e : Edge) : String := e.dest ++ "." ++ e.input ++ "(" ++ e.output ++ ")"

def structureLine (g : Graph) (n : Node) : String :=
  match g.outgoing n.id with
  | [] => n.id ++ " -> (end)"
  | es => n.id ++ " -> " ++ String.intercalate ", " (es.map edgeText)

def outline (g : Graph) : String :=
  String.intercalate "\n" (
    ["=== Workflow Graph ===",
      "Nodes: " ++ toString g.nodes.length ++ ", Edges: " ++ toString g.edges.length,
      "", "--- Nodes ---"] ++
    g.nodes.map nodeLine ++ ["", "--- Graph Structure ---"] ++ g.nodes.map g.structureLine)

end PromptGraph.Graph
