import PromptGraph.Graph.Basic
import Std.Data.HashSet

/-!
# Fit graphs

`validate` accepts a graph that has a node, whose connections all come from nodes of the graph, and
whose connections form no cycle. Cycles are looked for by peeling: positions that no remaining
position feeds are dropped, round after round, until a round drops nothing; what is left lies on or
behind a cycle.
-/

namespace PromptGraph.Graph

/-- The connections of the graph: node, input, source. -/
def references (g : Graph) : List (NodeId × String × NodeId) :=
  g.nodes.flatMap fun n => n.connections.entries.map fun e => (n.id, e.1, e.2.source)

/-- The connections whose source is not in the graph. -/
def danglingRefs (g : Graph) : List (NodeId × String × NodeId) :=
  g.references.filter fun r => !g.contains r.2.2

/-- Each position with the positions that feed it. -/
def feeders (g : Graph) : List (Nat × List Nat) :=
  g.nodes.zipIdx.map fun (n, b) =>
    (b, n.connections.values.filterMap fun c => g.position? c.source)

/-- One round of peeling: keeps what something that is left feeds. -/
def peel (left : List (Nat × List Nat)) : List (Nat × List Nat) :=
  let known := Std.HashSet.ofList (left.map Prod.fst)
  left.filter fun e => e.2.any known.contains

/-- The set of known positions only makes peeling faster. -/
theorem peel_eq (left : List (Nat × List Nat)) :
    peel left = left.filter fun e => e.2.any (left.map Prod.fst).contains := by
  refine List.filter_congr fun e _ => congrArg (List.any e.2) (funext fun position => ?_)
  exact Std.HashSet.contains_ofList

/-- Peels until a round drops nothing, `rounds` times at most. -/
def peelTimes : Nat → List (Nat × List Nat) → List (Nat × List Nat)
  | 0, left => left
  | rounds + 1, left =>
    let rest := peel left
    if rest.length = left.length then left else peelTimes rounds rest

/-- Some connections lead back to where they started. -/
def isCyclic (g : Graph) : Bool :=
  !(peelTimes g.nodes.length g.feeders).isEmpty

/-- Whether the graph is fit to compile, and if not, why. -/
def validate (g : Graph) : Except GraphError Unit :=
  if g.isEmpty then .error .empty
  else if g.danglingRefs ≠ [] then .error (.dangling g.danglingRefs)
  else if g.isCyclic then .error .cyclic
  else .ok ()

end PromptGraph.Graph
