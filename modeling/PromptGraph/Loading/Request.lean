import PromptGraph.Graph.Basic

/-!
# Loading prompts

Each entry of a prompt becomes a node. An input that writes a connection becomes one once all
nodes are there, if its source is among them; every other input becomes an override.
-/

namespace PromptGraph.Loading

/-- A connection that waits for all nodes: node, input, source. -/
abbrev Pending := NodeId × String × Connection

/-- A title that says something. -/
def usefulTitle (t : Option String) : Option String := t.filter fun s => !s.isEmpty

/-- The inputs of an entry that write connections. -/
def wiredInputs (e : PromptNode) : List (String × Connection) :=
  e.inputs.entries.filterMap fun i => (Connection.ofJson? i.2).map (i.1, ·)

/-- The inputs of an entry that do not. -/
def literalInputs (e : PromptNode) : List (String × Json) :=
  e.inputs.entries.filter fun i => (Connection.ofJson? i.2).isNone

/-- The node of an entry at a position, its connections still missing. -/
def nodeOfEntry (position : Nat) (id : NodeId) (e : PromptNode) : Node :=
  let node := Node.named id e.classType
  let title := usefulTitle e.title
  { node with
    title
    overrides := .ofList (literalInputs e)
    connectors := (wiredInputs e).foldl (fun ns i => Node.insertName i.1 ns) []
    identity := some ⟨id, title, node.typeName, position, .request⟩ }

def addNode (g : Graph) (n : Node) : Graph :=
  match g.add n with
  | .ok (g, _) => g
  | .error _ => g

/-- Sets a connection unless one of its ends is missing. -/
def wire (g : Graph) (p : Pending) : Graph := (g.wire? p.1 p.2.1 p.2.2).getD g

/-- The connections that an entry asks for. -/
def pendingOf (id : NodeId) (e : PromptNode) : List Pending :=
  (wiredInputs e).map fun i => (id, i.1, i.2)

def ofPrompt (p : Prompt) : Graph :=
  let nodes := p.nodes.entries.zipIdx.map fun (e, position) => nodeOfEntry position e.1 e.2
  let pending := p.nodes.entries.flatMap fun e => pendingOf e.1 e.2
  pending.foldl wire (nodes.foldl addNode .empty)

end PromptGraph.Loading
