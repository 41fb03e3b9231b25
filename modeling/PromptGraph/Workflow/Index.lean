import PromptGraph.Graph.Basic

/-!
# Identity index

The index of a loaded graph: id to title, type and position, and title to ids, in file order.
Nodes from a document are indexed by what the document says of them, others by what they are.
-/

namespace PromptGraph

structure IndexEntry where
  title : Option String
  typeName : String
  position : Nat
  deriving DecidableEq

structure IdentityIndex where
  entries : OrderedMap IndexEntry := .empty
  byTitle : OrderedMap (List NodeId) := .empty

namespace IdentityIndex

/-- What the node at a position is indexed by. -/
def entryOf (n : Node) (position : Nat) : NodeId × IndexEntry :=
  match n.identity with
  | some i => (i.fileId, ⟨i.title, i.typeName, i.position⟩)
  | none => (n.id, ⟨n.title, n.typeName, position⟩)

def addNode (x : IdentityIndex) (n : Node × Nat) : IdentityIndex :=
  let (id, entry) := entryOf n.1 n.2
  { entries := x.entries.insert id entry
    byTitle := match entry.title with
      | some t => x.byTitle.upsert t [] (· ++ [id])
      | none => x.byTitle }

def ofGraph (g : Graph) : IdentityIndex := g.nodes.zipIdx.foldl addNode {}

def get? (x : IdentityIndex) (id : NodeId) : Option IndexEntry := x.entries.get? id

def contains (x : IdentityIndex) (id : NodeId) : Bool := x.entries.contains id

def size (x : IdentityIndex) : Nat := x.entries.size

def isEmpty (x : IdentityIndex) : Bool := x.entries.isEmpty

/-- The ids that carry exactly this title. -/
def idsTitled (x : IdentityIndex) (title : String) : List NodeId :=
  (x.byTitle.get? title).getD []

def idsOfType (x : IdentityIndex) (typeName : String) : List NodeId :=
  (x.entries.entries.filter fun e => e.2.typeName = typeName).map Prod.fst

/-- The ids whose title satisfies `p`, in file order. -/
def idsWhere (x : IdentityIndex) (p : String → Bool) : List NodeId :=
  (x.entries.entries.filter fun e => e.2.title.any p).map Prod.fst

end IdentityIndex

end PromptGraph
