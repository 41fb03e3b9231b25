import PromptGraph.Document.Basic

/-!
# Nodes

A node has a type, an optional title, parameters set by name (`overrides`), inputs wired to other
nodes (`connections`) and widget values known by position only (`values`). Its id is the assigned
one or, when none was assigned, its own unique key; reading the id fixes it.
-/

namespace PromptGraph

/-- What a document says of the node that it declares. -/
structure NodeIdentity where
  fileId : NodeId
  title : Option String
  typeName : String
  /-- Position among the node records of the document. -/
  position : Nat
  dialect : Dialect
  deriving DecidableEq

/-- Why a node refuses an id. -/
inductive NodeError where
  /-- The node with this key already has the other id. -/
  | alreadyNamed (key current : String)
  deriving DecidableEq

def NodeError.message : NodeError → String
  | alreadyNamed key current => "node " ++ key ++ " already has external id " ++ current

/-- A vertex of a workflow. -/
structure Node where
  /-- Unique key; it is the id of a node that is given none. -/
  key : String := ""
  assigned : Option NodeId := none
  typeName : String
  title : Option String := none
  overrides : OrderedMap Json := .empty
  connections : OrderedMap Connection := .empty
  /-- Widget values in order, unnamed. -/
  values : List Json := []
  /-- Inputs that accept a connection, sorted. -/
  connectors : List String := []
  /-- Output names and their slots. -/
  outputs : OrderedMap Nat := .empty
  /-- Inputs that a widget backs. -/
  widgets : List String := []
  identity : Option NodeIdentity := none

namespace Node

/-- Inserts a name into a sorted list unless it is there. -/
def insertName (name : String) : List String → List String
  | [] => [name]
  | a :: rest =>
    if name = a then a :: rest
    else if name < a then name :: a :: rest
    else a :: insertName name rest

/-- Appends a name unless it is there. -/
def appendNew (names : List String) (name : String) : List String :=
  if names.contains name then names else names ++ [name]

/-- A node without an id. -/
def ofType (key typeName : String) : Node :=
  { key, typeName := if typeName.isEmpty then unknownType else typeName }

def named (id : NodeId) (typeName : String) : Node :=
  { ofType "" typeName with assigned := some id }

def id (n : Node) : NodeId := n.assigned.getD n.key

/-- The node once its id was read. -/
def fixId (n : Node) : Node := { n with assigned := some n.id }

/-- Gives the node an id, which may not change one that it has. -/
def assign (n : Node) (id : NodeId) : Except NodeError Node :=
  match n.assigned with
  | none => .ok { n with assigned := some id }
  | some current => if current = id then .ok n else .error (.alreadyNamed n.key current)

/-- The slot of an output: a declared name first, then a slot number. -/
def outputSlot? (n : Node) (output : String) : Option Nat :=
  (n.outputs.get? output).or (Text.readSlot? output)

/-- The parameters that the node names by itself: overrides, then widgets. -/
def declaredNames (n : Node) : List String := n.widgets.foldl appendNew n.overrides.keys

end Node

end PromptGraph
