import PromptGraph.Schema.Input
import PromptGraph.Text.Alphanumeric

/-!
# Catalogs

A catalog maps node types to their schema entries. `find?` looks a type up by its exact name, then
ignoring case, then by letters and digits alone, and last by the names that entries give
themselves. `inputs` lists the inputs of a type: those that the entry orders first, then the
required ones, then the optional ones.
-/

namespace PromptGraph

structure Catalog where
  entries : List (String × Json) := []

namespace Catalog

/-- The catalog of a document, which may be wrapped in an object under `nodes`. -/
def ofJson : Json → Catalog
  | .object fs =>
    match Entries.swapErase fs "nodes" with
    | some (.object nodes, _) => ⟨nodes⟩
    | some (other, rest) => ⟨rest ++ [("nodes", other)]⟩
    | none => ⟨fs⟩
  | _ => {}

def size (c : Catalog) : Nat := c.entries.length

def isEmpty (c : Catalog) : Bool := c.entries.isEmpty

def typeNames (c : Catalog) : List String := c.entries.map Prod.fst

/-- The letters and digits of a name, each in lower case. -/
def normalize (name : String) : String :=
  String.ofList ((name.toList.filter Text.isAlphanumeric).flatMap Text.lowerChar)

def objects (c : Catalog) : List (String × List (String × Json)) :=
  c.entries.filterMap fun e => e.2.asObject?.map (e.1, ·)

/-- The fields in which an entry names itself. -/
def nameFields : List String := ["name", "class_name", "display_name"]

/-- The names that an entry gives itself. -/
def ownNames (entry : List (String × Json)) : List String :=
  nameFields.filterMap fun f => (Entries.get? entry f).bind Json.asText?

/-- The name is the type's, but for case or for what is neither letter nor digit. -/
def answersTo (typeName name : String) : Bool :=
  name = typeName || Text.toLower name = Text.toLower typeName ||
    normalize name = normalize typeName

def find? (c : Catalog) (typeName : String) : Option (List (String × Json)) :=
  if typeName.isEmpty then none
  else match (Entries.get? c.entries typeName).bind Json.asObject? with
    | some entry => some entry
    | none =>
      let lower := Text.toLower typeName
      let norm := normalize typeName
      let hit := (c.objects.find? fun e => Text.toLower e.1 = lower).or <|
        (c.objects.find? fun e => normalize e.1 = norm).or <|
        c.objects.find? fun e => (ownNames e.2).any (answersTo typeName)
      hit.map Prod.snd

/-- The keys under which an entry may keep its inputs. -/
def blockKeys : List String := ["input", "inputs", "Input"]

def block (entry : List (String × Json)) : List (String × Json) :=
  (blockKeys.findSome? fun k => (Entries.get? entry k).bind Json.asObject?).getD []

def part (entry : List (String × Json)) (name : String) : List (String × Json) :=
  ((Entries.get? (block entry) name).bind Json.asObject?).getD []

/-- All declarations, the required ones first. -/
def declared (entry : List (String × Json)) : List (String × Json) :=
  part entry "required" ++ part entry "optional"

def texts (j : Json) : List String := (j.asArray?.getD []).filterMap Json.asText?

/-- The order that the entry asks for: a list, or one list per part. -/
def inputOrder (entry : List (String × Json)) : List String :=
  match Entries.get? entry "input_order" with
  | some (.array xs) => texts (.array xs)
  | some (.object fs) => ["required", "optional"].flatMap fun k =>
    ((Entries.get? fs k).map texts).getD []
  | _ => []

/-- Adds the declaration of a name unless the name is listed already. -/
def addSpec (specs : List InputSpec) (d : String × Json) : List InputSpec :=
  if specs.any fun s => s.name = d.1 then specs else specs ++ [InputSpec.ofJson d.1 d.2]

/-- The first declaration of each name, in order. -/
def orderedDeclarations (entry : List (String × Json)) : List (String × Json) :=
  (inputOrder entry).filterMap fun name => (declared entry).find? fun d => d.1 = name

def entryInputs (entry : List (String × Json)) : List InputSpec :=
  (orderedDeclarations entry ++ declared entry).foldl addSpec []

/-- The inputs of a type; an unknown type has none. -/
def inputs (c : Catalog) (typeName : String) : List InputSpec :=
  match c.find? typeName with
  | some entry => entryInputs entry
  | none => []

end Catalog

end PromptGraph
