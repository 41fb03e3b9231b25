import PromptGraph.Decode.Basic
import PromptGraph.Failure
import PromptGraph.Pattern.Search
import PromptGraph.Text.Case
import PromptGraph.Workflow.Index

/-!
# Matching titles

Nodes are found by their exact title, by a part of it in any case, or by a pattern.
-/

namespace PromptGraph

/-- How a wanted title is compared with the titles of nodes. -/
inductive MatchMode where
  | exact
  | contains
  | regex
  deriving DecidableEq, Repr

namespace MatchMode

def variants : List (String × MatchMode) := [
  ("exact", .exact), ("contains", .contains), ("regex", .regex)]

def name : MatchMode → String
  | exact => "exact"
  | contains => "contains"
  | regex => "regex"

def ofName? (name : String) : Option MatchMode := Entries.get? variants name

def decode : Decoder MatchMode := Decode.word variants

def toJson (m : MatchMode) : Json := .text m.name

end MatchMode

/-- The characters of `part` stand next to each other somewhere in a text. -/
def occursIn (part : List Char) : List Char → Bool
  | [] => part.isEmpty
  | c :: rest => part.isPrefixOf (c :: rest) || occursIn part rest

/-- A title contains a text, whatever the case of either. -/
def containsFolded (part title : String) : Bool :=
  occursIn (Text.toLower part).toList (Text.toLower title).toList

/-- The ids whose title matches, in file order. Only a bad pattern is a failure. -/
def IdentityIndex.idsMatching (x : IdentityIndex) (wanted : String) :
    MatchMode → Except Failure (List NodeId)
  | .exact => .ok (x.idsTitled wanted)
  | .contains => .ok (x.idsWhere (containsFolded wanted))
  | .regex =>
    match Pattern.parse? wanted with
    | some p => .ok (x.idsWhere p.isMatch)
    | none => .error .badPattern

end PromptGraph
