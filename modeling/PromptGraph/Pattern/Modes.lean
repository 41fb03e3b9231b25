import PromptGraph.Pattern.Bracket
import PromptGraph.Text.Age
import PromptGraph.Text.CaseFold
import PromptGraph.Text.Script
import PromptGraph.Text.Segment

/-!
# Modes and classes

`Modes` is the state of the flags at a place in a pattern; it decides which characters a class
stands for. Without the Unicode mode a class holds ASCII characters only: one with others, and the
complement of any, is refused. Case is folded before a complement is taken.
-/

namespace PromptGraph.Pattern

open Text (CodePoints)

structure Modes where
  ignoreCase : Bool := false
  multiLine : Bool := false
  dotAll : Bool := false
  /-- A repetition prefers few unless a question mark follows it. -/
  swapGreed : Bool := false
  unicode : Bool := true
  carriageReturn : Bool := false

def asciiClass (name : String) : CodePoints := (asciiClasses.lookup name).getD []

/-! ## Properties by name -/

def dropIs : List Char → Bool × List Char
  | a :: b :: rest =>
    if a.toLower = 'i' ∧ b.toLower = 's' then (true, rest) else (false, a :: b :: rest)
  | cs => (false, cs)

/-- A name as it is looked up: in lower case, without blanks, lines, dashes and a leading "is". -/
def looseName (name : String) : String :=
  let (cut, cs) := dropIs name.toList
  let kept := cs.filter fun c => c.toNat < 128 && c ≠ ' ' && c ≠ '_' && c ≠ '-'
  let lower := String.ofList (kept.map Char.toLower)
  if cut ∧ lower = "c" then "isc" else lower

/-- These names are general categories before they are properties. -/
def categoryFirst : List String := ["cf", "sc", "lc"]

/-- The characters with a property, of a general category or of a script. -/
def named? (name : String) : Option CodePoints :=
  let property := if categoryFirst.contains name then none else Text.property? name
  property.or <| (Text.categoryOf? name).or <| (Text.script? name).map Text.Script.points

/-- The characters for which a property has a value. -/
def valued? (name value : String) : Option CodePoints :=
  if name = "gc" ∨ name = "generalcategory" then Text.categoryOf? value
  else if name = "sc" ∨ name = "script" then (Text.script? value).map Text.Script.points
  else if name = "scx" ∨ name = "scriptextensions" then
    (Text.script? value).map Text.Script.extension
  else if name = "age" then Text.ofAge? value
  else if name = "gcb" ∨ name = "graphemeclusterbreak" then
    Text.NamedSet.find? Text.graphemeBreaks value
  else if name = "wb" ∨ name = "wordbreak" then Text.NamedSet.find? Text.wordBreaks value
  else if name = "sb" ∨ name = "sentencebreak" then Text.NamedSet.find? Text.sentenceBreaks value
  else none

def queried? (name : String) : Option String → Option CodePoints
  | none => named? (looseName name)
  | some value => valued? (looseName name) (looseName value)

namespace Modes

/-- The modes after a change of flags. -/
def change (m : Modes) (c : FlagChange) : Modes where
  ignoreCase := c.apply .ignoreCase m.ignoreCase
  multiLine := c.apply .multiLine m.multiLine
  dotAll := c.apply .dotAll m.dotAll
  swapGreed := c.apply .swapGreed m.swapGreed
  unicode := c.apply .unicode m.unicode
  carriageReturn := c.apply .carriageReturn m.carriageReturn

/-! ## Sets -/

/-- Adds the members' variants in case, if case does not count. -/
def fold (m : Modes) (s : CodePoints) : CodePoints :=
  if !m.ignoreCase then s
  else if m.unicode then CodePoints.foldCase s
  else CodePoints.inter (CodePoints.foldCase s) (asciiClass "ascii")

def complement? (m : Modes) (negated : Bool) (s : CodePoints) : Option CodePoints :=
  if !negated then some s else if m.unicode then some s.negation else none

/-- A class, or its complement. -/
def close? (m : Modes) (negated : Bool) (s : CodePoints) : Option CodePoints :=
  m.complement? negated (m.fold s)

def shorthand : Modes → Shorthand → CodePoints
  | { unicode := true, .. }, .digit => Text.decimalDigits
  | { unicode := true, .. }, .space => Text.blanks
  | { unicode := true, .. }, .word => Text.wordPoints
  | _, .digit => asciiClass "digit"
  | _, .space => asciiClass "space"
  | _, .word => asciiClass "word"

def query? (m : Modes) (name : String) (value : Option String) (negated : Bool) :
    Option CodePoints := do
  if m.unicode then m.close? negated (← queried? name value) else none

def member? (m : Modes) (x : Scalar) : Option Nat :=
  if m.unicode ∨ x.char.toNat < 128 then some x.char.toNat else none

/-- A character outside brackets. -/
def scalar? (m : Modes) (x : Scalar) : Option CodePoints :=
  let n := x.char.toNat
  if m.unicode ∨ n < 128 then some (m.fold [(n, n)])
  else if x.isByte then none else some [(n, n)]

/-- What the dot stands for. -/
def dot? (m : Modes) : Option CodePoints :=
  if !m.unicode then none
  else if m.dotAll then some CodePoints.all
  else if m.carriageReturn then some (CodePoints.complement [(10, 10), (13, 13)])
  else some (CodePoints.complement [(10, 10)])

end Modes

def SetOp.apply : SetOp → CodePoints → CodePoints → CodePoints
  | .intersection => CodePoints.inter
  | .difference => CodePoints.diff
  | .symmetricDifference => CodePoints.symmDiff

mutual

def SetExpr.points? (m : Modes) : SetExpr → Option CodePoints
  | .one x => do
    let n ← m.member? x
    return [(n, n)]
  | .range lo hi => return [(← m.member? lo, ← m.member? hi)]
  | .ascii points negated => m.close? negated points
  | .shorthand s negated => m.complement? negated (m.shorthand s)
  | .property name value negated => m.query? name value negated
  | .bracket negated inner => do m.close? negated (← inner.points? m)
  | .union items => return CodePoints.ofRanges (← SetExpr.allPoints? m items)
  | .combine op left right =>
    return op.apply (m.fold (← left.points? m)) (m.fold (← right.points? m))

def SetExpr.allPoints? (m : Modes) : List SetExpr → Option (List (Nat × Nat))
  | [] => some []
  | item :: items => return (← item.points? m) ++ (← SetExpr.allPoints? m items)

end

end PromptGraph.Pattern
