import PromptGraph.Text.CodePoints

/-!
# Written patterns

The parts of a pattern as they are written, before flags decide what they mean. `Expr.depth` counts
how deep groups, repetitions, sequences, choices and brackets nest.
-/

namespace PromptGraph.Pattern

open Text (CodePoints)

/-- Parts nest at most so deep. -/
def nestingLimit : Nat := 250

/-- What the letters of a flag group switch. -/
inductive Flag where
  | ignoreCase
  | multiLine
  | dotAll
  | swapGreed
  | unicode
  | carriageReturn
  /-- Blanks and comments between parts do not count. -/
  | gaps
  deriving DecidableEq

/-- The flags that a group names, and whether it sets or clears them. -/
abbrev FlagChange := List (Flag × Bool)

def FlagChange.apply (change : FlagChange) (flag : Flag) (now : Bool) : Bool :=
  (change.lookup flag).getD now

/-- A place by the words around it. A half looks at one side only. -/
inductive WordPlace where
  | boundary
  | noBoundary
  | start
  | stop
  | startHalf
  | stopHalf
  deriving DecidableEq

inductive Anchor where
  | lineStart
  | lineEnd
  | textStart
  | textEnd
  | word (place : WordPlace)
  deriving DecidableEq

inductive Shorthand where
  | digit
  | space
  | word
  deriving DecidableEq

structure Scalar where
  char : Char
  /-- It is written as a byte of two hexadecimal digits. -/
  isByte : Bool := false

/-- A part without parts. -/
inductive Atom where
  | scalar (x : Scalar)
  | dot
  | anchor (a : Anchor)
  | shorthand (s : Shorthand) (negated : Bool)
  | property (name : String) (value : Option String) (negated : Bool)

inductive SetOp where
  | intersection
  | difference
  | symmetricDifference
  deriving DecidableEq

/-- What stands between brackets. -/
inductive SetExpr where
  | one (x : Scalar)
  | range (lo hi : Scalar)
  | ascii (points : CodePoints) (negated : Bool)
  | shorthand (s : Shorthand) (negated : Bool)
  | property (name : String) (value : Option String) (negated : Bool)
  | bracket (negated : Bool) (inner : SetExpr)
  | union (items : List SetExpr)
  | combine (op : SetOp) (left right : SetExpr)

inductive Expr where
  | empty
  | atom (a : Atom)
  | flags (change : FlagChange)
  | bracket (negated : Bool) (inner : SetExpr)
  /-- A group with flags of its own, or one that captures. -/
  | group (change : FlagChange) (captures : Bool) (inner : Expr)
  /-- The last flag tells whether a question mark follows, so that few repetitions are preferred. -/
  | repetition (inner : Expr) (min : Nat) (max : Option Nat) (lazy : Bool)
  | sequence (items : List Expr)
  | choice (branches : List Expr)

/-- The items of a bracket as one. -/
def SetExpr.ofItems : List SetExpr → SetExpr
  | [item] => item
  | items => .union items

namespace Expr

def ofItems : List Expr → Expr
  | [] => .empty
  | [e] => e
  | es => .sequence es

def ofBranches : List Expr → Expr
  | [e] => e
  | es => .choice es

end Expr

mutual

def SetExpr.depth : SetExpr → Nat
  | .bracket _ inner => inner.depth + 1
  | .union [] => 0
  | .union (i :: is) => SetExpr.depthAll (i :: is) + 1
  | .combine _ a b => max a.depth b.depth + 1
  | _ => 0

def SetExpr.depthAll : List SetExpr → Nat
  | [] => 0
  | i :: is => max i.depth (SetExpr.depthAll is)

end

mutual

def Expr.depth : Expr → Nat
  | .bracket _ inner => inner.depth + 1
  | .group _ _ inner => inner.depth + 1
  | .repetition inner _ _ _ => inner.depth + 1
  | .sequence es => Expr.depthAll es + 1
  | .choice es => Expr.depthAll es + 1
  | _ => 0

def Expr.depthAll : List Expr → Nat
  | [] => 0
  | e :: es => max e.depth (Expr.depthAll es)

end

end PromptGraph.Pattern
