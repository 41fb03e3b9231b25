import PromptGraph.Pattern.Expr

/-!
# Patterns

A pattern after its flags are settled. `ofPoints`, `repeated`, `ofParts` and `ofBranches` build
patterns in a normal form: neighbouring characters make one literal, a choice between characters or
between classes is a class, and what all branches of a choice start with stands before it.
-/

namespace PromptGraph

open Text (CodePoints)

namespace Pattern

/-- A place, with the flags that matter for it settled. -/
inductive Look where
  | textStart
  | textEnd
  /-- `crlf`: a carriage return and a line feed together end one line. -/
  | lineStart (crlf : Bool)
  | lineEnd (crlf : Bool)
  /-- `unicode`: words are made of the characters of all scripts. -/
  | word (place : WordPlace) (unicode : Bool)
  deriving DecidableEq

end Pattern

inductive Pattern where
  | empty
  /-- Characters one after the other, at least one. -/
  | literal (chars : List Char)
  /-- A character of a set, which was written in the Unicode mode or not. -/
  | set (points : CodePoints) (unicode : Bool)
  | look (l : Pattern.Look)
  | repetition (body : Pattern) (min : Nat) (max : Option Nat) (greedy : Bool)
  | capture (body : Pattern)
  | concat (parts : List Pattern)
  | choice (branches : List Pattern)

namespace Pattern

def fail : Pattern := .set [] false

/-! ## Lengths -/

/-- The number of bytes of a character. -/
def charSize (n : Nat) : Nat :=
  if n < 0x80 then 1 else if n < 0x800 then 2 else if n < 0x10000 then 3 else 4

def literalSize (cs : List Char) : Nat := (String.ofList cs).utf8ByteSize

mutual

/-- The bytes of the shortest match; none where a part matches nothing. -/
def minSize? : Pattern → Option Nat
  | .empty => some 0
  | .literal cs => some (literalSize cs)
  | .set points _ => points.head?.map fun r => charSize r.1
  | .look _ => some 0
  | .repetition body min _ _ => body.minSize?.map (· * min)
  | .capture body => body.minSize?
  | .concat ps => sumMinSizes? ps
  | .choice ps => leastMinSize? ps

def sumMinSizes? : List Pattern → Option Nat
  | [] => some 0
  | p :: ps => return (← p.minSize?) + (← sumMinSizes? ps)

def leastMinSize? : List Pattern → Option Nat
  | [] => none
  | [p] => p.minSize?
  | p :: ps => return Nat.min (← p.minSize?) (← leastMinSize? ps)

end

mutual

/-- The bytes of the longest match; none where there is no bound or a part matches nothing. -/
def maxSize? : Pattern → Option Nat
  | .empty => some 0
  | .literal cs => some (literalSize cs)
  | .set points _ => points.getLast?.map fun r => charSize r.2
  | .look _ => some 0
  | .repetition body _ max _ => return (← body.maxSize?) * (← max)
  | .capture body => body.maxSize?
  | .concat ps => sumMaxSizes? ps
  | .choice ps => greatestMaxSize? ps

def sumMaxSizes? : List Pattern → Option Nat
  | [] => some 0
  | p :: ps => return (← p.maxSize?) + (← sumMaxSizes? ps)

def greatestMaxSize? : List Pattern → Option Nat
  | [] => none
  | [p] => p.maxSize?
  | p :: ps => return Nat.max (← p.maxSize?) (← greatestMaxSize? ps)

end

/-- Every match is empty. -/
def isZeroWidth (p : Pattern) : Bool := p.maxSize? = some 0

/-! ## Equality -/

mutual

/-- Two patterns are built alike. A group that captures is like no other. -/
def same : Pattern → Pattern → Bool
  | .empty, .empty => true
  | .literal cs, .literal ds => cs = ds
  | .set s u, .set t v => s = t && u = v
  | .look l, .look k => l = k
  | .repetition p min max greedy, .repetition q min' max' greedy' =>
    same p q && min = min' && max = max' && greedy = greedy'
  | .concat ps, .concat qs => sameAll ps qs
  | .choice ps, .choice qs => sameAll ps qs
  | _, _ => false

def sameAll : List Pattern → List Pattern → Bool
  | [], [] => true
  | p :: ps, q :: qs => same p q && sameAll ps qs
  | _, _ => false

end

/-! ## Building -/

def ofPoints (points : CodePoints) (unicode : Bool) : Pattern :=
  match points with
  | [] => fail
  | [(lo, hi)] =>
    match Text.charOf? lo with
    | some c => if lo = hi then .literal [c] else .set points unicode
    | none => .set points unicode
  | _ => .set points unicode

/-- Repeats a pattern. What matches only the empty text need not be repeated more than once. -/
def repeated (body : Pattern) (min : Nat) (max : Option Nat) (greedy : Bool) : Pattern :=
  let (min, max) :=
    if body.isZeroWidth then (Nat.min min 1, some ((max.map (Nat.min · 1)).getD 1)) else (min, max)
  if min = 0 ∧ max = some 0 then .empty
  else if min = 1 ∧ max = some 1 then body
  else .repetition body min max greedy

def parts : Pattern → List Pattern
  | .empty => []
  | .concat ps => ps
  | p => [p]

/-- Puts a part before others; two literals become one. -/
def consPart : Pattern → List Pattern → List Pattern
  | .literal cs, .literal ds :: ps => .literal (cs ++ ds) :: ps
  | p, ps => p :: ps

def ofParts (ps : List Pattern) : Pattern :=
  match (ps.flatMap parts).foldr consPart [] with
  | [] => .empty
  | [p] => p
  | ps => .concat ps

def branches : Pattern → List Pattern
  | .choice ps => ps
  | p => [p]

/-- The one character of a literal. -/
def onlyChar? : Pattern → Option Char
  | .literal [c] => some c
  | _ => none

def points? : Pattern → Option CodePoints
  | .set points _ => some points
  | _ => none

def sequence? : Pattern → Option (List Pattern)
  | .concat ps => some ps
  | _ => none

/-- The class that a choice between characters, or between classes, amounts to. -/
def class? (ps : List Pattern) : Option Pattern :=
  match ps.mapM onlyChar?, ps.mapM points? with
  | some cs, _ => some (ofPoints (.ofRanges (cs.map fun c => (c.toNat, c.toNat))) true)
  | _, some sets => some (ofPoints (.ofRanges sets.flatten) true)
  | _, _ => none

/-- How many parts two sequences start with in common. -/
def sharedLength : List Pattern → List Pattern → Nat
  | p :: ps, q :: qs => if same p q then sharedLength ps qs + 1 else 0
  | _, _ => 0

/-- A choice between patterns, in which choices nest at most so deep. -/
def choose : Nat → List Pattern → Pattern
  | 0, ps => .choice ps
  | depth + 1, ps =>
    match ps.flatMap branches with
    | [] => fail
    | [p] => p
    | flat =>
      match class? flat, flat.mapM sequence? with
      | some p, _ => p
      | none, some (ps :: pss) =>
        let shared := pss.foldl (fun n qs => Nat.min n (sharedLength ps qs)) ps.length
        if shared = 0 then .choice flat
        else
          let suffixes := (ps :: pss).map fun qs => ofParts (qs.drop shared)
          ofParts (ps.take shared ++ [choose depth suffixes])
      | none, _ => .choice flat

def ofBranches (ps : List Pattern) : Pattern := choose nestingLimit ps

end Pattern

end PromptGraph
