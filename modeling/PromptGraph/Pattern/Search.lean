import PromptGraph.Pattern.Meaning
import PromptGraph.Pattern.Reader
import PromptGraph.Pattern.Size
import PromptGraph.Pattern.Subject

/-!
# Searching

`reach` gives the places where a match can end, for matches that start at any of some places.
`isMatch` asks whether a match exists somewhere in a text, and `parse?` reads a pattern that is well
formed and small enough.

A pattern that can match the empty text may do so inside a character, which does not count. A search
finds the match that ends first; when that one does not count, the search goes on from the next
byte, and a match that began earlier but ends later is lost. Only patterns that look for words of
all scripts are tried place by place in short texts, where nothing is lost.
-/

namespace PromptGraph.Pattern

/-! ## Places -/

/-- Adds the places that are not there yet. -/
def join (known more : List Nat) : List Nat := known ++ more.filter fun i => !known.contains i

def iterate (step : List Nat → List Nat) : Nat → List Nat → List Nat
  | 0, places => places
  | n + 1, places => iterate step n (step places)

/-- The places after at most so many steps. No step can add to places that one step leaves as they
are. -/
def closure (step : List Nat → List Nat) : Nat → List Nat → List Nat
  | 0, places => places
  | n + 1, places =>
    let next := join places (step places)
    if next.length = places.length then places else closure step n next

/-- The places after a character of which `ok` holds. -/
def pass (t : Subject) (ok : Char → Bool) (places : List Nat) : List Nat :=
  places.filterMap fun i =>
    match t.after? i with
    | some c => if ok c then some (i + c.utf8Size) else none
    | none => none

mutual

/-- The places where a match that starts at one of `places` can end. A text has no more than its
length of matches in a row that are not empty, so no count beyond that makes a difference. -/
def reach (t : Subject) : Pattern → List Nat → List Nat
  | .empty, places => places
  | .literal cs, places => cs.foldl (fun places c => pass t (· = c) places) places
  | .set points _, places => pass t points.has places
  | .look l, places => places.filter fun i => l.holds t i
  | .repetition body min max _, places =>
    let longest := t.size + 1
    let more := Nat.min ((max.map (· - min)).getD longest) longest
    closure (body.reach t) more (iterate (body.reach t) (Nat.min min longest) places)
  | .capture body, places => body.reach t places
  | .concat ps, places => reachThrough t ps places
  | .choice ps, places => reachAny t ps places

def reachThrough (t : Subject) : List Pattern → List Nat → List Nat
  | [], places => places
  | p :: ps, places => reachThrough t ps (p.reach t places)

def reachAny (t : Subject) : List Pattern → List Nat → List Nat
  | [], _ => []
  | p :: ps, places => join (p.reach t places) (reachAny t ps places)

end

/-! ## Matches -/

mutual

/-- The pattern can match the empty text, if what it looks for is there. -/
def matchesEmpty : Pattern → Bool
  | .empty => true
  | .literal _ => false
  | .set _ _ => false
  | .look _ => true
  | .repetition body min _ _ => min = 0 || body.matchesEmpty
  | .capture body => body.matchesEmpty
  | .concat ps => allMatchEmpty ps
  | .choice ps => someMatchesEmpty ps

def allMatchEmpty : List Pattern → Bool
  | [] => true
  | p :: ps => p.matchesEmpty && allMatchEmpty ps

def someMatchesEmpty : List Pattern → Bool
  | [] => false
  | p :: ps => p.matchesEmpty || someMatchesEmpty ps

end

mutual

/-- The pattern looks for words of all scripts. -/
def looksForWords : Pattern → Bool
  | .look (.word _ unicode) => unicode
  | .repetition body _ _ _ => body.looksForWords
  | .capture body => body.looksForWords
  | .concat ps => someLooksForWords ps
  | .choice ps => someLooksForWords ps
  | _ => false

def someLooksForWords : List Pattern → Bool
  | [] => false
  | p :: ps => p.looksForWords || someLooksForWords ps

end

/-- A short text has at most so many bytes. -/
def shortSize : Nat := 128

def matchesBetween (t : Subject) (p : Pattern) : Bool :=
  !(p.reach t (t.places.filter fun i => !t.splits i)).isEmpty

/-- Of the matches that start at one of `places`, the one that ends first ends between characters;
or this holds without the first place. -/
def matchesFirst (t : Subject) (p : Pattern) : List Nat → Bool
  | [] => false
  | i :: rest =>
    match (p.reach t (i :: rest)).min? with
    | none => false
    | some j => !t.splits j || matchesFirst t p rest

def isMatch (p : Pattern) (text : String) : Bool :=
  let t := Subject.ofText text
  if !p.matchesEmpty || (p.looksForWords && t.size ≤ shortSize) then matchesBetween t p
  else matchesFirst t p t.places

/-! ## Parsing -/

/-- The pattern that a text writes, if it is well formed and small enough. -/
def parse? (text : String) : Option Pattern := do
  let (p, _) ← ofExpr? {} (← read? text)
  if p.fits then some p else none

end PromptGraph.Pattern
