import PromptGraph.Toml.Scalar
import PromptGraph.Toml.Tables

/-!
# Reading settings texts

`parse?` reads a text into the entries of its outermost table. Arrays and tables in braces may span
lines, end in a comma, and nest at most `nestingLimit` deep; dots join at most so many keys.
-/

namespace PromptGraph.Toml

/-- Arrays and tables in braces nest at most so deep, and so many keys at most make a dotted key. -/
def nestingLimit : Nat := 80

/-! ## Values -/

mutual

/-- Reads a value, in which arrays and tables nest at most `depth` deep. -/
def readValue : Nat → Nat → List Char → Option (Toml × List Char)
  | 0, _, _ => none
  | fuel + 1, depth, cs =>
    match cs, depth with
    | '[' :: _, 0 => none
    | '\x7b' :: _, 0 => none
    | '[' :: rest, depth + 1 =>
      (readItems fuel depth (skipGaps rest)).map fun (items, rest) => (.array items, rest)
    | '\x7b' :: rest, depth + 1 => do
      let (as, rest) ← readAssignments fuel depth (skipGaps rest)
      return (← ofAssignments? as, rest)
    | '"' :: _, _ => (readString? cs).map fun (s, rest) => (.text s, rest)
    | '\'' :: _, _ => (readString? cs).map fun (s, rest) => (.text s, rest)
    | _, _ => readScalar cs

def readItems : Nat → Nat → List Char → Option (List Toml × List Char)
  | 0, _, _ => none
  | _, _, ']' :: rest => some ([], rest)
  | fuel + 1, depth, cs => do
    let (v, rest) ← readValue fuel depth cs
    match skipGaps rest with
    | ']' :: rest => return ([v], rest)
    | ',' :: rest =>
      let (vs, rest) ← readItems fuel depth (skipGaps rest)
      return (v :: vs, rest)
    | _ => none

def readAssignment : Nat → Nat → List Char → Option (Assignment × List Char)
  | 0, _, _ => none
  | fuel + 1, depth, cs => do
    let (keys, rest) ← readKeys nestingLimit cs
    match rest with
    | '=' :: rest =>
      let (v, rest) ← readValue fuel depth (skipSpace rest)
      return ((keys, v), rest)
    | _ => none

/-- Reads the assignments of a table in braces up to its end. -/
def readAssignments : Nat → Nat → List Char → Option (List Assignment × List Char)
  | 0, _, _ => none
  | _, _, '\x7d' :: rest => some ([], rest)
  | fuel + 1, depth, cs => do
    let (a, rest) ← readAssignment fuel depth cs
    match skipGaps rest with
    | '\x7d' :: rest => return ([a], rest)
    | ',' :: rest =>
      let (as, rest) ← readAssignments fuel depth (skipGaps rest)
      return (a :: as, rest)
    | _ => none

end

/-! ## Documents -/

def readHeader (cs : List Char) : Option (Header × List Char) := do
  let (repeats, cs) := match cs with
    | '[' :: rest => (true, rest)
    | _ => (false, cs)
  let (path, rest) ← readKeys nestingLimit cs
  match rest, repeats with
  | ']' :: ']' :: rest, true => return (⟨path, true⟩, rest)
  | ']' :: rest, false => return (⟨path, false⟩, rest)
  | _, _ => none

/-- Reads lines into the section that is open; its last assignment comes first. -/
def readLines : Nat → Section → List Char → Option (List Section)
  | 0, _, _ => none
  | fuel + 1, s, cs =>
    let done : Section := { s with assignments := s.assignments.reverse }
    match endLine? cs, skipSpace cs with
    | some [], _ => some [done]
    | some rest, _ => readLines fuel s rest
    | none, '[' :: rest => do
      let (header, rest) ← readHeader rest
      return done :: (← readLines fuel { header } (← endLine? rest))
    | none, cs => do
      let (a, rest) ← readAssignment (4 * cs.length + 4) nestingLimit cs
      readLines fuel { s with assignments := a :: s.assignments } (← endLine? rest)

/-- A mark at the start of a text that says how it is encoded. -/
def byteOrderMark : Char := '\ufeff'

/-- The entries of the outermost table of a text. -/
def parse? (text : String) : Option (List (String × Toml)) := do
  let cs := match text.toList with
    | c :: rest => if c = byteOrderMark then rest else c :: rest
    | [] => []
  ofSections? (← readLines (cs.length + 1) {} cs)

end PromptGraph.Toml
