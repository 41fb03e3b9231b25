import PromptGraph.Json.Basic
import PromptGraph.Text.CodePoints
import PromptGraph.Text.Digits

/-!
# Written JSON

`Written` is a document as it stands in a text: numbers by their digits, strings by their code
units, objects with every key that was written. `read?` accepts exactly one value between blanks.
Numbers out of range, halves of a surrogate pair and deep nesting are not judged here but where a
value is taken (`PromptGraph.Json.Value`), because a part that nobody reads is not judged at all.
-/

namespace PromptGraph.Json

structure NumberText where
  negative : Bool
  whole : List Char
  fraction : List Char
  /-- Whether the exponent is negative, and its digits. -/
  exponent : Option (Bool × List Char)

/-- A document as it was written. -/
inductive Written where
  | null
  | bool (b : Bool)
  | number (n : NumberText)
  | text (units : List Nat)
  | array (items : List Written)
  | object (fields : List (List Nat × Written))
  deriving Inhabited

namespace Written

/-- Blanks of the grammar: space, tab, line feed, carriage return. -/
def isGap (c : Char) : Bool := c == ' ' || c == '\t' || c == '\n' || c == '\r'

def skipGaps (cs : List Char) : List Char := cs.dropWhile isGap

/-- The character that a one-letter escape stands for. -/
def escape? (c : Char) : Option Char :=
  if c = '"' ∨ c = '\\' ∨ c = '/' then some c
  else if c = 'b' then some '\x08'
  else if c = 'f' then some '\x0c'
  else if c = 'n' then some '\n'
  else if c = 'r' then some '\r'
  else if c = 't' then some '\t'
  else none

/-- The code units of a string up to its closing quote, and the rest of the text. -/
def readUnits : List Char → Option (List Nat × List Char)
  | [] => none
  | '"' :: rest => some ([], rest)
  | '\\' :: 'u' :: a :: b :: c :: d :: rest => do
    let n ← Text.CodePoints.readHex? [a, b, c, d]
    let (ns, after) ← readUnits rest
    return (n :: ns, after)
  | '\\' :: c :: rest => do
    let e ← escape? c
    let (ns, after) ← readUnits rest
    return (e.toNat :: ns, after)
  | c :: rest =>
    if c.toNat < 32 then none
    else do
      let (ns, after) ← readUnits rest
      return (c.toNat :: ns, after)

def readDigits (cs : List Char) : Option (List Char × List Char) :=
  let ds := cs.takeWhile Text.isDigit
  if ds.isEmpty then none else some (ds, cs.dropWhile Text.isDigit)

def readExponent : List Char → Option (Option (Bool × List Char) × List Char)
  | c :: rest =>
    if c = 'e' ∨ c = 'E' then
      let (negative, body) := match rest with
        | '-' :: body => (true, body)
        | '+' :: body => (false, body)
        | body => (false, body)
      (readDigits body).map fun (ds, after) => (some (negative, ds), after)
    else some (none, c :: rest)
  | [] => some (none, [])

def readNumber (negative : Bool) (cs : List Char) : Option (NumberText × List Char) := do
  let (whole, rest) ← readDigits cs
  if whole.head? = some '0' ∧ whole.length ≠ 1 then none
  let (fraction, rest) ← match rest with
    | '.' :: body => readDigits body
    | _ => some ([], rest)
  let (exponent, rest) ← readExponent rest
  return (⟨negative, whole, fraction, exponent⟩, rest)

/-- Removes a fixed word from the front. -/
def dropWord? (word : String) (cs : List Char) : Option (List Char) :=
  if word.toList.isPrefixOf cs then some (cs.drop word.length) else none

mutual

/-- One value; `fuel` bounds the number of steps. -/
def readValue : Nat → List Char → Option (Written × List Char)
  | 0, _ => none
  | fuel + 1, cs =>
    match skipGaps cs with
    | '"' :: rest => (readUnits rest).map fun (us, after) => (.text us, after)
    | '[' :: rest =>
      match skipGaps rest with
      | ']' :: after => some (.array [], after)
      | body => (readItems fuel body).map fun (xs, after) => (.array xs, after)
    | '{' :: rest =>
      match skipGaps rest with
      | '}' :: after => some (.object [], after)
      | body => (readFields fuel body).map fun (fs, after) => (.object fs, after)
    | '-' :: rest => (readNumber true rest).map fun (n, after) => (.number n, after)
    | 'n' :: rest => (dropWord? "ull" rest).map fun after => (.null, after)
    | 't' :: rest => (dropWord? "rue" rest).map fun after => (.bool true, after)
    | 'f' :: rest => (dropWord? "alse" rest).map fun after => (.bool false, after)
    | body => (readNumber false body).map fun (n, after) => (.number n, after)

/-- The items of an array up to its closing bracket. -/
def readItems : Nat → List Char → Option (List Written × List Char)
  | 0, _ => none
  | fuel + 1, cs => do
    let (x, rest) ← readValue fuel cs
    match skipGaps rest with
    | ']' :: after => return ([x], after)
    | ',' :: more =>
      let (xs, after) ← readItems fuel more
      return (x :: xs, after)
    | _ => none

/-- The fields of an object up to its closing brace. -/
def readFields : Nat → List Char → Option (List (List Nat × Written) × List Char)
  | 0, _ => none
  | fuel + 1, cs =>
    match skipGaps cs with
    | '"' :: rest => do
      let (key, rest) ← readUnits rest
      match skipGaps rest with
      | ':' :: rest =>
        let (x, rest) ← readValue fuel rest
        match skipGaps rest with
        | '}' :: after => return ([(key, x)], after)
        | ',' :: more =>
          let (xs, after) ← readFields fuel more
          return ((key, x) :: xs, after)
        | _ => none
      | _ => none
    | _ => none

end

def read? (s : String) : Option Written :=
  let cs := s.toList
  match readValue (2 * cs.length + 1) cs with
  | some (w, rest) => if (skipGaps rest).isEmpty then some w else none
  | none => none

end Written

end PromptGraph.Json
