import PromptGraph.Pattern.Escape

/-!
# Brackets

The inside of a bracket: characters, ranges, classes and nested brackets side by side, and
operations on what stands left and right of them, taken from the left.
-/

namespace PromptGraph.Pattern

open Text (CodePoints isBlank)

/-! ## Named classes -/

/-- The classes that a name between colons stands for. -/
def asciiClasses : List (String × CodePoints) := [
  ("alnum", [(48, 57), (65, 90), (97, 122)]),
  ("alpha", [(65, 90), (97, 122)]),
  ("ascii", [(0, 127)]),
  ("blank", [(9, 9), (32, 32)]),
  ("cntrl", [(0, 31), (127, 127)]),
  ("digit", [(48, 57)]),
  ("graph", [(33, 126)]),
  ("lower", [(97, 122)]),
  ("print", [(32, 126)]),
  ("punct", [(33, 47), (58, 64), (91, 96), (123, 126)]),
  ("space", [(9, 13), (32, 32)]),
  ("upper", [(65, 90)]),
  ("word", [(48, 57), (65, 90), (95, 95), (97, 122)]),
  ("xdigit", [(48, 57), (65, 70), (97, 102)])]

/-- Reads a named class after its opening bracket; none when there is none. -/
def readAscii? : List Char → Option (SetExpr × List Char)
  | ':' :: rest => do
    let (negated, rest) := match rest with
      | '^' :: more => (true, more)
      | _ => (false, rest)
    let name := rest.takeWhile (· ≠ ':')
    match rest.dropWhile (· ≠ ':') with
    | ':' :: ']' :: more =>
      return (.ascii (← asciiClasses.lookup (String.ofList name)) negated, more)
    | _ => none
  | _ => none

/-! ## Items -/

def readUnit (gaps : Bool) : List Char → Option (Atom × List Char)
  | [] => none
  | '\\' :: rest => readEscape gaps rest
  | c :: rest => some (.scalar ⟨c, false⟩, rest)

def itemOf? : Atom → Option SetExpr
  | .scalar x => some (.one x)
  | .shorthand s negated => some (.shorthand s negated)
  | .property name value negated => some (.property name value negated)
  | _ => none

def scalar? : Atom → Option Scalar
  | .scalar x => some x
  | _ => none

/-- The next character that is neither a blank nor the first number sign. -/
def peek (gaps : Bool) (cs : List Char) : Option Char :=
  if gaps then
    let seen := match cs.dropWhile isBlank with
      | '#' :: rest => rest.dropWhile isBlank
      | rest => rest
    seen.head?.or cs.head?
  else cs.head?

/-- Reads a range, or one item when no dash follows or the dash stands for itself. -/
def readItem (gaps : Bool) (cs : List Char) : Option (SetExpr × List Char) := do
  let (first, rest) ← readUnit gaps cs
  match skip gaps rest with
  | [] => none
  | '-' :: more =>
    if peek gaps more = some ']' ∨ peek gaps more = some '-' then
      return (← itemOf? first, '-' :: more)
    else
      let (second, rest) ← readUnit gaps (skip gaps more)
      let lo ← scalar? first
      let hi ← scalar? second
      if hi.char < lo.char then none else return (.range lo hi, rest)
  | rest => return (← itemOf? first, rest)

/-- Reads the dashes at the start of a bracket, each of which stands for itself. -/
def readDashes (gaps : Bool) : Nat → List Char → List SetExpr × List Char
  | 0, cs => ([], cs)
  | fuel + 1, cs =>
    match cs with
    | '-' :: rest =>
      let (items, rest) := readDashes gaps fuel (skip gaps rest)
      (.one ⟨'-', false⟩ :: items, rest)
    | _ => ([], cs)

/-- Reads what follows an opening bracket: a caret, dashes, or a closing bracket for itself. -/
def readOpening (gaps : Bool) (cs : List Char) : Bool × List SetExpr × List Char :=
  let (negated, cs) := match skip gaps cs with
    | '^' :: rest => (true, skip gaps rest)
    | cs => (false, cs)
  let (dashes, cs) := readDashes gaps cs.length cs
  match dashes, cs with
  | [], ']' :: rest => (negated, [.one ⟨']', false⟩], skip gaps rest)
  | _, _ => (negated, dashes.reverse, cs)

/-- An operation whose right side is still to come. -/
abbrev Pending := Option (SetOp × SetExpr)

/-- Completes a pending operation with items, the last of which comes first. -/
def complete (pending : Pending) (items : List SetExpr) : SetExpr :=
  let right := SetExpr.ofItems items.reverse
  match pending with
  | some (op, left) => .combine op left right
  | none => right

/-- Reads a bracket up to its end; `items` were read already, the last comes first. -/
def readInside (gaps : Bool) :
    Nat → Pending → List SetExpr → List Char → Option (SetExpr × List Char)
  | 0, _, _, _ => none
  | fuel + 1, pending, items, cs =>
    let operate := fun op rest => readInside gaps fuel (some (op, complete pending items)) [] rest
    match skip gaps cs with
    | [] => none
    | ']' :: rest => some (complete pending items, rest)
    | '&' :: '&' :: rest => operate .intersection rest
    | '-' :: '-' :: rest => operate .difference rest
    | '~' :: '~' :: rest => operate .symmetricDifference rest
    | '[' :: rest =>
      match readAscii? rest with
      | some (item, rest) => readInside gaps fuel pending (item :: items) rest
      | none => do
        let (negated, first, rest) := readOpening gaps rest
        let (inner, rest) ← readInside gaps fuel none first rest
        readInside gaps fuel pending (.bracket negated inner :: items) rest
    | cs => do
      let (item, rest) ← readItem gaps cs
      readInside gaps fuel pending (item :: items) rest

def readBracket (gaps : Bool) (cs : List Char) : Option (Expr × List Char) := do
  let (negated, first, rest) := readOpening gaps cs
  let (inner, rest) ← readInside gaps (rest.length + 1) none first rest
  return (.bracket negated inner, rest)

end PromptGraph.Pattern
