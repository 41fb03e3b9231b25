import PromptGraph.Pattern.Bracket
import PromptGraph.Text.Property

/-!
# Reading patterns

`read?` reads a whole pattern: branches of parts in sequence, groups, flags and repetitions. It
refuses what is unbalanced, a repetition of nothing, unknown flags, looking around and two groups of
one name, and what nests deeper than `nestingLimit`.
-/

namespace PromptGraph.Pattern

open Text (isBlank isDigit)

/-! ## Flags -/

def flagLetters : List (Char × Flag) := [
  ('i', .ignoreCase), ('m', .multiLine), ('s', .dotAll), ('U', .swapGreed), ('u', .unicode),
  ('R', .carriageReturn), ('x', .gaps)]

/-- Reads flags after the question mark of a group, and the colon or parenthesis that ends them.
A minus, of which there may be one, clears the flags that follow it, of which there must be one. -/
def readFlags (change : FlagChange) (negated : Option Bool) :
    List Char → Option (FlagChange × Char × List Char)
  | [] => none
  | c :: rest =>
    if c = ':' ∨ c = ')' then
      if negated = some false then none else some (change.reverse, c, rest)
    else if c = '-' then
      if negated.isSome then none else readFlags change (some false) rest
    else do
      let flag ← flagLetters.lookup c
      if change.any fun f => f.1 = flag then none
      else readFlags ((flag, negated.isNone) :: change) (negated.map fun _ => true) rest

/-! ## Names -/

/-- The first character of a name may be alphabetic or a line, later ones also digits, points and
brackets. -/
def isNameChar (first : Bool) (c : Char) : Bool :=
  c = '_' || Text.alphabeticPoints.has c ||
    (!first && (c = '.' || c = '[' || c = ']' || Text.numberPoints.has c))

/-- Reads the name of a group up to its closing bracket. -/
def readName (cs : List Char) : Option (String × List Char) :=
  let name := cs.takeWhile (· ≠ '>')
  match name, cs.dropWhile (· ≠ '>') with
  | c :: more, _ :: rest =>
    if isNameChar true c && more.all (isNameChar false) then some (String.ofList name, rest)
    else none
  | _, _ => none

/-! ## Counts -/

/-- Reads digits, between which gaps may stand. -/
def takeDigits (gaps : Bool) : Bool → List Char → List Char × List Char
  | _, [] => ([], [])
  | true, c :: rest => takeDigits gaps (c ≠ '\n') rest
  | false, c :: rest =>
    if isDigit c then
      let (ds, rest) := takeDigits gaps false rest
      (c :: ds, rest)
    else if gaps ∧ isBlank c then takeDigits gaps false rest
    else if gaps ∧ c = '#' then takeDigits gaps true rest
    else ([], c :: rest)

/-- Reads a number of 32 bits with blanks around it. -/
def readCount (gaps : Bool) (cs : List Char) : Option (Nat × List Char) := do
  let (ds, rest) := takeDigits gaps false (cs.dropWhile isBlank)
  let n ← Text.readNat? ds
  if n < Text.slotLimit then some (n, rest.dropWhile isBlank) else none

/-- Reads the bounds of a repetition after its opening brace. -/
def readBounds (gaps : Bool) (cs : List Char) : Option ((Nat × Option Nat) × List Char) := do
  let (lo, rest) ← readCount gaps (skip gaps cs)
  match rest with
  | '\x7d' :: rest => return ((lo, some lo), rest)
  | ',' :: rest =>
    match skip gaps rest with
    | '\x7d' :: rest => return ((lo, none), rest)
    | rest =>
      let (hi, rest) ← readCount gaps rest
      match rest with
      | '\x7d' :: rest => if hi < lo then none else return ((lo, some hi), rest)
      | _ => none
  | _ => none

def readLazy : List Char → Bool × List Char
  | '?' :: rest => (true, rest)
  | cs => (false, cs)

def repeatLast (min : Nat) (max : Option Nat) (lazy : Bool) : List Expr → Option (List Expr)
  | [] => none
  | .flags _ :: _ => none
  | e :: es => some (.repetition e min max lazy :: es)

/-! ## Parts -/

/-- What reading a group has to remember: whether gaps count, and the names of groups so far. -/
structure Progress where
  gaps : Bool := false
  names : List String := []

inductive Opening where
  | flags (change : FlagChange)
  | group (change : FlagChange) (captures : Bool) (name : Option String)

def readGroupOpening (gaps : Bool) (cs : List Char) : Option (Opening × List Char) :=
  match skip gaps cs with
  | '?' :: '=' :: _ => none
  | '?' :: '!' :: _ => none
  | '?' :: '<' :: '=' :: _ => none
  | '?' :: '<' :: '!' :: _ => none
  | '?' :: 'P' :: '<' :: rest => named rest
  | '?' :: '<' :: rest => named rest
  | '?' :: rest => do
    let (change, ending, rest) ← readFlags [] none rest
    if ending = ':' then return (.group change false none, rest)
    else if change.isEmpty then none
    else return (.flags change, rest)
  | rest => some (.group [] true none, rest)
where
  named (rest : List Char) : Option (Opening × List Char) := do
    let (name, rest) ← readName rest
    return (.group [] true (some name), rest)

/-- Reads a part that is not a group, bracket or repetition. -/
def readAtom (gaps : Bool) : List Char → Option (Atom × List Char)
  | [] => none
  | '\\' :: rest => readEscape gaps rest
  | '.' :: rest => some (.dot, rest)
  | '^' :: rest => some (.anchor .lineStart, rest)
  | '$' :: rest => some (.anchor .lineEnd, rest)
  | c :: rest => some (.scalar ⟨c, false⟩, rest)

/-- Reads branches up to a closing parenthesis or the end. `branches` and `items` were read
already, the last comes first. -/
def readBranches : Nat → Progress → List Expr → List Expr → List Char →
    Option (Expr × Progress × List Char)
  | 0, _, _, _, _ => none
  | fuel + 1, p, branches, items, cs =>
    let finish := fun rest =>
      some (Expr.ofBranches (Expr.ofItems items.reverse :: branches).reverse, p, rest)
    let again := fun items rest => readBranches fuel p branches items rest
    let repeated := fun (min : Nat) (max : Option Nat) (rest : List Char) => do
      let (lazy, rest) := readLazy rest
      again (← repeatLast min max lazy items) rest
    match skip p.gaps cs with
    | [] => finish []
    | ')' :: rest => finish (')' :: rest)
    | '|' :: rest => readBranches fuel p (.ofItems items.reverse :: branches) [] rest
    | '?' :: rest => repeated 0 (some 1) rest
    | '*' :: rest => repeated 0 none rest
    | '+' :: rest => repeated 1 none rest
    | '\x7b' :: rest => do
      let ((min, max), rest) ← readBounds p.gaps rest
      repeated min max (skip p.gaps rest)
    | '[' :: rest => do
      let (e, rest) ← readBracket p.gaps rest
      again (e :: items) rest
    | '(' :: rest => do
      match ← readGroupOpening p.gaps rest with
      | (.flags change, rest) =>
        readBranches fuel { p with gaps := change.apply .gaps p.gaps } branches
          (.flags change :: items) rest
      | (.group change captures name, rest) =>
        if name.any p.names.contains then none
        else
          let inside : Progress :=
            { gaps := change.apply .gaps p.gaps, names := name.toList ++ p.names }
          let (inner, q, rest) ← readBranches fuel inside [] [] rest
          match rest with
          | ')' :: rest =>
            readBranches fuel { p with names := q.names } branches
              (.group change captures inner :: items) rest
          | _ => none
    | cs => do
      let (a, rest) ← readAtom p.gaps cs
      again (.atom a :: items) rest

def read? (text : String) : Option Expr := do
  let cs := text.toList
  let (e, _, rest) ← readBranches (cs.length + 1) {} [] [] cs
  if rest.isEmpty ∧ e.depth ≤ nestingLimit then some e else none

end PromptGraph.Pattern
