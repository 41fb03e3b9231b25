import PromptGraph.Pattern.Expr
import PromptGraph.Text.Digits

/-!
# Escapes

What a backslash introduces: a character by its code, a class, a property, an anchor, or a
punctuation mark for itself. Where gaps do not count, blanks and comments, from a number sign to the
end of the line, may stand between the parts of an escape.
-/

namespace PromptGraph.Pattern

open Text (isBlank isDigit)

/-! ## Gaps -/

/-- Drops blanks and comments; the flag tells whether a comment is open. -/
def dropGaps : Bool → List Char → List Char
  | _, [] => []
  | true, c :: rest => dropGaps (c ≠ '\n') rest
  | false, c :: rest =>
    if isBlank c then dropGaps false rest
    else if c = '#' then dropGaps true rest
    else c :: rest

/-- Drops what does not count. -/
def skip (gaps : Bool) (cs : List Char) : List Char := if gaps then dropGaps false cs else cs

/-- The characters that count up to a closing brace, and what follows it. -/
def takeBraced (gaps : Bool) : Bool → List Char → Option (List Char × List Char)
  | _, [] => none
  | true, c :: rest => takeBraced gaps (c ≠ '\n') rest
  | false, c :: rest =>
    if c = '\x7d' then some ([], rest)
    else if gaps ∧ isBlank c then takeBraced gaps false rest
    else if gaps ∧ c = '#' then takeBraced gaps true rest
    else (takeBraced gaps false rest).map fun (cs, rest) => (c :: cs, rest)

/-! ## Characters by their code -/

/-- Reads so many hexadecimal digits onto a number. -/
def readHexDigits (gaps : Bool) : Nat → Nat → List Char → Option (Nat × List Char)
  | 0, code, cs => some (code, cs)
  | _ + 1, _, [] => none
  | n + 1, code, c :: rest => do
    readHexDigits gaps n (16 * code + (← Text.CodePoints.hexValue? c)) (skip gaps rest)

/-- Reads a code of so many digits, or of any number of digits in braces. -/
def readCode (gaps : Bool) (digits : Nat) (cs : List Char) : Option (Scalar × List Char) :=
  match skip gaps cs with
  | '\x7b' :: rest => do
    let (ds, rest) ← takeBraced gaps false rest
    if ds.isEmpty then none
    return (⟨← Text.charOf? (← Text.CodePoints.readHex? ds), false⟩, skip gaps rest)
  | cs => do
    let (code, rest) ← readHexDigits gaps digits 0 cs
    return (⟨← Text.charOf? code, digits = 2⟩, rest)

/-! ## Properties -/

/-- Splits at the first place where a text stands. -/
def splitAtText (text : List Char) : List Char → Option (List Char × List Char)
  | [] => none
  | c :: rest =>
    if text.isPrefixOf (c :: rest) then some ([], (c :: rest).drop text.length)
    else (splitAtText text rest).map fun (before, after) => (c :: before, after)

/-- A query for a property: its name, the value that is asked for, and whether the other characters
are meant. -/
def readQuery (negated : Bool) (cs : List Char) : Atom :=
  match splitAtText ['!', '='] cs with
  | some (name, value) => .property (String.ofList name) (some (String.ofList value)) !negated
  | none =>
    match (splitAtText [':'] cs).or (splitAtText ['='] cs) with
    | some (name, value) => .property (String.ofList name) (some (String.ofList value)) negated
    | none => .property (String.ofList cs) none negated

/-- Reads a property: one letter, or a query in braces. -/
def readProperty (gaps negated : Bool) (cs : List Char) : Option (Atom × List Char) :=
  match skip gaps cs with
  | [] => none
  | '\x7b' :: rest => do
    let (query, rest) ← takeBraced gaps false rest
    return (readQuery negated query, rest)
  | c :: rest =>
    if c = '\\' then none else some (.property c.toString none negated, skip gaps rest)

/-! ## Anchors -/

def isBoundaryLetter (c : Char) : Bool := c.isAlpha || c = '-'

def boundaryNames : List (String × Anchor) := [
  ("start", .word .start), ("end", .word .stop), ("start-half", .word .startHalf),
  ("end-half", .word .stopHalf)]

/-- Reads what may follow the letter of a word boundary. -/
def readBoundary (gaps : Bool) : List Char → Option (Anchor × List Char)
  | '\x7b' :: rest =>
    match skip gaps rest with
    | [] => none
    | c :: _ =>
      if isBoundaryLetter c then do
        let (name, rest) ← takeBraced gaps false rest
        return (← boundaryNames.lookup (String.ofList name), rest)
      else some (.word .boundary, '\x7b' :: rest)
  | cs => some (.word .boundary, cs)

/-! ## Escapes -/

/-- Letters that stand for a control character. -/
def controls : List (Char × Char) := [
  ('a', '\x07'), ('f', '\x0c'), ('t', '\t'), ('n', '\n'), ('r', '\r'), ('v', '\x0b')]

/-- Characters that stand for an anchor. -/
def anchorLetters : List (Char × Anchor) := [
  ('A', .textStart), ('z', .textEnd), ('B', .word .noBoundary), ('<', .word .start),
  ('>', .word .stop)]

/-- Letters that stand for a class or its complement. -/
def shorthandLetters : List (Char × Shorthand × Bool) := [
  ('d', .digit, false), ('s', .space, false), ('w', .word, false),
  ('D', .digit, true), ('S', .space, true), ('W', .word, true)]

/-- The character may be escaped to stand for itself. -/
def isPunctuation (c : Char) : Bool := c.toNat < 128 && !c.isAlphanum && c ≠ '<' && c ≠ '>'

def readEscape (gaps : Bool) : List Char → Option (Atom × List Char)
  | [] => none
  | c :: rest =>
    let code := fun digits => (readCode gaps digits rest).map fun (x, rest) => (Atom.scalar x, rest)
    if c = 'x' then code 2
    else if c = 'u' then code 4
    else if c = 'U' then code 8
    else if c = 'p' then readProperty gaps false rest
    else if c = 'P' then readProperty gaps true rest
    else if c = 'b' then (readBoundary gaps rest).map fun (a, rest) => (.anchor a, rest)
    else if isPunctuation c then some (.scalar ⟨c, false⟩, rest)
    else match shorthandLetters.lookup c, controls.lookup c, anchorLetters.lookup c with
      | some (s, negated), _, _ => some (.shorthand s negated, rest)
      | _, some control, _ => some (.scalar ⟨control, false⟩, rest)
      | _, _, some a => some (.anchor a, rest)
      | _, _, _ => none

end PromptGraph.Pattern
