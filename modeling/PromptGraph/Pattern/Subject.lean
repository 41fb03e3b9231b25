import PromptGraph.Pattern.Basic
import PromptGraph.Text.Property

/-!
# Subjects

A text as a pattern sees it: by its bytes, with places before, between and after them. Some places
split a character; only looking at ASCII words can succeed there, where neither side is a word.
-/

namespace PromptGraph.Pattern

/-- For each byte of a text, the character that starts with it. -/
structure Subject where
  starts : Array (Option Char)

namespace Subject

def ofText (text : String) : Subject :=
  ⟨(text.toList.flatMap fun c => some c :: List.replicate (c.utf8Size - 1) none).toArray⟩

/-- The number of bytes. -/
def size (t : Subject) : Nat := t.starts.size

def places (t : Subject) : List Nat := List.range (t.size + 1)

/-- The place is inside a character. -/
def splits (t : Subject) (i : Nat) : Bool := t.starts[i]? = some none

/-- The character after a place. -/
def after? (t : Subject) (i : Nat) : Option Char := t.starts[i]?.join

/-- The character before a place that splits no character. -/
def before? (t : Subject) : Nat → Option Char
  | 0 => none
  | i + 1 => (t.after? i).or (t.before? i)

end Subject

/-! ## Looking around -/

/-- A place at the start of a line, by the characters before and after it. -/
def startsLine (crlf : Bool) (before after : Option Char) : Bool :=
  before.all fun c => c = '\n' || (crlf && c = '\r' && after ≠ some '\n')

def endsLine (crlf : Bool) (before after : Option Char) : Bool :=
  after.all fun c =>
    if crlf then c = '\r' || (c = '\n' && before ≠ some '\r') else c = '\n'

/-- The place, by whether characters of words stand before and after it. -/
def WordPlace.holds (before after : Bool) : WordPlace → Bool
  | boundary => before != after
  | noBoundary => before == after
  | start => !before && after
  | stop => before && !after
  | startHalf => !before
  | stopHalf => !after

/-- The characters of words. -/
def wordChars (unicode : Bool) : Text.CodePoints :=
  if unicode then Text.wordPoints else [(48, 57), (65, 90), (95, 95), (97, 122)]

/-- What is looked for stands at a place. -/
def Look.holds (t : Subject) (i : Nat) (l : Look) : Bool :=
  if t.splits i then
    match l with
    | .word place false => place.holds false false
    | _ => false
  else
    let before := t.before? i
    let after := t.after? i
    match l with
    | .textStart => before.isNone
    | .textEnd => after.isNone
    | .lineStart crlf => startsLine crlf before after
    | .lineEnd crlf => endsLine crlf before after
    | .word place unicode =>
      let isWord := fun c => Text.CodePoints.has (wordChars unicode) c
      place.holds (before.any isWord) (after.any isWord)

end PromptGraph.Pattern
