import PromptGraph.Decode.Error
import PromptGraph.Numeric.Word
import PromptGraph.OrderedMap

/-!
# Decoding

A decoder takes a JSON value to a value of a type or says why it cannot. A record is written as an
object, whose fields are decoded in the order in which they stand and whose unknown fields are
passed over, or as an array of its fields in order. A word of an enumeration may also be written
as an object with that one key and a null.
-/

namespace PromptGraph

/-- A decoder of values of type `α`. -/
abbrev Decoder (α : Type) := Json → Except DecodeError α

namespace Decode

/-! ## Scalars -/

def text : Decoder String
  | .text s => .ok s
  | j => .error (.wrongKind j "a string")

/-- An integer with `lo ≤ i < hi`; `name` is what messages call the range. -/
def integer (name : String) (lo hi : Int) : Decoder Int
  | .number (.int i) => if lo ≤ i ∧ i < hi then .ok i else .error (.outOfRange i name)
  | j => .error (.wrongKind j name)

def nat32 : Decoder Nat := fun j => (integer "u32" 0 Word.span32 j).map Int.toNat

def nat64 : Decoder Nat := fun j => (integer "u64" 0 Word.span64 j).map Int.toNat

def position : Decoder Nat := fun j => (integer "usize" 0 Word.span64 j).map Int.toNat

def int64 : Decoder Int := integer "i64" (-Word.span63) Word.span63

def any : Decoder Json := .ok

/-! ## Compounds -/

def optional {α : Type} (d : Decoder α) : Decoder (Option α)
  | .null => .ok none
  | j => (d j).map some

def list {α : Type} (d : Decoder α) : Decoder (List α)
  | .array xs => xs.mapM d
  | j => .error (.wrongKind j "a sequence")

/-- A table from strings; every entry has to decode, a later one overwrites. -/
def table {α : Type} (d : Decoder α) : Decoder (OrderedMap α)
  | .object fs => fs.foldlM (fun m p => (d p.2).map (m.insert p.1)) .empty
  | j => .error (.wrongKind j "a map")

/-- The fields of a record, in order, and how many items its array form has to hold. -/
structure RecordForm where
  name : String
  fields : List String
  leading : Nat

namespace RecordForm

/-- How messages name the record when items are missing. -/
def arity (r : RecordForm) : String :=
  "struct " ++ r.name ++ " with " ++ toString r.fields.length ++
    (if r.fields.length = 1 then " element" else " elements")

/-- Feeds the fields of the record to `step` in the order in which they are written. -/
def fold {σ : Type} (r : RecordForm) (step : σ → String → Json → Except DecodeError σ) (init : σ) :
    Decoder σ
  | .object fs =>
    fs.foldlM (fun s p => if r.fields.contains p.1 then step s p.1 p.2 else .ok s) init
  | .array xs => do
    let s ← (r.fields.zip xs).foldlM (fun s p => step s p.1 p.2) init
    if xs.length < r.leading then .error (.tooFewItems xs.length r.arity)
    else if r.fields.length < xs.length then .error (.tooManyItems xs.length)
    else .ok s
  | j => .error (.wrongKind j ("struct " ++ r.name))

end RecordForm

def required {α : Type} (name : String) : Option α → Except DecodeError α
  | some a => .ok a
  | none => .error (.missingField name)

/-! ## Enumerations -/

def variant {α : Type} (variants : List (String × α)) (name : String) : Except DecodeError α :=
  match Entries.get? variants name with
  | some a => .ok a
  | none => .error (.unknownVariant name (variants.map Prod.fst))

/-- The variant that a value names, and the value written beside it, if any. -/
def tagged {α : Type} (variants : List (String × α)) :
    Json → Except DecodeError (α × Option Json)
  | .text s => (variant variants s).map (·, none)
  | .object [(k, content)] => (variant variants k).map (·, some content)
  | .object _ => .error .notOneVariant
  | j => .error (.wrongKind j "string or map")

/-- A bare variant may only have null beside it. -/
def bare : Option Json → Except DecodeError Unit
  | none => .ok ()
  | some .null => .ok ()
  | some j => .error (.wrongKind j "unit")

/-- A variant that carries a value. -/
def carrying {α : Type} (d : Decoder α) : Option Json → Except DecodeError α
  | none => .error .bareVariant
  | some j => d j

def word {α : Type} (variants : List (String × α)) : Decoder α := fun j => do
  let (a, content) ← tagged variants j
  bare content
  return a

end Decode

end PromptGraph
