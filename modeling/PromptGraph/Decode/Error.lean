import PromptGraph.Json.Printer

/-!
# Why a value does not decode

One constructor per cause; `DecodeError.message` holds all wording.
-/

namespace PromptGraph

/-- Why a JSON value is not the record, table, list, word or number that was asked for. -/
inductive DecodeError where
  /-- A value of another kind. -/
  | wrongKind (found : Json) (expected : String)
  /-- An integer that does not fit. -/
  | outOfRange (found : Int) (expected : String)
  /-- A variant that carries a value, written as a bare word. -/
  | bareVariant
  /-- An object that should name one variant. -/
  | notOneVariant
  | unknownVariant (found : String) (variants : List String)
  | unknownField (found : String) (fields : List String)
  | missingField (name : String)
  /-- An array with fewer items than the record has fields to fill. -/
  | tooFewItems (found : Nat) (expected : String)
  | tooManyItems (found : Nat)
  /-- Seconds that overflow once the nanoseconds are carried. -/
  | durationOverflow
  /-- A document that is not an object. -/
  | notADocument
  deriving DecidableEq

namespace DecodeError

/-- A value as messages name it. -/
def describe : Json → String
  | .null => "null"
  | .bool b => "boolean `" ++ (if b then "true" else "false") ++ "`"
  | .number (.int i) => "integer `" ++ toString i ++ "`"
  | .number (.float x) => "floating point `" ++ Json.numberText (.float x) ++ "`"
  | .text s => "string " ++ Text.quoted s
  | .array _ => "sequence"
  | .object _ => "map"

/-- Names in back quotes: one, one `or` another, or one of several. -/
def choice (names : List String) : String :=
  match names.map fun n => "`" ++ n ++ "`" with
  | [] => "nothing"
  | [a] => a
  | [a, b] => a ++ " or " ++ b
  | many => "one of " ++ String.intercalate ", " many

def message : DecodeError → String
  | wrongKind found expected => "invalid type: " ++ describe found ++ ", expected " ++ expected
  | outOfRange found expected =>
    "invalid value: integer `" ++ toString found ++ "`, expected " ++ expected
  | bareVariant => "invalid type: unit variant, expected newtype variant"
  | notOneVariant => "invalid value: map, expected map with a single key"
  | unknownVariant found variants =>
    "unknown variant `" ++ found ++ "`, expected " ++ choice variants
  | unknownField found fields => "unknown field `" ++ found ++ "`, expected " ++ choice fields
  | missingField name => "missing field `" ++ name ++ "`"
  | tooFewItems found expected =>
    "invalid length " ++ toString found ++ ", expected " ++ expected
  | tooManyItems found =>
    "invalid length " ++ toString found ++ ", expected fewer elements in array"
  | durationOverflow => "overflow deserializing Duration"
  | notADocument => "workflow document must be a JSON object"

end DecodeError

end PromptGraph
