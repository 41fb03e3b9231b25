import PromptGraph.Decode.Basic
import PromptGraph.Numeric.Word

/-!
# Durations

A duration is a number of nanoseconds. Its record splits it into seconds, of 64 bits, and the
nanoseconds that are left.
-/

namespace PromptGraph

structure Duration where
  nanos : Nat
  deriving DecidableEq, Repr

namespace Duration

def nanosPerSecond : Nat := 1000000000

def nanosPerMilli : Nat := 1000000

def ofMillis (ms : Nat) : Duration := ⟨ms * nanosPerMilli⟩

def ofSeconds (s : Nat) : Duration := ⟨s * nanosPerSecond⟩

def millis (d : Duration) : Nat := d.nanos / nanosPerMilli

instance : LE Duration := ⟨fun a b => a.nanos ≤ b.nanos⟩

instance (a b : Duration) : Decidable (a ≤ b) := inferInstanceAs (Decidable (a.nanos ≤ b.nanos))

open Decode

def fields : List String := ["secs", "nanos"]

/-- Sums seconds and nanoseconds, unless the seconds overflow. -/
def ofParts (seconds nanos : Nat) : Except DecodeError Duration :=
  if seconds + nanos / nanosPerSecond < Word.span64 then .ok ⟨seconds * nanosPerSecond + nanos⟩
  else .error .durationOverflow

/-- The parts of a record, in which every field is known. -/
def parts (fs : List (String × Json)) : Except DecodeError (Option Nat × Option Nat) :=
  fs.foldlM (fun (seconds, nanos) (key, j) => match key with
    | "secs" => (nat64 j).map fun n => (some n, nanos)
    | "nanos" => (nat32 j).map fun n => (seconds, some n)
    | _ => .error (.unknownField key fields)) (none, none)

def decode : Decoder Duration
  | .object fs => do
    let (seconds, nanos) ← parts fs
    ofParts (← required "secs" seconds) (← required "nanos" nanos)
  | .array xs => do
    let (seconds, nanos) ← parts (fields.zip xs)
    match seconds, nanos with
    | some s, some n =>
      let d ← ofParts s n
      if fields.length < xs.length then .error (.tooManyItems xs.length) else .ok d
    | _, _ => .error (.tooFewItems xs.length "struct Duration")
  | j => .error (.wrongKind j "struct Duration")

def toJson (d : Duration) : Json := .object [
  ("secs", .nat (d.nanos / nanosPerSecond)), ("nanos", .nat (d.nanos % nanosPerSecond))]

end Duration

end PromptGraph
