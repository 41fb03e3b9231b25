/-!
# Memories

A memory keeps values by key. With a time to live, an entry is forgotten once that much time has
passed since it was set. Nothing else is ever forgotten by itself.
-/

namespace PromptGraph

universe u v

/-- Keyed values with the time, in milliseconds, at which each was set. -/
structure Memory (K : Type u) (V : Type v) where
  timeToLive : Option Nat := none
  entries : List (K × V × Nat) := []

namespace Memory

variable {K : Type u} {V : Type v}

/-- An entry set at `since` is still known. -/
def isLive (m : Memory K V) (now since : Nat) : Bool :=
  match m.timeToLive with
  | none => true
  | some t => now < since + t

def items (m : Memory K V) (now : Nat) : List (K × V) :=
  (m.entries.filter fun e => m.isLive now e.2.2).map fun e => (e.1, e.2.1)

variable [DecidableEq K]

def get? (m : Memory K V) (now : Nat) (key : K) : Option V :=
  (m.entries.find? fun e => e.1 = key && m.isLive now e.2.2).map fun e => e.2.1

def remove (m : Memory K V) (key : K) : Memory K V :=
  { m with entries := m.entries.filter fun e => e.1 ≠ key }

/-- Sets a value; its time starts anew. -/
def set (m : Memory K V) (now : Nat) (key : K) (value : V) : Memory K V :=
  { m with entries := (m.remove key).entries ++ [(key, value, now)] }

def clear (m : Memory K V) : Memory K V := { m with entries := [] }

/-- The value of a key, set to `value` first when there is none; and whether that happened. -/
def getOrSet (m : Memory K V) (now : Nat) (key : K) (value : V) : (V × Bool) × Memory K V :=
  match m.get? now key with
  | some v => ((v, false), m)
  | none => ((value, true), m.set now key value)

/-- As `getOrSet` with a value that may fail; a failure leaves the memory as it was. -/
def getOrTry {E : Type v} (m : Memory K V) (now : Nat) (key : K) (value : Except E V) :
    Except E (V × Bool) × Memory K V :=
  match m.get? now key, value with
  | some v, _ => (.ok (v, false), m)
  | none, .ok v => (.ok (v, true), m.set now key v)
  | none, .error e => (.error e, m)

end Memory

end PromptGraph
