import PromptGraph.Entries

/-!
# Insertion-ordered maps

`OrderedMap V` is a list of entries with pairwise distinct keys. It iterates in the order in which
the keys were first inserted; overwriting a key keeps its position.
-/

namespace PromptGraph

universe u v

/-- A map from strings that remembers the order of its keys. -/
structure OrderedMap (V : Type u) where
  entries : Entries V
  nodup : entries.keys.Nodup

namespace OrderedMap

variable {V : Type u} {W : Type v}

@[ext] theorem ext {m n : OrderedMap V} (h : m.entries = n.entries) : m = n := by
  cases m; cases n; cases h; rfl

instance [DecidableEq V] : DecidableEq (OrderedMap V) := fun m n =>
  if h : m.entries = n.entries then isTrue (ext h) else isFalse fun e => h (e ▸ rfl)

def empty : OrderedMap V := ⟨[], by simp⟩

instance : Inhabited (OrderedMap V) := ⟨empty⟩

instance : EmptyCollection (OrderedMap V) := ⟨empty⟩

def keys (m : OrderedMap V) : List String := m.entries.keys

def values (m : OrderedMap V) : List V := m.entries.map Prod.snd

def size (m : OrderedMap V) : Nat := m.entries.length

def isEmpty (m : OrderedMap V) : Bool := m.entries.isEmpty

def get? (m : OrderedMap V) (key : String) : Option V := m.entries.get? key

def contains (m : OrderedMap V) (key : String) : Bool := m.entries.contains key

/-- Overwrites `key` in place or appends it. -/
def insert (m : OrderedMap V) (key : String) (value : V) : OrderedMap V :=
  ⟨m.entries.put key value, Entries.nodup_put m.nodup key value⟩

/-- Inserts unless the key is present. -/
def insertNew (m : OrderedMap V) (key : String) (value : V) : OrderedMap V :=
  if m.contains key then m else m.insert key value

/-- Changes the value of `key`, starting from `initial` when there is none. -/
def upsert (m : OrderedMap V) (key : String) (initial : V) (f : V → V) : OrderedMap V :=
  m.insert key (f ((m.get? key).getD initial))

/-- Removes `key`; the others keep their order. -/
def erase (m : OrderedMap V) (key : String) : OrderedMap V :=
  ⟨m.entries.filter fun p => p.1 ≠ key, m.nodup.sublist (List.filter_sublist.map Prod.fst)⟩

def insertAll (m : OrderedMap V) (pairs : List (String × V)) : OrderedMap V :=
  pairs.foldl (fun m p => m.insert p.1 p.2) m

/-- The map that holds each pair: of equal keys the last value, at the first position. -/
def ofList (pairs : List (String × V)) : OrderedMap V := empty.insertAll pairs

def mapValues (f : V → W) (m : OrderedMap V) : OrderedMap W :=
  ⟨m.entries.map fun p => (p.1, f p.2), by
    have : Entries.keys (m.entries.map fun p => (p.1, f p.2)) = m.entries.keys := by
      simp [Entries.keys, Function.comp_def]
    rw [this]; exact m.nodup⟩

@[simp] theorem get?_empty (key : String) : (empty : OrderedMap V).get? key = none := rfl

@[simp] theorem keys_empty : (empty : OrderedMap V).keys = [] := rfl

@[simp] theorem entries_insert (m : OrderedMap V) (key : String) (value : V) :
    (m.insert key value).entries = m.entries.put key value := rfl

theorem get?_insert (m : OrderedMap V) (key other : String) (value : V) :
    (m.insert key value).get? other = if key = other then some value else m.get? other :=
  Entries.get?_put m.entries key other value

theorem keys_insert (m : OrderedMap V) (key : String) (value : V) :
    (m.insert key value).keys = if key ∈ m.keys then m.keys else m.keys ++ [key] :=
  Entries.keys_put m.entries key value

theorem mem_keys_insert {m : OrderedMap V} {key other : String} {value : V} :
    other ∈ (m.insert key value).keys ↔ other = key ∨ other ∈ m.keys :=
  Entries.mem_keys_put

theorem get?_isSome_iff {m : OrderedMap V} {key : String} :
    (m.get? key).isSome ↔ key ∈ m.keys := Entries.get?_isSome_iff

theorem get?_eq_none_iff {m : OrderedMap V} {key : String} :
    m.get? key = none ↔ key ∉ m.keys := Entries.get?_eq_none_iff

@[simp] theorem contains_iff {m : OrderedMap V} {key : String} :
    m.contains key = true ↔ key ∈ m.keys := Entries.contains_iff

theorem entries_insertAll (m : OrderedMap V) (pairs : List (String × V)) :
    (m.insertAll pairs).entries = pairs.foldl (fun es p => es.put p.1 p.2) m.entries := by
  induction pairs generalizing m with
  | nil => rfl
  | cons p pairs ih => exact ih (m.insert p.1 p.2)

theorem entries_ofList (pairs : List (String × V)) :
    (ofList pairs).entries = Entries.ofList pairs := entries_insertAll empty pairs

end OrderedMap

end PromptGraph
