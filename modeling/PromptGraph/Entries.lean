/-!
# Key/value entries in insertion order

An object, and every table of this library, lists its entries in the order in which the keys
first appeared. `get?` reads the first entry of a key, `put` overwrites in place or appends, and
`swapErase` fills the gap of a removed entry with the last one. `keys_put` and `nodup_put` say
what `put` does to the keys.
-/

namespace PromptGraph

universe u

abbrev Entries (V : Type u) : Type u := List (String × V)

namespace Entries

variable {V : Type u}

def keys (es : Entries V) : List String := es.map Prod.fst

def get? (es : Entries V) (key : String) : Option V :=
  match es with
  | [] => none
  | (k, v) :: rest => if k = key then some v else get? rest key

def contains (es : Entries V) (key : String) : Bool := (es.get? key).isSome

/-- Overwrites the value of `key` where it stands, or appends a new entry. -/
def put (es : Entries V) (key : String) (value : V) : Entries V :=
  match es with
  | [] => [(key, value)]
  | (k, v) :: rest => if k = key then (k, value) :: rest else (k, v) :: put rest key value

/-- Enters each pair in turn: of equal keys the last value stands, at the first position. -/
def ofList (pairs : List (String × V)) : Entries V :=
  pairs.foldl (fun es p => es.put p.1 p.2) []

/-- Splits at the first entry of `key`: what precedes it, its value, what follows it. -/
def splitAt? (es : Entries V) (key : String) : Option (Entries V × V × Entries V) :=
  match es with
  | [] => none
  | (k, v) :: rest =>
    if k = key then some ([], v, rest)
    else (splitAt? rest key).map fun (front, found, back) => ((k, v) :: front, found, back)

/-- Removes the entry of `key`; the last entry takes its place. -/
def swapErase (es : Entries V) (key : String) : Option (V × Entries V) :=
  (es.splitAt? key).map fun (front, found, back) =>
    (found, match back.getLast? with
      | none => front
      | some last => front ++ last :: back.dropLast)

@[simp] theorem keys_nil : keys ([] : Entries V) = [] := rfl

@[simp] theorem keys_cons (p : String × V) (es : Entries V) : keys (p :: es) = p.1 :: keys es := rfl

@[simp] theorem keys_append (es fs : Entries V) : keys (es ++ fs) = keys es ++ keys fs := by
  simp [keys]

@[simp] theorem get?_nil (key : String) : get? ([] : Entries V) key = none := rfl

@[simp] theorem get?_cons (p : String × V) (es : Entries V) (key : String) :
    get? (p :: es) key = if p.1 = key then some p.2 else get? es key := rfl

@[simp] theorem put_nil (key : String) (value : V) : put [] key value = [(key, value)] := rfl

@[simp] theorem put_cons (p : String × V) (es : Entries V) (key : String) (value : V) :
    put (p :: es) key value = if p.1 = key then (p.1, value) :: es else p :: put es key value := rfl

theorem get?_isSome_iff {es : Entries V} {key : String} :
    (es.get? key).isSome ↔ key ∈ es.keys := by
  induction es with
  | nil => simp
  | cons p es ih =>
    by_cases h : p.1 = key
    · simp [h]
    · simp [h, ih, Ne.symm h]

theorem get?_eq_none_iff {es : Entries V} {key : String} :
    es.get? key = none ↔ key ∉ es.keys := by
  rw [← get?_isSome_iff]; cases es.get? key <;> simp

@[simp] theorem contains_iff {es : Entries V} {key : String} :
    es.contains key = true ↔ key ∈ es.keys := get?_isSome_iff

theorem get?_put (es : Entries V) (key other : String) (value : V) :
    (es.put key value).get? other = if key = other then some value else es.get? other := by
  induction es with
  | nil => simp
  | cons p es ih =>
    by_cases h : p.1 = key
    · subst h
      by_cases ho : p.1 = other <;> simp [ho]
    · by_cases ho : p.1 = other
      · subst ho
        have : key ≠ p.1 := fun e => h e.symm
        simp [h, this]
      · simp [h, ho, ih]

/-- A known key keeps its place; a new one comes last. -/
theorem keys_put (es : Entries V) (key : String) (value : V) :
    (es.put key value).keys = if key ∈ es.keys then es.keys else es.keys ++ [key] := by
  induction es with
  | nil => simp
  | cons p es ih =>
    by_cases h : p.1 = key
    · simp [h]
    · by_cases hm : key ∈ keys es
      · simp [h, hm, ih]
      · simp [h, hm, ih, Ne.symm h]

theorem mem_keys_put {es : Entries V} {key other : String} {value : V} :
    other ∈ (es.put key value).keys ↔ other = key ∨ other ∈ es.keys := by
  rw [keys_put]; split <;> rename_i h
  · constructor
    · exact Or.inr
    · rintro (rfl | h') <;> assumption
  · simp [or_comm]

theorem nodup_put {es : Entries V} (h : es.keys.Nodup) (key : String) (value : V) :
    (es.put key value).keys.Nodup := by
  rw [keys_put]; split
  · exact h
  · rename_i hm
    refine List.nodup_append.2 ⟨h, by simp, ?_⟩
    intro a ha b hb
    rw [List.mem_singleton.1 hb]
    exact fun e => hm (e ▸ ha)

theorem foldl_put_of_nodup (pairs : List (String × V)) (es : Entries V)
    (h : (es.keys ++ pairs.map Prod.fst).Nodup) :
    pairs.foldl (fun es p => es.put p.1 p.2) es = es ++ pairs := by
  induction pairs generalizing es with
  | nil => simp
  | cons p pairs ih =>
    have hp : p.1 ∉ es.keys := fun hm =>
      (List.nodup_append.1 h).2.2 p.1 hm p.1 (by simp) rfl
    have hput : es.put p.1 p.2 = es ++ [p] := by
      clear ih h
      induction es with
      | nil => simp
      | cons q es ih =>
        have hq : q.1 ≠ p.1 := fun e => hp (by simp [e])
        have hr : p.1 ∉ keys es := fun hm => hp (by simp [hm])
        simp [hq, ih hr]
    rw [List.foldl_cons, hput, ih]
    · simp
    · simpa using h

theorem ofList_of_nodup {pairs : List (String × V)} (h : (pairs.map Prod.fst).Nodup) :
    ofList pairs = pairs := by
  have := foldl_put_of_nodup pairs ([] : Entries V) (by simpa using h)
  simpa [ofList] using this

end Entries

end PromptGraph
