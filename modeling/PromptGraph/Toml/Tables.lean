import PromptGraph.Entries
import PromptGraph.Toml.Basic

/-!
# Tables

A settings text fills its tables section by section. A table can be opened by one header only, and a
key assigned once. A table that a longer header implied may still be opened; one that dotted keys
made may only be filled by further dotted keys, and have tables below it opened. A value that was
written as a whole is never extended.
-/

namespace PromptGraph.Toml

/-- How a table came to be. -/
inductive Origin where
  /-- A header opened it. -/
  | opened
  /-- The header of a table below it implied it. -/
  | implied
  /-- Dotted keys made it. -/
  | dotted
  deriving DecidableEq

/-- What stands at a key while tables are filled. -/
inductive Slot where
  | value (v : Toml)
  | table (origin : Origin) (entries : List (String × Slot))
  /-- Tables opened one after the other under the same header. -/
  | tables (items : List (List (String × Slot)))

/-- A table that is being filled. -/
abbrev Table := Entries Slot

/-- Changes the last item, if there is one. -/
def changeLast? {α : Type} (f : α → Option α) (xs : List α) : Option (List α) :=
  match xs.reverse with
  | [] => none
  | x :: front => (f x).map fun y => (y :: front).reverse

/-- Assigns a value to a dotted key. -/
def assign (v : Toml) : List String → Table → Option Table
  | [], _ => none
  | [key], t => if t.contains key then none else some (t.put key (.value v))
  | key :: next :: rest, t =>
    match t.get? key with
    | none => (assign v (next :: rest) []).map fun es => t.put key (.table .dotted es)
    | some (.table .dotted es) =>
      (assign v (next :: rest) es).map fun es => t.put key (.table .dotted es)
    | some (.table .implied es) =>
      if rest.isEmpty then none
      else (assign v (next :: rest) es).map fun es => t.put key (.table .implied es)
    | some (.tables ts) =>
      if rest.isEmpty then none
      else (changeLast? (assign v (next :: rest)) ts).map fun ts => t.put key (.tables ts)
    | some _ => none

/-- The header of a section: the table that it opens, or one more of the tables of that name. -/
structure Header where
  path : List String := []
  repeats : Bool := false

def openTable (repeats : Bool) (fill : Table → Option Table) : List String → Table → Option Table
  | [], t => fill t
  | [key], t =>
    match t.get? key, repeats with
    | none, false => (fill []).map fun es => t.put key (.table .opened es)
    | none, true => (fill []).map fun es => t.put key (.tables [es])
    | some (.table .implied es), false => (fill es).map fun es => t.put key (.table .opened es)
    | some (.tables ts), true => (fill []).map fun es => t.put key (.tables (ts ++ [es]))
    | _, _ => none
  | key :: rest, t =>
    match t.get? key with
    | none => (openTable repeats fill rest []).map fun es => t.put key (.table .implied es)
    | some (.table origin es) =>
      (openTable repeats fill rest es).map fun es => t.put key (.table origin es)
    | some (.tables ts) =>
      (changeLast? (openTable repeats fill rest) ts).map fun ts => t.put key (.tables ts)
    | some (.value _) => none

abbrev Assignment := List String × Toml

/-- A header and the assignments below it. -/
structure Section where
  header : Header := {}
  assignments : List Assignment := []

def assignAll (as : List Assignment) (t : Table) : Option Table :=
  as.foldlM (fun t a => assign a.2 a.1 t) t

/-- Adds a section to the outermost table. -/
def Section.addTo (t : Table) (s : Section) : Option Table :=
  openTable s.header.repeats (assignAll s.assignments) s.header.path t

mutual

def Slot.toToml : Slot → Toml
  | .value v => v
  | .table _ es => .table (Slot.entries es)
  | .tables ts => .array (Slot.items ts)

def Slot.entries : List (String × Slot) → List (String × Toml)
  | [] => []
  | (key, s) :: es => (key, s.toToml) :: Slot.entries es

def Slot.items : List (List (String × Slot)) → List Toml
  | [] => []
  | t :: ts => .table (Slot.entries t) :: Slot.items ts

end

def ofSections? (ss : List Section) : Option (List (String × Toml)) :=
  (ss.foldlM Section.addTo []).map Slot.entries

def ofAssignments? (as : List Assignment) : Option Toml :=
  (assignAll as []).map fun t => .table (Slot.entries t)

end PromptGraph.Toml
