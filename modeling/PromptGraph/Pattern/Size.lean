import PromptGraph.Pattern.Basic
import PromptGraph.Pattern.Encoding
import Std.Data.HashMap

/-!
# The size of a pattern

How many bytes the machines for a pattern take, one that reads texts forwards and one that reads
them backwards. A machine has states, numbered as they are added, and links between them; bounded
repetitions are written out. A pattern is refused when one of its machines exceeds `sizeLimit`.

Parts of a class that are built alike are shared, as far as a small memory recalls them: it has a
slot for each remainder of a hash, and what is stored last in a slot stays.
-/

namespace PromptGraph.Pattern

open Text (CodePoints)

/-- A machine takes at most so many bytes. -/
def sizeLimit : Nat := 10 * 1048576

/-- The bytes of a state, of a link between states, and of a link on a range of bytes. -/
def stateSize : Nat := 32

def linkSize : Nat := 4

def edgeSize : Nat := 8

/-- A machine under construction, as far as its size goes. -/
structure Machine where
  states : Nat := 0
  bytes : Nat := 0

namespace Machine

def add (m : Machine) (further : Nat) : Option Machine :=
  let bytes := m.bytes + stateSize + further
  if bytes ≤ sizeLimit then some ⟨m.states + 1, bytes⟩ else none

def state (m : Machine) : Option Machine := m.add 0

/-- Adds a state from which so many links go out. -/
def fork (m : Machine) (links : Nat) : Option Machine := m.add (links * linkSize)

/-- Adds a state from which so many links on ranges of bytes go out. -/
def sparse (m : Machine) (edges : Nat) : Option Machine := m.add (edges * edgeSize)

/-- Does the same so many times. -/
def times (grow : Machine → Option Machine) : Nat → Machine → Option Machine
  | 0, m => some m
  | n + 1, m => do times grow n (← grow m)

end Machine

/-! ## Shared parts of classes -/

/-- A hash of numbers. -/
def hash (values : List Nat) : UInt64 :=
  values.foldl (fun h v => (h ^^^ v.toUInt64) * 1099511628211) 14695981039346656037

/-- States by what they were built from. -/
structure Memory where
  slots : Nat
  entries : Std.HashMap Nat (List Nat × Nat) := {}

namespace Memory

def slot (k : Memory) (key : List Nat) : Nat := (hash key).toNat % k.slots

/-- The state that was built from `key`, unless another one took its slot. -/
def find? (k : Memory) (key : List Nat) : Option Nat :=
  match k.entries[k.slot key]? with
  | some (known, state) => if known = key then some state else none
  | none => none

def store (k : Memory) (key : List Nat) (state : Nat) : Memory :=
  { k with entries := k.entries.insert (k.slot key) (key, state) }

end Memory

/-! ## Classes backwards -/

/-- Adds a state for each byte of an encoding, the first byte leading to `target`. -/
def addBytes (m : Machine) (k : Memory) (target : Nat) :
    List ByteRange → Option (Machine × Memory)
  | [] => some (m, k)
  | (lo, hi) :: rest =>
    let key := [target, lo, hi]
    match k.find? key with
    | some state => addBytes m k state rest
    | none => do addBytes (← m.state) (k.store key m.states) m.states rest

def addEncodings (target : Nat) (m : Machine) (k : Memory) :
    List (List ByteRange) → Option Machine
  | [] => some m
  | e :: rest => do
    let (m, k) ← addBytes m k target e
    addEncodings target m k rest

/-- Adds a class whose encodings are read backwards. -/
def addBackwards (m : Machine) (encodings : List (List ByteRange)) : Option Machine := do
  let forked ← m.fork encodings.length
  addEncodings forked.states (← forked.state) ⟨1000, {}⟩ encodings

/-! ## Classes forwards -/

/-- A state whose last edge may have no target yet. An edge is a range of bytes and a target. -/
structure OpenState where
  edges : List Nat := []
  pending : Option ByteRange := none

namespace OpenState

/-- Leads the last edge to a state. -/
def settle (s : OpenState) (target : Nat) : OpenState :=
  match s.pending with
  | some (lo, hi) => ⟨s.edges ++ [lo, hi, target], none⟩
  | none => s

end OpenState

/-- A class under construction: the open states, the deepest first, and those that are done. -/
structure ClassTree where
  machine : Machine
  memory : Memory
  path : List OpenState

namespace ClassTree

/-- The state with some edges; one that is known is not added again. -/
def finish (t : ClassTree) (edges : List Nat) : Option (ClassTree × Nat) :=
  match t.memory.find? edges with
  | some state => some (t, state)
  | none => do
    let state := t.machine.states
    let machine ← t.machine.sparse (edges.length / 3)
    return ({ t with machine, memory := t.memory.store edges state }, state)

/-- Closes all but `keep` and one open states, the deepest of which leads to `target`. -/
def close (t : ClassTree) (keep target : Nat) : List OpenState → Option ClassTree
  | [] => some { t with path := [] }
  | s :: rest =>
    if keep < rest.length then do
      let (t, state) ← t.finish (s.settle target).edges
      t.close keep state rest
    else some { t with path := s.settle target :: rest }

/-- How many of the open states an encoding shares, from the first byte on. -/
def shared : List ByteRange → List OpenState → Nat
  | r :: rest, s :: path => if s.pending = some r then shared rest path + 1 else 0
  | _, _ => 0

/-- Opens states for bytes. -/
def extend (path : List OpenState) : List ByteRange → List OpenState
  | [] => path
  | r :: rest =>
    let path := match path with
      | s :: path => { s with pending := some r } :: path
      | [] => []
    rest.foldl (fun path r => { pending := some r } :: path) path

def insert (target : Nat) (t : ClassTree) (e : List ByteRange) : Option ClassTree := do
  let keep := shared e t.path.reverse
  let t ← t.close keep target t.path
  return { t with path := extend t.path (e.drop keep) }

end ClassTree

/-- Adds a class whose encodings are read forwards. -/
def addForwards (m : Machine) (encodings : List (List ByteRange)) : Option Machine := do
  let target := m.states
  let start : ClassTree := { machine := ← m.state, memory := ⟨10000, {}⟩, path := [{}] }
  let t ← encodings.foldlM (ClassTree.insert target) start
  let t ← t.close 0 target t.path
  let (t, _) ← t.finish (t.path.flatMap OpenState.edges)
  return t.machine

def addClass (backwards : Bool) (points : CodePoints) (m : Machine) : Option Machine :=
  if List.all points fun r => r.2 < 0x80 then do (← m.state).sparse points.length
  else if backwards then addBackwards m (encodings points)
  else addForwards m (encodings points)

/-! ## Choices between literals -/

def literalBytes (cs : List Char) : List UInt8 := (String.ofList cs).toUTF8.toList

/-- A state of a tree of literals: what leads on from it, the latest first, and marks where a
literal ends. What stands behind a mark is not extended. -/
inductive LiteralTree where
  | done
  | branch (byte : UInt8) (child next : LiteralTree)
  | mark (next : LiteralTree)

namespace LiteralTree

/-- No byte leads on. -/
def isLeaf : LiteralTree → Bool
  | .done => true
  | .branch _ _ _ => false
  | .mark next => next.isLeaf

/-- Changes what a byte leads to, unless a mark stands before it. -/
def alter? (byte : UInt8) (change : LiteralTree → LiteralTree) :
    LiteralTree → Option LiteralTree
  | .branch b child next =>
    if b = byte then some (.branch b (change child) next)
    else (next.alter? byte change).map (.branch b child)
  | _ => none

def insert : List UInt8 → LiteralTree → LiteralTree
  | [], .mark next => if next.isLeaf then .mark next else .mark (.mark next)
  | [], t => .mark t
  | b :: bs, t => (t.alter? b (insert bs)).getD (.branch b (insert bs .done) t)

/-- The branches up to the first mark. -/
def leading : LiteralTree → Nat
  | .branch _ _ next => next.leading + 1
  | _ => 0

/-- The links that go out from a state: one for each group of branches and one for each mark. The
flag tells whether the last item was a branch. -/
def links (inGroup : Bool) : LiteralTree → Nat
  | .done => 0
  | .branch _ _ next => (if inGroup then 0 else 1) + next.links true
  | .mark next => 1 + next.links false

def addGroups (inGroup : Bool) : LiteralTree → Machine → Option Machine
  | .done, m => some m
  | .mark next, m => next.addGroups false m
  | t@(.branch _ _ next), m => do
    let m ← if inGroup then pure m else if t.leading = 1 then m.state else m.sparse t.leading
    next.addGroups true m

def addTo : LiteralTree → Machine → Option Machine
  | .done, m => some m
  | .mark next, m => next.addTo m
  | .branch _ child next, m => do
    let m ← if child.isLeaf then pure m else do
      (← child.addGroups false m).fork (child.links false)
    next.addTo (← child.addTo m)

end LiteralTree

def addLiterals (backwards : Bool) (literals : List (List Char)) (m : Machine) :
    Option Machine := do
  let order := fun (bs : List UInt8) => if backwards then bs.reverse else bs
  let tree := literals.foldl (fun t cs => t.insert (order (literalBytes cs))) LiteralTree.done
  (← tree.addGroups false (← tree.addTo (← m.state))).fork (tree.links false)

/-! ## Patterns -/

def literal? : Pattern → Option (List Char)
  | .literal cs => some cs
  | _ => none

/-- Adds a repetition, given how its body is added. -/
def addRepetition (grow : Machine → Option Machine) (emptyBody : Bool) (min : Nat)
    (max : Option Nat) (m : Machine) : Option Machine :=
  let exactly := fun n m => if n = 0 then Machine.state m else Machine.times grow n m
  match min, max with
  | 0, none =>
    if emptyBody then do (← (← (← grow m).fork 2).fork 2).state
    else do grow (← m.fork 2)
  | _, none => do (← exactly min m).fork 2
  | 0, some 1 => do (← grow (← m.fork 2)).state
  | _, some limit =>
    if limit = min then exactly min m
    else do
      let more := fun m => do grow (← Machine.fork m 2)
      Machine.times more (limit - min) (← (← exactly min m).state)

mutual

/-- Adds a pattern. Groups leave states in the machine that reads forwards only. -/
def addTo (backwards : Bool) : Pattern → Machine → Option Machine
  | .empty, m => m.state
  | .literal cs, m => Machine.times Machine.state (literalSize cs) m
  | .set points _, m => addClass backwards points m
  | .look _, m => m.state
  | .repetition body min max _, m =>
    addRepetition (body.addTo backwards) (body.minSize?.all (· = 0)) min max m
  | .capture body, m =>
    if backwards then body.addTo backwards m
    else do (← body.addTo backwards (← m.state)).state
  | .concat ps, m => if backwards then addBack ps m else addAll backwards ps m
  | .choice ps, m =>
    match ps.mapM literal? with
    | some literals => addLiterals backwards literals m
    | none => addBranches backwards 0 ps m

def addAll (backwards : Bool) : List Pattern → Machine → Option Machine
  | [], m => some m
  | p :: ps, m => do addAll backwards ps (← p.addTo backwards m)

def addBack : List Pattern → Machine → Option Machine
  | [], m => some m
  | p :: ps, m => do p.addTo true (← addBack ps m)

/-- Adds branches, with the states around them after the second one. -/
def addBranches (backwards : Bool) (count : Nat) : List Pattern → Machine → Option Machine
  | [], m => some m
  | p :: ps, m => do
    let m ← p.addTo backwards m
    let m ← if count = 1 then do (← m.fork (ps.length + 2)).state else pure m
    addBranches backwards (count + 1) ps m

end

mutual

/-- Every match stands at the start of the text. -/
def atStart : Pattern → Bool
  | .look .textStart => true
  | .repetition body min _ _ => decide (0 < min) && body.atStart
  | .capture body => body.atStart
  | .concat ps => someAtStart ps
  | .choice ps => allAtStart ps
  | _ => false

def someAtStart : List Pattern → Bool
  | [] => false
  | p :: ps => p.atStart || (p.isZeroWidth && someAtStart ps)

def allAtStart : List Pattern → Bool
  | [] => true
  | p :: ps => p.atStart && allAtStart ps

end

mutual

/-- Every match stands at the end of the text. -/
def atEnd : Pattern → Bool
  | .look .textEnd => true
  | .repetition body min _ _ => decide (0 < min) && body.atEnd
  | .capture body => body.atEnd
  | .concat ps => someAtEnd ps
  | .choice ps => allAtEnd ps
  | _ => false

def someAtEnd : List Pattern → Bool
  | [] => false
  | p :: ps => (p.atEnd && ps.all isZeroWidth) || someAtEnd ps

def allAtEnd : List Pattern → Bool
  | [] => true
  | p :: ps => p.atEnd && allAtEnd ps

end

/-- The states before a pattern: those that skip a text byte by byte, unless it is fixed. -/
def skipper (fixed : Bool) : Option Machine := do
  if fixed then (Machine.mk 0 0).state else (← (← (Machine.mk 0 0).fork 2).state).sparse 1

def forwards? (p : Pattern) : Option Machine := do
  (← (← p.addTo false (← (← skipper p.atStart).state)).state).state

def backwards? (p : Pattern) : Option Machine := do
  (← p.addTo true (← skipper p.atEnd)).state

def fits (p : Pattern) : Bool := (forwards? p).isSome && (backwards? p).isSome

end PromptGraph.Pattern
