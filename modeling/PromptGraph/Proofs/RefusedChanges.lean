import PromptGraph.Proofs.Building

/-!
# Changes in place, and changes that are refused

A change is carried out one table after the other (`InPlace`): the nodes, the position table, the
tables of types and titles; or the connection of an input, the edges, the newest edges. What every
step has done up to a refusal stays. Carried out to its end, a change leaves what it makes of the
graph (`Indexed.carriedOut_eq`); a change that is refused is refused before the first table is
touched (`refused_changes_keep`).
-/

namespace PromptGraph

namespace Graph

/-- An operation on a graph as its steps. The first that fails ends it, and the graph stays as it is
then. -/
abbrev InPlace := EStateM GraphError Graph

namespace InPlace

/-- Enters a position into the table of types, under `key`. -/
def enterType (key : String) (position : Nat) : InPlace Unit :=
  modify fun g => { g with byType := g.byType.upsert key [] (· ++ [position]) }

/-- Enters a position into the table of titles, under `key`. -/
def enterTitle (key : String) (position : Nat) : InPlace Unit :=
  modify fun g => { g with byTitle := g.byTitle.upsert key [] (· ++ [position]) }

/-- Adds a node at the end, under an id of its own. -/
def add (node : Node) : InPlace Nat := do
  if (← get).contains node.id then throw (.duplicateId node.id)
  let position := (← get).nodes.length
  modify fun g => { g with nodes := g.nodes ++ [node.fixId] }
  modify fun g => { g with positions := g.positions.insert node.id position }
  enterType node.typeName position
  if let some title := node.title then enterTitle (Text.toLower title) position
  return position

/-- Removes the edge into the input of `edge`, if there is one; the last edge takes its place. -/
def removeStale (edge : Edge) : InPlace Unit := do
  if let some i := (← get).edges.findIdx? edge.sameTarget then
    modify fun g => { g with edges := Edge.swapRemove g.edges i }
  modify fun g => { g with recent := g.recent.eraseP edge.sameTarget }

/-- Records an edge in place of the earlier one into the same input. -/
def recordEdge (edge : Edge) : InPlace Unit := do
  removeStale edge
  modify fun g => { g with edges := g.edges ++ [edge], recent := edge :: g.recent }

/-- Sets the connection of an input and records its edge. -/
def setConnection (position : Nat) (input : String) (c : Connection) (edge : Edge) :
    InPlace Unit := do
  modify (·.modifyAt position (·.feed input c))
  recordEdge edge

/-- Wires an output of `source` into an input of `dest`. -/
def connect (source : NodeId) (output : String) (dest : NodeId) (input : String) :
    InPlace Unit := do
  let some origin := (← get).position? source | throw (.sourceMissing source)
  let some position := (← get).position? dest | throw (.targetMissing dest)
  let some slot := ((← get).nodes[origin]?).bind (·.outputSlot? output)
    | throw (.noOutput source output)
  setConnection position input ⟨source, slot⟩ ⟨source, output, dest, input⟩

/-- Sets a resolved connection; says whether both ends are in the graph. -/
def wire (dest : NodeId) (input : String) (c : Connection) : InPlace Bool := do
  let some _ := (← get).position? c.source | return false
  let some position := (← get).position? dest | return false
  setConnection position input c ⟨c.source, toString c.slot, dest, input⟩
  return true

/-- Changes the overrides of a node, if it is in the graph. -/
def override (id : NodeId) (edit : OrderedMap Json → OrderedMap Json) : InPlace Unit := do
  let some position := (← get).position? id | return
  modify (·.modifyAt position fun n => { n with overrides := edit n.overrides })

/-- Gives an id to the node at a position, unless it has another. -/
def assign (position : Nat) (id : NodeId) : InPlace Unit :=
  modify (·.modifyAt position fun n => (n.assign id).toOption.getD n)

/-! ## What the steps come to -/

/-- The graph that an operation leaves. -/
def left {α : Type} : EStateM.Result GraphError Graph α → Graph
  | .ok _ g => g
  | .error _ g => g

variable {g : Graph}

theorem add_run (n : Node) (g : Graph) : (add n).run g = match g.add n with
    | .ok (g', position) => .ok position g'
    | .error e => .error e g := by
  simp only [add, Graph.add, EStateM.run_bind, EStateM.run_get]
  split
  · rfl
  · cases n.title <;> rfl

theorem recordEdge_run (edge : Edge) (g : Graph) :
    (recordEdge edge).run g = .ok () (g.recordEdge edge) := by
  simp only [recordEdge, Graph.recordEdge, removeStale, EStateM.run_bind, EStateM.run_get]
  cases g.edges.findIdx? edge.sameTarget <;> rfl

theorem setConnection_run (position : Nat) (input : String) (c : Connection) (edge : Edge)
    (g : Graph) : (setConnection position input c edge).run g =
      .ok () (g.setConnection position input c edge) :=
  recordEdge_run edge (g.modifyAt position (·.feed input c))

theorem connect_run (h : Indexed g) (source : NodeId) (output : String) (dest : NodeId)
    (input : String) : (connect source output dest input).run g =
      match g.connect source output dest input with
      | .ok g' => .ok () g'
      | .error e => .error e g := by
  simp only [connect, Graph.connect, EStateM.run_bind, EStateM.run_get]
  -- a position leads to a node because `g` is indexed, so looking it up first refuses no more
  cases hs : g.position? source with
  | none =>
    have hnode : g.node? source = none := by rw [node?, hs]; rfl
    rw [hnode]
    rfl
  | some i =>
    obtain ⟨origin, hi⟩ : ∃ origin, g.nodes[i]? = some origin := by
      have hid := (h source i).1 hs
      rw [ids, List.getElem?_map, Option.map_eq_some_iff] at hid
      exact hid.imp fun _ hn => hn.1
    have hnode : g.node? source = some origin := by rw [node?, hs]; exact hi
    rw [hnode]
    simp only [EStateM.run_bind, EStateM.run_get]
    cases hd : g.position? dest with
    | none => rfl
    | some position =>
      simp only [EStateM.run_bind, EStateM.run_get, hi, Option.bind_some]
      cases ho : origin.outputSlot? output with
      | none => rfl
      | some slot => exact setConnection_run ..

theorem wire_run (dest : NodeId) (input : String) (c : Connection) (g : Graph) :
    (wire dest input c).run g = match g.wire? dest input c with
      | some g' => .ok true g'
      | none => .ok false g := by
  simp only [wire, Graph.wire?, EStateM.run_bind, EStateM.run_get]
  cases g.position? c.source with
  | none => rfl
  | some i =>
    simp only [EStateM.run_bind, EStateM.run_get]
    cases g.position? dest with
    | none => rfl
    | some position =>
      simp only [EStateM.run_bind, setConnection_run]
      rfl

end InPlace

/-- The graph that a change leaves when it is carried out in place. -/
def Change.carriedOut (g : Graph) : Change → Graph
  | add node => InPlace.left ((InPlace.add node).run g)
  | connect source output dest input =>
    InPlace.left ((InPlace.connect source output dest input).run g)
  | wire dest input c => InPlace.left ((InPlace.wire dest input c).run g)
  | override id edit => InPlace.left ((InPlace.override id edit).run g)
  | assign position id => InPlace.left ((InPlace.assign position id).run g)

theorem Indexed.carriedOut_eq {g : Graph} (h : Indexed g) (c : Change) :
    c.carriedOut g = c.after g := by
  cases c with
  | add n =>
    rw [Change.carriedOut, Change.after, Loading.addNode, InPlace.add_run]
    cases g.add n <;> rfl
  | connect source output dest input =>
    rw [Change.carriedOut, Change.after, InPlace.connect_run h]
    cases g.connect source output dest input <;> rfl
  | wire dest input c =>
    rw [Change.carriedOut, Change.after, Loading.wire, InPlace.wire_run]
    cases g.wire? dest input c <;> rfl
  | override id edit =>
    simp only [Change.carriedOut, Change.after, modifyOverrides?, InPlace.override,
      EStateM.run_bind, EStateM.run_get]
    cases g.position? id <;> rfl
  | assign position id => rfl

/-! ## When a change is refused -/

/-- Why an output of `source` is not wired into an input of `dest`. -/
inductive Refuses (g : Graph) (source : NodeId) (output : String) (dest : NodeId) :
    GraphError → Prop where
  | source : source ∉ g.ids → Refuses g source output dest (.sourceMissing source)
  | dest : source ∈ g.ids → dest ∉ g.ids → Refuses g source output dest (.targetMissing dest)
  | output {origin : Node} : origin ∈ g.nodes → origin.id = source → dest ∈ g.ids →
      origin.outputSlot? output = none → Refuses g source output dest (.noOutput source output)

section

variable {g : Graph} (h : Indexed g)

include h

theorem Indexed.add_eq_error_iff {n : Node} {e : GraphError} :
    g.add n = .error e ↔ n.id ∈ g.ids ∧ e = .duplicateId n.id := by
  by_cases hn : n.id ∈ g.ids
  · rw [h.add_of_mem hn]
    simp [hn, eq_comm]
  · obtain ⟨g', ha, -⟩ := h.add_of_notMem hn
    rw [ha]
    simp [hn]

theorem Indexed.position?_eq_none_iff {id : NodeId} : g.position? id = none ↔ id ∉ g.ids := by
  rw [h.mem_ids_iff, not_exists, Option.eq_none_iff_forall_ne_some]

theorem Indexed.node?_eq_none_iff {id : NodeId} : g.node? id = none ↔ id ∉ g.ids := by
  rw [Option.eq_none_iff_forall_ne_some, ids, List.mem_map, not_exists]
  simp only [ne_eq, h.node?_eq_some_iff]

theorem Indexed.connect_eq_error_iff {source dest : NodeId} {output : String} (input : String)
    {e : GraphError} : g.connect source output dest input = .error e ↔
      Refuses g source output dest e := by
  constructor
  · intro he
    unfold connect at he
    cases hs : g.node? source with
    | none =>
      rw [hs] at he
      cases he
      exact .source (h.node?_eq_none_iff.1 hs)
    | some origin =>
      obtain ⟨hmem, hid⟩ := h.node?_eq_some_iff.1 hs
      rw [hs] at he
      cases hd : g.position? dest with
      | none =>
        simp only [hd] at he
        cases he
        exact .dest (hid ▸ List.mem_map_of_mem hmem) (h.position?_eq_none_iff.1 hd)
      | some position =>
        simp only [hd] at he
        cases ho : origin.outputSlot? output with
        | none =>
          rw [ho] at he
          cases he
          exact .output hmem hid (h.mem_ids_iff.2 ⟨position, hd⟩) ho
        | some slot =>
          rw [ho] at he
          cases he
  · unfold connect
    rintro (hs | ⟨hs, hd⟩ | ⟨hmem, rfl, hd, ho⟩)
    · rw [h.node?_eq_none_iff.2 hs]
    · obtain ⟨origin, hmem, rfl⟩ := List.mem_map.1 hs
      rw [h.node?_of_mem hmem]
      simp only [h.position?_eq_none_iff.2 hd]
    · obtain ⟨position, hp⟩ := h.mem_ids_iff.1 hd
      rw [h.node?_of_mem hmem]
      simp only [hp, ho]

theorem Indexed.wire?_eq_none_iff {dest : NodeId} (input : String) {c : Connection} :
    g.wire? dest input c = none ↔ c.source ∉ g.ids ∨ dest ∉ g.ids := by
  rw [← h.position?_eq_none_iff, ← h.position?_eq_none_iff, wire?]
  cases g.position? c.source with
  | none => simp
  | some i => cases g.position? dest <;> simp

end

/-- **Changes that are refused leave no trace.** In whatever graph changes built, adding a node is
refused exactly when its id is taken, connecting exactly when an end is missing or the output stands
for no slot, and wiring exactly when an end is missing; and then the graph is left as it was, with
its nodes, its edges and all its tables. What is not refused leaves what the change makes of the
graph. -/
theorem refused_changes_keep (cs : List Change) :
    let g := build cs
    (∀ n e g', (InPlace.add n).run g = .error e g' ↔
      (n.id ∈ g.ids ∧ e = .duplicateId n.id) ∧ g' = g) ∧
    (∀ source output dest input e g',
      (InPlace.connect source output dest input).run g = .error e g' ↔
        Refuses g source output dest e ∧ g' = g) ∧
    (∀ dest input c g', (InPlace.wire dest input c).run g = .ok false g' ↔
      (c.source ∉ g.ids ∨ dest ∉ g.ids) ∧ g' = g) ∧
    (∀ dest input c e g', (InPlace.wire dest input c).run g ≠ .error e g') ∧
    ∀ c : Change, c.carriedOut g = c.after g := by
  intro g
  have h : Indexed g := (filed_build cs).indexed
  refine ⟨fun n e g' => ?_, fun source output dest input e g' => ?_, fun dest input c g' => ?_,
    fun dest input c e g' => ?_, h.carriedOut_eq⟩
  · rw [← h.add_eq_error_iff, InPlace.add_run]
    cases g.add n <;> simp [eq_comm]
  · rw [← h.connect_eq_error_iff input, InPlace.connect_run h]
    cases g.connect source output dest input <;> simp [eq_comm]
  · rw [← h.wire?_eq_none_iff input, InPlace.wire_run]
    cases g.wire? dest input c <;> simp [eq_comm]
  · rw [InPlace.wire_run]
    cases g.wire? dest input c <;> simp

end Graph

end PromptGraph
