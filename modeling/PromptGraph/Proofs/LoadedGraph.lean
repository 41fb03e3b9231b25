import Mathlib.Data.List.Nodup
import PromptGraph.Loading.Basic
import PromptGraph.Graph.Validity
import PromptGraph.Proofs.Edges

/-!
# Loaded graphs

Both builders add nodes without connections and then wire them (`assembled_ofJson`). What the
changes of such a run keep makes a loaded graph `Consistent`: the edges are exactly what the
connections say (`Graph.wiring`), and nothing is connected to a node that is not there.
-/

namespace PromptGraph

namespace Graph

/-- The edge that a connection with a slot number stands for. -/
def edgeOf (dest : NodeId) (i : String × Connection) : Edge :=
  ⟨i.2.source, toString i.2.slot, dest, i.1⟩

/-- One edge for each connection of each node. -/
def wiring (g : Graph) : List Edge :=
  g.nodes.flatMap fun n => n.connections.entries.map (edgeOf n.id)

theorem mem_wiring {g : Graph} {e : Edge} :
    e ∈ g.wiring ↔ ∃ n ∈ g.nodes, ∃ c, n.connections.get? e.input = some c ∧
      e = edgeOf n.id (e.input, c) := by
  simp only [wiring, List.mem_flatMap, List.mem_map]
  refine exists_congr fun n => and_congr_right fun _ => ?_
  constructor
  · rintro ⟨⟨input, c⟩, hi, rfl⟩
    exact ⟨c, OrderedMap.get?_of_mem hi, rfl⟩
  · rintro ⟨c, hget, he⟩
    exact ⟨(e.input, c), OrderedMap.mem_entries_iff.2 hget, he.symm⟩

theorem nodup_wiring {g : Graph} (h : g.ids.Nodup) : g.wiring.Nodup := by
  refine List.pairwise_flatMap.2 ⟨fun n _ => ?_, ?_⟩
  · refine List.pairwise_map.2 ((List.pairwise_map.1 n.connections.nodup).imp ?_)
    intro a b hab he
    exact hab (congrArg Edge.input he)
  · refine (List.pairwise_map.1 h).imp ?_
    rintro n m hnm _ ha _ hb rfl
    obtain ⟨a, -, rfl⟩ := List.mem_map.1 ha
    obtain ⟨b, -, he⟩ := List.mem_map.1 hb
    exact hnm (congrArg Edge.dest he).symm

/-- Connections and edges say the same, and speak of nodes of the graph only. -/
structure Consistent (g : Graph) : Prop where
  nodup : g.ids.Nodup
  closed : ∀ n ∈ g.nodes, ∀ input c, n.connections.get? input = some c → c.source ∈ g.ids
  edges : g.edges.Perm g.wiring

/-- Where edges are written with slot numbers and every connection has an edge, the edges are the
connections. -/
theorem Mirrors.consistent {g : Graph} (hn : g.ids.Nodup)
    (h : Mirrors (fun e slot => e.output = toString slot) (fun _ _ _ => False) g) :
    g.Consistent := by
  -- the connection of an input, and the edge into it
  have hedge : ∀ n ∈ g.nodes, ∀ input c, n.connections.get? input = some c →
      edgeOf n.id (input, c) ∈ g.edges := by
    intro n hmem input c hget
    obtain ⟨e, he, hd, rfl⟩ := (h.edge n hmem input c hget).resolve_left id
    obtain ⟨n', hmem', hid, slot, hout, hget'⟩ := h.dest e he
    obtain rfl : n' = n := List.inj_on_of_nodup_map hn hmem' hmem (hid.trans hd)
    rw [hget] at hget'
    cases hget'
    rwa [edgeOf, hd.symm, ← hout]
  refine ⟨hn, fun n hmem input c hget => h.source _ (hedge n hmem input c hget), ?_⟩
  have hnd : g.edges.Nodup := h.single.imp fun hab he => hab (Edge.sameTarget_iff.2 (by simp [he]))
  refine (List.perm_ext_iff_of_nodup hnd (nodup_wiring hn)).2 fun e => ?_
  rw [mem_wiring]
  constructor
  · intro he
    obtain ⟨n, hmem, hid, slot, hout, hget⟩ := h.dest e he
    refine ⟨n, hmem, _, hget, ?_⟩
    rw [edgeOf, hid, ← hout]
  · rintro ⟨n, hmem, c, hget, he⟩
    exact he ▸ hedge n hmem e.input c hget

theorem Consistent.validate_eq {g : Graph} (h : g.Consistent) (hi : Indexed g) :
    g.validate = if g.isEmpty then .error .empty else if g.isCyclic then .error .cyclic
      else .ok () := by
  have hd : g.danglingRefs = [] := by
    refine List.filter_eq_nil_iff.2 fun r hr => ?_
    obtain ⟨n, hn, hr⟩ := List.mem_flatMap.1 hr
    obtain ⟨i, hmem, rfl⟩ := List.mem_map.1 hr
    simp [hi.contains_iff.2 (h.closed n hn i.1 i.2 (OrderedMap.get?_of_mem hmem))]
  simp [validate, hd]

end Graph

namespace Loading

open PromptGraph.Graph

/-! ## Both builders -/

/-- Adds nodes, then wires them. -/
def assembly (ns : List Node) (ps : List Pending) : List Change :=
  ns.map .add ++ ps.map fun p => .wire p.1 p.2.1 p.2.2

theorem build_assembly (ns : List Node) (ps : List Pending) :
    build (assembly ns ps) = ps.foldl wire (ns.foldl addNode .empty) := by
  rw [build, assembly, List.foldl_append, List.foldl_map, List.foldl_map]
  rfl

/-- The graph is built of nodes without connections, which are then wired. -/
def Assembled (g : Graph) : Prop :=
  ∃ ns ps, (∀ n ∈ ns, n.connections = .empty) ∧ g = build (assembly ns ps)

theorem assembled_empty : Assembled .empty := ⟨[], [], by simp, rfl⟩

theorem assembled_ofPrompt (p : Prompt) : Assembled (ofPrompt p) := by
  let ns := p.nodes.entries.zipIdx.map fun e => nodeOfEntry e.2 e.1.1 e.1.2
  let ps := p.nodes.entries.flatMap fun e => pendingOf e.1 e.2
  have hns : ∀ n ∈ ns, n.connections = .empty := List.forall_mem_map.2 fun _ _ => rfl
  exact ⟨ns, ps, hns, (build_assembly ns ps).symm⟩

/-- The node of a record, unless only the editor shows it or it has no id. -/
def nodeOfRecord? (o : Options) (r : EditorNode × Nat) : Option Node :=
  if o.editorOnly.contains r.1.resolvedType then none
  else r.1.key?.map fun id => nodeOfRecord r.2 id r.1

theorem graph_addRecord (o : Options) (l : Loaded) (r : EditorNode × Nat) :
    (addRecord o l r).graph = (nodeOfRecord? o r).toList.foldl addNode l.graph := by
  unfold addRecord nodeOfRecord?
  cases r.1.key? with
  | none =>
    rw [Option.map_none, ite_self]
    rfl
  | some id =>
    dsimp only [Option.map_some]
    split
    · rfl
    · rw [Option.toList_some, List.foldl_cons, List.foldl_nil, addNode]
      cases l.graph.add (nodeOfRecord r.2 id r.1) <;> rfl

theorem graph_foldl_addRecord (o : Options) (rs : List (EditorNode × Nat)) (l : Loaded) :
    (rs.foldl (addRecord o) l).graph = (rs.filterMap (nodeOfRecord? o)).foldl addNode l.graph := by
  induction rs generalizing l with
  | nil => rfl
  | cons r rs ih =>
    rw [List.foldl_cons, ih, graph_addRecord, List.filterMap_cons]
    cases nodeOfRecord? o r <;> rfl

theorem exists_nodeOfRecord?_eq {o : Options} {r : EditorNode × Nat} {n : Node}
    (h : nodeOfRecord? o r = some n) : ∃ id, n = nodeOfRecord r.2 id r.1 := by
  unfold nodeOfRecord? at h
  split at h
  · cases h
  · obtain ⟨id, -, he⟩ := Option.map_eq_some_iff.1 h
    exact ⟨id, he.symm⟩

theorem assembled_ofEditor (o : Options) (d : EditorDocument) : Assembled (ofEditor o d) := by
  refine ⟨d.nodes.zipIdx.filterMap (nodeOfRecord? o), d.links.filterMap
    (pendingOfLink? (d.nodes.zipIdx.foldl (addRecord o) {}).records), fun n hn => ?_, ?_⟩
  · obtain ⟨r, -, hr⟩ := List.mem_filterMap.1 hn
    obtain ⟨id, rfl⟩ := exists_nodeOfRecord?_eq hr
    rfl
  · rw [build_assembly]
    exact congrArg (List.foldl wire · _) (graph_foldl_addRecord o d.nodes.zipIdx {})

theorem assembled_ofJson (o : Options) (j : Json) : Assembled (ofJson o j) := by
  unfold ofJson
  cases Document.ofJson j with
  | error e => exact assembled_empty
  | ok d =>
    cases d with
    | editor d => exact assembled_ofEditor o d
    | request p => exact assembled_ofPrompt p

theorem assembled_ofText (o : Options) (s : String) : Assembled (ofText o s) := by
  unfold ofText
  cases Json.parse? s with
  | none => exact assembled_empty
  | some j => exact assembled_ofJson o j

theorem assembled_ofFile {o : Options} {files : FileTree} {path : String} {g : Graph}
    (h : ofFile o files path = .ok g) : Assembled g := by
  unfold ofFile at h
  split at h
  · cases h
    exact assembled_ofText o _
  · cases h

/-! ## Consistency -/

theorem Assembled.indexed {g : Graph} (h : Assembled g) : Indexed g := by
  obtain ⟨ns, ps, -, rfl⟩ := h
  exact (filed_build _).indexed

theorem Assembled.single {g : Graph} (h : Assembled g) : Edge.Single g.edges := by
  obtain ⟨ns, ps, -, rfl⟩ := h
  exact (mirrors_build _).single

/-- Nodes bring no connections along, and outputs are given by number, so that edges and
connections are the same. -/
theorem Assembled.consistent {g : Graph} (h : Assembled g) : g.Consistent := by
  obtain ⟨ns, ps, hns, rfl⟩ := h
  have hm := mirrors_build (assembly ns ps)
  refine (hm.mono ?_ ?_).consistent (filed_build _).indexed.nodup
  · rintro e slot (⟨hc, -⟩ | ⟨-, hs⟩)
    · exact absurd hc (by simp [assembly])
    · exact hs
  · rintro id input c ⟨n, ⟨earlier, later, he, -⟩, -, hget⟩
    have hn : Change.add n ∈ assembly ns ps := he ▸ by simp
    have hn : n ∈ ns := by simpa [assembly] using hn
    rw [hns n hn] at hget
    cases hget

/-- **Every loaded graph is closed and consistent**, whatever the value and the types left out:
ids are distinct, connections come from nodes of the graph, and there is one edge for each
connection. It is unfit only when it has no node or a cycle. -/
theorem loaded_consistent (o : Options) (j : Json) :
    let g := ofJson o j
    g.Consistent ∧ g.validate =
      if g.isEmpty then .error .empty else if g.isCyclic then .error .cyclic else .ok () := by
  intro g
  have h : Assembled g := assembled_ofJson o j
  refine ⟨h.consistent, h.consistent.validate_eq ?_⟩
  obtain ⟨ns, ps, -, he⟩ := h
  exact he ▸ (filed_build _).indexed

end Loading

end PromptGraph
