import PromptGraph.Proofs.Positions
import PromptGraph.Proofs.References

/-!
# The graph of a prompt

`nodes_ofPrompt` says what loading makes of a prompt: one node per entry, in order, whose
connections are the inputs that write a connection from an id of the prompt (`resolvedInputs`) and
whose overrides are the inputs that write none.
-/

namespace PromptGraph.Loading

open PromptGraph.Graph

@[simp] theorem id_nodeOfEntry (position : Nat) (id : NodeId) (e : PromptNode) :
    (nodeOfEntry position id e).id = id := rfl

/-- The inputs of an entry that write connections from the given ids. -/
def resolvedInputs (sources : List NodeId) (e : PromptNode) : List (String × Connection) :=
  (wiredInputs e).filter fun i => decide (i.2.source ∈ sources)

/-- The node of an entry amid the given ids. -/
def loadedEntry (sources : List NodeId) (position : Nat) (id : NodeId) (e : PromptNode) : Node :=
  (nodeOfEntry position id e).feedAll (resolvedInputs sources e)

theorem incoming_pendingOf (sources : List NodeId) (id : NodeId) (e : PromptNode) :
    incoming sources id (pendingOf id e) = resolvedInputs sources e := by
  rw [incoming, pendingOf, resolvedInputs, List.filterMap_map, ← List.filterMap_eq_filter]
  refine congrArg (List.filterMap · _) (funext fun i => ?_)
  by_cases hs : i.2.source ∈ sources <;> simp [hs, Option.guard]

theorem incoming_pendingOf_of_ne {sources : List NodeId} {id other : NodeId} (h : other ≠ id)
    (e : PromptNode) : incoming sources id (pendingOf other e) = [] := by
  rw [incoming, List.filterMap_eq_nil_iff]
  intro p hp
  obtain ⟨i, -, rfl⟩ := List.mem_map.1 hp
  simp [h]

/-- Of what all entries ask for, a node gets what its own entry asks for. -/
theorem incoming_flatMap {sources : List NodeId} {es : Entries PromptNode} (h : es.keys.Nodup)
    {e : NodeId × PromptNode} (he : e ∈ es) :
    incoming sources e.1 (es.flatMap fun e => pendingOf e.1 e.2) = resolvedInputs sources e.2 := by
  have hother : ∀ fs : Entries PromptNode, e.1 ∉ fs.keys →
      incoming sources e.1 (fs.flatMap fun e => pendingOf e.1 e.2) = [] := by
    intro fs hfs
    rw [incoming, List.filterMap_flatMap, List.flatMap_eq_nil_iff]
    intro f hf
    have hne : f.1 ≠ e.1 := fun e' => hfs (e' ▸ Entries.mem_keys_of_mem hf)
    exact incoming_pendingOf_of_ne hne f.2
  have happend : ∀ ps qs, incoming sources e.1 (ps ++ qs) =
      incoming sources e.1 ps ++ incoming sources e.1 qs := fun ps qs => List.filterMap_append
  induction es with
  | nil => cases he
  | cons f es ih =>
    rw [Entries.keys_cons, List.nodup_cons] at h
    rw [List.flatMap_cons, happend]
    rcases List.mem_cons.1 he with rfl | he
    · rw [incoming_pendingOf, hother es h.1, List.append_nil]
    · have hne : f.1 ≠ e.1 := fun e' => h.1 (e' ▸ Entries.mem_keys_of_mem he)
      rw [incoming_pendingOf_of_ne hne, ih h.2 he, List.nil_append]

/-- **The graph of a prompt**, entry by entry. -/
theorem nodes_ofPrompt (p : Prompt) :
    Indexed (ofPrompt p) ∧ (ofPrompt p).nodes =
      p.nodes.entries.zipIdx.map fun e => loadedEntry p.ids e.2 e.1.1 e.1.2 := by
  let ns := p.nodes.entries.zipIdx.map fun e => nodeOfEntry e.2 e.1.1 e.1.2
  let ps := p.nodes.entries.flatMap fun e => pendingOf e.1 e.2
  have hids : ns.map Node.id = p.ids := by
    rw [List.map_map, Prompt.ids, OrderedMap.keys, Entries.keys,
      ← List.zipIdx_map_fst 0 p.nodes.entries, List.map_map, List.zipIdx_map_fst]
    rfl
  have hfix : ns.map Node.fixId = ns := by
    rw [List.map_map]
    rfl
  have hnd : (Graph.empty.ids ++ ns.map Node.id).Nodup := hids ▸ p.nodes.nodup
  obtain ⟨hi, hn⟩ := Indexed.empty.foldl_addNode hnd
  rw [hfix] at hn
  have hg : (ns.foldl addNode .empty).ids = p.ids := by
    rw [← hids, Graph.ids, hn]
    rfl
  refine ⟨(hi.foldl_wire ps).1, ?_⟩
  refine (hi.nodes_foldl_wire ps).trans ?_
  rw [hn, hg, show Graph.empty.nodes ++ ns = ns from rfl, List.map_map]
  refine List.map_congr_left fun e he => ?_
  rw [Function.comp_apply, id_nodeOfEntry,
    incoming_flatMap p.nodes.nodup (List.fst_mem_of_mem_zipIdx he), loadedEntry]

end PromptGraph.Loading
