import Mathlib.Data.List.Forall2
import PromptGraph.Proofs.Compiled
import PromptGraph.Proofs.Layers
import PromptGraph.Proofs.LoadedPrompt
import PromptGraph.Proofs.Payload

/-!
# Loading what was compiled

`Node.Portable sources n` says that the entry of `n` can be told apart again: the connections of
`n` are readable and come from `sources`, and none of its overrides looks like a connection or
stands for a wired input. `reload` says what loading the payload of a graph of such nodes gives:
the same nodes, with the literals of their entries for overrides.
-/

namespace PromptGraph

open Compiler PromptGraph.Graph

/-- An entry of the node shows again what the node is. -/
structure Node.Portable (sources : List NodeId) (n : Node) : Prop where
  typed : n.typeName ≠ ""
  titled : n.title ≠ some ""
  wired : ∀ i ∈ n.connections.entries, i.2.Readable ∧ i.2.source ∈ sources
  apart : ∀ k ∈ n.overrides.keys, k ∉ n.connections.keys
  literal : ∀ i ∈ n.overrides.entries, Connection.ofJson? i.2 = none

theorem Node.typeName_named_ne_empty (id : NodeId) (typeName : String) :
    (Node.named id typeName).typeName ≠ "" := by
  show (if typeName.isEmpty then unknownType else typeName) ≠ ""
  split
  · decide
  · next h => simpa using h

theorem Loading.usefulTitle_ne_empty (t : Option String) : usefulTitle t ≠ some "" := by
  intro h
  have := (Option.filter_eq_some_iff.1 h).2
  simp at this

/-- The nodes are the same but for the values that are set. -/
structure Node.Alike (n n' : Node) : Prop where
  id : n'.id = n.id
  typeName : n'.typeName = n.typeName
  title : n'.title = n.title
  connections : n'.connections = n.connections

/-- What becomes of a node that is compiled and loaded again. -/
structure Node.Reloaded (o : CompilerOptions) (specs : List InputSpec) (n n' : Node) : Prop
    extends n.Alike n' where
  overrides : n'.overrides = finalLiterals o specs n
  values : n'.values = []

namespace Loading

theorem wiredInputs_entry_eq {n : Node} {o : CompilerOptions} {specs : List InputSpec}
    (hk : ∀ k ∈ n.overrides.keys, k ∉ n.connections.keys)
    (hl : ∀ p ∈ (finalLiterals o specs n).entries, Connection.ofJson? p.2 = none) :
    wiredInputs (entry o specs n) = n.connections.entries.filterMap
      fun i => (Connection.ofJson? i.2.toJson).map (i.1, ·) := by
  have hnone : (finalLiterals o specs n).entries.filterMap
      (fun i => (Connection.ofJson? i.2).map (i.1, ·)) = [] := by
    rw [List.filterMap_eq_nil_iff]
    intro p hp
    rw [hl p hp]
    rfl
  rw [wiredInputs, entry, nodeInputs_entries hk, List.filterMap_append, hnone, List.append_nil,
    written, OrderedMap.mapValues, List.filterMap_map]
  rfl

variable {sources : List NodeId} {n : Node} (h : n.Portable sources) (o : CompilerOptions)
  (specs : List InputSpec)

include h

theorem ofJson?_finalLiterals {p : String × Json} (hp : p ∈ (finalLiterals o specs n).entries) :
    Connection.ofJson? p.2 = none := by
  rcases mem_finalLiterals hp with hp | hp
  · exact h.literal p hp
  · exact Connection.ofJson?_of_isScalar hp

theorem wiredInputs_entry : wiredInputs (entry o specs n) = n.connections.entries := by
  have hread : ∀ i ∈ n.connections.entries,
      (Connection.ofJson? i.2.toJson).map (i.1, ·) = some i := by
    intro i hi
    rw [Connection.ofJson?_toJson (h.wired i hi).1]
    rfl
  rw [wiredInputs_entry_eq h.apart fun p hp => ofJson?_finalLiterals h o specs hp,
    List.filterMap_congr hread]
  exact List.filterMap_some

theorem literalInputs_entry :
    literalInputs (entry o specs n) = (finalLiterals o specs n).entries := by
  have hw : (written n).entries.filter (fun i => (Connection.ofJson? i.2).isNone) = [] := by
    rw [List.filter_eq_nil_iff]
    intro p hp
    obtain ⟨i, hi, rfl⟩ := List.mem_map.1 hp
    simp [Connection.ofJson?_toJson (h.wired i hi).1]
  have hl : (finalLiterals o specs n).entries.filter (fun i => (Connection.ofJson? i.2).isNone) =
      (finalLiterals o specs n).entries := by
    rw [List.filter_eq_self]
    intro p hp
    rw [ofJson?_finalLiterals h o specs hp]
    rfl
  rw [literalInputs, entry, nodeInputs_entries h.apart, List.filter_append, hw, hl, List.nil_append]

theorem resolvedInputs_entry :
    resolvedInputs sources (entry o specs n) = n.connections.entries := by
  rw [resolvedInputs, wiredInputs_entry h, List.filter_eq_self]
  intro i hi
  exact decide_eq_true (h.wired i hi).2

/-- **A node is recovered** from its entry. -/
theorem reloaded_entry (position : Nat) :
    n.Reloaded o specs (loadedEntry sources position n.id (entry o specs n)) where
  id := rfl
  typeName := by
    have he : n.typeName.isEmpty = false := by simpa using h.typed
    simp [loadedEntry, Node.feedAll, nodeOfEntry, Node.named, Node.ofType, entry, he]
  title := by
    have ht : (entry o specs n).title = n.title := by
      simp only [PromptNode.title, entry]
      cases n.title <;> rfl
    show usefulTitle (entry o specs n).title = n.title
    rw [ht, usefulTitle]
    cases hn : n.title with
    | none => rfl
    | some t =>
      have hne : t.isEmpty = false := by
        simpa using fun e : t = "" => h.titled (e ▸ hn)
      simp [Option.filter, hne]
  connections := by
    show OrderedMap.ofList (resolvedInputs sources (entry o specs n)) = n.connections
    rw [resolvedInputs_entry h, OrderedMap.ofList_entries]
  overrides := by
    show OrderedMap.ofList (literalInputs (entry o specs n)) = finalLiterals o specs n
    rw [literalInputs_entry h, OrderedMap.ofList_entries]
  values := rfl

end Loading

/-! ## Graphs -/

theorem Graph.Indexed.loaded_payload {g : Graph} (h : Indexed g) (hu : Dialect.Unmarked g.ids)
    (o : CompilerOptions) (specs : Node → List InputSpec) (loading : Loading.Options) :
    Indexed (Loading.ofJson loading (payload o specs g).toJson) ∧
      List.Forall₂ (fun n n' => ∃ position,
          n' = Loading.loadedEntry g.ids position n.id (entry o (specs n) n)) g.nodes
        (Loading.ofJson loading (payload o specs g).toJson).nodes := by
  have hids := ids_payload h.nodup o specs
  rw [Loading.ofJson_toJson loading (hids ▸ hu : Dialect.Unmarked (payload o specs g).ids)]
  obtain ⟨hi, hn⟩ := Loading.nodes_ofPrompt (payload o specs g)
  refine ⟨hi, ?_⟩
  rw [hn, hids, entries_payload h.nodup, entriesOf, List.forall₂_iff_get]
  exact ⟨by simp, fun i hi₁ hi₂ => ⟨i, by simp⟩⟩

/-- **What was compiled is loaded again**, node by node. -/
theorem Graph.Indexed.reload {g : Graph} (h : Indexed g) (hu : Dialect.Unmarked g.ids)
    (hp : ∀ n ∈ g.nodes, n.Portable g.ids) (o : CompilerOptions)
    (specs : Node → List InputSpec) (loading : Loading.Options) :
    Indexed (Loading.ofJson loading (payload o specs g).toJson) ∧
      List.Forall₂ (fun n n' => n.Reloaded o (specs n) n') g.nodes
        (Loading.ofJson loading (payload o specs g).toJson).nodes := by
  obtain ⟨hi, hn⟩ := h.loaded_payload hu o specs loading
  refine ⟨hi, ?_⟩
  rw [List.forall₂_iff_get] at hn ⊢
  refine ⟨hn.1, fun i hi₁ hi₂ => ?_⟩
  obtain ⟨position, he⟩ := hn.2 i hi₁ hi₂
  rw [he]
  exact Loading.reloaded_entry (hp _ (List.getElem_mem hi₁)) o _ position

theorem Graph.ids_of_forall₂ {g g' : Graph}
    (h : List.Forall₂ (fun n n' : Node => n'.id = n.id) g.nodes g'.nodes) : g'.ids = g.ids := by
  rw [ids, ids, ← List.forall₂_eq_eq_eq, List.forall₂_map_left_iff, List.forall₂_map_right_iff]
  exact h.flip

theorem Graph.ids_of_reloaded {g g' : Graph} {o : CompilerOptions} {specs : Node → List InputSpec}
    (h : List.Forall₂ (fun n n' => n.Reloaded o (specs n) n') g.nodes g'.nodes) :
    g'.ids = g.ids :=
  ids_of_forall₂ (h.imp fun _ _ hr => hr.id)

end PromptGraph
