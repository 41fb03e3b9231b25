import PromptGraph.Proofs.Reloading
import PromptGraph.Schema.Cache

/-!
# The round trip of a request document

A request document that is loaded, compiled and loaded again gives the graph it gave the first
time, node by node (`request_round_trip`); only the prefix of a save node may have been set.
-/

namespace PromptGraph

open Compiler PromptGraph.Graph

namespace Prompt

/-! ## Ids of a decoded prompt -/

theorem ids_ofFields {fields : List (String × Json)} {id : NodeId}
    (h : id ∈ (ofFields fields).ids) : id ∈ Entries.keys fields ∧ id ∉ reservedKeys := by
  rw [ofFields, foldl_addField_eq] at h
  have hkey := (OrderedMap.mem_keys_insertAll.1 h).resolve_left List.not_mem_nil
  obtain ⟨e, he, rfl⟩ := List.mem_map.1 hkey
  obtain ⟨f, hf, hread⟩ := List.mem_filterMap.1 he
  obtain ⟨hef, hr⟩ := key_of_nodeOf hread
  rw [hef]
  exact ⟨List.mem_map_of_mem hf, hr⟩

theorem unmarked_ofFields {fields : List (String × Json)}
    (h : Dialect.detect fields = .request) : Dialect.Unmarked (ofFields fields).ids := by
  intro id hid
  obtain ⟨hk, hr⟩ := ids_ofFields hid
  have hc : Entries.contains fields "nodes" = false ∧ Entries.contains fields "links" = false := by
    rw [← Bool.or_eq_false_iff, Bool.eq_false_iff]
    intro hm
    rw [Dialect.detect, if_pos hm] at h
    cases h
  refine ⟨?_, ?_, hr⟩
  · rintro rfl
    rw [Entries.contains_iff.2 hk] at hc
    cases hc.1
  · rintro rfl
    rw [Entries.contains_iff.2 hk] at hc
    cases hc.2

end Prompt

/-! ## The nodes of a loaded prompt -/

namespace Loading

theorem mem_wiredInputs {e : PromptNode} {i : String × Connection} (h : i ∈ wiredInputs e) :
    ∃ v, (i.1, v) ∈ e.inputs.entries ∧ Connection.ofJson? v = some i.2 := by
  obtain ⟨p, hp, hi⟩ := List.mem_filterMap.1 h
  obtain ⟨c, hc, rfl⟩ := Option.map_eq_some_iff.1 hi
  exact ⟨p.2, hp, hc⟩

theorem mem_literalInputs {e : PromptNode} {i : String × Json} (h : i ∈ literalInputs e) :
    i ∈ e.inputs.entries ∧ Connection.ofJson? i.2 = none := by
  obtain ⟨hi, hn⟩ := List.mem_filter.1 h
  exact ⟨hi, Option.isNone_iff_eq_none.1 hn⟩

theorem portable_loadedEntry (sources : List NodeId) (position : Nat) (id : NodeId)
    (e : PromptNode) : (loadedEntry sources position id e).Portable sources where
  typed := Node.typeName_named_ne_empty id e.classType
  titled := usefulTitle_ne_empty e.title
  wired := by
    intro i hi
    obtain ⟨hw, hs⟩ := List.mem_filter.1 (OrderedMap.mem_of_mem_ofList hi)
    obtain ⟨v, -, hv⟩ := mem_wiredInputs hw
    exact ⟨Connection.readable_of_ofJson? hv, of_decide_eq_true hs⟩
  apart := by
    intro k hk hc
    obtain ⟨p, hp, rfl⟩ := List.mem_map.1 hk
    obtain ⟨i, hi, hkey⟩ := List.mem_map.1 hc
    obtain ⟨hin, hnone⟩ := mem_literalInputs (OrderedMap.mem_of_mem_ofList hp)
    obtain ⟨v, hv, hsome⟩ :=
      mem_wiredInputs (List.mem_filter.1 (OrderedMap.mem_of_mem_ofList hi)).1
    have h₁ := OrderedMap.get?_of_mem (m := e.inputs) hv
    rw [hkey, OrderedMap.get?_of_mem hin] at h₁
    cases h₁
    rw [hnone] at hsome
    cases hsome
  literal := fun i hi => (mem_literalInputs (OrderedMap.mem_of_mem_ofList hi)).2

theorem ids_ofPrompt (p : Prompt) : (ofPrompt p).ids = p.ids := by
  rw [Graph.ids, (nodes_ofPrompt p).2, List.map_map, Prompt.ids, OrderedMap.keys, Entries.keys,
    ← List.zipIdx_map_fst 0 p.nodes.entries, List.map_map, List.zipIdx_map_fst]
  rfl

theorem mem_ofPrompt {p : Prompt} {n : Node} (h : n ∈ (ofPrompt p).nodes) :
    ∃ position id e, n = loadedEntry p.ids position id e := by
  rw [(nodes_ofPrompt p).2] at h
  obtain ⟨e, -, rfl⟩ := List.mem_map.1 h
  exact ⟨e.2, e.1.1, e.1.2, rfl⟩

end Loading

/-! ## The round trip -/

/-- `n'` is what `n` is, but for the prefix of a save node. -/
structure Node.SameButPrefix (o : CompilerOptions) (n n' : Node) : Prop extends n.Alike n' where
  overrides : n.typeName ≠ o.saveType → n'.overrides = n.overrides
  others : n'.overrides.erase o.prefixInput = n.overrides.erase o.prefixInput

theorem Node.Reloaded.sameButPrefix {o : CompilerOptions} {specs : List InputSpec} {n n' : Node}
    (h : n.Reloaded o specs n') (hv : n.values = []) : n.SameButPrefix o n' where
  toAlike := h.toAlike
  overrides := by
    intro ht
    rw [h.overrides, finalLiterals, if_neg fun hc => ht hc.1, literals_of_values_eq_nil hv]
  others := by
    rw [h.overrides, finalLiterals]
    split
    · rw [erase_applyPrefix, literals_of_values_eq_nil hv]
    · rw [literals_of_values_eq_nil hv]

/-- **Request round trip.** A request document compiles, whatever schemas say and without being
asked, and its payload loads as the document did: the same ids in the same order, of the same
types, titles and connections, and with the same overrides but for the prefix of save nodes. -/
theorem request_round_trip {m : Type → Type} [Monad m] [LawfulMonad m]
    (lookup : String → m (List InputSpec)) {o : CompilerOptions} (ho : o.strict = false)
    (loading : Loading.Options) {fields : List (String × Json)}
    (hd : Dialect.detect fields = .request) :
    let g := Loading.ofJson loading (.object fields)
    ∃ p, compile lookup o g = pure (.ok p) ∧
      (Loading.ofJson loading p.toJson).ids = g.ids ∧
      List.Forall₂ (Node.SameButPrefix o) g.nodes (Loading.ofJson loading p.toJson).nodes := by
  intro g
  have hg : g = Loading.ofPrompt (.ofFields fields) := by
    simp only [g, Loading.ofJson, Document.ofJson, Document.ofFields, hd, Loading.ofDocument]
  obtain ⟨hi, -⟩ := Loading.nodes_ofPrompt (.ofFields fields)
  have hids := Loading.ids_ofPrompt (.ofFields fields)
  have hmem : ∀ n ∈ g.nodes, n.Portable g.ids ∧ n.values = [] := by
    intro n hn
    rw [hg] at hn ⊢
    obtain ⟨position, id, e, rfl⟩ := Loading.mem_ofPrompt hn
    exact ⟨hids ▸ Loading.portable_loadedEntry .., rfl⟩
  rw [← hg] at hi hids
  have hu : Dialect.Unmarked g.ids := hids ▸ Prompt.unmarked_ofFields hd
  obtain ⟨-, hr⟩ := hi.reload hu (fun n hn => (hmem n hn).1) o (fun _ => []) loading
  refine ⟨payload o (fun _ => []) g,
    compile_eq ho fun n hn => specsOf_of_values_eq_nil (hmem n hn).2, ids_of_reloaded hr, ?_⟩
  rw [List.forall₂_iff_get] at hr ⊢
  exact ⟨hr.1, fun i h₁ h₂ => (hr.2 i h₁ h₂).sameButPrefix (hmem _ (List.getElem_mem h₁)).2⟩

/-- With a source that cannot be reached: a wired pair, one that leads nowhere, one that is no
connection, an entry without a class, an empty title, and a save node without a prefix. -/
theorem request_round_trip_of_unreachable :
    let entry : String → List (String × Json) → Json := fun c inputs =>
      .object [("class_type", .text c), ("inputs", .object inputs),
        ("_meta", .object [("title", .text "")])]
    let fields : List (String × Json) := [
      ("4", entry "" [("seed", .int 7), ("gone", .array [.text "99", .int 0])]),
      ("_defaults", .null),
      ("9", entry "SaveImage" [("images", .array [.int 4, .text " +1 "]),
        ("size", .array [.text "", .int 0])])]
    let g := Loading.ofJson {} (.object fields)
    Dialect.detect fields = .request ∧
      ∃ p, compile (Session.inputs (.live "http://localhost:1" 0)) {} g = pure (.ok p) ∧
        (Loading.ofJson {} p.toJson).ids = g.ids ∧
        List.Forall₂ (Node.SameButPrefix {}) g.nodes (Loading.ofJson {} p.toJson).nodes :=
  ⟨by decide, request_round_trip (Session.inputs (.live "http://localhost:1" 0)) rfl {} (by decide)⟩

end PromptGraph
