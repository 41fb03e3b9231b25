import Mathlib.Data.List.Range
import PromptGraph.Proofs.Identities

/-!
# Graphs as documents describe them

A loader writes down what a document says of a node before the node enters the graph. In a graph
that comes of a document, or is built of nodes that come of none (`Graph.Sourced`), this stays true
of every node, and the places in the document ascend along the nodes (`Graph.Described`). So the
identity index, which goes by what was written down, and the tables of the graph, which go by the
nodes, answer alike (`index_mirrors_graph`).
-/

namespace PromptGraph

open PromptGraph.Graph
open IdentityIndex (entryOf ofGraph)

variable {answers : String → Id (List InputSpec)}

/-- What the document says of the node is true of it. -/
def Node.Described (n : Node) : Prop :=
  ∀ i, n.identity = some i → i.fileId = n.id ∧ i.title = n.title ∧ i.typeName = n.typeName

theorem Node.Described.of_card {n m : Node} (h : m.Described) (hc : n.card = m.card) :
    n.Described := by
  obtain ⟨hidentity, hid, htitle, htype⟩ := Node.card_eq_iff.1 hc
  rw [Node.Described, hidentity, hid, htitle, htype]
  exact h

theorem IdentityIndex.entryOf_of_described {n : Node} (h : n.Described) (position : Nat) :
    entryOf n position = (n.id, ⟨n.title, n.typeName, (entryOf n position).2.position⟩) := by
  unfold entryOf
  split
  · next i hi =>
    obtain ⟨hid, htitle, htype⟩ := h i hi
    rw [← hid, ← htitle, ← htype]
  · rfl

namespace Graph

/-! ## Places -/

/-- The place of a node in the document that it comes of. -/
def place? (n : Node) : Option Nat := n.identity.map NodeIdentity.position

/-- Where nodes stand: in their document, or else in the list. -/
def places (ns : List Node) : List Nat :=
  ns.zipIdx.map fun n => (entryOf n.1 n.2).2.position

theorem places_congr {ns ms : List Node} (h : ns.map Node.card = ms.map Node.card) :
    places ns = places ms := by
  let f (c : (Option NodeIdentity × NodeId × Option String × String) × Nat) : Nat :=
    (c.1.1.map NodeIdentity.position).getD c.2
  have hf (ns : List Node) : places ns = (ns.map Node.card).zipIdx.map f := by
    rw [List.zipIdx_map, List.map_map, places]
    refine List.map_congr_left fun n _ => ?_
    show (entryOf n.1 n.2).2.position = (n.1.identity.map NodeIdentity.position).getD n.2
    unfold entryOf
    cases n.1.identity <;> rfl
  rw [hf, hf, h]

theorem places_of_identities {ns : List Node} (h : ∀ n ∈ ns, n.identity ≠ none) :
    places ns = ns.filterMap place? := by
  have hz : ns.filterMap place? = ns.zipIdx.filterMap fun n => place? n.1 := by
    conv_lhs => rw [← List.zipIdx_map_fst 0 ns, List.filterMap_map]
    rfl
  rw [hz, places, ← List.filterMap_eq_map]
  refine List.filterMap_congr fun n hn => ?_
  obtain ⟨i, hi⟩ := Option.ne_none_iff_exists'.1 (h n.1 (List.fst_mem_of_mem_zipIdx hn))
  simp [place?, entryOf, hi]

theorem places_of_no_identities {ns : List Node} (h : ∀ n ∈ ns, n.identity = none) :
    places ns = List.range' 0 ns.length := by
  rw [← List.zipIdx_map_snd 0 ns, places]
  refine List.map_congr_left fun n hn => ?_
  simp [entryOf, h n.1 (List.fst_mem_of_mem_zipIdx hn)]

/-! ## Described graphs -/

/-- The tables of the graph are right, what documents say of its nodes is true, and the places of
the nodes ascend. -/
structure Described (g : Graph) : Prop where
  filed : Filed g
  described : ∀ n ∈ g.nodes, n.Described
  ascending : (places g.nodes).Pairwise (· < ·)

theorem filed_frame {g : Graph} : Filed g.frame ↔ Filed g := by
  have htypes : g.frame.typeKeys = g.typeKeys := List.map_map
  have htitles : g.frame.titleKeys = g.titleKeys := List.map_map
  constructor
  · rintro ⟨hi, hf, ht, hl⟩
    exact ⟨indexed_frame.1 hi, fun n hn => hf n.frame (List.mem_map_of_mem hn), htypes ▸ ht,
      htitles ▸ hl⟩
  · rintro ⟨hi, hf, ht, hl⟩
    refine ⟨indexed_frame.2 hi, fun m hm => ?_, htypes.symm ▸ ht, htitles.symm ▸ hl⟩
    obtain ⟨n, hn, rfl⟩ := List.mem_map.1 hm
    exact hf n hn

theorem described_frame {g : Graph} : g.frame.Described ↔ g.Described := by
  have hplaces : places g.frame.nodes = places g.nodes :=
    places_congr ((List.map_map).trans rfl)
  constructor
  · rintro ⟨hf, hd, ha⟩
    exact ⟨filed_frame.1 hf, fun n hn => hd n.frame (List.mem_map_of_mem hn), hplaces ▸ ha⟩
  · rintro ⟨hf, hd, ha⟩
    refine ⟨filed_frame.2 hf, fun m hm => ?_, hplaces.symm ▸ ha⟩
    obtain ⟨n, hn, rfl⟩ := List.mem_map.1 hm
    exact hd n hn

theorem Described.empty : empty.Described := ⟨Filed.empty, by rintro n ⟨⟩, .nil⟩

theorem Described.identified {g : Graph} (h : g.Described) : g.Identified :=
  ⟨h.filed.indexed, fun n hn i hi => (h.described n hn i hi).1⟩

open Loading

theorem exists_sublist_foldl_addNode (ns : List Node) (g : Graph) :
    ∃ ms : List Node, ms.Sublist ns ∧
      (ns.foldl addNode g).nodes = g.nodes ++ ms.map Node.fixId := by
  induction ns generalizing g with
  | nil => exact ⟨[], .slnil, (List.append_nil _).symm⟩
  | cons n ns ih =>
    obtain ⟨ms, hms, he⟩ := ih (addNode g n)
    by_cases hc : g.contains n.id = true
    · have hg : addNode g n = g := by simp [addNode, add, hc]
      exact ⟨ms, hms.cons n, by rw [List.foldl_cons, he, hg]⟩
    · have hg : (addNode g n).nodes = g.nodes ++ [n.fixId] := by simp [addNode, add, hc]
      exact ⟨n :: ms, hms.cons_cons n, by simp [he, hg]⟩

theorem Indexed.cards_foldl_wire {g : Graph} (h : Indexed g) (ps : List Pending) :
    (ps.foldl wire g).nodes.map Node.card = g.nodes.map Node.card := by
  rw [h.nodes_foldl_wire, List.map_map]
  rfl

theorem described_assembly {ns : List Node} (hd : ∀ n ∈ ns, n.Described)
    (hs : ∀ n ∈ ns, n.identity ≠ none) (ha : (ns.filterMap place?).Pairwise (· < ·))
    (ps : List Pending) : (ps.foldl wire (ns.foldl addNode .empty)).Described := by
  have hb := build_assembly ns ps
  have hi : Indexed (ns.foldl addNode .empty) := by
    have hadd := build_assembly ns []
    exact hadd ▸ (filed_build _).indexed
  refine ⟨hb ▸ filed_build _, fun n hn => ?_, ?_⟩
  · obtain ⟨m, hm, hc⟩ := card_of_mem_build (hb.symm ▸ hn)
    have hm : m ∈ ns := by simpa [assembly] using hm
    exact (hd m hm).of_card hc
  · obtain ⟨ms, hms, he⟩ := exists_sublist_foldl_addNode ns .empty
    have hcards : (ps.foldl wire (ns.foldl addNode .empty)).nodes.map Node.card =
        ms.map Node.card := by
      rw [hi.cards_foldl_wire, he, List.map_append, List.map_map]
      rfl
    rw [places_congr hcards, places_of_identities fun n hn => hs n (hms.subset hn)]
    exact ha.sublist (hms.filterMap place?)

end Graph

namespace Loading

theorem described_ofPrompt (p : Prompt) : (ofPrompt p).Described := by
  refine described_assembly ?_ ?_ ?_ _
  · refine List.forall_mem_map.2 fun e _ i hi => ?_
    obtain rfl := Option.some.inj hi
    exact ⟨rfl, rfl, rfl⟩
  · exact List.forall_mem_map.2 fun e _ => Option.some_ne_none _
  · have hplaces : (p.nodes.entries.zipIdx.map fun e => nodeOfEntry e.2 e.1.1 e.1.2).filterMap
        place? = p.nodes.entries.zipIdx.map Prod.snd := by
      rw [List.filterMap_map, ← List.filterMap_eq_map]
      rfl
    rw [hplaces, List.zipIdx_map_snd]
    exact List.pairwise_lt_range'

/-- The type of a record is never empty, so its node has the very type. -/
theorem typeName_nodeOfRecord (position : Nat) (id : NodeId) (r : EditorNode) :
    (nodeOfRecord position id r).typeName = r.resolvedType := by
  have hne : r.resolvedType.isEmpty = false := by
    unfold EditorNode.resolvedType
    split
    · split
      · rfl
      · next h => simpa using h
    · rfl
  exact if_neg (by simp [hne])

theorem described_ofEditor (o : Options) (d : EditorDocument) : (ofEditor o d).Described := by
  have hnode : ∀ n ∈ d.nodes.zipIdx.filterMap (nodeOfRecord? o),
      ∃ (r : EditorNode × Nat) (id : NodeId), n = nodeOfRecord r.2 id r.1 := by
    intro n hn
    obtain ⟨r, -, hr⟩ := List.mem_filterMap.1 hn
    exact ⟨r, exists_nodeOfRecord?_eq hr⟩
  have hg : ofEditor o d = (resolvedLinks o d).foldl wire
      ((d.nodes.zipIdx.filterMap (nodeOfRecord? o)).foldl addNode .empty) :=
    congrArg (List.foldl wire · _) (graph_foldl_addRecord o d.nodes.zipIdx {})
  rw [hg]
  refine described_assembly (fun n hn i hi => ?_) (fun n hn => ?_) ?_ _
  · obtain ⟨r, id, rfl⟩ := hnode n hn
    obtain rfl := Option.some.inj hi
    exact ⟨rfl, rfl, (typeName_nodeOfRecord ..).symm⟩
  · obtain ⟨r, id, rfl⟩ := hnode n hn
    exact Option.some_ne_none _
  · have hstep : ∀ r n, nodeOfRecord? o r = some n → place? n = some r.2 := by
      intro r n hr
      obtain ⟨id, rfl⟩ := exists_nodeOfRecord?_eq hr
      rfl
    have hpos : (d.nodes.zipIdx.map Prod.snd).Pairwise (· < ·) := by
      rw [List.zipIdx_map_snd]
      exact List.pairwise_lt_range'
    rw [List.filterMap_filterMap]
    refine List.pairwise_filterMap.2 ((List.pairwise_map.1 hpos).imp fun hlt i hi j hj => ?_)
    obtain ⟨n, hn, hni⟩ := Option.bind_eq_some_iff.1 hi
    obtain ⟨m, hm, hmj⟩ := Option.bind_eq_some_iff.1 hj
    obtain rfl := Option.some.inj ((hstep _ n hn).symm.trans hni)
    obtain rfl := Option.some.inj ((hstep _ m hm).symm.trans hmj)
    exact hlt

theorem described_ofJson (o : Options) (j : Json) : (ofJson o j).Described := by
  unfold ofJson
  cases Document.ofJson j with
  | error e => exact .empty
  | ok d =>
    cases d with
    | editor d => exact described_ofEditor o d
    | request p => exact described_ofPrompt p

end Loading

/-- The graph comes of a document, or was built of nodes that come of none. -/
def Graph.Sourced (g : Graph) : Prop :=
  (∃ o j, g = Loading.ofJson o j) ∨
    ∃ cs, (∀ n, Change.add n ∈ cs → n.identity = none) ∧ g = build cs

theorem Graph.Sourced.described {g : Graph} (h : g.Sourced) : g.Described := by
  rcases h with ⟨o, j, rfl⟩ | ⟨cs, hcs, rfl⟩
  · exact Loading.described_ofJson o j
  · have hnone : ∀ n ∈ (build cs).nodes, n.identity = none := by
      intro n hn
      obtain ⟨m, hm, hc⟩ := card_of_mem_build hn
      exact (Node.card_eq_iff.1 hc).1.trans (hcs m hm)
    refine ⟨filed_build cs, fun n hn i hi => ?_, ?_⟩
    · rw [hnone n hn] at hi
      cases hi
    · rw [places_of_no_identities hnone]
      exact List.pairwise_lt_range'

/-! ## The index of a described graph -/

namespace IdentityIndex

variable {g : Graph} (h : g.Described)

include h

theorem get?_of_described {n : Node} (hn : n ∈ g.nodes) :
    ∃ position, (ofGraph g).get? n.id = some ⟨n.title, n.typeName, position⟩ := by
  rw [← List.zipIdx_map_fst 0 g.nodes] at hn
  obtain ⟨⟨n, i⟩, hi, rfl⟩ := List.mem_map.1 hn
  have he : entryOf n i ∈ (ofGraph g).entries.entries := by
    rw [entries_ofGraph h.identified]
    exact List.mem_map_of_mem (f := fun n => entryOf n.1 n.2) hi
  rw [entryOf_of_described (h.described n (List.fst_mem_of_mem_zipIdx hi))] at he
  exact ⟨_, OrderedMap.get?_of_mem he⟩

theorem ids_filter_of_described (q : Option String → String → Bool) :
    ((ofGraph g).entries.entries.filter fun e => q e.2.title e.2.typeName).map Prod.fst =
      (g.nodes.filter fun n => q n.title n.typeName).map Node.id := by
  have hnodes : g.nodes.filter (fun n => q n.title n.typeName) =
      (g.nodes.zipIdx.filter fun n => q n.1.title n.1.typeName).map Prod.fst := by
    conv_lhs => rw [← List.zipIdx_map_fst 0 g.nodes, List.filter_map]
    rfl
  have hentry : ∀ n ∈ g.nodes.zipIdx, entryOf n.1 n.2 =
      (n.1.id, ⟨n.1.title, n.1.typeName, (entryOf n.1 n.2).2.position⟩) :=
    fun n hn => entryOf_of_described (h.described n.1 (List.fst_mem_of_mem_zipIdx hn)) n.2
  rw [entries_ofGraph h.identified, hnodes, List.filter_map, List.map_map, List.map_map]
  have hfilter : g.nodes.zipIdx.filter ((fun e => q e.2.title e.2.typeName) ∘
      fun n => entryOf n.1 n.2) = g.nodes.zipIdx.filter fun n => q n.1.title n.1.typeName := by
    refine List.filter_congr fun n hn => ?_
    rw [Function.comp_apply, hentry n hn]
  rw [hfilter]
  refine List.map_congr_left fun n hn => ?_
  rw [Function.comp_apply, hentry n (List.mem_of_mem_filter hn)]
  rfl

theorem idsOfType_of_described (typeName : String) : (ofGraph g).idsOfType typeName =
    (g.nodes.filter fun n => n.typeName = typeName).map Node.id :=
  ids_filter_of_described h fun _ t => decide (t = typeName)

theorem idsTitled_of_described (title : String) : (ofGraph g).idsTitled title =
    (g.nodes.filter fun n => n.title = some title).map Node.id :=
  (idsTitled_ofGraph h.identified title).trans
    (ids_filter_of_described h fun t _ => decide (t = some title))

theorem idsWhere_of_described (p : String → Bool) : (ofGraph g).idsWhere p =
    (g.nodes.filter fun n => n.title.any p).map Node.id :=
  ids_filter_of_described h fun t _ => t.any p

end IdentityIndex

/-! ## The index of a workbench -/

namespace Workbench

/-- A workbench that has taken up a described graph keeps one, and its index, whatever it held
before. -/
theorem described_foldl_after (answers : String → Id (List InputSpec)) (w₀ : Workbench) {g : Graph}
    (hg : g.Sourced) {cs : List Command} (hcs : ∀ g, Command.adopt g ∈ cs → g.Sourced) :
    let w := cs.foldl (Command.after answers) (w₀.adopt g)
    w.graph.Described ∧ w.index = ofGraph w.graph :=
  framed_foldl_after described_frame Loading.described_ofJson ⟨hg.described, rfl⟩
    fun g hg => (hcs g hg).described

/-- **The identity index agrees with the graph.** A workbench takes up a graph that comes of a
document, as every way to load one does, or one that is built of nodes that come of none; commands
follow. Then the index lists the ids of the nodes in order, with their titles and types, at places
that ascend; and a type and a title lead in the index to the nodes that they lead to in the graph,
in order, where the graph leaves the case of a title out of account. -/
theorem index_mirrors_graph (answers : String → Id (List InputSpec)) (w₀ : Workbench) {g : Graph}
    (hg : g.Sourced) (cs : List Command) (hcs : ∀ g, Command.adopt g ∈ cs → g.Sourced) :
    let w := cs.foldl (Command.after answers) (w₀.adopt g)
    w.index.entries.keys = w.graph.ids ∧
      (∀ n ∈ w.graph.nodes, ∃ position,
        w.index.get? n.id = some ⟨n.title, n.typeName, position⟩) ∧
      (w.index.entries.values.map IndexEntry.position).Pairwise (· < ·) ∧
      (∀ typeName, w.index.idsOfType typeName = (w.graph.nodesOfType typeName).map Node.id) ∧
      ∀ title, w.index.idsTitled title =
        ((w.graph.nodesTitled title).filter fun n => n.title = some title).map Node.id := by
  intro w
  obtain ⟨h, hi⟩ : w.graph.Described ∧ w.index = ofGraph w.graph :=
    described_foldl_after answers w₀ hg hcs
  clear_value w
  rw [hi]
  refine ⟨IdentityIndex.keys_ofGraph h.identified,
    fun n hn => IdentityIndex.get?_of_described h hn, ?_, fun typeName => ?_, fun title => ?_⟩
  · rw [OrderedMap.values, IdentityIndex.entries_ofGraph h.identified, List.map_map, List.map_map]
    exact h.ascending
  · rw [IdentityIndex.idsOfType_of_described h, h.filed.nodesOfType]
  · rw [IdentityIndex.idsTitled_of_described h, h.filed.nodesTitled, List.filter_filter]
    refine congrArg _ (List.filter_congr fun n _ => Bool.eq_iff_iff.2 ?_)
    simp only [decide_eq_true_eq, Bool.and_eq_true]
    exact ⟨fun ht => ⟨ht, by rw [ht]; rfl⟩, And.left⟩

/-- Records are skipped, repeat an id, or leave title and type empty; two titles differ in case. -/
theorem index_mirrors_graph_of_encoders :
    let answers : String → Id (List InputSpec) := fun _ => pure [⟨"text", some .text, .empty⟩]
    let record (id : Int) (type title : String) : Json := .object [("id", .int id),
      ("type", .text type), ("title", .text title), ("widgets_values", .array [.text "a bottle"])]
    let document : Json := .object [("nodes", .array [record 1 "Note" "Main",
      record 7 "CLIPTextEncode" "Main", record 6 "CLIPTextEncode" "main", record 7 "Other" "Main",
      record 9 "" ""])]
    let cs : List Command := [.adopt (build [.add (.named "4" "CheckpointLoaderSimple")]),
      .loadJson document, .setByTitle "Main" "text" (.text "a cup") .contains (some 1), .prompt]
    let w := cs.foldl (Command.after answers) (({} : Workbench).adopt (Loading.ofJson {} document))
    (Loading.ofJson {} document).Sourced ∧ (∀ g, Command.adopt g ∈ cs → g.Sourced) ∧
      w.graph.ids = ["7", "6", "9"] ∧ w.index.entries.keys = w.graph.ids ∧
      (∀ n ∈ w.graph.nodes, ∃ position,
        w.index.get? n.id = some ⟨n.title, n.typeName, position⟩) ∧
      (w.index.entries.values.map IndexEntry.position).Pairwise (· < ·) ∧
      w.index.idsOfType "Unknown" = (w.graph.nodesOfType "Unknown").map Node.id ∧
      (w.graph.nodesTitled "Main").map Node.id = ["7", "6"] ∧ w.index.idsTitled "Main" =
        ((w.graph.nodesTitled "Main").filter fun n => n.title = some "Main").map Node.id := by
  intro answers record document cs w
  have hg : (Loading.ofJson {} document).Sourced := .inl ⟨{}, document, rfl⟩
  have hcs : ∀ g, Command.adopt g ∈ cs → g.Sourced := by
    intro g hg
    obtain rfl : g = _ := by simpa [cs] using hg
    refine .inr ⟨_, fun n hn => ?_, rfl⟩
    obtain rfl : n = _ := by simpa using hn
    rfl
  have hids : w.graph.ids = ["7", "6", "9"] := by decide +kernel
  have htitled : (w.graph.nodesTitled "Main").map Node.id = ["7", "6"] := by decide +kernel
  clear_value answers document cs
  obtain ⟨hkeys, hentries, hplaces, htypes, htitles⟩ := index_mirrors_graph answers {} hg cs hcs
  exact ⟨hg, hcs, hids, hkeys, hentries, hplaces, htypes "Unknown", htitled, htitles "Main"⟩

end Workbench

end PromptGraph
