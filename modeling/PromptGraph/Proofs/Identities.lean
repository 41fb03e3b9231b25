import PromptGraph.Proofs.LoadedEditor
import PromptGraph.Proofs.Patches
import PromptGraph.Proofs.RoundTrip

/-!
# What the identity index holds

Nodes that come of a document go by the ids that it gives them; so the graph of every document is
`Identified`. The index of such a graph lists its nodes in order (`entries_ofGraph`), and the ids of
a title are those that it lists with it (`idsTitled_ofGraph`). It depends on the frame of the graph
only. So a workbench keeps the index of the graph that it holds, whatever commands it takes
(`catalogued_foldl_after`).
-/

namespace PromptGraph

open PromptGraph.Graph

variable {answers : String → Id (List InputSpec)}

/-! ## Graphs whose nodes go by their ids -/

/-- What a node is indexed by: what a document says of it, its id, its title and its type. -/
def Node.card (n : Node) : Option NodeIdentity × NodeId × Option String × String :=
  (n.identity, n.id, n.title, n.typeName)

theorem Node.card_eq_iff {n m : Node} : n.card = m.card ↔
    n.identity = m.identity ∧ n.id = m.id ∧ n.title = m.title ∧ n.typeName = m.typeName := by
  simp [card, Prod.ext_iff]

/-- If the node comes of a document, it goes by the id that the document gives it. -/
def Node.Named (n : Node) : Prop := ∀ i, n.identity = some i → i.fileId = n.id

/-- Nodes are found by their ids, also by those that documents give them. -/
structure Graph.Identified (g : Graph) : Prop where
  indexed : Indexed g
  named : ∀ n ∈ g.nodes, n.Named

namespace Graph

theorem Identified.empty : Identified empty := ⟨Indexed.empty, by rintro n ⟨⟩⟩

theorem indexed_frame {g : Graph} : Indexed g.frame ↔ Indexed g := by
  have hp (id : NodeId) : g.frame.position? id = g.position? id := rfl
  simp only [Indexed, hp, ids_frame]

theorem identified_frame {g : Graph} : g.frame.Identified ↔ g.Identified := by
  constructor
  · rintro ⟨hi, hn⟩
    exact ⟨indexed_frame.1 hi, fun n hmem => hn n.frame (List.mem_map_of_mem hmem)⟩
  · rintro ⟨hi, hn⟩
    refine ⟨indexed_frame.2 hi, fun m hm => ?_⟩
    obtain ⟨n, hmem, rfl⟩ := List.mem_map.1 hm
    exact hn n hmem

theorem card_of_mem_build {cs : List Change} {n : Node} (hn : n ∈ (build cs).nodes) :
    ∃ m, Change.add m ∈ cs ∧ n.card = m.card := by
  induction cs using List.reverseRecOn generalizing n with
  | nil => cases hn
  | append_singleton cs c ih =>
    have earlier {n : Node} (hn : n ∈ (build cs).nodes) :
        ∃ m, Change.add m ∈ cs ++ [c] ∧ n.card = m.card := by
      obtain ⟨m, hm, he⟩ := ih hn
      exact ⟨m, List.mem_append_left _ hm, he⟩
    have modified {f : Node → Node} (hf : ∀ m, (f m).card = m.card) {i : Nat}
        (hn : n ∈ (build cs).nodes.modify i f) :
        ∃ m, Change.add m ∈ cs ++ [c] ∧ n.card = m.card := by
      have hm := List.mem_map_of_mem (f := Node.card) hn
      rw [map_modify hf, List.mem_map] at hm
      obtain ⟨m, hm, he⟩ := hm
      exact he ▸ earlier hm
    have hfiled : Filed (build cs) := filed_build cs
    rw [build_append_singleton] at hn
    rcases hfiled.after_cases c with he | ⟨m, rfl, hm⟩ | ⟨e, position, slot, -, -, he, -⟩ |
      ⟨position, f, he⟩
    · exact earlier (he ▸ hn)
    · rw [Change.after, (hfiled.indexed.addNode_of_notMem hm).2, List.mem_append,
        List.mem_singleton] at hn
      rcases hn with hn | rfl
      · exact earlier hn
      · exact ⟨m, by simp, rfl⟩
    · rw [he, nodes_setConnection] at hn
      exact modified (by intro m; rfl) hn
    · rw [he] at hn
      exact modified (by intro m; rfl) hn

/-- Nodes that are taken from documents and put together anew keep their names. -/
theorem identified_build {cs : List Change} (hcs : ∀ n, Change.add n ∈ cs → n.Named) :
    (build cs).Identified := by
  refine ⟨(filed_build cs).indexed, fun n hn i hi => ?_⟩
  obtain ⟨m, hm, he⟩ := card_of_mem_build hn
  obtain ⟨hidentity, hid, -⟩ := Node.card_eq_iff.1 he
  exact (hcs m hm i (hidentity.symm.trans hi)).trans hid.symm

end Graph

namespace Loading

theorem identified_ofPrompt (p : Prompt) : (ofPrompt p).Identified := by
  refine ⟨(nodes_ofPrompt p).1, fun n hn i hi => ?_⟩
  obtain ⟨position, id, e, rfl⟩ := mem_ofPrompt hn
  obtain rfl := Option.some.inj hi
  rfl

theorem identified_ofEditor (o : Options) (d : EditorDocument) : (ofEditor o d).Identified := by
  refine ⟨indexed_ofEditor o d, fun n hn i hi => ?_⟩
  obtain ⟨r, position, -, he⟩ := eq_feedAll_of_mem_ofEditor hn
  rw [he] at hi
  obtain rfl := Option.some.inj hi
  rfl

theorem identified_ofJson (o : Options) (j : Json) : (ofJson o j).Identified := by
  unfold ofJson
  cases Document.ofJson j with
  | error e => exact .empty
  | ok d =>
    cases d with
    | editor d => exact identified_ofEditor o d
    | request p => exact identified_ofPrompt p

theorem exists_ofText_eq (o : Options) (s : String) : ∃ j, ofText o s = ofJson o j := by
  unfold ofText
  cases Json.parse? s with
  | none => exact ⟨.null, rfl⟩
  | some j => exact ⟨j, rfl⟩

theorem exists_ofFile_eq {o : Options} {files : FileTree} {path : String} {g : Graph}
    (h : ofFile o files path = .ok g) : ∃ j, g = ofJson o j := by
  unfold ofFile at h
  split at h
  · cases h
    exact exists_ofText_eq o _
  · cases h

end Loading

/-! ## The index of a graph -/

namespace IdentityIndex

theorem ofGraph_frame (g : Graph) : ofGraph g.frame = ofGraph g := by
  rw [ofGraph, frame, List.zipIdx_map, List.foldl_map]
  rfl

theorem entries_foldl_addNode (ns : List (Node × Nat)) (x : IdentityIndex) :
    (ns.foldl addNode x).entries = x.entries.insertAll (ns.map fun n => entryOf n.1 n.2) := by
  induction ns generalizing x with
  | nil => rfl
  | cons n ns ih => exact ih (x.addNode n)

theorem idsTitled_addNode (x : IdentityIndex) (n : Node × Nat) (title : String) :
    (x.addNode n).idsTitled title = x.idsTitled title ++
      (([entryOf n.1 n.2].filter fun e => e.2.title = some title).map Prod.fst) := by
  rw [idsTitled, addNode]
  cases ht : (entryOf n.1 n.2).2.title with
  | none => simp [ht, idsTitled]
  | some t =>
    by_cases he : t = title
    · subst he
      simp [ht, idsTitled, OrderedMap.upsert, OrderedMap.get?_insert]
    · simp [ht, idsTitled, OrderedMap.upsert, OrderedMap.get?_insert, he]

theorem idsTitled_foldl_addNode (ns : List (Node × Nat)) (x : IdentityIndex) (title : String) :
    (ns.foldl addNode x).idsTitled title = x.idsTitled title ++
      (((ns.map fun n => entryOf n.1 n.2).filter fun e => e.2.title = some title).map
        Prod.fst) := by
  induction ns generalizing x with
  | nil => simp
  | cons n ns ih =>
    rw [List.foldl_cons, ih, idsTitled_addNode, List.map_cons, List.append_assoc,
      ← List.map_append, ← List.filter_append]
    rfl

variable {g : Graph} (h : g.Identified)

include h

theorem fst_entryOf {n : Node} (hn : n ∈ g.nodes) (position : Nat) :
    (entryOf n position).1 = n.id := by
  unfold entryOf
  split
  · next i hi => exact h.named n hn i hi
  · rfl

theorem keys_map_entryOf :
    Entries.keys (g.nodes.zipIdx.map fun n => entryOf n.1 n.2) = g.ids := by
  rw [Entries.keys, List.map_map, Graph.ids]
  conv_rhs => rw [← List.zipIdx_map_fst 0 g.nodes, List.map_map]
  exact List.map_congr_left fun n hn => fst_entryOf h (List.fst_mem_of_mem_zipIdx hn) n.2

/-- **The index lists the nodes of the graph**, in order. -/
theorem entries_ofGraph :
    (ofGraph g).entries.entries = g.nodes.zipIdx.map fun n => entryOf n.1 n.2 := by
  have hnd : (Entries.keys (g.nodes.zipIdx.map fun n => entryOf n.1 n.2)).Nodup := by
    rw [keys_map_entryOf h]
    exact h.indexed.nodup
  rw [ofGraph, entries_foldl_addNode]
  exact OrderedMap.entries_ofList_of_nodup hnd

theorem keys_ofGraph : (ofGraph g).entries.keys = g.ids := by
  rw [OrderedMap.keys, entries_ofGraph h, keys_map_entryOf h]

theorem idsTitled_ofGraph (title : String) : (ofGraph g).idsTitled title =
    ((ofGraph g).entries.entries.filter fun e => e.2.title = some title).map Prod.fst := by
  rw [entries_ofGraph h, ofGraph, idsTitled_foldl_addNode]
  rfl

end IdentityIndex

/-! ## The index of a workbench -/

namespace Workbench

open Loading

/-- The workbenches differ in overrides and in how far they have come. -/
structure SameFrame (w w' : Workbench) : Prop where
  frame : w'.graph.frame = w.graph.frame
  index : w'.index = w.index

theorem SameFrame.refl (w : Workbench) : SameFrame w w := ⟨rfl, rfl⟩

theorem Patched.sameFrame {w w' : Workbench} (h : Patched answers w w') : SameFrame w w' :=
  ⟨h.graph.frame, h.index⟩

/-- **What a command does to the graph**: it takes up a graph of a document, or the one that it is
given, or keeps the frame of the graph that is there. -/
theorem after_cases (answers : String → Id (List InputSpec)) (w : Workbench) (c : Command) :
    SameFrame w (c.after answers w) ∨ ∃ g, ((∃ o j, g = ofJson o j) ∨ c = .adopt g) ∧
      SameFrame (w.adopt g) (c.after answers w) := by
  have hpatch (p : Patch) : SameFrame w (p.after answers w) := (patched_after w p).sameFrame
  cases c with
  | loadFile files path =>
    simp only [Command.after, Workbench.loadFile]
    cases hf : ofFile w.loading files path with
    | ok g =>
      obtain ⟨j, hj⟩ := exists_ofFile_eq hf
      exact .inr ⟨g, .inl ⟨_, j, hj⟩, .refl _⟩
    | error e => exact .inl (.refl w)
  | loadText text =>
    obtain ⟨j, hj⟩ := exists_ofText_eq w.loading text
    exact .inr ⟨_, .inl ⟨_, j, hj⟩, .refl _⟩
  | loadJson document => exact .inr ⟨_, .inl ⟨_, document, rfl⟩, .refl _⟩
  | adopt g => exact .inr ⟨g, .inr rfl, .refl _⟩
  | loadTemplate folder files id =>
    simp only [Command.after, Workbench.loadTemplate]
    cases folder.get files id with
    | ok t =>
      refine .inr ⟨_, .inl ⟨w.loading, t.document, rfl⟩, ?_⟩
      exact (patched_after (w.loadJson t.document) (.bundle t.defaults)).sameFrame
    | error e => exact .inl (.refl w)
  | setById id name value => exact .inl (hpatch (.byId id name value))
  | setByTitle title name value mode limit =>
    exact .inl (hpatch (.byTitle title name value mode limit))
  | setByType typeName params limit => exact .inl (hpatch (.byType typeName params limit))
  | apply bundle => exact .inl (hpatch (.bundle bundle))
  | parameters => exact .inl (.refl w)
  | prompt =>
    obtain ⟨stage, compiled, he⟩ := prompt_keeps answers w
    rw [Command.after, he]
    exact .inl ⟨rfl, rfl⟩
  | save files path =>
    obtain ⟨stage, compiled, he⟩ := save_keeps answers w files path
    rw [Command.after, he]
    exact .inl ⟨rfl, rfl⟩
  | execute run =>
    obtain ⟨stage, compiled, he⟩ := execute_keeps answers w run
    rw [Command.after, he]
    exact .inl ⟨rfl, rfl⟩

theorem SameFrame.index_eq {w w' : Workbench} (h : SameFrame w w')
    (hi : w.index = .ofGraph w.graph) : w'.index = .ofGraph w'.graph := by
  rw [h.index, hi, ← IdentityIndex.ofGraph_frame, ← h.frame, IdentityIndex.ofGraph_frame]

section

variable {P : Graph → Prop} (hP : ∀ {g}, P g.frame ↔ P g) (hdoc : ∀ o j, P (ofJson o j))

include hP hdoc

/-- What holds of the graphs of documents and depends on the frame is kept by every command, and so
is the index of the graph. -/
theorem framed_after {w : Workbench} (h : P w.graph ∧ w.index = .ofGraph w.graph) {c : Command}
    (hc : ∀ g, c = .adopt g → P g) :
    P (c.after answers w).graph ∧
      (c.after answers w).index = .ofGraph (c.after answers w).graph := by
  rcases after_cases answers w c with hf | ⟨g, hg, hf⟩
  · exact ⟨hP.1 (hf.frame ▸ hP.2 h.1), hf.index_eq h.2⟩
  · have hi : P g := by
      rcases hg with ⟨o, j, rfl⟩ | hg
      · exact hdoc o j
      · exact hc g hg
    exact ⟨hP.1 (hf.frame ▸ hP.2 hi), hf.index_eq rfl⟩

theorem framed_foldl_after {w : Workbench} (h : P w.graph ∧ w.index = .ofGraph w.graph)
    {cs : List Command} (hcs : ∀ g, Command.adopt g ∈ cs → P g) :
    P (cs.foldl (Command.after answers) w).graph ∧
      (cs.foldl (Command.after answers) w).index =
        .ofGraph (cs.foldl (Command.after answers) w).graph := by
  induction cs generalizing w with
  | nil => exact h
  | cons c cs ih =>
    refine ih (framed_after hP hdoc h fun g hg => ?_) fun g hg => hcs g (List.mem_cons_of_mem _ hg)
    exact hcs g (hg ▸ List.mem_cons_self)

end

/-- The index is that of the graph, whose nodes go by their ids. -/
structure Catalogued (w : Workbench) : Prop where
  graph : w.graph.Identified
  index : w.index = .ofGraph w.graph

theorem catalogued_new (loading : Options) (options : CompilerOptions) :
    Catalogued { loading, options } := ⟨.empty, rfl⟩

theorem Catalogued.of_sameFrame {w w' : Workbench} (h : w.Catalogued) (hf : SameFrame w w') :
    w'.Catalogued :=
  ⟨identified_frame.1 (hf.frame ▸ identified_frame.2 h.graph), hf.index_eq h.index⟩

theorem catalogued_foldl_after {w : Workbench} (h : w.Catalogued) {cs : List Command}
    (hcs : ∀ g, Command.adopt g ∈ cs → g.Identified) :
    (cs.foldl (Command.after answers) w).Catalogued := by
  have hkept : (cs.foldl (Command.after answers) w).graph.Identified ∧ _ :=
    framed_foldl_after identified_frame identified_ofJson ⟨h.graph, h.index⟩ hcs
  exact ⟨hkept.1, hkept.2⟩

end Workbench

end PromptGraph
