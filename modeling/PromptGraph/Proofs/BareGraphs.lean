import PromptGraph.Proofs.LoadedGraph
import PromptGraph.Proofs.RoundTrip
import PromptGraph.Proofs.Validity

/-!
# Payloads of bare graphs

A node is `Bare` when it has neither widget values nor overrides, and a graph that is built of such
nodes by adding and connecting has bare nodes only (`bare_build`). What is compiled of it is a
request document again exactly when its ids are `Dialect.Unmarked`, and then the nodes that are
loaded are wired as they were, save from the node with the empty id (`payload_read_back`). A marked
id is taken for a part of the document (`payload_not_read_back`).
-/

namespace PromptGraph

open Compiler PromptGraph.Graph

/-! ## Bare nodes -/

/-- The node has no parameters of its own; its slots are numbers of 32 bits. -/
structure Node.Bare (n : Node) : Prop where
  values : n.values = []
  overrides : n.overrides = .empty
  slots : ∀ i ∈ n.connections.entries, i.2.slot < Text.slotLimit
  outputs : ∀ i ∈ n.outputs.entries, i.2 < Text.slotLimit

namespace Node.Bare

variable {n : Node} (h : n.Bare)

include h

theorem outputSlot?_lt {output : String} {slot : Nat} (ho : n.outputSlot? output = some slot) :
    slot < Text.slotLimit := by
  rcases Option.or_eq_some_iff.1 ho with hd | ⟨-, hr⟩
  · exact h.outputs _ (OrderedMap.mem_entries_iff.2 hd)
  · obtain ⟨-, hlt⟩ := Option.filter_eq_some_iff.1 hr
    exact of_decide_eq_true hlt

theorem feed {c : Connection} (hc : c.slot < Text.slotLimit) (input : String) :
    (n.feed input c).Bare where
  values := h.values
  overrides := h.overrides
  slots := by
    intro i hi
    rcases OrderedMap.mem_of_mem_insert hi with rfl | hi
    · exact hc
    · exact h.slots i hi
  outputs := h.outputs

theorem ofJson?_finalLiterals {o : CompilerOptions} {specs : List InputSpec} {p : String × Json}
    (hp : p ∈ (finalLiterals o specs n).entries) : Connection.ofJson? p.2 = none := by
  rcases mem_finalLiterals hp with hp | hp
  · rw [h.overrides] at hp
    cases hp
  · exact Connection.ofJson?_of_isScalar hp

theorem wiredInputs_entry (o : CompilerOptions) (specs : List InputSpec) :
    Loading.wiredInputs (entry o specs n) =
      n.connections.entries.filter fun i => i.2.source ≠ "" := by
  have hk : ∀ k ∈ n.overrides.keys, k ∉ n.connections.keys := by
    rw [h.overrides]
    rintro k ⟨⟩
  rw [Loading.wiredInputs_entry_eq hk fun p hp => h.ofJson?_finalLiterals hp,
    ← List.filterMap_eq_filter]
  refine List.filterMap_congr fun i hi => ?_
  rw [Connection.ofJson?_toJson_of_slot (h.slots i hi)]
  by_cases hs : i.2.source = "" <;> simp [hs, Option.guard]

end Node.Bare

namespace Graph

/-- The change adds a bare node or connects nodes. -/
def Change.Bare : Change → Prop
  | add n => n.Bare
  | connect .. => True
  | _ => False

theorem bare_build {cs : List Change} (hcs : ∀ c ∈ cs, c.Bare) :
    ∀ n ∈ (build cs).nodes, n.Bare := by
  induction cs using List.reverseRecOn with
  | nil => rintro n ⟨⟩
  | append_singleton cs c ih =>
    rw [List.forall_mem_append, List.forall_mem_singleton] at hcs
    have ih := ih hcs.1
    have hf : Filed (build cs) := filed_build cs
    rw [build_append_singleton]
    cases c with
    | add m =>
      by_cases hm : m.id ∈ (build cs).ids
      · rwa [Change.after, Loading.addNode, hf.indexed.add_of_mem hm]
      · have hb : m.Bare := hcs.2
        rw [Change.after, (hf.indexed.addNode_of_notMem hm).2, List.forall_mem_append,
          List.forall_mem_singleton]
        exact ⟨ih, hb.values, hb.overrides, hb.slots, hb.outputs⟩
    | connect source output dest input =>
      cases hc : (build cs).connect source output dest input with
      | error e => rwa [Change.after, hc]
      | ok g' =>
        obtain ⟨origin, position, slot, hs, hd, ho, rfl⟩ := connect_eq_ok_iff.1 hc
        have hlt := (ih origin (hf.indexed.node?_eq_some_iff.1 hs).1).outputSlot?_lt ho
        rw [Change.after, hc]
        show ∀ n ∈ (Graph.setConnection ..).nodes, n.Bare
        rw [nodes_setConnection, hf.indexed.modify_eq_map hd, List.forall_mem_map]
        intro n hn
        split
        · exact (ih n hn).feed hlt input
        · exact ih n hn
    | wire => exact hcs.2.elim
    | override => exact hcs.2.elim
    | assign => exact hcs.2.elim

end Graph

/-! ## Reading back -/

/-- A payload is a request document, and the same one, when no id is taken for something else. -/
theorem Document.ofJson_toJson_iff {p : Prompt} (hne : p.ids ≠ []) :
    Document.ofJson p.toJson = .ok (.request p) ↔ Dialect.Unmarked p.ids := by
  rw [Prompt.toJson_eq, Document.ofJson, Document.ofFields]
  constructor
  · intro h
    cases hd : Dialect.detect p.fields with
    | editor =>
      rw [hd] at h
      cases h
    | request =>
      rw [hd] at h
      have hp : Prompt.ofFields p.fields = p := by
        injection h with h
        injection h
      exact hp ▸ Prompt.unmarked_ofFields hd
  · intro hu
    rw [Prompt.detect_fields hu hne]
    dsimp only
    rw [Prompt.ofFields_fields fun id hid => (hu id hid).2.2]

/-- **What is compiled of a bare graph is read back** exactly when its ids are unmarked; the graph
that is loaded has the same ids in the same order, and each node the same connections but for
those from the empty id. -/
theorem payload_read_back {m : Type → Type} [Monad m] [LawfulMonad m]
    (lookup : String → m (List InputSpec)) {o : CompilerOptions} (ho : o.strict = false)
    (loading : Loading.Options) {cs : List Change} (hcs : ∀ c ∈ cs, c.Bare)
    (hv : (build cs).validate = .ok ()) :
    let g := build cs
    ∃ p, compile lookup o g = pure (.ok p) ∧
      (Document.ofJson p.toJson = .ok (.request p) ↔ Dialect.Unmarked g.ids) ∧
      (Dialect.Unmarked g.ids →
        (Loading.ofJson loading p.toJson).ids = g.ids ∧
        List.Forall₂ (fun n n' => n'.id = n.id ∧ n'.connections.entries =
            n.connections.entries.filter fun i => i.2.source ≠ "") g.nodes
          (Loading.ofJson loading p.toJson).nodes) := by
  intro g
  have hi : Indexed g := (filed_build cs).indexed
  have hb : ∀ n ∈ g.nodes, n.Bare := bare_build hcs
  have hids := ids_payload hi.nodup o fun _ => []
  have hne : g.ids ≠ [] := by
    have he : g.nodes.isEmpty = false := (validate_eq_ok_iff.1 hv).1
    simpa [Graph.ids] using he
  refine ⟨payload o (fun _ => []) g,
    compile_eq ho fun n hn => specsOf_of_values_eq_nil (hb n hn).values,
    hids ▸ Document.ofJson_toJson_iff (hids ▸ hne), fun hu => ?_⟩
  obtain ⟨-, hn⟩ := hi.loaded_payload hu o (fun _ => []) loading
  have hnodes : List.Forall₂ (fun n n' => n'.id = n.id ∧ n'.connections.entries =
      n.connections.entries.filter fun i => i.2.source ≠ "") g.nodes
      (Loading.ofJson loading (payload o (fun _ => []) g).toJson).nodes := by
    rw [List.forall₂_iff_get] at hn ⊢
    refine ⟨hn.1, fun i h₁ h₂ => ?_⟩
    have hmem : g.nodes.get ⟨i, h₁⟩ ∈ g.nodes := List.getElem_mem h₁
    obtain ⟨position, he⟩ := hn.2 i h₁ h₂
    rw [he]
    refine ⟨rfl, ?_⟩
    have hr : Loading.resolvedInputs g.ids (entry o [] (g.nodes.get ⟨i, h₁⟩)) =
        (g.nodes.get ⟨i, h₁⟩).connections.entries.filter fun i => i.2.source ≠ "" := by
      rw [Loading.resolvedInputs, (hb _ hmem).wiredInputs_entry, List.filter_eq_self]
      intro c hc
      exact decide_eq_true (hi.source_mem_of_validate hv hmem (List.mem_of_mem_filter hc))
    show (OrderedMap.ofList (Loading.resolvedInputs g.ids _)).entries = _
    rw [hr]
    refine OrderedMap.entries_ofList_of_nodup ?_
    exact (g.nodes.get ⟨i, h₁⟩).connections.nodup.sublist (List.filter_sublist.map _)
  exact ⟨ids_of_forall₂ (hnodes.imp fun _ _ h => h.1), hnodes⟩

/-- The node with the empty id feeds a loader and the wired prefix of a save node, and one id is
given twice. -/
theorem payload_read_back_of_sampler :
    let loader : Node := { Node.named "4" "CheckpointLoaderSimple" with
      outputs := .ofList [("MODEL", 0), ("CLIP", 1)] }
    let save : Node := { Node.named "9" "SaveImage" with
      title := some "", connections := .ofList [("filename_prefix", ⟨"", 3⟩), ("images", ⟨"", 1⟩)] }
    let cs : List Change := [.add (Node.named "" "Primitive"), .add loader, .add save,
      .add (Node.named "4" "Other"), .connect "4" "CLIP" "9" "images", .connect "" " +2" "4" "name"]
    let g := build cs
    (∀ c ∈ cs, c.Bare) ∧ g.validate = .ok () ∧ Dialect.Unmarked g.ids ∧
      ∃ p, compile (Session.inputs (.live "http://localhost:1" 0)) {} g = pure (.ok p) ∧
        Document.ofJson p.toJson = .ok (.request p) ∧ (Loading.ofJson {} p.toJson).ids = g.ids ∧
        List.Forall₂ (fun n n' => n'.id = n.id ∧ n'.connections.entries =
            n.connections.entries.filter fun i => i.2.source ≠ "") g.nodes
          (Loading.ofJson {} p.toJson).nodes := by
  intro loader save cs g
  have hb : ∀ c ∈ cs, c.Bare := by
    simp only [cs, List.forall_mem_cons, Change.Bare]
    refine ⟨⟨rfl, rfl, ?_, ?_⟩, ⟨rfl, rfl, ?_, ?_⟩, ⟨rfl, rfl, ?_, ?_⟩, ⟨rfl, rfl, ?_, ?_⟩, trivial,
      trivial, List.forall_mem_nil _⟩ <;> decide
  have hg : g.isEmpty = false ∧ g.danglingRefs = [] ∧ Ordered g.feeders := by decide +kernel
  have hu : Dialect.Unmarked g.ids := by
    have hids : g.ids = ["", "4", "9"] := by decide +kernel
    rw [hids]
    unfold Dialect.Unmarked
    decide
  have hv : g.validate = .ok () := validate_of_ordered hg.1 hg.2.1 hg.2.2
  obtain ⟨p, hp, hr, hn⟩ := payload_read_back (o := {})
    (Session.inputs (.live "http://localhost:1" 0)) rfl {} hb hv
  exact ⟨hb, hv, hu, p, hp, hr.2 hu, hn hu⟩

/-- A node under a key that means something else in a document is not read back, nor is a
connection from the node with the empty id. -/
theorem payload_not_read_back :
    let answers : String → Id (List InputSpec) := fun _ => pure []
    (∀ id ∈ ["nodes", "links", "_defaults"],
      let g := build [.add (Node.named id "KSampler")]
      g.validate = .ok () ∧ ∃ p, (compile answers {} g).run = .ok p ∧
        (Document.ofJson p.toJson).toOption.map Document.dialect = some .editor ∧
        g.ids = [id] ∧ (Loading.ofJson {} p.toJson).ids = []) ∧
    let g := build [.add (Node.named "" "CheckpointLoaderSimple"),
      .add (Node.named "6" "CLIPTextEncode"), .connect "" "1" "6" "clip"]
    g.validate = .ok () ∧ ∃ p, (compile answers {} g).run = .ok p ∧
      (g.node? "6").map Node.connections = some (.ofList [("clip", ⟨"", 1⟩)]) ∧
      ((Loading.ofJson {} p.toJson).node? "6").map Node.connections = some .empty := by
  intro answers
  have hc : ∀ g : Graph, (∀ n ∈ g.nodes, n.values = []) →
      (compile answers {} g).run = .ok (payload {} (fun _ => []) g) := fun g hg =>
    compile_eq rfl fun n hn => specsOf_of_values_eq_nil (hg n hn)
  have hmarked : ∀ id ∈ ["nodes", "links", "_defaults"],
      let g := build [.add (Node.named id "KSampler")]
      (∀ n ∈ g.nodes, n.values = []) ∧ g.isEmpty = false ∧ g.danglingRefs = [] ∧
        Ordered g.feeders ∧ (Document.ofJson (payload {} (fun _ => []) g).toJson).toOption.map
          Document.dialect = some .editor ∧
        g.ids = [id] ∧ (Loading.ofJson {} (payload {} (fun _ => []) g).toJson).ids = [] := by
    decide +kernel
  refine ⟨fun id hid => ?_, ?_⟩
  · obtain ⟨hvals, he, hd, ho, hdoc, hids, hload⟩ := hmarked id hid
    exact ⟨validate_of_ordered he hd ho, _, hc _ hvals, hdoc, hids, hload⟩
  · intro g
    have hg : (∀ n ∈ g.nodes, n.values = []) ∧ g.isEmpty = false ∧ g.danglingRefs = [] ∧
        Ordered g.feeders := by decide +kernel
    have hwired : (g.node? "6").map Node.connections = some (.ofList [("clip", ⟨"", 1⟩)]) ∧
        ((Loading.ofJson {} (payload {} (fun _ => []) g).toJson).node? "6").map Node.connections =
          some .empty := by decide +kernel
    obtain ⟨hvals, he, hd, ho⟩ := hg
    exact ⟨validate_of_ordered he hd ho, _, hc g hvals, hwired⟩

end PromptGraph
