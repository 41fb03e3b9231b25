import PromptGraph.Proofs.Building

/-!
# Edges and connections

`Mirrors reads carried g` relates the edges of `g` to the connections of its nodes: an input has at
most one edge, an edge stands for the connection of its input, where `reads` says which slot the
output of the edge is, and a connection without an edge is one that `carried` knows. Recording an
edge removes just the earlier one into the same input (`edges_recordEdge`), so every change keeps
edges and connections in step (`mirrors_build`).
-/

namespace PromptGraph

namespace Edge

theorem sameTarget_iff {a b : Edge} :
    a.sameTarget b = true ↔ a.dest = b.dest ∧ a.input = b.input := by
  simp [sameTarget]

theorem sameTarget_comm (a b : Edge) : a.sameTarget b = b.sameTarget a := by
  rw [Bool.eq_iff_iff, sameTarget_iff, sameTarget_iff, @eq_comm _ a.dest, @eq_comm _ a.input]

theorem sameTarget_of_common {e a b : Edge} (ha : e.sameTarget a = true)
    (hb : e.sameTarget b = true) : a.sameTarget b = true := by
  rw [sameTarget_iff] at *
  exact ⟨ha.1.symm.trans hb.1, ha.2.symm.trans hb.2⟩

/-- The last item fills the gap, so that only the order changes. -/
theorem swapRemove_perm {α : Type} {xs : List α} {i : Nat} (hi : i < xs.length) :
    (swapRemove xs i).Perm (xs.eraseIdx i) := by
  rcases List.eq_nil_or_concat xs with rfl | ⟨ys, last, rfl⟩
  · exact absurd hi (Nat.not_lt_zero i)
  · rw [List.concat_eq_append] at *
    have hs : swapRemove (ys ++ [last]) i = ((ys ++ [last]).set i last).dropLast := by
      simp [swapRemove]
    rw [hs]
    by_cases hlt : i < ys.length
    · rw [List.set_append, if_pos hlt, List.dropLast_concat, List.eraseIdx_append_of_lt_length hlt,
        List.set_eq_take_append_cons_drop, if_pos hlt, List.eraseIdx_eq_take_drop_succ]
      exact List.perm_middle.trans (List.perm_append_singleton _ _).symm
    · have he : i = ys.length := by
        rw [List.length_append, List.length_singleton] at hi
        omega
      rw [he, List.eraseIdx_append_of_length_le (Nat.le_refl _)]
      simp

/-- An input has at most one edge. -/
def Single (es : List Edge) : Prop := es.Pairwise fun a b => ¬ a.sameTarget b

/-- Where inputs have one edge, erasing the first edge into an input erases them all. -/
theorem Single.eraseP_eq {es : List Edge} (h : Single es) (e : Edge) :
    es.eraseP e.sameTarget = es.filter fun a => !e.sameTarget a := by
  induction es with
  | nil => rfl
  | cons a es ih =>
    obtain ⟨ha, hes⟩ := List.pairwise_cons.1 h
    by_cases he : e.sameTarget a
    · have hother : ∀ b ∈ es, (!e.sameTarget b) = true := by
        intro b hb
        rw [Bool.not_eq_true', Bool.eq_false_iff]
        exact fun hb' => ha b hb (sameTarget_of_common he hb')
      rw [List.eraseP_cons_of_pos he, List.filter_cons_of_neg (by simp [he]),
        List.filter_eq_self.2 hother]
    · rw [List.eraseP_cons_of_neg he, List.filter_cons_of_pos (by simp [he]), ih hes]

end Edge

namespace Graph

open Edge

/-- **Recording an edge** removes the earlier edge into the same input and no other. -/
theorem edges_recordEdge {g : Graph} (h : Single g.edges) (e : Edge) :
    (g.recordEdge e).edges.Perm (g.edges.filter (fun a => !e.sameTarget a) ++ [e]) := by
  refine List.Perm.append_right [e] ?_
  rw [← h.eraseP_eq, List.eraseP_eq_eraseIdx]
  cases hi : g.edges.findIdx? e.sameTarget with
  | none => exact .refl _
  | some i =>
    obtain ⟨hlt, -⟩ := List.findIdx?_eq_some_iff_getElem.1 hi
    exact swapRemove_perm hlt

theorem single_recordEdge {g : Graph} (h : Single g.edges) (e : Edge) :
    Single (g.recordEdge e).edges := by
  have hsymm : ∀ {a b : Edge}, ¬ a.sameTarget b → ¬ b.sameTarget a := by
    intro a b hab
    rwa [sameTarget_comm]
  refine ((edges_recordEdge h e).pairwise_iff hsymm).2 ?_
  refine List.pairwise_append.2 ⟨h.sublist List.filter_sublist, List.pairwise_singleton .., ?_⟩
  intro a ha b hb
  rw [List.mem_singleton.1 hb, sameTarget_comm]
  simpa using (List.mem_filter.1 ha).2

theorem mem_edges_recordEdge {g : Graph} (h : Single g.edges) {e a : Edge} :
    a ∈ (g.recordEdge e).edges ↔ a ∈ g.edges ∧ ¬ e.sameTarget a ∨ a = e := by
  rw [(edges_recordEdge h e).mem_iff]
  simp

/-! ## Edges and connections in step -/

/-- The edges of a graph stand for the connections of its nodes. -/
structure Mirrors (reads : Edge → Nat → Prop) (carried : NodeId → String → Connection → Prop)
    (g : Graph) : Prop where
  single : Single g.edges
  source : ∀ e ∈ g.edges, e.source ∈ g.ids
  /-- The connection of its input is what an edge says. -/
  dest : ∀ e ∈ g.edges, ∃ n ∈ g.nodes, n.id = e.dest ∧
    ∃ slot, reads e slot ∧ n.connections.get? e.input = some ⟨e.source, slot⟩
  /-- A connection has an edge unless it was there before. -/
  edge : ∀ n ∈ g.nodes, ∀ input c, n.connections.get? input = some c →
    carried n.id input c ∨ ∃ e ∈ g.edges, e.dest = n.id ∧ e.input = input

section

variable {reads reads' : Edge → Nat → Prop} {carried carried' : NodeId → String → Connection → Prop}
  {g : Graph}

theorem Mirrors.empty : Mirrors reads carried empty where
  single := List.Pairwise.nil
  source := by rintro e ⟨⟩
  dest := by rintro e ⟨⟩
  edge := by rintro n ⟨⟩

theorem Mirrors.mono (h : Mirrors reads carried g) (hr : ∀ e slot, reads e slot → reads' e slot)
    (hc : ∀ id input c, carried id input c → carried' id input c) : Mirrors reads' carried' g where
  single := h.single
  source := h.source
  dest := by
    intro e he
    obtain ⟨n, hn, hid, slot, hs, hget⟩ := h.dest e he
    exact ⟨n, hn, hid, slot, hr e slot hs, hget⟩
  edge := fun n hn input c hget => (h.edge n hn input c hget).imp_left (hc _ _ _)

theorem Mirrors.addNode (h : Mirrors reads carried g) (hi : Indexed g) {n : Node}
    (hn : n.id ∉ g.ids)
    (hc : ∀ input c, n.connections.get? input = some c → carried n.id input c) :
    Mirrors reads carried (Loading.addNode g n) := by
  obtain ⟨-, hnodes⟩ := hi.addNode_of_notMem hn
  have hedges : (Loading.addNode g n).edges = g.edges := by
    rw [Loading.addNode, add, hi.contains_eq_false hn]
    rfl
  refine ⟨hedges ▸ h.single, ?_, ?_, ?_⟩
  · intro e he
    rw [ids, hnodes, List.map_append]
    exact List.mem_append_left _ (h.source e (hedges ▸ he))
  · intro e he
    obtain ⟨m, hm, hrest⟩ := h.dest e (hedges ▸ he)
    exact ⟨m, hnodes ▸ List.mem_append_left _ hm, hrest⟩
  · intro m hm input c hget
    rw [hnodes] at hm
    rw [hedges]
    rcases List.mem_append.1 hm with hm | hm
    · exact h.edge m hm input c hget
    · rw [List.mem_singleton.1 hm] at hget ⊢
      exact .inl (hc input c hget)

theorem get?_connections_feed (n : Node) (dest : NodeId) (input other : String) (c : Connection) :
    (if n.id = dest then n.feed input c else n).connections.get? other =
      if n.id = dest ∧ input = other then some c else n.connections.get? other := by
  by_cases hd : n.id = dest
  · simp only [hd, if_true, true_and, Node.feed, OrderedMap.get?_insert]
  · simp only [hd, if_false, false_and]

theorem id_ite_feed (n : Node) (dest : NodeId) (input : String) (c : Connection) :
    (if n.id = dest then n.feed input c else n).id = n.id := by
  split <;> rfl

theorem Mirrors.setConnection (h : Mirrors reads carried g) (hi : Indexed g) {e : Edge}
    {position slot : Nat} (hs : e.source ∈ g.ids) (hd : g.position? e.dest = some position)
    (hr : reads e slot) :
    Mirrors reads carried (g.setConnection position e.input ⟨e.source, slot⟩ e) := by
  let g' := g.setConnection position e.input ⟨e.source, slot⟩ e
  have hnodes : g'.nodes = g.nodes.map fun n =>
      if n.id = e.dest then n.feed e.input ⟨e.source, slot⟩ else n :=
    hi.modify_eq_map hd _
  have hids : g'.ids = g.ids := ids_setConnection ..
  have hmem : ∀ a, a ∈ g'.edges ↔ a ∈ g.edges ∧ ¬ e.sameTarget a ∨ a = e :=
    fun a => mem_edges_recordEdge h.single
  refine ⟨single_recordEdge h.single e, ?_, ?_, ?_⟩
  · intro a ha
    rw [hids]
    rcases (hmem a).1 ha with ⟨ha, -⟩ | rfl
    · exact h.source a ha
    · exact hs
  · intro a ha
    rw [hnodes]
    rcases (hmem a).1 ha with ⟨ha, hne⟩ | rfl
    · obtain ⟨n, hn, hid, slot', hr', hget⟩ := h.dest a ha
      refine ⟨_, List.mem_map_of_mem hn, (id_ite_feed ..).trans hid, slot', hr', ?_⟩
      rw [get?_connections_feed, if_neg, hget]
      rintro ⟨hd', hin⟩
      exact hne (Edge.sameTarget_iff.2 ⟨hd'.symm.trans hid, hin⟩)
    · obtain ⟨n, hn, hid⟩ := List.mem_map.1 (hi.mem_ids_iff.2 ⟨position, hd⟩)
      refine ⟨_, List.mem_map_of_mem hn, (id_ite_feed ..).trans hid, slot, hr, ?_⟩
      rw [get?_connections_feed, if_pos ⟨hid, rfl⟩]
  · intro n' hn' input c hget
    rw [hnodes] at hn'
    obtain ⟨n, hn, rfl⟩ := List.mem_map.1 hn'
    rw [id_ite_feed]
    rw [get?_connections_feed] at hget
    split at hget
    · next heq => exact .inr ⟨e, (hmem e).2 (.inr rfl), heq.1.symm, heq.2⟩
    · next hne =>
      refine (h.edge n hn input c hget).imp_right ?_
      rintro ⟨a, ha, had, hai⟩
      refine ⟨a, (hmem a).2 (.inl ⟨ha, fun hst => hne ?_⟩), had, hai⟩
      obtain ⟨hd', hin⟩ := Edge.sameTarget_iff.1 hst
      exact ⟨(hd'.trans had).symm, hin.trans hai⟩

theorem Mirrors.modifyOverrides (h : Mirrors reads carried g) (i : Nat)
    (f : OrderedMap Json → OrderedMap Json) :
    Mirrors reads carried (g.modifyAt i fun n => { n with overrides := f n.overrides }) := by
  let g' := g.modifyAt i fun n => { n with overrides := f n.overrides }
  have hmap : g'.nodes.map (fun n => (n.id, n.connections)) =
      g.nodes.map fun n => (n.id, n.connections) :=
    map_modify (k := fun n : Node => (n.id, n.connections)) (by intro n; rfl) g.nodes i
  have hids : g'.ids = g.ids := map_modify (k := Node.id) (by intro n; rfl) g.nodes i
  refine ⟨h.single, fun e he => hids ▸ h.source e he, ?_, ?_⟩
  · intro e he
    obtain ⟨n, hn, hid, slot, hr, hget⟩ := h.dest e he
    have hm := List.mem_map_of_mem (f := fun n : Node => (n.id, n.connections)) hn
    rw [← hmap] at hm
    obtain ⟨n', hn', heq⟩ := List.mem_map.1 hm
    obtain ⟨hid', hconn⟩ := Prod.mk.inj heq
    exact ⟨n', hn', hid'.trans hid, slot, hr, hconn ▸ hget⟩
  · intro n' hn' input c hget
    have hm := List.mem_map_of_mem (f := fun n : Node => (n.id, n.connections)) hn'
    rw [hmap] at hm
    obtain ⟨n, hn, heq⟩ := List.mem_map.1 hm
    obtain ⟨hid, hconn⟩ := Prod.mk.inj heq
    exact hid ▸ h.edge n hn input c (hconn ▸ hget)

end

/-! ## Steps and runs -/

/-- An output of a node of the graph stands for a slot. -/
def Resolves (g : Graph) (e : Edge) (slot : Nat) : Prop :=
  ∃ origin ∈ g.nodes, origin.id = e.source ∧ origin.outputSlot? e.output = some slot

/-- A change recorded the edge for a slot: one that names an output, or one that names the slot. -/
def Recorded (cs : List Change) (e : Edge) (slot : Nat) : Prop :=
  .connect e.source e.output e.dest e.input ∈ cs ∧ (build cs).Resolves e slot ∨
    .wire e.dest e.input ⟨e.source, slot⟩ ∈ cs ∧ e.output = toString slot

/-- The node was taken up in the course of the changes, as it stands here. -/
def TakenUp (cs : List Change) (n : Node) : Prop :=
  ∃ earlier later, cs = earlier ++ .add n :: later ∧ n.id ∉ (build earlier).ids

/-- A node had the connection when it was taken up. -/
def Carried (cs : List Change) (id : NodeId) (input : String) (c : Connection) : Prop :=
  ∃ n, TakenUp cs n ∧ n.id = id ∧ n.connections.get? input = some c

theorem TakenUp.append {cs : List Change} {n : Node} (h : TakenUp cs n) (c : Change) :
    TakenUp (cs ++ [c]) n := by
  obtain ⟨earlier, later, rfl, hn⟩ := h
  exact ⟨earlier, later ++ [c], by simp, hn⟩

theorem Filed.labels_after {g : Graph} (h : Filed g) (c : Change) {n : Node} (hn : n ∈ g.nodes) :
    ∃ n' ∈ (c.after g).nodes, n'.labels = n.labels := by
  have hmodify : ∀ {f : Node → Node}, (∀ m, (f m).labels = m.labels) → ∀ i,
      ∃ n' ∈ g.nodes.modify i f, n'.labels = n.labels := by
    intro f hf i
    have hm := List.mem_map_of_mem (f := Node.labels) hn
    rwa [← map_modify hf g.nodes i, List.mem_map] at hm
  rcases h.after_cases c with he | ⟨m, rfl, hm⟩ | ⟨e, position, slot, -, -, he, -⟩ |
    ⟨position, f, he⟩
  · exact ⟨n, by rwa [he], rfl⟩
  · obtain ⟨-, hnodes⟩ := h.indexed.addNode_of_notMem hm
    rw [Change.after, hnodes]
    exact ⟨n, List.mem_append_left _ hn, rfl⟩
  · rw [he, nodes_setConnection]
    exact hmodify (by intro m; rfl) position
  · rw [he]
    exact hmodify (by intro m; rfl) position

theorem Filed.resolves_after {g : Graph} (h : Filed g) {e : Edge} {slot : Nat}
    (hr : g.Resolves e slot) (c : Change) : (c.after g).Resolves e slot := by
  obtain ⟨origin, hmem, hid, ho⟩ := hr
  obtain ⟨origin', hmem', hl⟩ := h.labels_after c hmem
  have hid' : origin'.id = origin.id := congrArg Node.Labels.id hl
  have hout : origin'.outputs = origin.outputs := congrArg Node.Labels.outputs hl
  refine ⟨origin', hmem', hid'.trans hid, ?_⟩
  rwa [Node.outputSlot?, hout]

/-- **Edges and connections stay in step**, whatever changes built the graph. -/
theorem mirrors_build (cs : List Change) : Mirrors (Recorded cs) (Carried cs) (build cs) := by
  induction cs using List.reverseRecOn with
  | nil => exact Mirrors.empty
  | append_singleton cs c ih =>
    have hf : Filed (build cs) := filed_build cs
    have hrec : ∀ e slot, Recorded cs e slot → Recorded (cs ++ [c]) e slot := by
      rintro e slot (⟨hm, hr⟩ | ⟨hm, hs⟩)
      · refine .inl ⟨List.mem_append_left _ hm, ?_⟩
        rw [build_append_singleton]
        exact hf.resolves_after hr c
      · exact .inr ⟨List.mem_append_left _ hm, hs⟩
    have hcar : ∀ id input k, Carried cs id input k → Carried (cs ++ [c]) id input k := by
      rintro id input k ⟨n, hn, hid, hget⟩
      exact ⟨n, hn.append c, hid, hget⟩
    have ih' := ih.mono hrec hcar
    rw [build_append_singleton]
    rcases hf.after_cases c with he | ⟨n, rfl, hn⟩ | ⟨e, position, slot, hs, hd, he, hc⟩ |
      ⟨position, f, he⟩
    · rwa [he]
    · refine ih'.addNode hf.indexed hn fun input k hget => ?_
      exact ⟨n, ⟨cs, [], rfl, hn⟩, rfl, hget⟩
    · rw [he]
      refine ih'.setConnection hf.indexed hs hd ?_
      rcases hc with ⟨rfl, hr⟩ | ⟨rfl, hslot⟩
      · refine .inl ⟨by simp, ?_⟩
        rw [build_append_singleton]
        exact hf.resolves_after hr _
      · exact .inr ⟨by simp, hslot⟩
    · rw [he]
      exact ih'.modifyOverrides position f

/-- **Edges mirror connections.** Whatever nodes are added and outputs connected, an input has at
most one edge, both ends of an edge are there, the connection of its input is the slot that its
output stands for, and a connection without an edge was there when its node was added. Connecting
once more replaces just the edge into the input, and sets just its connection. -/
theorem edges_mirror_connections (cs : List Change)
    (hw : ∀ dest input c, .wire dest input c ∉ cs) :
    let g := build cs
    Mirrors g.Resolves (Carried cs) g ∧
      ∀ source output dest input g', g.connect source output dest input = .ok g' →
        g'.edges.Perm ((g.edges.filter fun e => ¬ (e.dest = dest ∧ e.input = input)) ++
          [⟨source, output, dest, input⟩]) ∧
        ∃ slot, g.Resolves ⟨source, output, dest, input⟩ slot ∧
          g'.nodes = g.nodes.map fun n =>
            if n.id = dest then n.feed input ⟨source, slot⟩ else n := by
  intro g
  have h : Mirrors (Recorded cs) (Carried cs) g := mirrors_build cs
  have hi : Indexed g := (filed_build cs).indexed
  refine ⟨h.mono ?_ fun _ _ _ hc => hc, ?_⟩
  · rintro e slot (⟨-, hr⟩ | ⟨hm, -⟩)
    · exact hr
    · exact absurd hm (hw _ _ _)
  · intro source output dest input g' hc
    obtain ⟨origin, position, slot, hs, hd, ho, rfl⟩ := connect_eq_ok_iff.1 hc
    obtain ⟨hmem, hid⟩ := hi.node?_eq_some_iff.1 hs
    refine ⟨?_, slot, ⟨origin, hmem, hid, ho⟩, hi.modify_eq_map hd _⟩
    have he := edges_recordEdge h.single ⟨source, output, dest, input⟩
    have hf : g.edges.filter (fun a => !Edge.sameTarget ⟨source, output, dest, input⟩ a) =
        g.edges.filter fun e => ¬ (e.dest = dest ∧ e.input = input) := by
      refine List.filter_congr fun a _ => ?_
      simp [Edge.sameTarget, eq_comm]
    rwa [hf] at he

/-- A node with a connection of its own, a second node under its id, and an input that is connected
by name and then by number. -/
theorem edges_mirror_connections_reconnected :
    let encoder : Node := { Node.named "6" "CLIPTextEncode" with
      connections := .ofList [("mask", ⟨"99", 3⟩), ("clip", ⟨"99", 0⟩)] }
    let loader : Node := { Node.named "4" "CheckpointLoaderSimple" with
      outputs := .ofList [("MODEL", 0), ("CLIP", 1)] }
    let cs : List Change := [.add encoder, .add loader, .add (Node.named "6" "Other"),
      .connect "4" "CLIP" "6" "clip", .override "6" (·.insert "text" (.text "hi")),
      .connect "4" " +1 " "6" "width", .connect "4" "LATENT" "6" "text"]
    let g := build cs
    (∀ dest input c, Change.wire dest input c ∉ cs) ∧ Mirrors g.Resolves (Carried cs) g ∧
      ∃ g', g.connect "6" "0" "6" "clip" = .ok g' ∧
        g'.edges.Perm ((g.edges.filter fun e => ¬ (e.dest = "6" ∧ e.input = "clip")) ++
          [⟨"6", "0", "6", "clip"⟩]) := by
  intro encoder loader cs g
  have hw : ∀ dest input c, Change.wire dest input c ∉ cs := by simp [cs]
  have hs : (g.connect "6" "0" "6" "clip").toOption.isSome = true := by decide +kernel
  obtain ⟨g', hg⟩ := Option.isSome_iff_exists.1 hs
  obtain ⟨hm, hc⟩ := edges_mirror_connections cs hw
  exact ⟨hw, hm, g', eq_ok_of_toOption hg, (hc "6" "0" "6" "clip" g' (eq_ok_of_toOption hg)).1⟩

end Graph

end PromptGraph
