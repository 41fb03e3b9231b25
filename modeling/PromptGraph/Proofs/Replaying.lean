import PromptGraph.Proofs.EditorWiring
import PromptGraph.Proofs.LoadedGraph
import PromptGraph.Proofs.RoundTrip
import PromptGraph.Proofs.WrittenSlots

/-!
# Replayed edges

An edge can be replayed when connecting once more what it records changes nothing (`Replays`).
Loaders record slots by their numbers, while a node takes an output for a name first. So an edge of
a loaded graph can be replayed unless an output of its source goes by the number and has another
slot (`Overtaken`, `edges_replay_iff`). Outputs go by numbers in editor documents only, where they
are named so or have no name (`outputs_swap_on_replay`).
-/

namespace PromptGraph

theorem Edge.Single.perm_of_mem {es : List Edge} (h : Edge.Single es) {e : Edge} (he : e ∈ es) :
    ((es.filter fun a => !e.sameTarget a) ++ [e]).Perm es := by
  have hself : e.sameTarget e = true := Edge.sameTarget_iff.2 ⟨rfl, rfl⟩
  obtain ⟨a, before, after, hb, ha, hes, herase⟩ := List.exists_of_eraseP he hself
  obtain rfl : a = e := by
    rw [hes] at he h
    rcases List.mem_append.1 he with he | he
    · exact absurd hself (hb e he)
    · rcases List.mem_cons.1 he with he | he
      · exact he.symm
      · have hpair := (List.pairwise_cons.1 (List.pairwise_append.1 h).2.1).1 e he
        rw [Edge.sameTarget_comm] at hpair
        exact absurd ha hpair
  rw [← h.eraseP_eq, herase, hes]
  exact (List.perm_append_singleton _ _).trans List.perm_middle.symm

namespace Graph

/-- Connecting once more what the edge records changes nothing: its output stands for the slot that
its input is connected to. -/
structure Replays (g : Graph) (e : Edge) : Prop where
  slot : ∃ slot, g.Resolves e slot ∧
    ∃ n ∈ g.nodes, n.id = e.dest ∧ n.connections.get? e.input = some ⟨e.source, slot⟩
  kept : ∃ g', g.connect e.source e.output e.dest e.input = .ok g' ∧
    g'.nodes = g.nodes ∧ g'.edges.Perm g.edges

/-- An output of the edge's source goes by the number that the edge records, and has another. -/
def Overtaken (g : Graph) (e : Edge) : Prop :=
  ∃ origin ∈ g.nodes, origin.id = e.source ∧
    ∃ slot, origin.outputs.get? e.output = some slot ∧ toString slot ≠ e.output

variable {g : Graph}

/-- What resolves to the slot that is connected can be connected again. -/
theorem Indexed.replays (hi : Indexed g) (hs : Edge.Single g.edges) {e : Edge} (he : e ∈ g.edges)
    {slot : Nat} (hr : g.Resolves e slot) {n : Node} (hn : n ∈ g.nodes) (hd : n.id = e.dest)
    (hc : n.connections.get? e.input = some ⟨e.source, slot⟩) : g.Replays e := by
  refine ⟨⟨slot, hr, n, hn, hd, hc⟩, ?_⟩
  obtain ⟨origin, ho, hid, hslot⟩ := hr
  obtain ⟨position, hp⟩ := hi.mem_ids_iff.1 (List.mem_map_of_mem (f := Node.id) hn)
  rw [hd] at hp
  refine ⟨_, connect_eq_ok_iff.2
    ⟨origin, position, slot, hi.node?_eq_some_iff.2 ⟨ho, hid⟩, hp, hslot, rfl⟩, ?_, ?_⟩
  · rw [nodes_setConnection, hi.modify_eq_map hp]
    refine (List.map_congr_left fun m hm => ?_).trans (List.map_id' g.nodes)
    split
    · next hdest =>
      obtain rfl : m = n := List.inj_on_of_nodup_map hi.nodup hm hn (hdest.trans hd.symm)
      rw [Node.feed, OrderedMap.insert_of_get? hc]
    · rfl
  · exact (edges_recordEdge (g := g.modifyAt position _) hs e).trans (hs.perm_of_mem he)

/-- Where edges stand for connections to slots of 32 bits, an edge can be replayed unless another
output goes by its number. -/
theorem Consistent.replays_iff (h : g.Consistent) (hi : Indexed g) (hs : Edge.Single g.edges)
    (hlt : ∀ n ∈ g.nodes, ∀ input c, n.connections.get? input = some c → c.slot < Text.slotLimit)
    {e : Edge} (he : e ∈ g.edges) : g.Replays e ↔ ¬ g.Overtaken e := by
  obtain ⟨n, hn, ⟨source, slot⟩, hc, heq⟩ := mem_wiring.1 (h.edges.mem_iff.1 he)
  have hsource : e.source = source := congrArg Edge.source heq
  have hout : e.output = toString slot := congrArg Edge.output heq
  have hd : n.id = e.dest := (congrArg Edge.dest heq).symm
  obtain ⟨origin, ho, hid⟩ := List.mem_map.1 (h.closed n hn e.input _ hc)
  have hresolve : origin.outputSlot? e.output = (origin.outputs.get? e.output).or (some slot) := by
    rw [Node.outputSlot?, hout, Text.readSlot?_toString (hlt n hn e.input _ hc)]
  rw [← hsource] at hc hid
  have horigin {m : Node} (hm : m ∈ g.nodes) (hmid : m.id = e.source) : m = origin :=
    List.inj_on_of_nodup_map h.nodup hm ho (hmid.trans hid.symm)
  constructor
  · rintro hr ⟨m, hm, hmid, other, hget, hne⟩
    obtain ⟨slot', ⟨m', hm', hmid', hslot⟩, n', hn', hd', hc'⟩ := hr.slot
    obtain rfl := horigin hm hmid
    obtain rfl := horigin hm' hmid'
    obtain rfl : n' = n := List.inj_on_of_nodup_map h.nodup hn' hn (hd'.trans hd.symm)
    rw [hresolve, hget] at hslot
    cases hslot
    rw [hc] at hc'
    cases hc'
    exact hne hout.symm
  · intro hno
    have hr : g.Resolves e slot := by
      refine ⟨origin, ho, hid, ?_⟩
      rw [hresolve]
      cases hget : origin.outputs.get? e.output with
      | none => rfl
      | some other =>
        by_contra hne
        refine hno ⟨origin, ho, hid, other, hget, fun hother => hne ?_⟩
        rw [Text.toString_inj.1 (hother.trans hout)]
        rfl
    exact hi.replays hs he hr hn hd hc

end Graph

namespace Loading

open PromptGraph.Graph

variable {o : Options} {fields : Entries Json}

theorem ofJson_object (o : Options) (fields : Entries Json) : ofJson o (.object fields) =
    match Dialect.detect fields with
    | .editor => ofEditor o (.ofFields fields)
    | .request => ofPrompt (.ofFields fields) := by
  rw [ofJson, Document.ofJson, Document.ofFields]
  cases Dialect.detect fields <;> rfl

/-! ## Slots -/

theorem slot_lt_ofEditor {n : Node} (hn : n ∈ (ofEditor o (.ofFields fields)).nodes)
    {input : String} {c : Connection} (hc : n.connections.get? input = some c) :
    c.slot < Text.slotLimit := by
  obtain ⟨r, position, -, he⟩ := eq_feedAll_of_mem_ofEditor hn
  rw [he] at hc
  have hmem := OrderedMap.mem_of_mem_ofList (OrderedMap.mem_entries_iff.2 hc)
  obtain ⟨p, hp, hi⟩ := List.mem_filterMap.1 hmem
  split at hi
  · have hlt := slot_lt_of_mem_resolvedLinks hp
    rwa [Option.some.inj hi] at hlt
  · cases hi

theorem slot_lt_ofPrompt {p : Prompt} {n : Node} (hn : n ∈ (ofPrompt p).nodes) {input : String}
    {c : Connection} (hc : n.connections.get? input = some c) : c.slot < Text.slotLimit := by
  obtain ⟨position, id, e, rfl⟩ := mem_ofPrompt hn
  have hwired := (portable_loadedEntry p.ids position id e).wired
  exact (hwired _ (OrderedMap.mem_entries_iff.2 hc)).1.slot_lt

theorem slot_lt_ofJson (o : Options) (j : Json) : ∀ n ∈ (ofJson o j).nodes, ∀ input c,
    n.connections.get? input = some c → c.slot < Text.slotLimit := by
  intro n hn input c hc
  cases j with
  | object fields =>
    rw [ofJson_object] at hn
    cases hd : Dialect.detect fields with
    | editor => exact slot_lt_ofEditor (hd ▸ hn) hc
    | request => exact slot_lt_ofPrompt (hd ▸ hn) hc
  | _ => cases hn

/-! ## Outputs -/

/-- The outputs of a record by the names that they go by: an output without a name goes by the
number of its place, which is also its slot unless it declares another. -/
def namedOutputs (r : EditorNode) : Entries Nat :=
  r.outputs.zipIdx.map fun (o, slot) => (o.name.getD (toString slot), o.slotIndex.getD slot)

theorem get?_outputSlots (r : EditorNode) (name : String) :
    (outputSlots r).get? name = (namedOutputs r).get? name := by
  have h := OrderedMap.get?_foldl_insertNew (namedOutputs r) .empty name
  rw [namedOutputs, List.foldl_map] at h
  exact h

theorem overtaken_ofEditor_iff {e : Edge} : (ofEditor o (.ofFields fields)).Overtaken e ↔
    ∃ r, (shownRecords o fields).get? e.source = some r ∧
      ∃ slot, (namedOutputs r).get? e.output = some slot ∧ toString slot ≠ e.output := by
  rw [shownRecords_eq]
  constructor
  · rintro ⟨n, hn, hid, slot, hget, hne⟩
    obtain ⟨r, position, hr, he⟩ := eq_feedAll_of_mem_ofEditor hn
    have hout : n.outputs = outputSlots r := congrArg Node.outputs he
    exact ⟨r, hid ▸ hr, slot, by rwa [hout, get?_outputSlots] at hget, hne⟩
  · rintro ⟨r, hr, slot, hget, hne⟩
    have hid : e.source ∈ (ofEditor o (.ofFields fields)).ids := by
      rw [ids_ofEditor, (holds_loadedRecords o _).mem_ids_iff]
      exact Entries.get?_isSome_iff.1 (Option.isSome_iff_exists.2 ⟨r, hr⟩)
    obtain ⟨n, hn, hid⟩ := List.mem_map.1 hid
    obtain ⟨r', position, hr', he⟩ := eq_feedAll_of_mem_ofEditor hn
    rw [hid, hr] at hr'
    cases hr'
    have hout : n.outputs = outputSlots r := congrArg Node.outputs he
    exact ⟨n, hn, hid, slot, by rwa [hout, get?_outputSlots], hne⟩

theorem not_overtaken_ofPrompt {p : Prompt} {e : Edge} : ¬ (ofPrompt p).Overtaken e := by
  rintro ⟨n, hn, -, slot, hget, -⟩
  obtain ⟨position, id, entry, rfl⟩ := mem_ofPrompt hn
  cases hget

/-! ## Loaded graphs -/

/-- **Edges of loaded graphs can be replayed**, whatever the document and the types left out, unless
an output of the source goes by the number of the edge and has another slot. In request documents
there is none. In editor documents it is an output of the source's record, the first that has the
number for its name, or has no name and stands at the place of that number. -/
theorem edges_replay_iff (o : Options) (j : Json) :
    let g := ofJson o j
    (∀ e ∈ g.edges, g.Replays e ↔ ¬ g.Overtaken e) ∧
      ∀ fields e, j = .object fields →
        (Dialect.detect fields = .request → ¬ g.Overtaken e) ∧
        (Dialect.detect fields = .editor → (g.Overtaken e ↔
          ∃ r, (shownRecords o fields).get? e.source = some r ∧
            ∃ slot, (namedOutputs r).get? e.output = some slot ∧ toString slot ≠ e.output)) := by
  intro g
  have h : Assembled g := assembled_ofJson o j
  refine ⟨fun e he => ?_, ?_⟩
  · exact h.consistent.replays_iff h.indexed h.single (slot_lt_ofJson o j) he
  · rintro fields e rfl
    have hg : g = _ := ofJson_object o fields
    refine ⟨fun hd => ?_, fun hd => ?_⟩
    · rw [hg, hd]
      exact not_overtaken_ofPrompt
    · rw [hg, hd]
      exact overtaken_ofEditor_iff

/-- Two outputs without names have each other's places for slots: connected once more, the edge from
the one comes from the other. -/
theorem outputs_swap_on_replay :
    let loader : Json := .object [("id", .int 4), ("type", .text "Loader"),
      ("outputs", .array [.object [("slot_index", .int 1)], .object [("slot_index", .int 0)]])]
    let encoder : Json := .object [("id", .int 6), ("type", .text "Encoder"),
      ("inputs", .array [.object [("name", .text "clip")]])]
    let g := ofJson {} (.object [("nodes", .array [loader, encoder]),
      ("links", .array [.array [.int 1, .int 4, .int 0, .int 6, .int 0, .text "CLIP"]])])
    ¬ ∀ e ∈ g.edges, g.Replays e := by
  intro loader encoder g h
  have he : ⟨"4", "1", "6", "clip"⟩ ∈ g.edges := by decide +kernel
  obtain ⟨g', hc, hn, -⟩ := (h _ he).kept
  have hswapped : (g.connect "4" "1" "6" "clip").toOption.map (fun g =>
      g.nodes.map fun n => n.connections.entries) = some [[], [("clip", ⟨"4", 0⟩)]] := by
    decide +kernel
  have hloaded : g.nodes.map (fun n => n.connections.entries) = [[], [("clip", ⟨"4", 1⟩)]] := by
    decide +kernel
  rw [hc, Except.toOption, Option.map_some, hn, hloaded] at hswapped
  exact absurd hswapped (by decide)

end Loading

end PromptGraph
