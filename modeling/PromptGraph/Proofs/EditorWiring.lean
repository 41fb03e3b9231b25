import PromptGraph.Loading.Basic
import PromptGraph.Proofs.LoadedEditor

/-!
# How an editor document is wired

`shownRecords` lists the records of a document that can be loaded, ids repeated as they come. A link
`Leads` from one of them into an input of another; of the links that lead into an input the last one
connects it (`editor_loads_exactly`).
-/

namespace PromptGraph.Loading

open PromptGraph.Graph

/-! ## Records -/

/-- The records of a document that decode, have an id and are not of the editor only. -/
def shownRecords (o : Options) (fields : Entries Json) : Entries EditorNode :=
  (EditorDocument.items fields "nodes").filterMap fun j =>
    (EditorNode.decode j).toOption.bind (visible? o)

theorem shownRecords_eq (o : Options) (fields : Entries Json) :
    shownRecords o fields = visibleRecords o (.ofFields fields) := by
  rw [shownRecords, visibleRecords, EditorDocument.ofFields, List.filterMap_filterMap]
  refine congrArg (List.filterMap · _) (funext fun j => ?_)
  unfold EditorDocument.node?
  cases EditorNode.decode j with
  | error e => rfl
  | ok r => cases hk : r.key? <;> simp [visible?, hk, Except.toOption]

/-! ## Links -/

/-- The link leads from a loaded record into the input `name` of the loaded record `id`, and asks
for the connection `c`. -/
structure Leads (rs : Entries EditorNode) (k : EditorLink) (id : NodeId) (name : String)
    (c : Connection) : Prop where
  target : k.target = id
  /-- The slot is declared; it names an input that has no name. -/
  input : ∃ r i, rs.get? id = some r ∧ r.inputs[k.targetSlot]? = some i ∧
    i.name.getD (toString k.targetSlot) = name
  /-- The connection has the index that the origin declares at the slot, or else the slot. -/
  origin : ∃ r, rs.get? k.origin = some r ∧
    c = ⟨k.origin, (r.outputs[k.originSlot]?.bind EditorOutput.slotIndex).getD k.originSlot⟩

theorem pendingOfLink?_eq_some_iff {records : OrderedMap EditorNode} {rs : Entries EditorNode}
    (h : ∀ id, records.get? id = rs.get? id) {k : EditorLink} {id : NodeId} {name : String}
    {c : Connection} : pendingOfLink? records k = some (id, name, c) ↔ Leads rs k id name c := by
  simp only [pendingOfLink?, h, Option.bind_eq_bind, Option.bind_eq_some_iff,
    EditorNode.inputName?, Option.map_eq_some_iff]
  constructor
  · rintro ⟨origin, ho, target, ht, _, ⟨i, hi, rfl⟩, hp⟩
    cases hp
    exact ⟨rfl, ⟨target, i, ht, hi, rfl⟩, origin, ho, rfl⟩
  · rintro ⟨rfl, ⟨target, i, ht, hi, rfl⟩, origin, ho, rfl⟩
    exact ⟨origin, ho, target, ht, _, ⟨i, hi, rfl⟩, rfl⟩

/-- What a link feeds the node with an id. -/
def fed? (records : OrderedMap EditorNode) (id : NodeId) (k : EditorLink) :
    Option (String × Connection) :=
  (pendingOfLink? records k).bind fun p => if p.1 = id then some p.2 else none

theorem fed?_eq_some_iff {records : OrderedMap EditorNode} {rs : Entries EditorNode}
    (h : ∀ id, records.get? id = rs.get? id) {k : EditorLink} {id : NodeId} {name : String}
    {c : Connection} : fed? records id k = some (name, c) ↔ Leads rs k id name c := by
  rw [← pendingOfLink?_eq_some_iff h, fed?]
  cases pendingOfLink? records k with
  | none => simp
  | some p => simp [Prod.ext_iff]

/-- Links come from loaded records only, so that none of what they ask for is dropped. -/
theorem Loaded.Holds.incoming_eq {l : Loaded} {shown : Entries EditorNode} (h : l.Holds shown)
    (id : NodeId) (links : List EditorLink) :
    incoming l.graph.ids id (links.filterMap (pendingOfLink? l.records)) =
      links.filterMap (fed? l.records id) := by
  rw [incoming, List.filterMap_filterMap]
  refine congrArg (List.filterMap · links) (funext fun k => ?_)
  rw [fed?]
  cases hp : pendingOfLink? l.records k with
  | none => rfl
  | some p =>
    obtain ⟨r, hr, hc⟩ := ((pendingOfLink?_eq_some_iff h.record).1 hp).origin
    have hmem : p.2.2.source ∈ l.graph.ids := by
      rw [hc, h.mem_ids_iff]
      exact Entries.get?_isSome_iff.1 (Option.isSome_iff_exists.2 ⟨r, hr⟩)
    simp only [Option.bind_some, hmem, and_true]

/-! ## Documents -/

section

variable {o : Options} {d : EditorDocument} {n : Node}

theorem connections_of_mem_ofEditor (hn : n ∈ (ofEditor o d).nodes) :
    n.connections = .ofList (d.links.filterMap (fed? (loadedRecords o d).records n.id)) := by
  have h := holds_loadedRecords o d
  obtain ⟨r, position, -, he⟩ := eq_feedAll_of_mem_ofEditor hn
  rw [ids_ofEditor, resolvedLinks, h.incoming_eq] at he
  exact congrArg Node.connections he

theorem isSome_connection_iff (hn : n ∈ (ofEditor o d).nodes) {name : String} :
    (n.connections.get? name).isSome ↔
      ∃ k ∈ d.links, ∃ c, Leads (visibleRecords o d) k n.id name c := by
  have hrec := (holds_loadedRecords o d).record
  rw [OrderedMap.get?_isSome_iff, connections_of_mem_ofEditor hn, OrderedMap.ofList,
    OrderedMap.mem_keys_insertAll, OrderedMap.keys_empty, Entries.keys, List.mem_map]
  constructor
  · rintro (hnil | ⟨p, hp, rfl⟩)
    · cases hnil
    · obtain ⟨k, hk, hf⟩ := List.mem_filterMap.1 hp
      exact ⟨k, hk, p.2, (fed?_eq_some_iff hrec).1 hf⟩
  · rintro ⟨k, hk, c, hl⟩
    exact .inr ⟨(name, c), List.mem_filterMap.2 ⟨k, hk, (fed?_eq_some_iff hrec).2 hl⟩, rfl⟩

theorem connection_eq_some_iff (hn : n ∈ (ofEditor o d).nodes) {name : String} {c : Connection} :
    n.connections.get? name = some c ↔ ∃ before k after,
      d.links = before ++ k :: after ∧ Leads (visibleRecords o d) k n.id name c ∧
        ∀ k' ∈ after, ∀ c', ¬ Leads (visibleRecords o d) k' n.id name c' := by
  rw [connections_of_mem_ofEditor hn, OrderedMap.get?_ofList_filterMap_eq_some_iff]
  simp only [ne_eq, fed?_eq_some_iff (holds_loadedRecords o d).record]

end

/-- **Loading an editor document, exactly.** Whatever its fields and whatever is shown in the editor
only, the loaded ids are those of the records that are shown, each at its first place; the node of
an id is, but for its connections, that of the first record; an input is connected when some link
leads into it, and then the last such link connects it. -/
theorem editor_loads_exactly (o : Options) (fields : Entries Json) :
    let g := ofEditor o (.ofFields fields)
    let rs := shownRecords o fields
    let links := (EditorDocument.items fields "links").filterMap EditorLink.ofJson?
    (Dialect.detect fields = .editor → ofJson o (.object fields) = g) ∧
      g.ids = rs.keys.eraseDups ∧
      ∀ n ∈ g.nodes,
        (∃ r position, rs.get? n.id = some r ∧
          { n with connections := .empty } = nodeOfRecord position n.id r) ∧
        ∀ name,
          ((n.connections.get? name).isSome ↔ ∃ k ∈ links, ∃ c, Leads rs k n.id name c) ∧
          ∀ c, n.connections.get? name = some c ↔ ∃ before k after,
            links = before ++ k :: after ∧ Leads rs k n.id name c ∧
              ∀ k' ∈ after, ∀ c', ¬ Leads rs k' n.id name c' := by
  intro g rs links
  have hrs : rs = visibleRecords o (.ofFields fields) := shownRecords_eq o fields
  refine ⟨fun hd => ?_, ?_, fun n hn => ⟨?_, fun name => ?_⟩⟩
  · rw [ofJson, Document.ofJson, Document.ofFields, hd]
    rfl
  · rw [hrs]
    exact (ids_ofEditor o _).trans (holds_loadedRecords o _).ids
  · obtain ⟨r, position, hr, he⟩ := eq_feedAll_of_mem_ofEditor hn
    refine ⟨r, position, hrs ▸ hr, ?_⟩
    rw [he]
    rfl
  · rw [hrs]
    exact ⟨isSome_connection_iff hn, fun c => connection_eq_some_iff hn⟩

/-- The note does not take the id 6, and the second record with this id is left out. The later link
into `clip` connects it, at the index that its origin declares; the links that follow lead into a
slot that is not declared and from a record that is not there. -/
example :
    let loader : Json := .object [("id", .int 4), ("type", .text "Loader"), ("outputs", .array
      [.object [("name", .text "MODEL")],
        .object [("name", .text "CLIP"), ("slot_index", .int 5)]])]
    let encoder : Json := .object [("id", .int 6), ("type", .text "Encoder"), ("inputs", .array
      [.object [("name", .text "clip")], .object []])]
    let fields : Entries Json := [
      ("nodes", .array [.object [("id", .int 6), ("type", .text "Note")], loader, encoder,
        .object [("id", .text "6"), ("type", .text "Loader")]]),
      ("links", .array [
        .array [.int 1, .int 4, .int 0, .int 6, .int 0],
        .array [.int 2, .int 4, .int 7, .int 6, .int 1],
        .array [.int 3, .int 4, .int 1, .int 6, .int 0],
        .array [.int 4, .int 4, .int 0, .int 6, .int 2],
        .array [.int 5, .int 9, .int 0, .int 6, .int 0]])]
    (ofEditor {} (.ofFields fields)).nodes.map (fun n => (n.id, n.connections.entries)) =
      [("4", []), ("6", [("clip", ⟨"4", 5⟩), ("1", ⟨"4", 7⟩)])] := by
  decide +kernel

end PromptGraph.Loading
