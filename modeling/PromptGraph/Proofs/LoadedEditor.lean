import PromptGraph.Loading.Editor
import PromptGraph.Proofs.Decoding
import PromptGraph.Proofs.Positions

/-!
# The graph of an editor document

`visibleRecords` lists the records of a document that can be loaded. Each record that is read adds
at most one to what is loaded, and the first of an id stays (`Loaded.Holds.addRecord`). So a node of
the loaded graph is the node of the first record of its id, wired to what the links into it resolve
to (`eq_feedAll_of_mem_ofEditor`).
-/

namespace PromptGraph.Loading

open PromptGraph.Graph

/-! ## Records -/

/-- The record, under its id, unless only the editor shows it. -/
def visible? (o : Options) (r : EditorNode) : Option (NodeId × EditorNode) :=
  if o.editorOnly.contains r.resolvedType then none else r.key?.map fun id => (id, r)

/-- The records of a document that can be loaded, ids repeated as they come. -/
def visibleRecords (o : Options) (d : EditorDocument) : Entries EditorNode :=
  d.nodes.filterMap (visible? o)

theorem of_get?_visibleRecords {o : Options} {d : EditorDocument} {id : NodeId} {r : EditorNode}
    (h : (visibleRecords o d).get? id = some r) : r ∈ d.nodes ∧ r.key? = some id := by
  obtain ⟨s, hs, hv⟩ := List.mem_filterMap.1 (Entries.mem_of_get? h)
  unfold visible? at hv
  split at hv
  · cases hv
  · obtain ⟨id', hk, he⟩ := Option.map_eq_some_iff.1 hv
    cases he
    exact ⟨hs, hk⟩

/-- What is loaded of the records that are shown: of each id the first. -/
structure Loaded.Holds (l : Loaded) (shown : Entries EditorNode) : Prop where
  indexed : Indexed l.graph
  ids : l.graph.ids = shown.keys.eraseDups
  record : ∀ id, l.records.get? id = shown.get? id
  node : ∀ n ∈ l.graph.nodes, ∃ r position, shown.get? n.id = some r ∧
    n = nodeOfRecord position n.id r

namespace Loaded

variable {o : Options} {l : Loaded} {shown : Entries EditorNode}

theorem Holds.empty : Holds {} [] where
  indexed := Indexed.empty
  ids := rfl
  record := fun _ => rfl
  node := by rintro n ⟨⟩

theorem Holds.mem_ids_iff (h : l.Holds shown) {id : NodeId} :
    id ∈ l.graph.ids ↔ id ∈ shown.keys := by
  rw [h.ids, List.mem_eraseDups]

/-- A record whose id is taken adds nothing. -/
theorem Holds.taken (h : l.Holds shown) {id : NodeId} (r : EditorNode) (hid : id ∈ l.graph.ids) :
    l.Holds (shown ++ [(id, r)]) where
  indexed := h.indexed
  ids := by
    rw [Entries.keys_append, Entries.keys_cons, Entries.keys_nil, eraseDups_append_singleton,
      if_pos (h.mem_ids_iff.1 hid), h.ids]
  record := fun other => by
    rw [h.record, Entries.get?_append_singleton_of_mem (h.mem_ids_iff.1 hid)]
  node := by
    intro n hn
    obtain ⟨s, position, hs, he⟩ := h.node n hn
    exact ⟨s, position,
      (Entries.get?_append_singleton_of_mem (h.mem_ids_iff.1 hid) _).trans hs, he⟩

theorem Holds.added (h : l.Holds shown) {id : NodeId} (r : EditorNode) (hid : id ∉ l.graph.ids)
    {g : Graph} (hg : Indexed g) {position : Nat}
    (hn : g.nodes = l.graph.nodes ++ [nodeOfRecord position id r]) :
    Holds ⟨g, l.records.insert id r⟩ (shown ++ [(id, r)]) := by
  have hnew : shown.get? id = none := Entries.get?_eq_none_iff.2 (mt h.mem_ids_iff.2 hid)
  refine ⟨hg, ?_, fun other => ?_, fun n hmem => ?_⟩
  · rw [Entries.keys_append, Entries.keys_cons, Entries.keys_nil, eraseDups_append_singleton,
      if_neg (mt h.mem_ids_iff.2 hid), ← h.ids, Graph.ids, hn, List.map_append]
    rfl
  · rw [OrderedMap.get?_insert, Entries.get?_append, Entries.get?_cons, Entries.get?_nil, h.record]
    split
    · next he => rw [← he, hnew, Option.none_or]
    · rw [Option.or_none]
  · rw [Entries.get?_append]
    rw [hn, List.mem_append, List.mem_singleton] at hmem
    rcases hmem with hmem | rfl
    · obtain ⟨s, position, hs, he⟩ := h.node n hmem
      exact ⟨s, position, by rw [hs, Option.some_or], he⟩
    · have hkey : (nodeOfRecord position id r).id = id := rfl
      exact ⟨r, position, by simp [hkey, hnew], rfl⟩

/-- **One record** adds what is shown of it, if anything. -/
theorem Holds.addRecord (h : l.Holds shown) (r : EditorNode × Nat) :
    (addRecord o l r).Holds (shown ++ (visible? o r.1).toList) := by
  unfold Loading.addRecord visible?
  cases r.1.key? with
  | none => simpa using h
  | some id =>
    by_cases ho : o.editorOnly.contains r.1.resolvedType = true
    · simpa only [if_pos ho, Option.toList_none, List.append_nil] using h
    · simp only [if_neg ho, Option.map_some, Option.toList_some]
      by_cases hid : id ∈ l.graph.ids
      · rw [h.indexed.add_of_mem (n := nodeOfRecord r.2 id r.1) hid]
        exact h.taken r.1 hid
      · obtain ⟨g, ha, hi, hn⟩ := h.indexed.add_of_notMem (n := nodeOfRecord r.2 id r.1) hid
        rw [ha]
        exact h.added r.1 hid hi hn

theorem Holds.foldl (h : l.Holds shown) (rs : List (EditorNode × Nat)) :
    (rs.foldl (Loading.addRecord o) l).Holds
      (shown ++ rs.filterMap fun r => visible? o r.1) := by
  induction rs generalizing l shown with
  | nil => simpa using h
  | cons r rs ih =>
    have hstep := ih (h.addRecord (o := o) r)
    rw [List.append_assoc] at hstep
    rw [List.foldl_cons, List.filterMap_cons]
    cases hv : visible? o r.1 with
    | none => simpa [hv] using hstep
    | some p => simpa [hv] using hstep

end Loaded

def loadedRecords (o : Options) (d : EditorDocument) : Loaded :=
  d.nodes.zipIdx.foldl (addRecord o) {}

theorem holds_loadedRecords (o : Options) (d : EditorDocument) :
    (loadedRecords o d).Holds (visibleRecords o d) := by
  have h := Loaded.Holds.empty.foldl (o := o) d.nodes.zipIdx
  have hmap := List.filterMap_map (f := Prod.fst) (g := visible? o) (l := d.nodes.zipIdx)
  rw [List.zipIdx_map_fst] at hmap
  rw [visibleRecords, hmap]
  rwa [List.nil_append] at h

/-! ## The graph -/

/-- The connections that the links of a document ask for. -/
def resolvedLinks (o : Options) (d : EditorDocument) : List Pending :=
  d.links.filterMap (pendingOfLink? (loadedRecords o d).records)

theorem ofEditor_eq (o : Options) (d : EditorDocument) :
    ofEditor o d = (resolvedLinks o d).foldl wire (loadedRecords o d).graph := rfl

theorem indexed_ofEditor (o : Options) (d : EditorDocument) : Indexed (ofEditor o d) :=
  ((holds_loadedRecords o d).indexed.foldl_wire _).1

theorem ids_ofEditor (o : Options) (d : EditorDocument) :
    (ofEditor o d).ids = (loadedRecords o d).graph.ids :=
  ((holds_loadedRecords o d).indexed.foldl_wire _).2

/-- **The graph of an editor document**, node by node: each is the node of the first record of its
id, wired to what the links into it resolve to. -/
theorem eq_feedAll_of_mem_ofEditor {o : Options} {d : EditorDocument} {n : Node}
    (h : n ∈ (ofEditor o d).nodes) :
    ∃ r position, (visibleRecords o d).get? n.id = some r ∧
      n = (nodeOfRecord position n.id r).feedAll
        (incoming (ofEditor o d).ids n.id (resolvedLinks o d)) := by
  have hl := holds_loadedRecords o d
  rw [ofEditor_eq, hl.indexed.nodes_foldl_wire] at h
  obtain ⟨n, hn, rfl⟩ := List.mem_map.1 h
  obtain ⟨r, position, hr, he⟩ := hl.node n hn
  refine ⟨r, position, hr, ?_⟩
  rw [ids_ofEditor, Node.id_feedAll, ← he]

theorem mem_ofEditor {o : Options} {d : EditorDocument} {n : Node} (h : n ∈ (ofEditor o d).nodes) :
    ∃ r ∈ d.nodes, r.key? = some n.id ∧ ∃ position, n = (nodeOfRecord position n.id r).feedAll
      (incoming (ofEditor o d).ids n.id (resolvedLinks o d)) := by
  obtain ⟨r, position, hr, he⟩ := eq_feedAll_of_mem_ofEditor h
  obtain ⟨hmem, hk⟩ := of_get?_visibleRecords hr
  exact ⟨r, hmem, hk, position, he⟩

theorem slot_lt_of_mem_resolvedLinks {o : Options} {fields : List (String × Json)} {p : Pending}
    (h : p ∈ resolvedLinks o (.ofFields fields)) : p.2.2.slot < Text.slotLimit := by
  obtain ⟨k, hk, hp⟩ := List.mem_filterMap.1 h
  obtain ⟨j, -, hj⟩ := List.mem_filterMap.1 hk
  simp only [pendingOfLink?, Option.bind_eq_bind, Option.bind_eq_some_iff] at hp
  obtain ⟨origin, ho, _, _, _, _, hp⟩ := hp
  cases hp
  rw [(holds_loadedRecords o _).record] at ho
  obtain ⟨j', -, hn⟩ := List.mem_filterMap.1 (of_get?_visibleRecords ho).1
  have hd : EditorNode.decode j' = .ok origin := by
    unfold EditorDocument.node? at hn
    split at hn
    · next r hr =>
      split at hn
      · cases hn
        exact hr
      · cases hn
    · cases hn
  exact EditorNode.outputIndex_lt hd (EditorLink.originSlot_lt hj)

end PromptGraph.Loading
