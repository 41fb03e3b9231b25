import Mathlib.Data.List.Basic
import Mathlib.Data.List.Induction
import PromptGraph.Loading.Basic
import PromptGraph.Proofs.Decoding
import PromptGraph.Proofs.Positions

/-!
# Graphs that are built step by step

`build cs` is what the changes `cs` make of the empty graph; a change that the graph refuses leaves
it alone. `Filed g` says that the tables of `g` list exactly the positions that they should and that
the ids of its nodes are fixed. Every change keeps it (`filed_build`), so that every way to look a
node up agrees with going through the nodes in order. Positions lead back to ids as long as they fit
a word (`positions_inverse_iff`).
-/

namespace PromptGraph

/-! ## Labels -/

/-- What nodes are found by and wired from: all that a graph keeps of a node once it is added. -/
structure Node.Labels where
  id : NodeId
  assigned : Option NodeId
  typeName : String
  title : Option String
  outputs : OrderedMap Nat

def Node.labels (n : Node) : Node.Labels := ⟨n.id, n.assigned, n.typeName, n.title, n.outputs⟩

namespace Graph

open Loading

/-! ## Changes -/

/-- A change that may be tried on a graph. -/
inductive Change where
  | add (node : Node)
  | connect (source : NodeId) (output : String) (dest : NodeId) (input : String)
  | wire (dest : NodeId) (input : String) (connection : Connection)
  | override (id : NodeId) (edit : OrderedMap Json → OrderedMap Json)
  /-- Gives an id to the node at a position. -/
  | assign (position : Nat) (id : NodeId)

/-- The graph after a change; one that is refused changes nothing. -/
def Change.after (g : Graph) : Change → Graph
  | add node => addNode g node
  | connect source output dest input => (g.connect source output dest input).toOption.getD g
  | wire dest input c => Loading.wire g (dest, input, c)
  | override id edit => (g.modifyOverrides? id edit).getD g
  | assign position id => g.modifyAt position fun n => (n.assign id).toOption.getD n

def build (cs : List Change) : Graph := cs.foldl Change.after .empty

@[simp] theorem build_append_singleton (cs : List Change) (c : Change) :
    build (cs ++ [c]) = c.after (build cs) := by
  simp [build]

/-! ## What a change can do -/

theorem connect_eq_ok_iff {g g' : Graph} {source output dest input : String} :
    g.connect source output dest input = .ok g' ↔ ∃ origin position slot,
      g.node? source = some origin ∧ g.position? dest = some position ∧
        origin.outputSlot? output = some slot ∧
        g' = g.setConnection position input ⟨source, slot⟩ ⟨source, output, dest, input⟩ := by
  unfold connect
  cases hs : g.node? source with
  | none => simp
  | some origin =>
    cases hd : g.position? dest with
    | none => simp
    | some position =>
      cases ho : origin.outputSlot? output with
      | none => simp [ho]
      | some slot => simp [ho, pure, Except.pure, eq_comm]

theorem wire_cases (g : Graph) (dest : NodeId) (input : String) (c : Connection) :
    wire g (dest, input, c) = g ∨ ∃ origin position,
      g.position? c.source = some origin ∧ g.position? dest = some position ∧
        wire g (dest, input, c) =
          g.setConnection position input c ⟨c.source, toString c.slot, dest, input⟩ := by
  unfold wire wire?
  cases hs : g.position? c.source with
  | none => exact .inl rfl
  | some origin =>
    cases hd : g.position? dest with
    | none => exact .inl rfl
    | some position => exact .inr ⟨origin, position, rfl, rfl, rfl⟩

theorem modifyOverrides?_cases (g : Graph) (id : NodeId) (f : OrderedMap Json → OrderedMap Json) :
    g.modifyOverrides? id f = none ∨ ∃ position, g.modifyOverrides? id f =
      some (g.modifyAt position fun n => { n with overrides := f n.overrides }) := by
  unfold modifyOverrides?
  cases g.position? id with
  | none => exact .inl rfl
  | some position => exact .inr ⟨position, rfl⟩

/-! ## Tables of positions -/

/-- The table lists the positions at which each key stands, in order. -/
def Lists (table : OrderedMap (List Nat)) (keys : List (Option String)) : Prop :=
  ∀ key, (table.get? key).getD [] = keys.findIdxs (· == some key)

section

variable {table : OrderedMap (List Nat)} {keys : List (Option String)} (h : Lists table keys)

include h

theorem Lists.append_some (key : String) :
    Lists (table.upsert key [] (· ++ [keys.length])) (keys ++ [some key]) := by
  intro other
  rw [OrderedMap.upsert, OrderedMap.get?_insert, List.findIdxs_append, ← h other]
  by_cases ho : key = other
  · simp [ho]
  · simp [ho]

theorem Lists.append_none : Lists table (keys ++ [none]) := by
  intro other
  simp [h other, List.findIdxs_append]

end

theorem filterMap_findIdxs {α : Type} (p : α → Bool) (xs : List α) :
    (xs.findIdxs p).filterMap (xs[·]?) = xs.filter p := by
  induction xs with
  | nil => rfl
  | cons x xs ih =>
    have htail : (xs.findIdxs p 1).filterMap ((x :: xs)[·]?) = xs.filter p := by
      rw [List.findIdxs_start, List.filterMap_map, ← ih]
      rfl
    cases hp : p x with
    | false => rw [List.findIdxs_cons, hp, List.filter_cons_of_neg (by simp [hp])]; exact htail
    | true => rw [List.findIdxs_cons, hp, List.filter_cons_of_pos hp]; exact congrArg _ htail

/-! ## Filed graphs -/

/-- What the table of types goes by. -/
def typeKeys (g : Graph) : List (Option String) := g.nodes.map fun n => some n.typeName

/-- What the table of titles goes by. -/
def titleKeys (g : Graph) : List (Option String) := g.nodes.map fun n => n.title.map Text.toLower

/-- The tables of the graph are right, and the ids of its nodes stay. -/
structure Filed (g : Graph) : Prop where
  indexed : Indexed g
  fixed : ∀ n ∈ g.nodes, n.assigned = some n.id
  types : Lists g.byType g.typeKeys
  titles : Lists g.byTitle g.titleKeys

theorem Filed.empty : Filed empty where
  indexed := Indexed.empty
  fixed := by rintro n ⟨⟩
  types := fun _ => rfl
  titles := fun _ => rfl

theorem Filed.addNode {g : Graph} (h : Filed g) (n : Node) : Filed (addNode g n) := by
  by_cases hn : n.id ∈ g.ids
  · rw [Loading.addNode, h.indexed.add_of_mem hn]
    exact h
  · obtain ⟨hi, hnodes⟩ := h.indexed.addNode_of_notMem hn
    have hc : g.contains n.id = false := h.indexed.contains_eq_false hn
    have htypes : (Loading.addNode g n).typeKeys = g.typeKeys ++ [some n.typeName] := by
      rw [typeKeys, hnodes, List.map_append]
      rfl
    have htitles : (Loading.addNode g n).titleKeys =
        g.titleKeys ++ [n.title.map Text.toLower] := by
      rw [titleKeys, hnodes, List.map_append]
      rfl
    have hlen₁ : g.typeKeys.length = g.nodes.length := List.length_map _
    have hlen₂ : g.titleKeys.length = g.nodes.length := List.length_map _
    refine ⟨hi, ?_, ?_, ?_⟩
    · rw [hnodes, List.forall_mem_append, List.forall_mem_singleton]
      exact ⟨h.fixed, rfl⟩
    · rw [htypes, Loading.addNode, add, hc]
      exact hlen₁ ▸ h.types.append_some n.typeName
    · rw [htitles, Loading.addNode, add, hc]
      cases n.title with
      | none => exact h.titles.append_none
      | some title => exact hlen₂ ▸ h.titles.append_some (Text.toLower title)

theorem map_modify {α β : Type} {f : α → α} {k : α → β} (hk : ∀ a, k (f a) = k a) (as : List α)
    (i : Nat) : (as.modify i f).map k = as.map k := by
  refine List.ext_getElem? fun j => ?_
  rw [List.getElem?_map, List.getElem?_map, List.getElem?_modify]
  by_cases hij : i = j
  · cases as[j]? <;> simp [hij, hk]
  · simp [hij]

/-- The tables go by labels only. -/
theorem Filed.modifyAt {g : Graph} (h : Filed g) {f : Node → Node}
    (hf : ∀ n, (f n).labels = n.labels) (i : Nat) : Filed (g.modifyAt i f) := by
  have hl : (g.modifyAt i f).nodes.map Node.labels = g.nodes.map Node.labels :=
    map_modify hf g.nodes i
  have hkeys {α : Type} (k : Node.Labels → α) :
      (g.modifyAt i f).nodes.map (fun n => k n.labels) = g.nodes.map fun n => k n.labels := by
    have := congrArg (List.map k) hl
    rwa [List.map_map, List.map_map] at this
  refine ⟨?_, ?_, ?_, ?_⟩
  · intro id j
    rw [show (g.modifyAt i f).ids = g.ids from hkeys Node.Labels.id]
    exact h.indexed id j
  · intro n hn
    have hm : n.labels ∈ g.nodes.map Node.labels := hl ▸ List.mem_map_of_mem hn
    obtain ⟨m, hm, he⟩ := List.mem_map.1 hm
    have hf : m.labels.assigned = some m.labels.id := h.fixed m hm
    rwa [he] at hf
  · rw [show (g.modifyAt i f).typeKeys = g.typeKeys from hkeys fun l => some l.typeName]
    exact h.types
  · rw [show (g.modifyAt i f).titleKeys = g.titleKeys from
      hkeys fun l => l.title.map Text.toLower]
    exact h.titles

theorem Filed.setConnection {g : Graph} (h : Filed g) (i : Nat) (input : String) (c : Connection)
    (e : Edge) : Filed (g.setConnection i input c e) :=
  have h' : Filed (g.modifyAt i (·.feed input c)) := h.modifyAt (by intro n; rfl) i
  ⟨h'.indexed, h'.fixed, h'.types, h'.titles⟩

theorem Filed.assign_eq {g : Graph} (h : Filed g) {n : Node} (hn : n ∈ g.nodes) (id : NodeId) :
    n.assign id = if id = n.id then .ok n else .error (.alreadyNamed n.key n.id) := by
  rw [Node.assign, h.fixed n hn]
  exact if_congr eq_comm rfl rfl

theorem Filed.after_assign {g : Graph} (h : Filed g) (position : Nat) (id : NodeId) :
    (Change.assign position id).after g = g := by
  have hn : g.nodes.modify position (fun n => (n.assign id).toOption.getD n) = g.nodes := by
    refine List.ext_getElem? fun j => ?_
    rw [List.getElem?_modify]
    cases hj : g.nodes[j]? with
    | none => rfl
    | some n =>
      have ha : (n.assign id).toOption.getD n = n := by
        rw [h.assign_eq (List.mem_of_getElem? hj)]
        split <;> rfl
      simp [ha]
  show { g with nodes := _ } = g
  rw [hn]

/-! ## Steps and runs -/

/-- **What a change does**: nothing, or it adds a node with a new id, or sets one connection with
its edge, or edits the overrides of one node. -/
theorem Filed.after_cases {g : Graph} (h : Filed g) (c : Change) :
    c.after g = g ∨
      (∃ n, c = .add n ∧ n.id ∉ g.ids) ∨
      (∃ e position slot, e.source ∈ g.ids ∧ g.position? e.dest = some position ∧
        c.after g = g.setConnection position e.input ⟨e.source, slot⟩ e ∧
        (c = .connect e.source e.output e.dest e.input ∧
            (∃ origin ∈ g.nodes, origin.id = e.source ∧ origin.outputSlot? e.output = some slot) ∨
          c = .wire e.dest e.input ⟨e.source, slot⟩ ∧ e.output = toString slot)) ∨
      ∃ (position : Nat) (f : OrderedMap Json → OrderedMap Json),
        c.after g = g.modifyAt position fun n => { n with overrides := f n.overrides } := by
  cases c with
  | add n =>
    by_cases hn : n.id ∈ g.ids
    · exact .inl (by rw [Change.after, Loading.addNode, h.indexed.add_of_mem hn])
    · exact .inr (.inl ⟨n, rfl, hn⟩)
  | connect source output dest input =>
    cases hc : g.connect source output dest input with
    | error e => exact .inl (by rw [Change.after, hc]; rfl)
    | ok g' =>
      obtain ⟨origin, position, slot, hs, hd, ho, rfl⟩ := connect_eq_ok_iff.1 hc
      obtain ⟨hmem, hid⟩ := h.indexed.node?_eq_some_iff.1 hs
      refine .inr (.inr (.inl ⟨⟨source, output, dest, input⟩, position, slot,
        hid ▸ List.mem_map_of_mem hmem, hd, ?_, .inl ⟨rfl, origin, hmem, hid, ho⟩⟩))
      rw [Change.after, hc]
      rfl
  | wire dest input c =>
    rcases wire_cases g dest input c with hw | ⟨origin, position, hs, hd, hw⟩
    · exact .inl hw
    · exact .inr (.inr (.inl ⟨⟨c.source, toString c.slot, dest, input⟩, position, c.slot,
        h.indexed.mem_ids_iff.2 ⟨origin, hs⟩, hd, hw, .inr ⟨rfl, rfl⟩⟩))
  | override id f =>
    rcases modifyOverrides?_cases g id f with ho | ⟨position, ho⟩
    · exact .inl (by rw [Change.after, ho]; rfl)
    · exact .inr (.inr (.inr ⟨position, f, by rw [Change.after, ho]; rfl⟩))
  | assign position id => exact .inl (h.after_assign position id)

theorem Filed.after {g : Graph} (h : Filed g) (c : Change) : Filed (c.after g) := by
  rcases h.after_cases c with
    he | ⟨n, rfl, -⟩ | ⟨e, position, slot, -, -, he, -⟩ | ⟨position, f, he⟩
  · rwa [he]
  · exact h.addNode n
  · rw [he]
    exact h.setConnection position _ _ e
  · rw [he]
    exact h.modifyAt (by intro n; rfl) position

theorem filed_build (cs : List Change) : Filed (build cs) := by
  induction cs using List.reverseRecOn with
  | nil => exact Filed.empty
  | append_singleton cs c ih =>
    rw [build_append_singleton]
    exact ih.after c

/-! ## Looking up -/

theorem Filed.nodesOfType {g : Graph} (h : Filed g) (typeName : String) :
    g.nodesOfType typeName = g.nodes.filter fun n => n.typeName = typeName := by
  rw [Graph.nodesOfType, h.types, typeKeys, List.findIdxs_map, nodesAt, filterMap_findIdxs]
  exact List.filter_congr fun n _ => Bool.eq_iff_iff.2 (by simp)

theorem Filed.nodesTitled {g : Graph} (h : Filed g) (title : String) :
    g.nodesTitled title =
      g.nodes.filter fun n => n.title.map Text.toLower = some (Text.toLower title) := by
  rw [Graph.nodesTitled, h.titles, titleKeys, List.findIdxs_map, nodesAt, filterMap_findIdxs]
  exact List.filter_congr fun n _ => Bool.eq_iff_iff.2 (by simp)

/-- **Every way to look a node up agrees with going through the nodes**, whatever changes built the
graph: ids are distinct, an id leads to the node that has it and to its position, a type and a
title lead to the nodes that have them, in order, and no node can be given another id. -/
theorem lookups_agree (cs : List Change) :
    let g := build cs
    g.ids.Nodup ∧
      (∀ id n, g.node? id = some n ↔ n ∈ g.nodes ∧ n.id = id) ∧
      (∀ id, (g.node? id).isSome = true ↔ id ∈ g.ids) ∧
      (∀ id, g.contains id = true ↔ id ∈ g.ids) ∧
      (∀ id i, g.position? id = some i ↔ g.ids[i]? = some id) ∧
      (∀ typeName, g.nodesOfType typeName = g.nodes.filter fun n => n.typeName = typeName) ∧
      (∀ title, g.nodesTitled title =
        g.nodes.filter fun n => n.title.map Text.toLower = some (Text.toLower title)) ∧
      (∀ n ∈ g.nodes, ∀ id,
        n.assign id = if id = n.id then .ok n else .error (.alreadyNamed n.key n.id)) ∧
      ∀ position id, (Change.assign position id).after g = g := by
  intro g
  have h : Filed g := filed_build cs
  refine ⟨h.indexed.nodup, fun id n => h.indexed.node?_eq_some_iff, fun id => ?_,
    fun id => h.indexed.contains_iff, h.indexed, h.nodesOfType, h.nodesTitled,
    fun n hn => h.assign_eq hn, h.after_assign⟩
  rw [Option.isSome_iff_exists, Graph.ids, List.mem_map]
  exact exists_congr fun n => h.indexed.node?_eq_some_iff

/-! ## Looking up by position -/

theorem Indexed.position?_lt {g : Graph} (h : Indexed g) {id : NodeId} {i : Nat}
    (hi : g.position? id = some i) : i < g.size := by
  obtain ⟨hlt, -⟩ := List.getElem?_eq_some_iff.1 ((h id i).1 hi)
  exact Nat.lt_of_lt_of_eq hlt (List.length_map _)

theorem isSome_nodeAt?_iff {g : Graph} {position : Nat} :
    (g.nodeAt? position).isSome = true ↔ position % positionModulus < g.size := by
  simp [nodeAt?, size]

theorem Indexed.nodeAt?_iff {g : Graph} (h : Indexed g) {position : Nat} {id : NodeId} :
    (∃ n, g.nodeAt? position = some n ∧ n.id = id) ↔
      g.position? id = some (position % positionModulus) := by
  rw [h id, ids, List.getElem?_map, Option.map_eq_some_iff]
  rfl

/-- At the position, looking up the node and looking up the position are inverse. -/
structure InverseAt (g : Graph) (position : Nat) : Prop where
  /-- A node is found where the graph has one, and nowhere else. -/
  found : (g.nodeAt? position).isSome = true ↔ position < g.size
  /-- It is the node with an id if the id has the position. -/
  listed : ∀ id, (∃ n, g.nodeAt? position = some n ∧ n.id = id) ↔ g.position? id = some position

/-- **Positions and ids lead to each other**, whatever changes built the graph and as long as
positions fit their word: of a larger one the part that fits is looked up, so that a node is found
there which has another position, unless the graph ends before that part. -/
theorem positions_inverse_iff (cs : List Change) (position : Nat) :
    let g := build cs
    (∀ id, (∃ n, g.nodeAt? position = some n ∧ n.id = id) ↔
        g.position? id = some (position % positionModulus)) ∧
      (g.InverseAt position ↔
        position < positionModulus ∨ g.size ≤ position % positionModulus) := by
  intro g
  have h : Indexed g := (filed_build cs).indexed
  refine ⟨fun id => h.nodeAt?_iff, fun hinv => or_iff_not_imp_right.2 fun hsize => ?_, ?_⟩
  · obtain ⟨n, hn⟩ := Option.isSome_iff_exists.1 (isSome_nodeAt?_iff.2 (Nat.lt_of_not_le hsize))
    have hcut := h.nodeAt?_iff.1 ⟨n, hn, rfl⟩
    rw [(hinv.listed n.id).1 ⟨n, hn, rfl⟩] at hcut
    rw [Option.some.inj hcut]
    exact Nat.mod_lt position (by decide)
  · rintro (hword | hsize)
    · have hcut : position % positionModulus = position := Nat.mod_eq_of_lt hword
      exact ⟨isSome_nodeAt?_iff.trans (by rw [hcut]), fun id => h.nodeAt?_iff.trans (by rw [hcut])⟩
    · -- neither the position nor the part of it that is looked up is one of the graph
      have hle : g.size ≤ position := Nat.le_trans hsize (Nat.mod_le ..)
      have hout {i : Nat} (hi : g.size ≤ i) (id : NodeId) : g.position? id ≠ some i := fun he =>
        absurd (h.position?_lt he) (Nat.not_lt_of_le hi)
      exact ⟨isSome_nodeAt?_iff.trans (iff_of_false (by omega) (by omega)), fun id =>
        h.nodeAt?_iff.trans (iff_of_false (hout hsize id) (hout hle id))⟩

/-- The one node of a graph is found once more where the positions that fit end. -/
theorem node_found_beyond_words :
    ¬ (build [.add (.named "3" "KSampler")]).InverseAt 4294967296 := by
  intro h
  exact absurd (h.found.1 (by decide)) (by decide)

end Graph

end PromptGraph
