import PromptGraph.Loading.Request
import PromptGraph.Proofs.Maps

/-!
# Nodes and their positions

`Graph.Indexed g`: the position table of `g` leads from each id to the node that has it, and
nowhere else. Adding and wiring keep it. Under it, wiring a list of connections comes down to what
each node is fed (`Indexed.nodes_foldl_wire`), and adding nodes with new ids to appending them
(`Indexed.foldl_addNode`).
-/

namespace PromptGraph

namespace Node

@[simp] theorem id_fixId (n : Node) : n.fixId.id = n.id := rfl

def feed (n : Node) (input : String) (c : Connection) : Node :=
  { n with connections := n.connections.insert input c }

/-- Sets the connections of inputs, one after the other. -/
def feedAll (n : Node) (pairs : List (String × Connection)) : Node :=
  { n with connections := n.connections.insertAll pairs }

@[simp] theorem id_feed (n : Node) (input : String) (c : Connection) :
    (n.feed input c).id = n.id := rfl

@[simp] theorem id_feedAll (n : Node) (pairs : List (String × Connection)) :
    (n.feedAll pairs).id = n.id := rfl

theorem feedAll_cons (n : Node) (p : String × Connection) (pairs : List (String × Connection)) :
    n.feedAll (p :: pairs) = (n.feed p.1 p.2).feedAll pairs := rfl

end Node

namespace Graph

/-- The position table leads to the nodes. -/
def Indexed (g : Graph) : Prop := ∀ id i, g.position? id = some i ↔ g.ids[i]? = some id

theorem Indexed.empty : Indexed empty := by
  intro id i
  simp [Graph.empty, position?, ids, OrderedMap.get?, OrderedMap.empty]

section

variable {g : Graph} (h : Indexed g)

include h

theorem Indexed.nodup : g.ids.Nodup := by
  refine List.pairwise_iff_getElem.2 fun i j hi hj hij he => ?_
  have hpi := (h _ i).2 (List.getElem?_eq_getElem hi)
  have hpj := (h _ j).2 (List.getElem?_eq_getElem hj)
  rw [he, hpj] at hpi
  cases hpi
  exact absurd hij (Nat.lt_irrefl _)

theorem Indexed.mem_ids_iff {id : NodeId} : id ∈ g.ids ↔ ∃ i, g.position? id = some i := by
  rw [List.mem_iff_getElem?]
  exact exists_congr fun i => (h id i).symm

theorem Indexed.contains_iff {id : NodeId} : g.contains id = true ↔ id ∈ g.ids := by
  rw [h.mem_ids_iff]
  exact Option.isSome_iff_exists

theorem Indexed.contains_eq_false {id : NodeId} (hid : id ∉ g.ids) : g.contains id = false := by
  rw [Bool.eq_false_iff]
  exact fun hc => hid (h.contains_iff.1 hc)

theorem Indexed.position?_eq_none {id : NodeId} (hid : id ∉ g.ids) : g.position? id = none := by
  rw [h.mem_ids_iff] at hid
  exact Option.eq_none_iff_forall_ne_some.2 fun i hi => hid ⟨i, hi⟩

theorem Indexed.node?_eq_some_iff {id : NodeId} {n : Node} :
    g.node? id = some n ↔ n ∈ g.nodes ∧ n.id = id := by
  simp only [node?, Option.bind_eq_some_iff]
  constructor
  · rintro ⟨i, hp, hn⟩
    have hid := (h id i).1 hp
    rw [ids, List.getElem?_map, hn] at hid
    exact ⟨List.mem_of_getElem? hn, Option.some.inj hid⟩
  · rintro ⟨hn, rfl⟩
    obtain ⟨i, hi⟩ := List.mem_iff_getElem?.1 hn
    refine ⟨i, (h _ i).2 ?_, hi⟩
    rw [ids, List.getElem?_map, hi]
    rfl

theorem Indexed.node?_of_mem {n : Node} (hn : n ∈ g.nodes) : g.node? n.id = some n :=
  h.node?_eq_some_iff.2 ⟨hn, rfl⟩

/-! ## Adding -/

theorem Indexed.add_of_notMem {n : Node} (hn : n.id ∉ g.ids) :
    ∃ g', g.add n = .ok (g', g.size) ∧ Indexed g' ∧ g'.nodes = g.nodes ++ [n.fixId] := by
  refine ⟨_, by rw [add, h.contains_eq_false hn]; rfl, ?_, rfl⟩
  intro id i
  have hlen : g.ids.length = g.nodes.length := List.length_map _
  have hget : (g.positions.insert n.id g.nodes.length).get? id = some i ↔
      (g.ids ++ [n.id])[i]? = some id := by
    rw [OrderedMap.get?_insert]
    by_cases hid : n.id = id
    · subst hid
      rw [if_pos rfl]
      rcases Nat.lt_trichotomy i g.ids.length with hlt | heq | hgt
      · rw [List.getElem?_append_left hlt]
        constructor
        · intro he
          cases he
          omega
        · exact fun he => absurd (List.mem_of_getElem? he) hn
      · simp [heq, hlen]
      · rw [List.getElem?_eq_none (by simp; omega)]
        simp only [Option.some.injEq, reduceCtorEq, iff_false]
        omega
    · rw [if_neg hid]
      rcases Nat.lt_or_ge i g.ids.length with hlt | hge
      · rw [List.getElem?_append_left hlt]
        exact h id i
      · have hnone : g.ids[i]? ≠ some id := by simp [List.getElem?_eq_none hge]
        rw [List.getElem?_append_right hge]
        constructor
        · exact fun he => absurd ((h id i).1 he) hnone
        · intro he
          exact absurd (List.mem_singleton.1 (List.mem_of_getElem? he)).symm hid
  simpa [ids, position?] using hget

theorem Indexed.add_of_mem {n : Node} (hn : n.id ∈ g.ids) :
    g.add n = .error (.duplicateId n.id) := by
  rw [add, h.contains_iff.2 hn]
  rfl

end

/-! ## Wiring -/

theorem nodes_setConnection (g : Graph) (i : Nat) (input : String) (c : Connection) (e : Edge) :
    (g.setConnection i input c e).nodes = g.nodes.modify i (·.feed input c) := rfl

theorem position?_setConnection (g : Graph) (i : Nat) (input : String) (c : Connection) (e : Edge)
    (id : NodeId) : (g.setConnection i input c e).position? id = g.position? id := rfl

theorem ids_setConnection (g : Graph) (i : Nat) (input : String) (c : Connection) (e : Edge) :
    (g.setConnection i input c e).ids = g.ids := by
  refine List.ext_getElem? fun j => ?_
  rw [ids, ids, nodes_setConnection, List.getElem?_map, List.getElem?_map, List.getElem?_modify]
  by_cases hij : i = j
  · cases g.nodes[j]? <;> simp [hij]
  · simp [hij]

theorem Indexed.setConnection {g : Graph} (h : Indexed g) (i : Nat) (input : String)
    (c : Connection) (e : Edge) : Indexed (g.setConnection i input c e) := by
  intro id j
  rw [position?_setConnection, ids_setConnection]
  exact h id j

/-- Feeding the node at the position of an id feeds every node with that id. -/
theorem Indexed.modify_eq_map {g : Graph} (h : Indexed g) {id : NodeId} {i : Nat}
    (hi : g.position? id = some i) (f : Node → Node) :
    g.nodes.modify i f = g.nodes.map fun n => if n.id = id then f n else n := by
  refine List.ext_getElem? fun j => ?_
  rw [List.getElem?_modify, List.getElem?_map]
  cases hn : g.nodes[j]? with
  | none => simp
  | some n =>
    have hid : g.ids[j]? = some n.id := by rw [ids, List.getElem?_map, hn]; rfl
    by_cases hij : i = j
    · subst hij
      rw [(h id i).1 hi] at hid
      cases hid
      simp
    · have hne : n.id ≠ id := by
        rintro rfl
        rw [(h _ j).2 hid] at hi
        cases hi
        exact hij rfl
      simp [hij, hne]

open Loading

theorem Indexed.nodes_wire {g : Graph} (h : Indexed g) (p : Pending) :
    (wire g p).nodes = g.nodes.map fun n =>
      if n.id = p.1 ∧ p.2.2.source ∈ g.ids then n.feed p.2.1 p.2.2 else n := by
  obtain ⟨dest, input, c⟩ := p
  by_cases hs : c.source ∈ g.ids
  · obtain ⟨j, hj⟩ := h.mem_ids_iff.1 hs
    simp only [hs, and_true]
    cases hi : g.position? dest with
    | some i =>
      have hw : wire g (dest, input, c) =
          g.setConnection i input c ⟨c.source, toString c.slot, dest, input⟩ := by
        simp [wire, wire?, hj, hi]
      rw [hw, nodes_setConnection, h.modify_eq_map hi]
    | none =>
      have hw : wire g (dest, input, c) = g := by simp [wire, wire?, hj, hi]
      have hd : ∀ n ∈ g.nodes, n.id ≠ dest := by
        rintro n hn rfl
        obtain ⟨i, hi'⟩ := h.mem_ids_iff.1 (List.mem_map_of_mem (f := Node.id) hn)
        rw [hi] at hi'
        cases hi'
      rw [hw, List.map_congr_left fun n hn => if_neg (hd n hn), List.map_id']
  · have hw : wire g (dest, input, c) = g := by
      simp [wire, wire?, h.position?_eq_none hs]
    rw [hw]
    simp [hs]

theorem Indexed.wired {g : Graph} (h : Indexed g) (p : Pending) : Indexed (wire g p) := by
  unfold wire wire?
  cases g.position? p.2.2.source with
  | none => exact h
  | some j =>
    cases g.position? p.1 with
    | none => exact h
    | some i => exact h.setConnection i _ _ _

theorem Indexed.ids_wire {g : Graph} (h : Indexed g) (p : Pending) : (wire g p).ids = g.ids := by
  rw [ids, h.nodes_wire, List.map_map, ids]
  refine List.map_congr_left fun n _ => ?_
  simp only [Function.comp_apply]
  split <;> rfl

/-- The inputs of a node that connections from the given ids lead into. -/
def incoming (sources : List NodeId) (id : NodeId) (ps : List Pending) :
    List (String × Connection) :=
  ps.filterMap fun p => if p.1 = id ∧ p.2.2.source ∈ sources then some p.2 else none

theorem Indexed.foldl_wire {g : Graph} (h : Indexed g) (ps : List Pending) :
    Indexed (ps.foldl wire g) ∧ (ps.foldl wire g).ids = g.ids := by
  induction ps generalizing g with
  | nil => exact ⟨h, rfl⟩
  | cons p ps ih =>
    obtain ⟨hi, he⟩ := ih (h.wired p)
    exact ⟨hi, he.trans (h.ids_wire p)⟩

/-- Each node is fed the connections that lead to it from nodes of the graph. -/
theorem Indexed.nodes_foldl_wire {g : Graph} (h : Indexed g) (ps : List Pending) :
    (ps.foldl wire g).nodes = g.nodes.map fun n => n.feedAll (incoming g.ids n.id ps) := by
  induction ps generalizing g with
  | nil => exact (List.map_id' g.nodes).symm
  | cons p ps ih =>
    rw [List.foldl_cons, ih (h.wired p), h.ids_wire, h.nodes_wire, List.map_map]
    refine List.map_congr_left fun n _ => ?_
    rw [Function.comp_apply, incoming, incoming, List.filterMap_cons]
    by_cases hp : n.id = p.1 ∧ p.2.2.source ∈ g.ids
    · have hp' : p.1 = n.id ∧ p.2.2.source ∈ g.ids := ⟨hp.1.symm, hp.2⟩
      rw [if_pos hp, if_pos hp', Node.feedAll_cons, Node.id_feed]
    · have hp' : ¬ (p.1 = n.id ∧ p.2.2.source ∈ g.ids) := fun h' => hp ⟨h'.1.symm, h'.2⟩
      rw [if_neg hp, if_neg hp']

/-! ## Adding one after the other -/

theorem Indexed.addNode_of_notMem {g : Graph} (h : Indexed g) {n : Node} (hn : n.id ∉ g.ids) :
    Indexed (addNode g n) ∧ (addNode g n).nodes = g.nodes ++ [n.fixId] := by
  obtain ⟨g', ha, hg⟩ := h.add_of_notMem hn
  rw [addNode, ha]
  exact hg

theorem Indexed.foldl_addNode {g : Graph} (h : Indexed g) {ns : List Node}
    (hns : (g.ids ++ ns.map Node.id).Nodup) :
    Indexed (ns.foldl addNode g) ∧ (ns.foldl addNode g).nodes = g.nodes ++ ns.map Node.fixId := by
  induction ns generalizing g with
  | nil => exact ⟨h, (List.append_nil _).symm⟩
  | cons n ns ih =>
    have hn : n.id ∉ g.ids := fun hm =>
      (List.nodup_append.1 hns).2.2 n.id hm n.id List.mem_cons_self rfl
    obtain ⟨hi, he⟩ := h.addNode_of_notMem hn
    have hids : (addNode g n).ids = g.ids ++ [n.id] := by simp [ids, he]
    have := ih hi (by simpa [hids] using hns)
    rw [List.foldl_cons, this.2, he]
    exact ⟨this.1, by simp⟩

end Graph

end PromptGraph
