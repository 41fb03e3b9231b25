import Mathlib.Data.List.Sort
import Mathlib.Logic.Relation
import Mathlib.Order.Extension.Linear
import PromptGraph.Proofs.Building
import PromptGraph.Proofs.Validity

/-!
# Cycles of connections

`g.Feeds source dest`: a connection of the node `dest` comes from `source`. Peeling decides whether
this relation has a cycle. A round of it keeps every set of entries each of which is fed by one of
them, such as what lies behind a node on a cycle (`Indexed.acyclic_of_isCyclic_eq_false`). Without a
cycle the nodes can be put in an order in which every connection goes forward
(`exists_perm_of_acyclic`), and then peeling leaves nothing (`Indexed.isCyclic_eq_false_of_order`).
Hence `validate` decides whether a graph is well-formed (`validate_decides`).
-/

namespace PromptGraph

open Relation

/-! ## Orders along a relation -/

theorem idxOf_lt_of_pairwise {α : Type} [DecidableEq α] {s : α → α → Prop} {xs : List α}
    (hs : xs.Pairwise s) {a b : α} (ha : a ∈ xs) (hb : b ∈ xs) (hne : a ≠ b) (hba : ¬ s b a) :
    xs.idxOf a < xs.idxOf b := by
  refine Nat.lt_of_le_of_ne (Nat.le_of_not_lt fun hlt => hba ?_)
    fun he => hne ((List.idxOf_inj ha).1 he)
  have hget := List.pairwise_iff_getElem.1 hs _ _ (List.idxOf_lt_length_of_mem hb)
    (List.idxOf_lt_length_of_mem ha) hlt
  rwa [List.getElem_idxOf, List.getElem_idxOf] at hget

/-- The items of a list can be put in an order along a relation that has no cycle. -/
theorem exists_perm_of_acyclic {α : Type} [DecidableEq α] {r : α → α → Prop}
    (h : ∀ a, ¬ TransGen r a a) (xs : List α) :
    ∃ order : List α, order.Perm xs ∧
      ∀ a ∈ order, ∀ b ∈ order, r a b → order.idxOf a < order.idxOf b := by
  classical
  have hr : IsPartialOrder α (ReflTransGen r) :=
    { refl := fun _ => .refl
      trans := fun _ _ _ => .trans
      antisymm := fun a b hab hba => by
        rcases reflTransGen_iff_eq_or_transGen.1 hab with rfl | hab
        · rfl
        · exact absurd (hab.trans_left hba) (h a) }
  obtain ⟨s, hs, hle⟩ := extend_partialOrder (ReflTransGen r)
  refine ⟨xs.insertionSort s, List.perm_insertionSort s xs, fun a ha b hb hab => ?_⟩
  have hne : a ≠ b := by
    rintro rfl
    exact h a (.single hab)
  have hba : ¬ s b a := fun hba => hne (antisymm_of s (hle a b (.single hab)) hba)
  exact idxOf_lt_of_pairwise (List.pairwise_insertionSort s xs) ha hb hne hba

namespace Graph

/-! ## What peeling keeps -/

/-- Each entry of the set is fed by one of them. -/
def SelfFed (kept : Set (Nat × List Nat)) : Prop := ∀ e ∈ kept, ∃ e' ∈ kept, e'.1 ∈ e.2

section

variable {kept : Set (Nat × List Nat)} {left : List (Nat × List Nat)} (h : SelfFed kept)

include h

theorem SelfFed.mem_peel (hl : ∀ e ∈ kept, e ∈ left) : ∀ e ∈ kept, e ∈ peel left := by
  intro e he
  obtain ⟨e', he', hfed⟩ := h e he
  rw [peel_eq, List.mem_filter]
  refine ⟨hl e he, List.any_eq_true.2 ⟨e'.1, hfed, ?_⟩⟩
  exact List.contains_iff_mem.2 (List.mem_map_of_mem (hl e' he'))

theorem SelfFed.mem_peelTimes (rounds : Nat) (hl : ∀ e ∈ kept, e ∈ left) :
    ∀ e ∈ kept, e ∈ peelTimes rounds left := by
  induction rounds generalizing left with
  | zero => exact hl
  | succ rounds ih =>
    rw [peelTimes]
    split
    · exact hl
    · exact ih (h.mem_peel hl)

end

/-! ## What feeds what -/

/-- A connection of the node `dest` comes from `source`. -/
def Feeds (g : Graph) (source dest : NodeId) : Prop :=
  ∃ n ∈ g.nodes, n.id = dest ∧ ∃ c ∈ n.connections.values, c.source = source

theorem Feeds.dest_mem {g : Graph} {source dest : NodeId} (h : g.Feeds source dest) :
    dest ∈ g.ids := by
  obtain ⟨n, hn, rfl, -⟩ := h
  exact List.mem_map_of_mem hn

theorem dest_mem_of_transGen {g : Graph} {a b : NodeId} (h : TransGen g.Feeds a b) : b ∈ g.ids := by
  cases h with
  | single h => exact h.dest_mem
  | tail _ h => exact h.dest_mem

theorem mem_feeders_iff {g : Graph} {e : Nat × List Nat} :
    e ∈ g.feeders ↔ ∃ n, g.nodes[e.1]? = some n ∧
      e.2 = n.connections.values.filterMap fun c => g.position? c.source := by
  obtain ⟨i, as⟩ := e
  rw [feeders, List.mem_map]
  constructor
  · rintro ⟨⟨n, j⟩, hn, he⟩
    obtain ⟨rfl, rfl⟩ := Prod.mk.inj he
    exact ⟨n, List.mem_zipIdx_iff_getElem?.1 hn, rfl⟩
  · rintro ⟨n, hn, rfl⟩
    exact ⟨(n, i), List.mem_zipIdx_iff_getElem?.2 hn, rfl⟩

theorem exists_mem_feeders {g : Graph} {id : NodeId} (hid : id ∈ g.ids) :
    ∃ e ∈ g.feeders, g.ids[e.1]? = some id := by
  obtain ⟨n, hn, rfl⟩ := List.mem_map.1 hid
  obtain ⟨i, hi⟩ := List.mem_iff_getElem?.1 hn
  exact ⟨(i, _), mem_feeders_iff.2 ⟨n, hi, rfl⟩, by simp [ids, hi]⟩

section

variable {g : Graph} (h : Indexed g)

include h

theorem Indexed.feeders_spec {e : Nat × List Nat} (he : e ∈ g.feeders) :
    ∃ dest, g.ids[e.1]? = some dest ∧
      ∀ a, a ∈ e.2 ↔ ∃ source, g.ids[a]? = some source ∧ g.Feeds source dest := by
  obtain ⟨n, hn, hsources⟩ := mem_feeders_iff.1 he
  have hid : g.ids[e.1]? = some n.id := by rw [ids, List.getElem?_map, hn]; rfl
  refine ⟨n.id, hid, fun a => ?_⟩
  simp only [hsources, List.mem_filterMap]
  constructor
  · rintro ⟨c, hc, ha⟩
    exact ⟨c.source, (h _ a).1 ha, n, List.mem_of_getElem? hn, rfl, c, hc, rfl⟩
  · rintro ⟨source, ha, n', hn', hid', c, hc, rfl⟩
    -- ids are distinct, so that the node that is fed stands at this position
    have hn₁ := h.node?_eq_some_iff.2 ⟨hn', hid'⟩
    have hn₂ := h.node?_of_mem (List.mem_of_getElem? hn)
    obtain rfl := Option.some.inj (hn₁.symm.trans hn₂)
    exact ⟨c, hc, (h _ a).2 ha⟩

/-! ## Cycles -/

/-- Everything behind a node on a cycle is fed by something behind it. -/
theorem Indexed.selfFed {id : NodeId} (hc : TransGen g.Feeds id id) :
    SelfFed {e | e ∈ g.feeders ∧ ∃ dest, g.ids[e.1]? = some dest ∧ TransGen g.Feeds id dest} := by
  rintro e ⟨he, dest, hdest, hreach⟩
  obtain ⟨source, hsource, hfeeds⟩ :
      ∃ source, TransGen g.Feeds id source ∧ g.Feeds source dest := by
    cases hreach with
    | single hf => exact ⟨id, hc, hf⟩
    | tail hr hf => exact ⟨_, hr, hf⟩
  obtain ⟨e', he', hid'⟩ := exists_mem_feeders (dest_mem_of_transGen hsource)
  obtain ⟨dest', hdest', hfed⟩ := h.feeders_spec he
  obtain rfl := Option.some.inj (hdest.symm.trans hdest')
  exact ⟨e', ⟨he', source, hid', hsource⟩, (hfed e'.1).2 ⟨source, hid', hfeeds⟩⟩

theorem Indexed.acyclic_of_isCyclic_eq_false (hc : g.isCyclic = false) (id : NodeId) :
    ¬ TransGen g.Feeds id id := by
  intro hid
  obtain ⟨e, he, hpos⟩ := exists_mem_feeders (dest_mem_of_transGen hid)
  have hleft := (h.selfFed hid).mem_peelTimes g.nodes.length (fun _ he => he.1) e
    ⟨he, id, hpos, hid⟩
  have hnil : peelTimes g.nodes.length g.feeders = [] := by simpa [isCyclic] using hc
  exact List.not_mem_nil (hnil ▸ hleft)

end

/-! ## Orders -/

/-- The nodes of the graph, so ordered that every connection between them goes forward. -/
structure ForwardOrder (g : Graph) (order : List NodeId) : Prop where
  perm : order.Perm g.ids
  forward : ∀ source ∈ order, ∀ dest, g.Feeds source dest → order.idxOf source < order.idxOf dest

theorem exists_forwardOrder {g : Graph} (h : ∀ id, ¬ TransGen g.Feeds id id) :
    ∃ order, ForwardOrder g order := by
  obtain ⟨order, hperm, hforward⟩ := exists_perm_of_acyclic h g.ids
  exact ⟨order, hperm, fun source hs dest hf =>
    hforward source hs dest (hperm.mem_iff.2 hf.dest_mem) hf⟩

/-- The place in a forward order is a rank that every connection raises. -/
theorem Indexed.isCyclic_eq_false_of_order {g : Graph} (h : Indexed g) {order : List NodeId}
    (ho : ForwardOrder g order) : g.isCyclic = false := by
  have hr : RankedBy (fun i => g.ids[i]?.elim 0 order.idxOf) g.feeders := by
    intro e he a ha
    obtain ⟨dest, hdest, hfed⟩ := h.feeders_spec he
    obtain ⟨source, hsource, hfeeds⟩ := (hfed a).1 ha
    simp only [hdest, hsource, Option.elim_some]
    exact ho.forward source (ho.perm.mem_iff.2 (List.mem_of_getElem? hsource)) dest hfeeds
  exact hr.isCyclic_eq_false

theorem Indexed.isCyclic_eq_false_iff {g : Graph} (h : Indexed g) :
    g.isCyclic = false ↔ ∀ id, ¬ TransGen g.Feeds id id := by
  refine ⟨h.acyclic_of_isCyclic_eq_false, fun hc => ?_⟩
  obtain ⟨order, ho⟩ := exists_forwardOrder hc
  exact h.isCyclic_eq_false_of_order ho

/-! ## Dangling connections -/

theorem Indexed.danglingRefs_eq {g : Graph} (h : Indexed g) :
    g.danglingRefs = g.nodes.flatMap fun n =>
      (n.connections.entries.filter fun e => e.2.source ∉ g.ids).map
        fun e => (n.id, e.1, e.2.source) := by
  rw [danglingRefs, references, List.filter_flatMap]
  refine List.flatMap_congr fun n _ => ?_
  rw [List.filter_map]
  refine congrArg (List.map _) (List.filter_congr fun e _ => Bool.eq_iff_iff.2 ?_)
  simp [← h.contains_iff]

theorem Indexed.danglingRefs_eq_nil_iff {g : Graph} (h : Indexed g) :
    g.danglingRefs = [] ↔ ∀ source dest, g.Feeds source dest → source ∈ g.ids := by
  rw [h.danglingRefs_eq]
  simp only [List.flatMap_eq_nil_iff, List.map_eq_nil_iff, List.filter_eq_nil_iff,
    decide_eq_true_eq, Decidable.not_not]
  constructor
  · rintro hall source dest ⟨n, hn, -, c, hc, rfl⟩
    obtain ⟨e, he, rfl⟩ := List.mem_map.1 hc
    exact hall n hn e he
  · exact fun hall n hn e he => hall _ n.id ⟨n, hn, rfl, e.2, List.mem_map_of_mem he, rfl⟩

/-- **`validate` decides well-formedness**, whatever changes built the graph. It accepts exactly the
graphs that have a node, whose connections come from members, and whose connections form no cycle,
in other words whose nodes can be put in an order in which every connection goes forward. When a
source is missing, the error lists the dangling connections: node by node, in the order of each
node's connections. -/
theorem validate_decides (cs : List Change) :
    let g := build cs
    (g.validate = .ok () ↔ g.nodes ≠ [] ∧
      (∀ source dest, g.Feeds source dest → source ∈ g.ids) ∧
      ∀ id, ¬ TransGen g.Feeds id id) ∧
    ((∀ id, ¬ TransGen g.Feeds id id) ↔ ∃ order, ForwardOrder g order) ∧
    ((∃ source dest, g.Feeds source dest ∧ source ∉ g.ids) →
      g.validate = .error (.dangling (g.nodes.flatMap fun n =>
        (n.connections.entries.filter fun e => e.2.source ∉ g.ids).map
          fun e => (n.id, e.1, e.2.source)))) := by
  intro g
  have h : Indexed g := (filed_build cs).indexed
  refine ⟨?_, ⟨exists_forwardOrder, fun ⟨order, ho⟩ => ?_⟩, ?_⟩
  · rw [validate_eq_ok_iff, h.danglingRefs_eq_nil_iff, h.isCyclic_eq_false_iff, isEmpty,
      List.isEmpty_eq_false_iff]
  · exact h.isCyclic_eq_false_iff.1 (h.isCyclic_eq_false_of_order ho)
  · rintro ⟨source, dest, hf, hs⟩
    have he : g.isEmpty = false := by
      obtain ⟨n, hn, -⟩ := hf
      exact List.isEmpty_eq_false_iff.2 (List.ne_nil_of_mem hn)
    have hd : g.danglingRefs ≠ [] := fun hd => hs (h.danglingRefs_eq_nil_iff.1 hd source dest hf)
    rw [validate, he, if_neg Bool.false_ne_true, if_pos hd, h.danglingRefs_eq]

end Graph

end PromptGraph
