import Mathlib.Data.List.ProdSigma
import PromptGraph.Proofs.Identities
import PromptGraph.Proofs.Overriding

/-!
# What a bundle does

Applying a bundle comes down to assigning parameters to nodes one after the other; what that leaves
is said all at once by `overrideAll`, and what it counts by the assignments of which a node knows a
name (`foldl_patchOne`). For the nodes of the index, the assignments are the entries that select
them (`dealt_assignments`), which gives the effect of a bundle (`bundle_effect`): parameters by type
go before those by title, and these before those by id.
-/

namespace PromptGraph

open PromptGraph.Graph

variable {answers : String → Id (List InputSpec)}

/-! ## Assigning parameters to nodes -/

namespace Node

def overrideAll (n : Node) (ps : Entries Json) : Node :=
  { n with overrides := n.overrides.insertAll ps }

@[simp] theorem id_overrideAll (n : Node) (ps : Entries Json) : (n.overrideAll ps).id = n.id := rfl

@[simp] theorem overrideAll_nil (n : Node) : n.overrideAll [] = n := rfl

theorem overrideAll_append (n : Node) (ps qs : Entries Json) :
    n.overrideAll (ps ++ qs) = (n.overrideAll ps).overrideAll qs := by
  simp only [overrideAll, OrderedMap.insertAll_append]

theorem overrideAll_overrideAll (n : Node) (ps : Entries Json) :
    (n.overrideAll ps).overrideAll ps = n.overrideAll ps := by
  simp only [overrideAll, OrderedMap.insertAll_insertAll]

end Node

namespace Graph

/-- Overrides parameters of all nodes, by their ids. -/
def overrideAll (g : Graph) (f : NodeId → Entries Json) : Graph :=
  { g with nodes := g.nodes.map fun n => n.overrideAll (f n.id) }

theorem overrideAll_of_eq_nil {g : Graph} {f : NodeId → Entries Json}
    (h : ∀ n ∈ g.nodes, f n.id = []) : g.overrideAll f = g := by
  have hn : g.nodes.map (fun n => n.overrideAll (f n.id)) = g.nodes := by
    refine (List.map_congr_left fun n hn => ?_).trans (List.map_id' g.nodes)
    rw [h n hn, Node.overrideAll_nil]
  exact congrArg (fun ns => { g with nodes := ns }) hn

theorem overrideAll_append (g : Graph) (f f' : NodeId → Entries Json) :
    (g.overrideAll fun id => f id ++ f' id) = (g.overrideAll f).overrideAll f' := by
  simp only [overrideAll, List.map_map, Node.overrideAll_append]
  rfl

theorem overrideAll_overrideAll (g : Graph) (f : NodeId → Entries Json) :
    (g.overrideAll f).overrideAll f = g.overrideAll f := by
  simp only [overrideAll, List.map_map, Function.comp_def, Node.id_overrideAll,
    Node.overrideAll_overrideAll]

theorem node?_overrideAll (g : Graph) (f : NodeId → Entries Json) (id : NodeId) :
    (g.overrideAll f).node? id = (g.node? id).map fun n => n.overrideAll (f n.id) := by
  have hp : (g.overrideAll f).position? id = g.position? id := rfl
  unfold node?
  rw [hp]
  cases g.position? id with
  | none => rfl
  | some i => exact List.getElem?_map

theorem override?_overrideAll {g : Graph} {id : NodeId} {n : Node} (hn : g.node? id = some n)
    (f : NodeId → Entries Json) (name : String) : (g.overrideAll f).override? id name =
      (Entries.get? (f n.id).reverse name).or (n.overrides.get? name) := by
  rw [override?, node?_overrideAll, hn]
  exact n.overrides.get?_insertAll_reverse (f n.id) name

/-- Parameters that are assigned to a node. -/
abbrev Assignment := NodeId × OrderedMap Json

/-- Patches the node, and counts it if that changed it. -/
def patchOne (answers : String → Id (List InputSpec)) (s : Nat × Graph) (a : Assignment) :
    Nat × Graph :=
  match (s.2.patch? answers a.2 a.1).run with
  | some g => (s.1 + 1, g)
  | none => s

theorem patchEach_run (params : OrderedMap Json) (ids : List NodeId) (s : Nat × Graph) :
    (patchEach answers none params ids s).run =
      (ids.map fun id => (id, params)).foldl (patchOne answers) s := by
  induction ids generalizing s with
  | nil => rfl
  | cons id ids ih =>
    rw [patchEach, if_neg (by simp), Id.run_bind, List.map_cons, List.foldl_cons, patchOne]
    cases hp : (s.2.patch? answers params id).run with
    | none => exact ih s
    | some g => exact ih (s.1 + 1, g)

theorem patchTargets_run (ts : List (List NodeId × OrderedMap Json)) (s : Nat × Graph) :
    (patchTargets answers ts s).run =
      (ts.flatMap fun t => t.1.map fun id => (id, t.2)).foldl (patchOne answers) s := by
  induction ts generalizing s with
  | nil => rfl
  | cons t ts ih =>
    rw [patchTargets, Id.run_bind, ih, patchEach_run, List.flatMap_cons, List.foldl_append]

theorem patched_patchOne (s : Nat × Graph) (a : Assignment) :
    Patched answers s.2 (patchOne answers s a).2 := by
  unfold patchOne
  split
  · next g hp => exact patched_of_patch? hp
  · exact .refl s.2

theorem indexed_patchOne {s : Nat × Graph} (h : Indexed s.2) (a : Assignment) :
    Indexed (patchOne answers s a).2 := by
  unfold patchOne
  split
  · next g hp => exact stable_indexed hp h
  · exact h

/-- The node knows a name that it is assigned. -/
def Takes (answers : String → Id (List InputSpec)) (g : Graph) (a : Assignment) : Prop :=
  ∃ name ∈ a.2.keys, name ∈ (g.knownNames answers a.1).run

instance (g : Graph) : DecidablePred (g.Takes answers) := fun a =>
  inferInstanceAs (Decidable (∃ name ∈ a.2.keys, name ∈ (g.knownNames answers a.1).run))

/-- What assignments set of the parameters that a node knows. -/
def dealt (answers : String → Id (List InputSpec)) (g : Graph) (as : List Assignment)
    (id : NodeId) : Entries Json :=
  as.flatMap fun a => if a.1 = id then g.kept answers a.2 id else []

theorem takes_iff {g : Graph} {a : Assignment} :
    g.Takes answers a ↔ g.kept answers a.2 a.1 ≠ [] := by
  rw [kept, ne_eq, List.filter_eq_nil_iff]
  simp [Takes, OrderedMap.keys, Entries.keys]

theorem dealt_singleton (g : Graph) (a : Assignment) (id : NodeId) :
    g.dealt answers [a] id = if a.1 = id then g.kept answers a.2 id else [] := by
  simp [dealt]

theorem dealt_append (g : Graph) (as as' : List Assignment) (id : NodeId) :
    g.dealt answers (as ++ as') id = g.dealt answers as id ++ g.dealt answers as' id :=
  List.flatMap_append

theorem patch?_of_takes {g : Graph} (h : Indexed g) {a : Assignment} (ht : g.Takes answers a) :
    (g.patch? answers a.2 a.1).run = some (g.overrideAll (g.dealt answers [a])) := by
  obtain ⟨name, -, hknown⟩ := id ht
  obtain ⟨n, hn, -⟩ := mem_knownNames_iff.1 hknown
  obtain ⟨i, hi, -⟩ := Option.bind_eq_some_iff.1 hn
  have hnodes : g.nodes.modify i (·.overrideAll (g.kept answers a.2 a.1)) =
      g.nodes.map fun n => n.overrideAll (g.dealt answers [a] n.id) := by
    rw [h.modify_eq_map hi]
    refine List.map_congr_left fun n _ => ?_
    rw [dealt_singleton]
    by_cases hid : a.1 = n.id
    · rw [if_pos hid, if_pos hid.symm, hid]
    · rw [if_neg hid, if_neg (Ne.symm hid), Node.overrideAll_nil]
  rw [patch?_run, if_neg (by simpa using takes_iff.1 ht), modifyOverrides?_eq_some_iff]
  exact ⟨i, hi, congrArg (fun ns => { g with nodes := ns }) hnodes.symm⟩

theorem patch?_of_not_takes {g : Graph} {a : Assignment} (ht : ¬ g.Takes answers a) :
    (g.patch? answers a.2 a.1).run = none := by
  have hk : g.kept answers a.2 a.1 = [] := not_not.1 (mt takes_iff.2 ht)
  rw [patch?_run, if_pos (by simp [hk])]

theorem patchOne_eq (answers : String → Id (List InputSpec)) {g : Graph} (h : Indexed g) (k : Nat)
    (a : Assignment) : patchOne answers (k, g) a =
      (k + [a].countP (g.Takes answers ·), g.overrideAll (g.dealt answers [a])) := by
  by_cases ht : g.Takes answers a
  · rw [patchOne, patch?_of_takes h ht]
    simp [ht]
  · have hnil : ∀ n ∈ g.nodes, g.dealt answers [a] n.id = [] := by
      intro n _
      rw [dealt_singleton]
      split
      · next hid => exact hid ▸ not_not.1 (mt takes_iff.2 ht)
      · rfl
    rw [patchOne, patch?_of_not_takes ht, overrideAll_of_eq_nil hnil]
    simp [ht]

section

variable {g g' : Graph} (h : Patched answers g g')

include h

theorem Patched.takes_iff (a : Assignment) : g'.Takes answers a ↔ g.Takes answers a := by
  simp only [Takes, h.known]

theorem Patched.countP_takes (as : List Assignment) :
    as.countP (g'.Takes answers ·) = as.countP (g.Takes answers ·) :=
  List.countP_congr fun a _ => by simpa using h.takes_iff a

theorem Patched.dealt_eq (as : List Assignment) (id : NodeId) :
    g'.dealt answers as id = g.dealt answers as id := by
  simp only [dealt, h.kept_eq]

end

/-- **Assignments one after the other** count those of which a node knows a name, and set what
nodes know, as if all were made at once. -/
theorem foldl_patchOne {g : Graph} (h : Indexed g) (k : Nat) (as : List Assignment) :
    as.foldl (patchOne answers) (k, g) =
      (k + as.countP (g.Takes answers ·), g.overrideAll (g.dealt answers as)) := by
  induction as generalizing k g with
  | nil => exact Prod.ext rfl (overrideAll_of_eq_nil fun _ _ => rfl).symm
  | cons a as ih =>
    have hone := patchOne_eq answers h k a
    have hp : Patched answers g (patchOne answers (k, g) a).2 := patched_patchOne (k, g) a
    have hi : Indexed (patchOne answers (k, g) a).2 := indexed_patchOne h a
    rw [hone] at hp hi
    rw [List.foldl_cons, hone, ih hi, hp.countP_takes, funext (hp.dealt_eq as),
      ← overrideAll_append]
    refine congrArg₂ Prod.mk ?_ (congrArg g.overrideAll (funext fun id => ?_))
    · rw [Nat.add_assoc, ← List.countP_append]
      rfl
    · exact (dealt_append g [a] as id).symm

theorem patchOne_of_notMem {s : Nat × Graph} (h : Indexed s.2) {a : Assignment}
    (ha : a.1 ∉ s.2.ids) : patchOne answers s a = s := by
  have ht : ¬ s.2.Takes answers a := by
    rintro ⟨name, -, hknown⟩
    obtain ⟨n, hn, -⟩ := mem_knownNames_iff.1 hknown
    obtain ⟨hmem, hid⟩ := h.node?_eq_some_iff.1 hn
    exact ha (hid ▸ List.mem_map_of_mem hmem)
  rw [patchOne, patch?_of_not_takes ht]

theorem foldl_patchOne_filter {s : Nat × Graph} (h : Indexed s.2) (as : List Assignment) :
    (as.filter fun a => decide (a.1 ∈ s.2.ids)).foldl (patchOne answers) s =
      as.foldl (patchOne answers) s := by
  induction as generalizing s with
  | nil => rfl
  | cons a as ih =>
    by_cases ha : a.1 ∈ s.2.ids
    · have hids : (patchOne answers s a).2.ids = s.2.ids := (patched_patchOne s a).ids_eq
      have hi : Indexed (patchOne answers s a).2 := indexed_patchOne h a
      have hrest := ih hi
      rw [hids] at hrest
      rw [List.filter_cons_of_pos (by simpa using ha), List.foldl_cons, List.foldl_cons, hrest]
    · rw [List.filter_cons_of_neg (by simpa using ha), List.foldl_cons, patchOne_of_notMem h ha,
        ih h]

end Graph

/-! ## Entries and what they select -/

/-- What an entry of a bundle addresses. -/
inductive Address where
  | id (id : NodeId)
  | title (title : String)
  | type (typeName : String)

/-- The address is that of the node. -/
def Address.Selects (n : NodeId × IndexEntry) : Address → Prop
  | id i => n.1 = i
  | title t => n.2.title = some t
  | type y => n.2.typeName = y

instance (n : NodeId × IndexEntry) : DecidablePred (Address.Selects n)
  | .id i => inferInstanceAs (Decidable (n.1 = i))
  | .title t => inferInstanceAs (Decidable (n.2.title = some t))
  | .type y => inferInstanceAs (Decidable (n.2.typeName = y))

namespace OverrideBundle

/-- The entries of a bundle, in the order in which they are applied. -/
def entries (b : OverrideBundle) : List (Address × OrderedMap Json) :=
  b.byId.entries.map (fun e => (.id e.1, e.2)) ++
    (b.byTitle.entries.map (fun e => (.title e.1, e.2)) ++
      b.byType.entries.map fun e => (.type e.1, e.2))

/-- What a bundle sets a parameter of a node to: by its type, else by its title, else by its id. -/
def value? (b : OverrideBundle) (id : NodeId) (entry : IndexEntry) (name : String) : Option Json :=
  ((b.byType.get? entry.typeName).bind (·.get? name)).or
    (((entry.title.bind b.byTitle.get?).bind (·.get? name)).or
      ((b.byId.get? id).bind (·.get? name)))

/-- The parameters of each entry, for each node of the index that it selects. -/
def assignments (b : OverrideBundle) (x : IdentityIndex) : List Assignment :=
  ((b.entries ×ˢ x.entries.entries).filter fun p => decide (p.1.1.Selects p.2)).map
    fun p => (p.2.1, p.1.2)

theorem assignments_eq (b : OverrideBundle) (x : IdentityIndex) : b.assignments x =
    b.entries.flatMap fun e =>
      (x.entries.entries.filter fun n => decide (e.1.Selects n)).map fun n => (n.1, e.2) := by
  have hp : b.entries ×ˢ x.entries.entries =
      b.entries.flatMap fun e => x.entries.entries.map (Prod.mk e) := rfl
  rw [assignments, hp, List.filter_flatMap, List.map_flatMap]
  refine List.flatMap_congr fun e _ => ?_
  rw [List.filter_map, List.map_map]
  rfl

end OverrideBundle

def IdentityIndex.idsAt (x : IdentityIndex) : Address → List NodeId
  | .id i => [i]
  | .title t => x.idsTitled t
  | .type y => x.idsOfType y

/-- An address leads to the nodes that it selects, and perhaps to an id that no node has. -/
theorem IdentityIndex.filter_idsAt {g : Graph} (h : g.Identified) (a : Address) :
    ((ofGraph g).idsAt a).filter (fun id => decide (id ∈ g.ids)) =
      ((ofGraph g).entries.entries.filter fun n => decide (a.Selects n)).map Prod.fst := by
  have hall (q : NodeId × IndexEntry → Bool) :
      (((ofGraph g).entries.entries.filter q).map Prod.fst).filter
        (fun id => decide (id ∈ g.ids)) = ((ofGraph g).entries.entries.filter q).map Prod.fst := by
    refine List.filter_eq_self.2 fun id hid => decide_eq_true ?_
    obtain ⟨n, hn, rfl⟩ := List.mem_map.1 hid
    rw [← keys_ofGraph h]
    exact List.mem_map_of_mem (List.mem_of_mem_filter hn)
  cases a with
  | id i =>
    have hkeys : ((ofGraph g).entries.entries.filter fun n => decide (n.1 = i)).map Prod.fst =
        g.ids.filter fun id => decide (id = i) := by
      rw [← keys_ofGraph h, OrderedMap.keys, Entries.keys, List.filter_map]
      rfl
    refine Eq.trans ?_ hkeys.symm
    rw [List.filter_eq, h.indexed.nodup.count, idsAt, List.filter_singleton]
    by_cases hi : i ∈ g.ids <;> simp [hi]
  | title t => exact (congrArg _ (idsTitled_ofGraph h t)).trans (hall _)
  | type y => exact hall _

open IdentityIndex

theorem Workbench.targets_eq (x : IdentityIndex) (b : OverrideBundle) :
    targets x b = b.entries.map fun e => (x.idsAt e.1, e.2) := by
  simp only [targets, OverrideBundle.entries, List.map_append, List.map_map, List.append_assoc]
  rfl

/-- Of the targets of a bundle, those that are nodes of the graph are its assignments. -/
theorem OverrideBundle.filter_targets {g : Graph} (h : g.Identified) (b : OverrideBundle) :
    (((Workbench.targets (ofGraph g) b).flatMap fun t => t.1.map fun id => (id, t.2)).filter
      fun a => decide (a.1 ∈ g.ids)) = b.assignments (ofGraph g) := by
  rw [Workbench.targets_eq, assignments_eq, List.flatMap_map, List.filter_flatMap]
  refine List.flatMap_congr fun e _ => ?_
  have hids := congrArg (List.map fun id => (id, e.2)) (filter_idsAt h e.1)
  rw [List.map_map] at hids
  rw [List.filter_map]
  exact hids

namespace OverrideBundle

variable {g : Graph} {id : NodeId} {entry : IndexEntry}

theorem dealt_assignments {x : IdentityIndex} (he : x.get? id = some entry) (b : OverrideBundle) :
    g.dealt answers (b.assignments x) id =
      (b.byId.get? id).toList.flatMap (g.kept answers · id) ++
        ((entry.title.bind b.byTitle.get?).toList.flatMap (g.kept answers · id) ++
          (b.byType.get? entry.typeName).toList.flatMap (g.kept answers · id)) := by
  have hselect (e : Address × OrderedMap Json) :
      g.dealt answers ((x.entries.entries.filter fun n => decide (e.1.Selects n)).map
        fun n => (n.1, e.2)) id =
        if e.1.Selects (id, entry) then g.kept answers e.2 id else [] := by
    have hn := Entries.nodup_filter x.entries.nodup fun n => decide (e.1.Selects n)
    rw [dealt, List.flatMap_map, Entries.flatMap_key hn id fun _ => g.kept answers e.2 id,
      Entries.get?_filter x.entries.nodup, show x.entries.entries.get? id = some entry from he,
      Option.filter_some]
    by_cases hs : e.1.Selects (id, entry) <;> simp [hs]
  rw [assignments_eq, dealt, List.flatMap_assoc]
  refine (List.flatMap_congr fun e _ => hselect e).trans ?_
  rw [entries, List.flatMap_append, List.flatMap_append, List.flatMap_map, List.flatMap_map,
    List.flatMap_map]
  refine congrArg₂ _ ?_ (congrArg₂ _ ?_ ?_)
  · refine (List.flatMap_congr fun e _ => ?_).trans
      (Entries.flatMap_key b.byId.nodup id (g.kept answers · id))
    exact if_congr eq_comm rfl rfl
  · cases ht : entry.title with
    | none => exact List.flatMap_eq_nil_iff.2 fun e _ => if_neg (by simp [Address.Selects, ht])
    | some t =>
      refine (List.flatMap_congr fun e _ => ?_).trans
        (Entries.flatMap_key b.byTitle.nodup t (g.kept answers · id))
      exact if_congr (by simp [Address.Selects, ht, eq_comm]) rfl rfl
  · refine (List.flatMap_congr fun e _ => ?_).trans
      (Entries.flatMap_key b.byType.nodup entry.typeName (g.kept answers · id))
    exact if_congr eq_comm rfl rfl

theorem get?_reverse_flatMap_kept (params : Option (OrderedMap Json)) (name : String) :
    Entries.get? (params.toList.flatMap (g.kept answers · id)).reverse name =
      if name ∈ (g.knownNames answers id).run then params.bind (·.get? name) else none := by
  cases params with
  | none => simp
  | some params =>
    have hn : (Entries.keys (g.kept answers params id)).Nodup :=
      Entries.nodup_filter params.nodup _
    rw [Option.toList_some, List.flatMap_singleton,
      Entries.get?_eq_of_perm hn (List.reverse_perm _).symm, kept,
      Entries.get?_filter params.nodup]
    by_cases hk : name ∈ (g.knownNames answers id).run
    · have hfind : params.get? name = params.entries.get? name := rfl
      rw [if_pos hk, Option.bind_some, hfind]
      cases params.entries.get? name <;> simp [hk]
    · simp [hk]

/-- **Which entry a parameter is taken from**: the last that has it. -/
theorem get?_reverse_dealt {x : IdentityIndex} (he : x.get? id = some entry) (b : OverrideBundle)
    (name : String) : Entries.get? (g.dealt answers (b.assignments x) id).reverse name =
      if name ∈ (g.knownNames answers id).run then b.value? id entry name else none := by
  rw [dealt_assignments he, List.reverse_append, List.reverse_append, Entries.get?_append,
    Entries.get?_append, get?_reverse_flatMap_kept, get?_reverse_flatMap_kept,
    get?_reverse_flatMap_kept, Option.or_assoc]
  split
  · rfl
  · rfl

end OverrideBundle

/-! ## The effect of a bundle -/

namespace Workbench

/-- **What applying a bundle comes down to**: its assignments are made at once. -/
theorem apply_run (answers : String → Id (List InputSpec)) {w : Workbench} (h : w.Catalogued)
    (b : OverrideBundle) : (w.apply answers b).run =
      w.settle ((b.assignments w.index).countP (w.graph.Takes answers ·),
        w.graph.overrideAll (w.graph.dealt answers (b.assignments w.index))) := by
  have hrun : (w.apply answers b).run =
      w.settle (patchTargets answers (targets w.index b) (0, w.graph)).run := rfl
  have hassigned := b.filter_targets h.graph
  rw [← h.index] at hassigned
  rw [hrun, patchTargets_run, ← foldl_patchOne_filter h.graph.indexed, hassigned,
    foldl_patchOne h.graph.indexed, Nat.zero_add]

theorem settle_settle (w : Workbench) (s : Nat × Graph) : (w.settle s).2.settle s = w.settle s := by
  by_cases hs : 0 < s.1 ∧ w.stage ≠ .unloaded
  · simp [settle, hs]
  · simp only [settle, if_neg hs]

theorem apply_apply (answers : String → Id (List InputSpec)) {w : Workbench} (h : w.Catalogued)
    (b : OverrideBundle) :
    ((w.apply answers b).run.2.apply answers b).run = (w.apply answers b).run := by
  have hp : Patched answers w (w.apply answers b).run.2 := patched_after w (.bundle b)
  have hagain := apply_run answers (h.of_sameFrame hp.sameFrame) b
  rw [hp.index, hp.graph.countP_takes, funext (hp.graph.dealt_eq _)] at hagain
  rw [hagain, apply_run answers h b, graph_settle, overrideAll_overrideAll, settle_settle]

/-- **The effect of a bundle.** After any commands, a parameter that a node knows is set by the
entry for the type of the node, or else by that for its title, or else by that for its id, as the
index has them; no other override changes, and nothing else does. Counted are the entries with the
nodes that they select and of which these know a name; and applying the bundle once more counts as
many and changes nothing. Nodes of graphs that are taken up go by the ids that documents give them,
as they do in all graphs that are built (`identified_build`). -/
theorem bundle_effect (answers : String → Id (List InputSpec)) (loading : Loading.Options)
    (options : CompilerOptions) (cs : List Command)
    (hcs : ∀ g, Command.adopt g ∈ cs → g.Identified) (b : OverrideBundle) :
    let w := cs.foldl (Command.after answers) { loading, options }
    let r := (w.apply answers b).run
    (∀ n ∈ w.graph.nodes, ∃ entry, w.index.get? n.id = some entry ∧ ∀ name,
      r.2.graph.override? n.id name = if name ∈ (n.knownNames answers).run
        then (b.value? n.id entry name).or (n.overrides.get? name)
        else n.overrides.get? name) ∧
      r.2.graph.frame = w.graph.frame ∧
      r.1 = (b.entries ×ˢ w.index.entries.entries).countP (fun p => p.1.1.Selects p.2 ∧
        ∃ name ∈ p.1.2.keys, name ∈ (w.graph.knownNames answers p.2.1).run) ∧
      (r.2.apply answers b).run = r := by
  intro w r
  have h : w.Catalogued := catalogued_foldl_after (catalogued_new loading options) hcs
  clear_value w
  have hr : r = w.settle _ := apply_run answers h b
  have hp : Patched answers w r.2 := patched_after w (.bundle b)
  refine ⟨fun n hn => ?_, hp.graph.frame, ?_, apply_apply answers h b⟩
  · have hn' : w.graph.node? n.id = some n := h.graph.indexed.node?_of_mem hn
    have hid : n.id ∈ w.index.entries.keys := by
      rw [h.index, IdentityIndex.keys_ofGraph h.graph]
      exact List.mem_map_of_mem hn
    obtain ⟨entry, he⟩ := Option.isSome_iff_exists.1 (OrderedMap.get?_isSome_iff.2 hid)
    have hknown : (w.graph.knownNames answers n.id).run = (n.knownNames answers).run := by
      rw [knownNames_eq, hn']
      rfl
    refine ⟨entry, he, fun name => ?_⟩
    rw [hr, graph_settle, override?_overrideAll hn', b.get?_reverse_dealt he, hknown]
    split
    · rfl
    · rw [Option.none_or]
  · rw [hr]
    show (b.assignments w.index).countP _ = _
    rw [OverrideBundle.assignments, List.countP_map, List.countP_filter]
    refine List.countP_congr fun p _ => ?_
    simp [Takes, and_comm]

/-- Two encoders of one title: a text that is set by title although it is set by id as well, also
for a node that is not there, and a parameter that no encoder knows. -/
theorem bundle_effect_of_encoders :
    let answers : String → Id (List InputSpec) := fun _ => pure [⟨"text", some .text, .empty⟩]
    let encoder (id : Int) : Json := .object [("id", .int id), ("type", .text "CLIPTextEncode"),
      ("title", .text "Main"), ("widgets_values", .array [.text "a bottle"])]
    let cs : List Command := [.adopt .empty,
      .loadJson (.object [("nodes", .array [encoder 6, encoder 7])]),
      .setById "7" "text" (.text "a cup")]
    let texts (s : String) : OrderedMap Json := .ofList [("text", .text s)]
    let b : OverrideBundle := {
      byId := .ofList [("6", texts "by id"), ("9", texts "by id")]
      byTitle := .ofList [("Main", texts "by title")]
      byType := .ofList [("CLIPTextEncode", .ofList [("steps", .nat 20)])] }
    let w := cs.foldl (Command.after answers) { loading := {}, options := {} }
    let r := (w.apply answers b).run
    (∀ g, Command.adopt g ∈ cs → g.Identified) ∧
      r.2.graph.override? "6" "text" = some (.text "by title") ∧ r.1 = 3 ∧
      r.2.graph.frame = w.graph.frame ∧ (r.2.apply answers b).run = r := by
  intro answers encoder cs texts b w r
  have hcs : ∀ g, Command.adopt g ∈ cs → g.Identified := by
    intro g hg
    obtain rfl : g = .empty := by simpa [cs] using hg
    exact .empty
  have hnode : ∃ n ∈ w.graph.nodes, n.id = "6" ∧ "text" ∈ (n.knownNames answers).run := by
    decide +kernel
  have hentry : w.index.get? "6" = some ⟨some "Main", "CLIPTextEncode", 0⟩ := by decide +kernel
  have hpairs : (b.entries ×ˢ w.index.entries.entries).countP (fun p => p.1.1.Selects p.2 ∧
      ∃ name ∈ p.1.2.keys, name ∈ (w.graph.knownNames answers p.2.1).run) = 3 := by
    decide +kernel
  have hvalue : b.value? "6" ⟨some "Main", "CLIPTextEncode", 0⟩ "text" =
      some (.text "by title") := by decide +kernel
  clear_value answers cs b
  obtain ⟨hover, hframe, hcount, hagain⟩ := bundle_effect answers {} {} cs hcs b
  obtain ⟨n, hn, hid, hknown⟩ := hnode
  obtain ⟨entry, he, hset⟩ := hover n hn
  rw [hid] at he hset
  obtain rfl := Option.some.inj (hentry.symm.trans he)
  have htext := hset "text"
  rw [if_pos hknown, hvalue, Option.some_or] at htext
  exact ⟨hcs, htext, hcount.trans hpairs, hframe, hagain⟩

end Workbench

end PromptGraph
