import PromptGraph.Proofs.Commands

/-!
# What patches change

A patch sets overrides of a node at names that the node knows. So it leaves the frame of the graph,
which is all of it but the overrides, and the names that nodes know (`stable_patched`), and how many
hits a patch counts depends on nothing else (`Sweeps.hits`). `Patch` lists the operations that
patch; each of them is a sweep over nodes that the identity index finds (`Patch.run_eq`).
-/

namespace PromptGraph

variable {answers : String → Id (List InputSpec)}

/-! ## Known names -/

namespace Node

theorem mem_foldl_appendNew {names more : List String} {name : String} :
    name ∈ more.foldl appendNew names ↔ name ∈ names ∨ name ∈ more := by
  induction more generalizing names with
  | nil => simp
  | cons other more ih =>
    have hstep : name ∈ appendNew names other ↔ name ∈ names ∨ name = other := by
      unfold appendNew
      split
      · next hc =>
        have hm : other ∈ names := by simpa using hc
        exact ⟨.inl, fun h => h.elim (fun hn => hn) fun he => he ▸ hm⟩
      · simp
    rw [List.foldl_cons, ih, hstep, List.mem_cons, or_assoc]

/-- A node knows what is overridden, what a widget backs, and what its widget values fill. -/
theorem mem_knownNames {n : Node} {name : String} :
    name ∈ (n.knownNames answers).run ↔ name ∈ n.overrides.keys ∨ name ∈ n.widgets ∨
      name ∈ (Compiler.aligned (Compiler.specsOf answers n).run n).keys := by
  have hk : (n.knownNames answers).run =
      (Compiler.aligned (Compiler.specsOf answers n).run n).keys.foldl appendNew
        n.declaredNames := rfl
  rw [hk, mem_foldl_appendNew, declaredNames, mem_foldl_appendNew, or_assoc]

/-- The node without its overrides. -/
def frame (n : Node) : Node := { n with overrides := .empty }

end Node

namespace Graph

theorem knownNames_eq (g : Graph) (id : NodeId) : (g.knownNames answers id).run =
    ((g.node? id).map fun n => (n.knownNames answers).run).getD [] := by
  unfold knownNames
  cases g.node? id <;> rfl

/-! ## Frames -/

/-- The graph without the overrides of its nodes. -/
def frame (g : Graph) : Graph := { g with nodes := g.nodes.map Node.frame }

theorem ids_frame (g : Graph) : g.frame.ids = g.ids := by
  rw [ids, frame, List.map_map]
  rfl

theorem node?_frame (g : Graph) (id : NodeId) : g.frame.node? id = (g.node? id).map Node.frame := by
  have hp : g.frame.position? id = g.position? id := rfl
  unfold node?
  rw [hp]
  cases g.position? id with
  | none => rfl
  | some i => exact List.getElem?_map

theorem node?_modifyAt (g : Graph) (i : Nat) (f : Node → Node) (id : NodeId) :
    (g.modifyAt i f).node? id =
      (g.node? id).map fun n => if g.position? id = some i then f n else n := by
  have hp : (g.modifyAt i f).position? id = g.position? id := rfl
  unfold node?
  rw [hp]
  cases g.position? id with
  | none => rfl
  | some j =>
    show (g.nodes.modify i f)[j]? = g.nodes[j]?.map _
    rw [List.getElem?_modify]
    refine congrArg (Option.map · _) (funext fun n => ?_)
    simp only [Option.some.injEq, eq_comm]

theorem modifyOverrides?_eq_some_iff {g g' : Graph} {id : NodeId}
    {f : OrderedMap Json → OrderedMap Json} : g.modifyOverrides? id f = some g' ↔
      ∃ i, g.position? id = some i ∧
        g' = g.modifyAt i fun n => { n with overrides := f n.overrides } := by
  unfold modifyOverrides?
  cases g.position? id with
  | none => simp
  | some i =>
    simp only [Option.some.injEq, exists_eq_left']
    exact ⟨fun h => (Option.some.inj h).symm, fun h => congrArg some h.symm⟩

theorem frame_of_modifyOverrides? {g g' : Graph} {id : NodeId}
    {f : OrderedMap Json → OrderedMap Json} (h : g.modifyOverrides? id f = some g') :
    g'.frame = g.frame := by
  obtain ⟨i, -, rfl⟩ := modifyOverrides?_eq_some_iff.1 h
  have hn : (g.nodes.modify i fun n => { n with overrides := f n.overrides }).map Node.frame =
      g.nodes.map Node.frame := map_modify (by intro n; rfl) g.nodes i
  exact congrArg (fun ns => { g with nodes := ns }) hn

/-! ## Patching one node -/

/-- The parameters that the node with the id knows. -/
def kept (answers : String → Id (List InputSpec)) (g : Graph) (params : OrderedMap Json)
    (id : NodeId) : Entries Json :=
  params.entries.filter fun p => (g.knownNames answers id).run.contains p.1

theorem patch?_run (g : Graph) (params : OrderedMap Json) (id : NodeId) :
    (g.patch? answers params id).run = if (g.kept answers params id).isEmpty then none
      else g.modifyOverrides? id (·.insertAll (g.kept answers params id)) := rfl

theorem isSome_patch? (g : Graph) (params : OrderedMap Json) (id : NodeId) :
    (g.patch? answers params id).run.isSome = !(g.kept answers params id).isEmpty := by
  rw [patch?_run]
  cases hk : g.kept answers params id with
  | nil => rfl
  | cons p ps =>
    have hp : p ∈ g.kept answers params id := hk ▸ List.mem_cons_self
    have hknown : p.1 ∈ (g.knownNames answers id).run := by
      simpa using (List.mem_filter.1 hp).2
    have hpos : ∃ i, g.position? id = some i := by
      rw [knownNames_eq] at hknown
      cases hn : g.node? id with
      | none =>
        rw [hn] at hknown
        cases hknown
      | some n =>
        obtain ⟨i, hi, -⟩ := Option.bind_eq_some_iff.1 hn
        exact ⟨i, hi⟩
    obtain ⟨i, hi⟩ := hpos
    have hs := modifyOverrides?_eq_some_iff (f := (·.insertAll (p :: ps))).2 ⟨i, hi, rfl⟩
    exact Option.isSome_iff_exists.2 ⟨_, hs⟩

/-- `g'` comes of `g` by overriding what nodes know. -/
structure Patched (answers : String → Id (List InputSpec)) (g g' : Graph) : Prop where
  frame : g'.frame = g.frame
  known : ∀ id name, name ∈ (g'.knownNames answers id).run ↔ name ∈ (g.knownNames answers id).run

theorem Patched.refl (g : Graph) : Patched answers g g := ⟨rfl, fun _ _ => .rfl⟩

theorem Patched.symm {g g' : Graph} (h : Patched answers g g') : Patched answers g' g :=
  ⟨h.frame.symm, fun id name => (h.known id name).symm⟩

theorem Patched.trans {g g' g'' : Graph} (h : Patched answers g g') (h' : Patched answers g' g'') :
    Patched answers g g'' :=
  ⟨h'.frame.trans h.frame, fun id name => (h'.known id name).trans (h.known id name)⟩

theorem Patched.ids_eq {g g' : Graph} (h : Patched answers g g') : g'.ids = g.ids := by
  rw [← ids_frame, h.frame, ids_frame]

theorem Patched.kept_eq {g g' : Graph} (h : Patched answers g g') (params : OrderedMap Json)
    (id : NodeId) : g'.kept answers params id = g.kept answers params id := by
  refine List.filter_congr fun p _ => Bool.eq_iff_iff.2 ?_
  simpa using h.known id p.1

theorem patched_of_patch? {g g' : Graph} {params : OrderedMap Json} {id : NodeId}
    (h : (g.patch? answers params id).run = some g') : Patched answers g g' := by
  rw [patch?_run] at h
  split at h
  · cases h
  refine ⟨frame_of_modifyOverrides? h, fun other name => ?_⟩
  obtain ⟨i, hi, rfl⟩ := modifyOverrides?_eq_some_iff.1 h
  rw [knownNames_eq, knownNames_eq, node?_modifyAt]
  cases hn : g.node? other with
  | none => exact .rfl
  | some n =>
    by_cases ho : g.position? other = some i
    · have hsame : g.node? id = some n := by
        rw [node?, hi, ← ho]
        exact hn
      -- what is overridden was known before, so no patch brings in a name for later ones
      have hkept : ∀ key, key ∈ (g.kept answers params id).keys →
          key ∈ (n.knownNames answers).run := by
        intro key hkey
        obtain ⟨p, hp, rfl⟩ := List.mem_map.1 hkey
        have hc := (List.mem_filter.1 hp).2
        rw [knownNames_eq, hsame] at hc
        simpa using hc
      simp only [Option.map_some, Option.getD_some, if_pos ho]
      rw [Node.mem_knownNames, Node.mem_knownNames, OrderedMap.mem_keys_insertAll, or_assoc]
      constructor
      · rintro (hk | hk | hk)
        · exact .inl hk
        · exact Node.mem_knownNames.1 (hkept name hk)
        · exact .inr hk
      · exact Or.imp_right .inr
    · simp only [Option.map_some, Option.getD_some, if_neg ho]

theorem stable_patched (g₀ : Graph) : Stable answers (Patched answers g₀) :=
  fun hp h => h.trans (patched_of_patch? hp)

/-! ## Sweeps -/

/-- The function patches nodes of a graph and counts hits, for which only the frame and the known
names matter. -/
structure Sweeps (answers : String → Id (List InputSpec)) (f : Nat × Graph → Nat × Graph) :
    Prop where
  patched : ∀ s, Patched answers s.2 (f s).2
  hits : ∀ k {g g'}, Patched answers g g' → (f (k, g')).1 = (f (k, g)).1

theorem sweeps_patchEach (limit : Option Nat) (params : OrderedMap Json) (ids : List NodeId) :
    Sweeps answers fun s => (patchEach answers limit params ids s).run where
  patched s := Stable.patchEach (stable_patched s.2) limit params ids (.refl s.2)
  hits := by
    induction ids with
    | nil => exact fun _ _ _ _ => rfl
    | cons id ids ih =>
      intro k g g' h
      -- both graphs are patched at the node or neither is, so the counts stay in step
      have hs : (g'.patch? answers params id).run.isSome =
          (g.patch? answers params id).run.isSome := by
        rw [isSome_patch?, isSome_patch?, h.kept_eq]
      rw [patchEach, patchEach]
      split
      · rfl
      · rw [Id.run_bind, Id.run_bind]
        cases hp : (g.patch? answers params id).run with
        | none =>
          rw [hp, Option.isSome_none, Option.isSome_eq_false_iff, Option.isNone_iff_eq_none] at hs
          rw [hs]
          exact ih k h
        | some g₁ =>
          rw [hp, Option.isSome_some, Option.isSome_iff_exists] at hs
          obtain ⟨g₁', hp'⟩ := hs
          rw [hp']
          exact ih (k + 1) ((patched_of_patch? hp).symm.trans (h.trans (patched_of_patch? hp')))

theorem sweeps_patchTargets (ts : List (List NodeId × OrderedMap Json)) :
    Sweeps answers fun s => (patchTargets answers ts s).run where
  patched s := Stable.patchTargets (stable_patched s.2) ts (.refl s.2)
  hits := by
    induction ts with
    | nil => exact fun _ _ _ _ => rfl
    | cons t ts ih =>
      intro k g g' h
      have ht : Sweeps answers _ := sweeps_patchEach none t.2 t.1
      let first (g : Graph) : Nat × Graph := (patchEach answers none t.2 t.1 (k, g)).run
      have hk : (first g').1 = (first g).1 := ht.hits k h
      have hp : Patched answers (first g).2 (first g').2 :=
        (ht.patched (k, g)).symm.trans (h.trans (ht.patched (k, g')))
      rw [patchTargets, patchTargets, Id.run_bind, Id.run_bind]
      refine (ih (first g').1 hp).trans ?_
      rw [hk]

end Graph

/-! ## Operations that patch -/

/-- An operation that patches nodes of a workbench. -/
inductive Patch where
  | byId (id name : String) (value : Json)
  | byTitle (title name : String) (value : Json) (mode : MatchMode) (limit : Option Nat)
  | byType (typeName : String) (params : OrderedMap Json) (limit : Option Nat)
  | bundle (b : OverrideBundle)

namespace Patch

variable (answers : String → Id (List InputSpec))

/-- What the operation gives: the hits and the workbench that it leaves. -/
def run (w : Workbench) : Patch → Except Failure (Nat × Workbench)
  | byId id name value => .ok (w.setById answers id name value).run
  | byTitle title name value mode limit => (w.setByTitle answers title name value mode limit).run
  | byType typeName params limit => .ok (w.setByType answers typeName params limit).run
  | bundle b => .ok (w.apply answers b).run

def hits (w : Workbench) (p : Patch) : Except Failure Nat := (p.run answers w).map Prod.fst

/-- The workbench that is left; an operation that fails leaves it alone. -/
def after (w : Workbench) (p : Patch) : Workbench :=
  ((p.run answers w).toOption.map Prod.snd).getD w

/-- How the operation goes through the nodes that the index finds for it. -/
def sweep (x : IdentityIndex) : Patch → Except Failure (Nat × Graph → Nat × Graph)
  | byId id name value =>
    .ok fun s => (Graph.patchEach answers none (.ofList [(name, value)]) [id] s).run
  | byTitle title name value mode limit => (x.idsMatching title mode).map fun ids s =>
    (Graph.patchEach answers limit (.ofList [(name, value)]) ids s).run
  | byType typeName params limit =>
    .ok fun s => (Graph.patchEach answers limit params (x.idsOfType typeName) s).run
  | bundle b => .ok fun s => (Graph.patchTargets answers (Workbench.targets x b) s).run

variable {answers}

theorem run_eq (w : Workbench) (p : Patch) :
    p.run answers w = (p.sweep answers w.index).map fun f => w.settle (f (0, w.graph)) := by
  cases p with
  | byId => rfl
  | byTitle title name value mode limit =>
    simp only [run, Workbench.setByTitle, sweep]
    cases w.index.idsMatching title mode <;> rfl
  | byType => rfl
  | bundle => rfl

theorem sweeps_of_sweep {x : IdentityIndex} {p : Patch} {f : Nat × Graph → Nat × Graph}
    (h : p.sweep answers x = .ok f) : Graph.Sweeps answers f := by
  cases p with
  | byId id name value =>
    cases h
    exact Graph.sweeps_patchEach none _ [id]
  | byTitle title name value mode limit =>
    simp only [sweep] at h
    cases hi : x.idsMatching title mode with
    | error e =>
      rw [hi] at h
      cases h
    | ok ids =>
      rw [hi] at h
      cases h
      exact Graph.sweeps_patchEach limit _ ids
  | byType typeName params limit =>
    cases h
    exact Graph.sweeps_patchEach limit params _
  | bundle b =>
    cases h
    exact Graph.sweeps_patchTargets _

end Patch

namespace Workbench

/-- `w'` comes of `w` by patching. -/
structure Patched (answers : String → Id (List InputSpec)) (w w' : Workbench) : Prop where
  graph : Graph.Patched answers w.graph w'.graph
  index : w'.index = w.index
  options : w'.options = w.options
  unloaded : w'.stage = .unloaded ↔ w.stage = .unloaded

theorem Patched.refl (w : Workbench) : Patched answers w w := ⟨.refl _, rfl, rfl, .rfl⟩

theorem Patched.symm {w w' : Workbench} (h : Patched answers w w') : Patched answers w' w :=
  ⟨h.graph.symm, h.index.symm, h.options.symm, h.unloaded.symm⟩

theorem Patched.trans {w w' w'' : Workbench} (h : Patched answers w w')
    (h' : Patched answers w' w'') : Patched answers w w'' :=
  ⟨h.graph.trans h'.graph, h'.index.trans h.index, h'.options.trans h.options,
    h'.unloaded.trans h.unloaded⟩

theorem patched_settle {w : Workbench} {s : Nat × Graph} (h : Graph.Patched answers w.graph s.2) :
    Patched answers w (w.settle s).2 := by
  unfold settle
  dsimp only
  split
  · next hs => exact ⟨h, rfl, rfl, iff_of_false (by simp) hs.2⟩
  · exact ⟨h, rfl, rfl, .rfl⟩

/-- An operation patches, even one that fails. -/
theorem patched_after (w : Workbench) (p : Patch) : Patched answers w (p.after answers w) := by
  unfold Patch.after
  rw [Patch.run_eq]
  cases hf : p.sweep answers w.index with
  | error e => exact .refl w
  | ok f => exact patched_settle ((Patch.sweeps_of_sweep hf).patched (0, w.graph))

theorem patched_foldl_after (w : Workbench) (ps : List Patch) :
    Patched answers w (ps.foldl (Patch.after answers) w) := by
  induction ps generalizing w with
  | nil => exact .refl w
  | cons p ps ih => exact (patched_after w p).trans (ih _)

theorem Patched.hits_eq {w w' : Workbench} (h : Patched answers w w') (p : Patch) :
    p.hits answers w' = p.hits answers w := by
  unfold Patch.hits
  rw [Patch.run_eq, Patch.run_eq, h.index]
  cases hf : p.sweep answers w.index with
  | error e => rfl
  | ok f => exact congrArg Except.ok ((Patch.sweeps_of_sweep hf).hits 0 h.graph)

end Workbench

end PromptGraph
