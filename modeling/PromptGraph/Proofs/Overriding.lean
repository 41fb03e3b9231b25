import PromptGraph.Proofs.Listing
import PromptGraph.Proofs.Patches

/-!
# What an override does

Setting a parameter by id overrides it if the node knows it, and otherwise does nothing
(`setById_run`). Of two graphs with one frame, both compile or neither does
(`Patched.recompiled_cases`), and the inputs of an entry differ only where overrides do
(`get?_nodeInputs_congr`).
-/

namespace PromptGraph

open Compiler

variable {answers : String → Id (List InputSpec)}

theorem Node.exists_of_frame {n n' : Node} (h : n'.frame = n.frame) :
    ∃ os, n' = { n with overrides := os } :=
  ⟨n'.overrides, congrArg (fun m => { m with overrides := n'.overrides }) h⟩

namespace Graph

/-! ## Overriding one parameter -/

def override (g : Graph) (id : NodeId) (name : String) (v : Json) : Graph :=
  (g.modifyOverrides? id (·.insert name v)).getD g

/-- What a parameter of a node is overridden with. -/
def override? (g : Graph) (id : NodeId) (name : String) : Option Json :=
  (g.node? id).bind (·.overrides.get? name)

theorem Indexed.node?_override {g : Graph} (h : Indexed g) (id : NodeId) (name : String) (v : Json)
    (other : NodeId) : (g.override id name v).node? other = (g.node? other).map fun n =>
      if other = id then { n with overrides := n.overrides.insert name v } else n := by
  cases hp : g.position? id with
  | none =>
    have hg : g.override id name v = g := by simp [override, modifyOverrides?, hp]
    rw [hg]
    cases hn : g.node? other with
    | none => rfl
    | some n =>
      have hne : other ≠ id := by
        rintro rfl
        simp [node?, hp] at hn
      rw [Option.map_some, if_neg hne]
  | some i =>
    have hg : g.override id name v =
        g.modifyAt i fun n => { n with overrides := n.overrides.insert name v } := by
      simp [override, modifyOverrides?, hp]
    have hpos : g.position? other = some i ↔ other = id := by
      constructor
      · intro ho
        exact Option.some.inj (((h other i).1 ho).symm.trans ((h id i).1 hp))
      · rintro rfl
        exact hp
    rw [hg, node?_modifyAt]
    simp only [hpos]

theorem Indexed.override?_override {g : Graph} (h : Indexed g) (id : NodeId) (name : String)
    (v : Json) (other : NodeId) (key : String) : (g.override id name v).override? other key =
      if other = id ∧ key = name then (g.node? id).map fun _ => v else g.override? other key := by
  unfold override?
  rw [h.node?_override]
  by_cases ho : other = id
  · subst ho
    cases g.node? other with
    | none => simp
    | some n => simp [OrderedMap.get?_insert, eq_comm]
  · simp [ho]

theorem mem_knownNames_iff {g : Graph} {id : NodeId} {name : String} :
    name ∈ (g.knownNames answers id).run ↔
      ∃ n, g.node? id = some n ∧ name ∈ (n.knownNames answers).run := by
  rw [knownNames_eq]
  cases g.node? id <;> simp

theorem patch?_singleton_run (g : Graph) (id : NodeId) (name : String) (v : Json) :
    (g.patch? answers (.ofList [(name, v)]) id).run =
      if name ∈ (g.knownNames answers id).run then some (g.override id name v) else none := by
  have hk : g.kept answers (.ofList [(name, v)]) id =
      if name ∈ (g.knownNames answers id).run then [(name, v)] else [] := by
    by_cases h : name ∈ (g.knownNames answers id).run
    · rw [if_pos h]
      exact List.filter_cons_of_pos (by simpa using h)
    · rw [if_neg h]
      exact List.filter_cons_of_neg (by simpa using h)
  rw [patch?_run, hk]
  by_cases h : name ∈ (g.knownNames answers id).run
  · obtain ⟨n, hn, -⟩ := mem_knownNames_iff.1 h
    obtain ⟨i, hi, -⟩ := Option.bind_eq_some_iff.1 hn
    have ho : g.modifyOverrides? id (·.insert name v) = some (g.override id name v) := by
      simp [override, modifyOverrides?, hi]
    rw [if_pos h, if_pos h, ← ho]
    rfl
  · rw [if_neg h, if_neg h]
    rfl

end Graph

namespace Workbench

/-- **Setting a parameter by id** overrides it if the node knows it, and else does nothing. -/
theorem setById_run (w : Workbench) (id name : String) (v : Json) :
    (w.setById answers id name v).run = if name ∈ (w.graph.knownNames answers id).run
      then w.settle (1, w.graph.override id name v) else (0, w) := by
  have hp : (w.graph.patch? answers _ id).run = _ := w.graph.patch?_singleton_run id name v
  show w.settle (Graph.patchEach answers none _ [id] (0, w.graph)).run = _
  rw [Graph.patchEach, if_neg (by simp), Id.run_bind, hp]
  by_cases h : name ∈ (w.graph.knownNames answers id).run
  · rw [if_pos h, if_pos h]
    rfl
  · rw [if_neg h, if_neg h]
    simp [Graph.patchEach, settle]

end Workbench

/-! ## Compiling graphs with one frame -/

namespace Compiler

theorem get?_applyPrefix (o : CompilerOptions) (m : OrderedMap Json) (input : String) :
    (applyPrefix o m).get? input = if input = o.prefixInput
      then ((settledPrefix? o (m.get? input)).map Json.text).or (m.get? input)
      else m.get? input := by
  rw [applyPrefix_eq]
  by_cases h : input = o.prefixInput
  · subst h
    rw [if_pos rfl]
    cases settledPrefix? o (m.get? o.prefixInput) with
    | none => rfl
    | some s => simp [OrderedMap.get?_insert]
  · rw [if_neg h]
    cases settledPrefix? o (m.get? o.prefixInput) with
    | none => rfl
    | some s => rw [OrderedMap.get?_insert, if_neg (Ne.symm h)]

/-- An input depends on the frame of the node and on the override of that input. -/
theorem get?_nodeInputs_congr {n n' : Node} (hf : n'.frame = n.frame) {input : String}
    (ho : n'.overrides.get? input = n.overrides.get? input) (o : CompilerOptions)
    (specs : List InputSpec) :
    (nodeInputs o specs n').get? input = (nodeInputs o specs n).get? input := by
  obtain ⟨os, rfl⟩ := Node.exists_of_frame hf
  have hl : (layered specs { n with overrides := os }).get? input =
      (layered specs n).get? input := by
    rw [get?_layered, get?_layered, ho]
    rfl
  unfold nodeInputs
  split
  · rw [get?_applyPrefix, get?_applyPrefix, hl]
  · exact hl

theorem get?_nodeInputs {n : Node} {input : String} {o : CompilerOptions}
    (hp : ¬(n.typeName = o.saveType ∧ input = o.prefixInput)) (specs : List InputSpec) :
    (nodeInputs o specs n).get? input = (layered specs n).get? input := by
  unfold nodeInputs
  split
  · next ht => rw [get?_applyPrefix, if_neg fun h => hp ⟨ht, h⟩]
  · rfl

theorem get?_nodeInputs_of_isScalar {n : Node} {input : String} {v : Json}
    (hv : n.overrides.get? input = some v) (hs : v.isScalar = true) {o : CompilerOptions}
    (hp : ¬(n.typeName = o.saveType ∧ input = o.prefixInput)) (specs : List InputSpec) :
    (nodeInputs o specs n).get? input = some v := by
  rw [get?_nodeInputs hp, get?_layered, hv, Option.filter_some, if_pos hs, Option.some_or]

end Compiler

namespace Graph

theorem validate_frame (g : Graph) : g.frame.validate = g.validate := by
  have he : g.frame.isEmpty = g.isEmpty := List.isEmpty_map
  have hr : g.frame.references = g.references := List.flatMap_map ..
  have hf : g.frame.feeders = g.feeders := by
    rw [feeders, feeders, frame, List.zipIdx_map, List.map_map]
    rfl
  have hd : g.frame.danglingRefs = g.danglingRefs := by
    rw [danglingRefs, danglingRefs, hr]
    rfl
  have hc : g.frame.isCyclic = g.isCyclic := by
    rw [isCyclic, isCyclic, hf, frame, List.length_map]
  rw [validate, validate, he, hd, hc]

theorem refused_frame (g : Graph) (o : CompilerOptions) :
    (g.frame.nodes.find? (refuses o)).map Node.id = (g.nodes.find? (refuses o)).map Node.id := by
  rw [frame, List.find?_map, Option.map_map]
  rfl

end Graph

namespace Workbench

def payload (answers : String → Id (List InputSpec)) (w : Workbench) : Prompt :=
  Compiler.payload w.options (fun n => (specsOf answers n).run) w.graph

theorem ids_payload {w : Workbench} (h : w.graph.Indexed) :
    (w.payload answers).ids = w.graph.ids := Compiler.ids_payload h.nodup ..

theorem get?_payload {w : Workbench} (h : w.graph.Indexed) (id : NodeId) :
    (w.payload answers).get? id =
      (w.graph.node? id).map fun n => entry w.options (specsOf answers n).run n :=
  get?_payload_eq h ..

theorem payload_of_recompiled {w : Workbench} {p : Prompt} (h : w.recompiled answers = .ok p) :
    p = w.payload answers := compile_eq_ok (recompiled_eq_ok.1 h).2.2

/-- **Patching does not make compiling fail**, nor does it mend it. -/
theorem Patched.recompiled_cases {w w' : Workbench} (h : Patched answers w w') :
    (∃ e, w.recompiled answers = .error e ∧ w'.recompiled answers = .error e) ∨
      w.recompiled answers = .ok (w.payload answers) ∧
        w'.recompiled answers = .ok (w'.payload answers) := by
  have hv : w'.graph.validate = w.graph.validate := by
    rw [← w'.graph.validate_frame, h.graph.frame, w.graph.validate_frame]
  have hr : (w'.graph.nodes.find? (refuses w.options)).map Node.id =
      (w.graph.nodes.find? (refuses w.options)).map Node.id := by
    rw [← w'.graph.refused_frame, h.graph.frame, w.graph.refused_frame]
  unfold recompiled compileGraph payload
  by_cases hu : w.stage = .unloaded
  · rw [if_pos hu, if_pos (h.unloaded.2 hu)]
    exact .inl ⟨_, rfl, rfl⟩
  · rw [if_neg hu, if_neg (mt h.unloaded.1 hu), hv, h.options]
    cases w.graph.validate with
    | error e => exact .inl ⟨_, rfl, rfl⟩
    | ok u =>
      dsimp only
      rw [Id.run_bind, Id.run_bind, compile_run_eq, compile_run_eq]
      cases hn : w.graph.nodes.find? (refuses w.options) with
      | none =>
        rw [hn, Option.map_none, Option.map_eq_none_iff] at hr
        rw [hr]
        exact .inr ⟨rfl, rfl⟩
      | some n =>
        rw [hn, Option.map_some, Option.map_eq_some_iff] at hr
        obtain ⟨n', hn', hid⟩ := hr
        rw [hn']
        refine .inl ⟨_, rfl, ?_⟩
        show Except.error (Failure.compile (.unknownType n'.id)) = _
        rw [hid]

end Workbench

end PromptGraph
