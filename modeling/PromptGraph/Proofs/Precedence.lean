import PromptGraph.Proofs.Overriding
import PromptGraph.Schema.Cache

/-!
# Which value an input is compiled with

`Settled own n name v` says, layer by layer, that `v` stands under a name of node `n`, where `own`
is what its widget values are aligned with. Whatever the schema answers, the compiled inputs of a
node are named by its connections, aligned values and overrides, and hold what is settled
(`compiled_inputs_settled`); only the prefix of a save node follows rules of its own.
-/

namespace PromptGraph.Compiler

inductive Settled (own : OrderedMap Json) (n : Node) (name : String) : Json → Prop where
  /-- A scalar or null override lies over everything. -/
  | scalar {v : Json} : n.overrides.get? name = some v → v.isScalar = true → Settled own n name v
  | aligned {v : Json} : (∀ u, n.overrides.get? name = some u → ¬ u.isScalar = true) →
      own.get? name = some v → Settled own n name v
  | wired {c : Connection} : (∀ u, n.overrides.get? name = some u → ¬ u.isScalar = true) →
      own.get? name = none → n.connections.get? name = some c →
      Settled own n name (.array [.text c.source, .nat c.slot])
  /-- An array or an object fills a gap only. -/
  | compound {v : Json} : n.overrides.get? name = some v → ¬ v.isScalar = true →
      own.get? name = none → n.connections.get? name = none → Settled own n name v

/-- The name is the prefix input of a save node. -/
def IsPrefixInput (o : CompilerOptions) (n : Node) (name : String) : Prop :=
  n.typeName = o.saveType ∧ name = o.prefixInput

variable {specs : List InputSpec} {o : CompilerOptions} {n : Node} {name : String}

theorem get?_layered_eq_some_iff {v : Json} :
    (layered specs n).get? name = some v ↔ Settled (aligned specs n) n name v := by
  simp only [get?_layered, beneath, Option.or_eq_some_iff, Option.or_eq_none_iff,
    Option.filter_eq_some_iff, Option.filter_eq_none_iff, Option.map_eq_some_iff,
    Option.map_eq_none_iff]
  constructor
  · rintro (⟨ho, hs⟩ | ⟨hn, (ha | ⟨ha, c, hc, rfl⟩) | ⟨⟨ha, hc⟩, ho⟩⟩)
    · exact .scalar ho hs
    · exact .aligned hn ha
    · exact .wired hn ha hc
    · exact .compound ho (hn v ho) ha hc
  · rintro (⟨ho, hs⟩ | ⟨hn, ha⟩ | ⟨hn, ha, hc⟩ | ⟨ho, hs, ha, hc⟩)
    · exact .inl ⟨ho, hs⟩
    · exact .inr ⟨hn, .inl (.inl ha)⟩
    · exact .inr ⟨hn, .inl (.inr ⟨ha, _, hc, rfl⟩)⟩
    · refine .inr ⟨fun u hu => ?_, .inr ⟨⟨ha, hc⟩, ho⟩⟩
      rwa [Option.some.inj (hu.symm.trans ho)]

/-! ## Names -/

theorem mem_keys_layered : name ∈ (layered specs n).keys ↔
    name ∈ n.connections.keys ∨ name ∈ (aligned specs n).keys ∨ name ∈ n.overrides.keys := by
  simp only [← OrderedMap.get?_isSome_iff, get?_layered, beneath, Option.isSome_or,
    Option.isSome_map, Bool.or_eq_true]
  have hf : ((n.overrides.get? name).filter Json.isScalar).isSome = true →
      (n.overrides.get? name).isSome = true := Option.isSome_of_isSome_filter _ _
  tauto

/-- A save node never leaves without a prefix. -/
theorem mem_keys_applyPrefix {m : OrderedMap Json} :
    name ∈ (applyPrefix o m).keys ↔ name ∈ m.keys ∨ name = o.prefixInput := by
  rw [applyPrefix_eq]
  cases hs : settledPrefix? o (m.get? o.prefixInput) with
  | some s => rw [OrderedMap.mem_keys_insert, or_comm]
  | none =>
    refine ⟨.inl, fun h => h.elim id ?_⟩
    rintro rfl
    by_contra hm
    rw [OrderedMap.get?_eq_none_iff.2 hm] at hs
    cases hs

theorem mem_keys_nodeInputs : name ∈ (nodeInputs o specs n).keys ↔
    name ∈ n.connections.keys ∨ name ∈ (aligned specs n).keys ∨ name ∈ n.overrides.keys ∨
      IsPrefixInput o n name := by
  unfold nodeInputs IsPrefixInput
  split
  · next ht => simp only [mem_keys_applyPrefix, mem_keys_layered, or_assoc, ht, true_and]
  · next ht => simp only [mem_keys_layered, ht, false_and, or_false]

theorem notMem_connections_of_aligned (h : name ∈ (aligned specs n).keys) :
    name ∉ n.connections.keys := by
  obtain ⟨p, hp, rfl⟩ := List.mem_map.1 h
  exact (mem_aligned hp).1

/-! ## Compiling a node -/

variable {σ : Type} {lookup : String → StateM σ (List InputSpec)} {s s' : σ} {e : PromptNode}

/-- **The layers of a compiled node.** However schemas are looked up, a node that compiles has as
inputs its connections, aligned values and overrides, and a save node its prefix. What stands
under a name is a scalar override, or else the aligned value, or else the connection, or else an
array or an object; no connection meets an aligned value. -/
theorem compiled_inputs_settled (h : (compileNode lookup o n).run s = (.ok e, s')) :
    let own := ((align lookup n).run s).1
    (∀ name, name ∈ e.inputs.keys ↔ name ∈ n.connections.keys ∨ name ∈ own.keys ∨
        name ∈ n.overrides.keys ∨ IsPrefixInput o n name) ∧
      (∀ name, ¬ IsPrefixInput o n name → ∀ v,
        e.inputs.get? name = some v ↔ Settled own n name v) ∧
      ∀ name ∈ own.keys, name ∉ n.connections.keys := by
  intro own
  have hown : own = aligned ((specsOf lookup n).run s).1 n := rfl
  obtain rfl := compileNode_run_eq_ok h
  refine ⟨fun name => mem_keys_nodeInputs, fun name hp v => ?_,
    fun name => notMem_connections_of_aligned⟩
  rw [entry, get?_nodeInputs hp, get?_layered_eq_some_iff, hown]

/-- A save node with every kind of layer: a wired size takes no widget value, the seed is overridden
with null, a quality that is aligned and a mask that is wired are not overridden with arrays, and
a crop is. Its schema comes from a document at hand. -/
theorem compiled_inputs_settled_of_save_node :
    let document : Json := .object [("SaveImage", .object [("input", .object [("required", .object
      [("width", .array [.text "INT"]), ("seed", .array [.text "INT"]),
        ("quality", .array [.text "FLOAT"]), ("filename_prefix", .array [.text "STRING"])])])])]
    let n : Node := { Node.named "9" "SaveImage" with
      values := [.int 7, .text "randomize", .int 90, .text "shots/a"]
      connections := .ofList [("images", ⟨"8", 0⟩), ("width", ⟨"5", 1⟩), ("mask", ⟨"6", 2⟩)]
      overrides := .ofList [("seed", .null), ("quality", .array [.int 1]), ("mask", .array []),
        ("crop", .object [("x", .int 0)])] }
    let lookup := Session.inputs (.inline "1" document)
    let s : Session := { outside := { files := .ofRoot "" } }
    ∃ e s', (compileNode lookup {} n).run s = (.ok e, s') ∧
      let own := ((align lookup n).run s).1
      own.keys = ["seed", "quality", "filename_prefix"] ∧
        (∀ name, name ∈ e.inputs.keys ↔ name ∈ n.connections.keys ∨ name ∈ own.keys ∨
          name ∈ n.overrides.keys ∨ IsPrefixInput {} n name) ∧
        (∀ name, ¬ IsPrefixInput {} n name → ∀ v,
          e.inputs.get? name = some v ↔ Settled own n name v) ∧
        ∀ name ∈ own.keys, name ∉ n.connections.keys := by
  intro document n lookup s
  have hown : ((align lookup n).run s).1.keys = ["seed", "quality", "filename_prefix"] := by
    decide +kernel
  have hrun : ∃ e s', (compileNode lookup {} n).run s = (.ok e, s') := ⟨_, _, rfl⟩
  obtain ⟨e, s', hrun⟩ := hrun
  exact ⟨e, s', hrun, hown, compiled_inputs_settled hrun⟩

end PromptGraph.Compiler
