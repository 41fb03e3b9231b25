import PromptGraph.Proofs.Overriding
import PromptGraph.Proofs.Validity

/-!
# What patches do to the prompt

A scalar that is set by id and counted takes effect at its input and nowhere else
(`scalar_patch_effect`). Patching does not change what can be patched, so hits do not depend on
earlier patches, and parameters can be set in any order (`patches_keep_known_names`).
-/

namespace PromptGraph

open Compiler PromptGraph.Graph

variable {answers : String → Id (List InputSpec)}

/-- The entries are the same but for the order of inputs. -/
structure PromptNode.Agree (e e' : PromptNode) : Prop where
  classType : e'.classType = e.classType
  details : e'.details = e.details
  inputs : ∀ input, e'.inputs.get? input = e.inputs.get? input

/-- The prompts hold entries that agree under the same ids, in the same order. -/
structure Prompt.Agree (p q : Prompt) : Prop where
  ids : q.ids = p.ids
  entries : ∀ id e e', p.get? id = some e → q.get? id = some e' → e.Agree e'

/-- Both fail alike, or both give prompts that agree. -/
def Prompt.AgreeResults : Except Failure Prompt → Except Failure Prompt → Prop
  | .ok p, .ok q => p.Agree q
  | .error e, .error e' => e' = e
  | _, _ => False

theorem Compiler.agree_entry {o : CompilerOptions} {n : Node} {name : String} {v : Json}
    (hs : v.isScalar = true) (hp : ¬(n.typeName = o.saveType ∧ name = o.prefixInput))
    (specs : List InputSpec) :
    PromptNode.Agree { entry o specs n with inputs := (nodeInputs o specs n).insert name v }
      (entry o specs { n with overrides := n.overrides.insert name v }) := by
  let n' : Node := { n with overrides := n.overrides.insert name v }
  have hover (input : String) : n'.overrides.get? input =
      if name = input then some v else n.overrides.get? input := OrderedMap.get?_insert ..
  refine ⟨rfl, rfl, fun input => ?_⟩
  rw [OrderedMap.get?_insert]
  by_cases hi : name = input
  · subst hi
    rw [if_pos rfl]
    exact get?_nodeInputs_of_isScalar ((hover name).trans (if_pos rfl)) hs hp specs
  · rw [if_neg hi]
    have hframe : n'.frame = n.frame := rfl
    exact get?_nodeInputs_congr hframe ((hover input).trans (if_neg hi)) o specs

namespace Workbench

variable {w w' : Workbench}

/-! ## Setting by id -/

theorem patched_setById (w : Workbench) (id name : String) (v : Json) :
    Patched answers w (w.setById answers id name v).run.2 :=
  patched_after w (.byId id name v)

theorem indexed_setById (h : Indexed w.graph) (id name : String) (v : Json) :
    Indexed (w.setById answers id name v).run.2.graph :=
  stable_indexed.workbench_patchEach h none _ [id]

theorem override?_setById (h : Indexed w.graph) (id name : String) (v : Json) (other : NodeId)
    (key : String) : (w.setById answers id name v).run.2.graph.override? other key =
      if (other = id ∧ key = name) ∧ name ∈ (w.graph.knownNames answers id).run then some v
      else w.graph.override? other key := by
  rw [setById_run]
  by_cases hk : name ∈ (w.graph.knownNames answers id).run
  · obtain ⟨n, hn, -⟩ := mem_knownNames_iff.1 hk
    rw [if_pos hk, graph_settle, h.override?_override, hn]
    simp only [hk, and_true, Option.map_some]
  · simp only [hk, and_false, if_false]

theorem node?_setById (h : Indexed w.graph) {id name : String} (v : Json) {n : Node}
    (hn : w.graph.node? id = some n) (hk : name ∈ (n.knownNames answers).run) (other : NodeId) :
    (w.setById answers id name v).run.2.graph.node? other = if other = id
      then some { n with overrides := n.overrides.insert name v } else w.graph.node? other := by
  rw [setById_run, if_pos (mem_knownNames_iff.2 ⟨n, hn, hk⟩), graph_settle, h.node?_override]
  by_cases ho : other = id <;> simp [ho, hn]

/-! ## The effect on the prompt -/

theorem payload_setById (h : Indexed w.graph) {id name : String} {n : Node} (v : Json)
    (hn : w.graph.node? id = some n) (hk : name ∈ (n.knownNames answers).run) :
    (w.setById answers id name v).run.2.payload answers = (w.payload answers).insert id
      (entry w.options (specsOf answers n).run
        { n with overrides := n.overrides.insert name v }) := by
  have hi' : Indexed (w.setById answers id name v).run.2.graph := indexed_setById h id name v
  have hp : Patched answers w _ := patched_setById w id name v
  refine congrArg Prompt.mk (OrderedMap.ext_get? ?_ fun other => ?_)
  · have hkey : id ∈ (w.payload answers).nodes.keys := by
      show id ∈ (w.payload answers).ids
      rw [ids_payload h]
      exact List.mem_map.2 ⟨n, h.node?_eq_some_iff.1 hn⟩
    rw [OrderedMap.keys_insert, if_pos hkey]
    exact (ids_payload hi').trans (hp.graph.ids_eq.trans (ids_payload h).symm)
  · rw [OrderedMap.get?_insert]
    refine (get?_payload hi' other).trans ?_
    rw [node?_setById h v hn hk, hp.options]
    by_cases ho : other = id
    · rw [if_pos ho, if_pos ho.symm]
      rfl
    · rw [if_neg ho, if_neg (Ne.symm ho)]
      exact (get?_payload h other).symm

/-- **A counted scalar takes effect and changes nothing else**, after any commands that leave a
prompt: where the node knows the name, the input of its entry becomes the value, all else stays as
it was. It is counted exactly there, and otherwise nothing changes. The prefix of a save node may
be made clean, and is left out. Graphs that are taken up have right position tables, as all graphs
that are built have (`filed_build`). -/
theorem scalar_patch_effect (answers : String → Id (List InputSpec)) (loading : Loading.Options)
    (options : CompilerOptions) (cs : List Command)
    (hcs : ∀ g, Command.adopt g ∈ cs → Indexed g) :
    let w := cs.foldl (Command.after answers) { loading, options }
    ∀ p, (w.prompt answers).run.1 = .ok p → ∀ (id name : String) (v : Json),
      let r := (w.setById answers id name v).run
      (r.1 = 1 ↔ ∃ n, w.graph.node? id = some n ∧ name ∈ (n.knownNames answers).run) ∧
      (r.1 ≠ 1 → r = (0, w)) ∧
      (r.1 = 1 → v.isScalar = true →
        (∀ n, w.graph.node? id = some n →
          ¬(n.typeName = w.options.saveType ∧ name = w.options.prefixInput)) →
        ∃ q e e', (r.2.prompt answers).run.1 = .ok q ∧ p.get? id = some e ∧ q = p.insert id e' ∧
          PromptNode.Agree { e with inputs := e.inputs.insert name v } e') := by
  intro w p hp id name v r
  have hf : Fresh answers w := (fresh_new loading options).foldl_after cs
  have hi : Indexed w.graph := indexed_foldl_after (w := { loading, options }) Indexed.empty hcs
  clear_value w
  have hr : r = if name ∈ (w.graph.knownNames answers id).run
      then w.settle (1, w.graph.override id name v) else (0, w) := setById_run w id name v
  have hcount : r.1 = 1 ↔ name ∈ (w.graph.knownNames answers id).run := by
    rw [hr]
    split
    · next hk => exact iff_of_true rfl hk
    · next hk => exact iff_of_false Nat.zero_ne_one hk
  refine ⟨hcount.trans mem_knownNames_iff, fun h0 => ?_, fun h1 hs hsave => ?_⟩
  · rw [hr, if_neg (mt hcount.2 h0)]
  · obtain ⟨n, hn, hk⟩ := mem_knownNames_iff.1 (hcount.1 h1)
    have hq := payload_setById hi v hn hk
    have he : (w.payload answers).get? id =
        some (entry w.options (specsOf answers n).run n) := by
      rw [get?_payload hi, hn, Option.map_some]
    have hw : w.recompiled answers = .ok p := hf.prompt_eq ▸ hp
    have hpay : p = w.payload answers := payload_of_recompiled hw
    have hok : r.2.recompiled answers = .ok (r.2.payload answers) := by
      rcases (patched_setById w id name v).recompiled_cases with ⟨_, herr, -⟩ | ⟨-, hok⟩
      · rw [hw] at herr
        cases herr
      · exact hok
    exact ⟨_, _, _, ((hf.after (.setById id name v)).prompt_eq).trans hok, hpay ▸ he, hpay ▸ hq,
      agree_entry hs (hsave n hn) _⟩

/-- A widget that is wired and was given an array is set to null. -/
theorem scalar_patch_effect_of_wired_style :
    let answers : String → Id (List InputSpec) := fun _ => pure [⟨"text", some .text, .empty⟩]
    let origin : Json := .object [("id", .int 5), ("type", .text "Style")]
    let encoder : Json := .object [("id", .int 6), ("type", .text "CLIPTextEncode"),
      ("inputs", .array [.object [("name", .text "style"), ("widget", .object [])]]),
      ("widgets_values", .array [.text "a bottle"])]
    let link : Json := .array [.int 1, .int 5, .int 0, .int 6, .int 0, .text "STRING"]
    let cs : List Command := [.adopt .empty,
      .loadJson (.object [("nodes", .array [origin, encoder]), ("links", .array [link])]),
      .setById "6" "style" (.array [.text "flat"])]
    let w := cs.foldl (Command.after answers) { loading := {}, options := {} }
    let r := (w.setById answers "6" "style" .null).run
    (∀ g, Command.adopt g ∈ cs → Indexed g) ∧ r.1 = 1 ∧ Json.null.isScalar = true ∧
      (∀ n, w.graph.node? "6" = some n →
        ¬(n.typeName = w.options.saveType ∧ "style" = w.options.prefixInput)) ∧
      ∃ p q e e', (w.prompt answers).run.1 = .ok p ∧ (r.2.prompt answers).run.1 = .ok q ∧
        p.get? "6" = some e ∧ q = p.insert "6" e' ∧
        PromptNode.Agree { e with inputs := e.inputs.insert "style" .null } e' := by
  intro answers origin encoder link cs w r
  have hcs : ∀ g, Command.adopt g ∈ cs → Indexed g := by
    intro g hg
    obtain rfl : g = .empty := by simpa [cs] using hg
    exact Indexed.empty
  have hc : (compile answers w.options w.graph).run.toOption.isSome = true := by decide +kernel
  have hr : r.1 = 1 := by decide +kernel
  have ht : "style" ≠ w.options.prefixInput := by decide +kernel
  have hg : w.stage ≠ .unloaded ∧ w.graph.isEmpty = false ∧ w.graph.danglingRefs = [] ∧
      Ordered w.graph.feeders := by decide +kernel
  clear_value answers cs
  obtain ⟨hs, he, hd, ho⟩ := hg
  have hv : w.graph.validate = .ok () := validate_of_ordered he hd ho
  obtain ⟨p, hp⟩ := Option.isSome_iff_exists.1 hc
  have hw : (w.prompt answers).run.1 = .ok p := ((fresh_new {} {}).foldl_after cs).prompt_eq.trans
    (recompiled_eq_ok.2 ⟨hs, hv, eq_ok_of_toOption hp⟩)
  have hprefix : ∀ n, w.graph.node? "6" = some n →
      ¬(n.typeName = w.options.saveType ∧ "style" = w.options.prefixInput) :=
    fun _ _ h => ht h.2
  obtain ⟨q, e, e', heffect⟩ :=
    (scalar_patch_effect answers {} {} cs hcs p hw "6" "style" .null).2.2 hr rfl hprefix
  exact ⟨hcs, hr, rfl, hprefix, p, q, e, e', hw, heffect⟩

/-! ## The order of patches -/

/-- The prompts of graphs with one frame and equal overrides agree. -/
theorem Patched.agree_payload (h : Patched answers w w') (hi : Indexed w.graph)
    (hi' : Indexed w'.graph)
    (ho : ∀ id name, w'.graph.override? id name = w.graph.override? id name) :
    (w.payload answers).Agree (w'.payload answers) := by
  refine ⟨?_, fun id e e' he he' => ?_⟩
  · rw [ids_payload hi, ids_payload hi', h.graph.ids_eq]
  · rw [get?_payload hi, Option.map_eq_some_iff] at he
    rw [get?_payload hi', h.options, Option.map_eq_some_iff] at he'
    obtain ⟨n, hn, rfl⟩ := he
    obtain ⟨n', hn', rfl⟩ := he'
    have hframe : n'.frame = n.frame := by
      have hboth : (w'.graph.node? id).map Node.frame = (w.graph.node? id).map Node.frame := by
        rw [← node?_frame, h.graph.frame, node?_frame]
      rw [hn, hn'] at hboth
      exact Option.some.inj hboth
    have hover (name : String) : n'.overrides.get? name = n.overrides.get? name := by
      have hid := ho id name
      rwa [override?, override?, hn, hn'] at hid
    have hinputs (input : String) :=
      get?_nodeInputs_congr hframe (hover input) w.options (specsOf answers n).run
    obtain ⟨os, rfl⟩ := Node.exists_of_frame hframe
    exact ⟨rfl, rfl, hinputs⟩

/-- Parameters with different addresses may be set in any order. -/
theorem setById_setById (w : Workbench) (hi : Indexed w.graph) {id₁ name₁ id₂ name₂ : String}
    (hne : (id₁, name₁) ≠ (id₂, name₂)) (v₁ v₂ : Json) :
    let a := (w.setById answers id₁ name₁ v₁).run
    let ab := (a.2.setById answers id₂ name₂ v₂).run
    let b := (w.setById answers id₂ name₂ v₂).run
    let ba := (b.2.setById answers id₁ name₁ v₁).run
    Patched answers ab.2 ba.2 ∧ ∀ id name,
      ba.2.graph.override? id name = ab.2.graph.override? id name := by
  intro a ab b ba
  have ha : Patched answers w a.2 := patched_setById w id₁ name₁ v₁
  have hb : Patched answers w b.2 := patched_setById w id₂ name₂ v₂
  have hab : Patched answers a.2 ab.2 := patched_setById a.2 id₂ name₂ v₂
  have hba : Patched answers b.2 ba.2 := patched_setById b.2 id₁ name₁ v₁
  refine ⟨(ha.trans hab).symm.trans (hb.trans hba), fun id name => ?_⟩
  have hia : Indexed a.2.graph := indexed_setById hi id₁ name₁ v₁
  have hib : Indexed b.2.graph := indexed_setById hi id₂ name₂ v₂
  rw [override?_setById hib, override?_setById hia, override?_setById hi, override?_setById hi]
  -- either patch is taken for what the node knew at first, and they write under two addresses
  simp only [ha.graph.known, hb.graph.known]
  split
  · next h₁ =>
    obtain ⟨⟨rfl, rfl⟩, -⟩ := h₁
    rw [if_neg fun h₂ => hne (Prod.ext h₂.1.1 h₂.1.2)]
  · rfl

theorem Patched.agree_prompt (h : Patched answers w w') (hf : Fresh answers w)
    (hf' : Fresh answers w') (hi : Indexed w.graph) (hi' : Indexed w'.graph)
    (ho : ∀ id name, w'.graph.override? id name = w.graph.override? id name) :
    Prompt.AgreeResults (w.prompt answers).run.1 (w'.prompt answers).run.1 := by
  rw [hf.prompt_eq, hf'.prompt_eq]
  rcases h.recompiled_cases with ⟨e, hw, hw'⟩ | ⟨hw, hw'⟩
  · rw [hw, hw']
    rfl
  · rw [hw, hw']
    exact h.agree_payload hi hi' ho

/-- **Patching does not change what can be patched.** After any commands, and any patches that
follow, nodes know the names that they knew, and any patch counts the hits that it counted; and
two parameters that are set by id may be set in either order, with the same hits, the same
overrides and prompts that agree. -/
theorem patches_keep_known_names (answers : String → Id (List InputSpec))
    (loading : Loading.Options) (options : CompilerOptions) (cs : List Command)
    (hcs : ∀ g, Command.adopt g ∈ cs → Indexed g) :
    let w := cs.foldl (Command.after answers) { loading, options }
    (∀ ps : List Patch,
      let w' := ps.foldl (Patch.after answers) w
      (∀ id name, name ∈ (w'.graph.knownNames answers id).run ↔
        name ∈ (w.graph.knownNames answers id).run) ∧
      ∀ p : Patch, p.hits answers w' = p.hits answers w) ∧
    ∀ (id₁ name₁ id₂ name₂ : String) (v₁ v₂ : Json), (id₁, name₁) ≠ (id₂, name₂) →
      let a := (w.setById answers id₁ name₁ v₁).run
      let ab := (a.2.setById answers id₂ name₂ v₂).run
      let b := (w.setById answers id₂ name₂ v₂).run
      let ba := (b.2.setById answers id₁ name₁ v₁).run
      ba.1 = a.1 ∧ b.1 = ab.1 ∧ ba.2.graph.frame = ab.2.graph.frame ∧
      (∀ id name, ba.2.graph.override? id name = ab.2.graph.override? id name) ∧
      Prompt.AgreeResults (ab.2.prompt answers).run.1 (ba.2.prompt answers).run.1 := by
  intro w
  have hf : Fresh answers w := (fresh_new loading options).foldl_after cs
  have hi : Indexed w.graph := indexed_foldl_after (w := { loading, options }) Indexed.empty hcs
  clear_value w
  refine ⟨fun ps => ?_, fun id₁ name₁ id₂ name₂ v₁ v₂ hne => ?_⟩
  · have hp : Patched answers w (ps.foldl (Patch.after answers) w) := patched_foldl_after w ps
    exact ⟨hp.graph.known, hp.hits_eq⟩
  intro a ab b ba
  obtain ⟨hp, ho⟩ : Patched answers ab.2 ba.2 ∧
      ∀ id name, ba.2.graph.override? id name = ab.2.graph.override? id name :=
    setById_setById w hi hne v₁ v₂
  have hhits₁ : ba.1 = a.1 :=
    Except.ok.inj ((patched_setById w id₂ name₂ v₂).hits_eq (.byId id₁ name₁ v₁))
  have hhits₂ : ab.1 = b.1 :=
    Except.ok.inj ((patched_setById w id₁ name₁ v₁).hits_eq (.byId id₂ name₂ v₂))
  have hfab : Fresh answers ab.2 :=
    (hf.after (.setById id₁ name₁ v₁)).after (.setById id₂ name₂ v₂)
  have hfba : Fresh answers ba.2 :=
    (hf.after (.setById id₂ name₂ v₂)).after (.setById id₁ name₁ v₁)
  have hiab : Indexed ab.2.graph := indexed_setById (indexed_setById hi id₁ name₁ v₁) id₂ name₂ v₂
  have hiba : Indexed ba.2.graph := indexed_setById (indexed_setById hi id₂ name₂ v₂) id₁ name₁ v₁
  exact ⟨hhits₁, hhits₂.symm, hp.graph.frame, ho, hp.agree_prompt hfab hfba hiab hiba ho⟩

/-- A prompt text and a strength that the encoder is not known to have are set, before and after
all encoders were patched. -/
theorem patches_keep_known_names_of_encoder :
    let answers : String → Id (List InputSpec) := fun _ => pure [⟨"text", some .text, .empty⟩]
    let encoder : Json := .object [("id", .int 6), ("type", .text "CLIPTextEncode"),
      ("inputs", .array [.object [("name", .text "style"), ("widget", .object [])]]),
      ("widgets_values", .array [.text "a bottle"])]
    let cs : List Command := [.adopt .empty, .loadJson (.object [("nodes", .array [encoder])])]
    let ps : List Patch := [.byType "CLIPTextEncode" (.ofList [("strength", .nat 1)]) none,
      .byTitle "(" "text" .null .regex none, .byId "6" "style" (.array [.text "flat"])]
    let w := cs.foldl (Command.after answers) { loading := {}, options := {} }
    let w' := ps.foldl (Patch.after answers) w
    let a := (w.setById answers "6" "text" (.text "a cat")).run
    let ab := (a.2.setById answers "6" "style" .null).run
    let b := (w.setById answers "6" "style" .null).run
    let ba := (b.2.setById answers "6" "text" (.text "a cat")).run
    (∀ g, Command.adopt g ∈ cs → Indexed g) ∧ a.1 = 1 ∧ ab.1 = 1 ∧
      (∀ name, name ∈ (w'.graph.knownNames answers "6").run ↔
        name ∈ (w.graph.knownNames answers "6").run) ∧
      (Patch.byId "6" "strength" .null).hits answers w' =
        (Patch.byId "6" "strength" .null).hits answers w ∧
      ba.1 = a.1 ∧ b.1 = ab.1 ∧
      Prompt.AgreeResults (ab.2.prompt answers).run.1 (ba.2.prompt answers).run.1 := by
  intro answers encoder cs ps w w' a ab b ba
  have hcs : ∀ g, Command.adopt g ∈ cs → Indexed g := by
    intro g hg
    obtain rfl : g = .empty := by simpa [cs] using hg
    exact Indexed.empty
  have hhits : a.1 = 1 ∧ ab.1 = 1 := by decide +kernel
  have hne : (("6", "text") : String × String) ≠ ("6", "style") := by decide
  clear_value answers cs ps
  obtain ⟨hps, horder⟩ := patches_keep_known_names answers {} {} cs hcs
  obtain ⟨ha, hb, -, -, hagree⟩ := horder "6" "text" "6" "style" (.text "a cat") .null hne
  exact ⟨hcs, hhits.1, hhits.2, (hps ps).1 "6", (hps ps).2 _, ha, hb, hagree⟩

end Workbench

end PromptGraph
