import PromptGraph.Proofs.Commands
import PromptGraph.Proofs.Compiled
import PromptGraph.Proofs.Layers

/-!
# What is listed and what is compiled

Listing and compiling lay the overrides of a node over its aligned values in two ways: a listed
override always wins, while a compiled one gives way to what lies `beneath` it unless it is a
scalar (`layered_of_listed`). Since commands keep ids distinct (`nodup_foldl_after`), this is how
far the listing and the compiled prompt agree.
-/

namespace PromptGraph

namespace Compiler

/-! ## Looking names up -/

/-- What a name stands for without its override: the aligned value, or else the connection. -/
def beneath (specs : List InputSpec) (n : Node) (name : String) : Option Json :=
  ((aligned specs n).get? name).or ((n.connections.get? name).map Connection.toJson)

theorem get?_overlay (m : OrderedMap Json) (e : String × Json) (name : String) :
    (overlay m e).get? name =
      if e.1 = name then ((some e.2).filter Json.isScalar).or ((m.get? name).or (some e.2))
      else m.get? name := by
  unfold overlay
  split
  · next hs => rw [OrderedMap.get?_insert, Option.filter_some, if_pos hs, Option.some_or]
  · next hs =>
    rw [OrderedMap.get?_insertNew, Option.filter_some, if_neg hs, Option.none_or]
    split
    · rfl
    · exact Option.or_none

/-- **Overrides over what is there**: a scalar is found first, anything else last. -/
theorem get?_foldl_overlay {os : Entries Json} (h : os.keys.Nodup) (m : OrderedMap Json)
    (name : String) : (os.foldl overlay m).get? name =
      ((os.get? name).filter Json.isScalar).or ((m.get? name).or (os.get? name)) := by
  induction os generalizing m with
  | nil => simp
  | cons e os ih =>
    rw [Entries.keys_cons, List.nodup_cons] at h
    rw [List.foldl_cons, ih h.2, get?_overlay, Entries.get?_cons]
    split
    · next he =>
      rw [Entries.get?_eq_none_iff.2 (he ▸ h.1)]
      simp
    · rfl

theorem get?_layered (specs : List InputSpec) (n : Node) (name : String) :
    (layered specs n).get? name = ((n.overrides.get? name).filter Json.isScalar).or
      ((beneath specs n name).or (n.overrides.get? name)) := by
  have hbase : ((n.connections.mapValues Connection.toJson).insertAll
      (aligned specs n).entries).get? name = beneath specs n name := by
    rw [OrderedMap.get?_insertAll (aligned specs n).nodup, OrderedMap.get?_mapValues]
    rfl
  rw [layered, get?_foldl_overlay n.overrides.nodup, hbase]
  rfl

theorem get?_parameters {specs : List InputSpec} {n : Node} {name : String} {v : Json}
    (h : (n.overrides.get? name).or ((aligned specs n).get? name) = some v) :
    (parameters specs n).get? name = some v := by
  have hnulls : ∀ (names : List String) (m : OrderedMap Json), m.get? name = some v →
      (names.foldl (fun m name =>
        if n.connections.contains name then m else m.insertNew name .null) m).get? name =
        some v := by
    intro names
    induction names with
    | nil => exact fun _ hm => hm
    | cons other names ih =>
      intro m hm
      refine ih _ ?_
      dsimp only
      split
      · exact hm
      · rw [OrderedMap.get?_insertNew, hm, Option.some_or]
  refine hnulls n.widgets _ ?_
  rw [OrderedMap.get?_insertAll n.overrides.nodup]
  exact h

/-- **Listed and compiled values of a node.** What is listed is compiled, except that an array or
an object gives way to what lies beneath it. -/
theorem layered_of_listed {specs : List InputSpec} {n : Node} {name : String}
    (h : name ∈ n.overrides.keys ∨ name ∈ (aligned specs n).keys) :
    ∃ v, (parameters specs n).get? name = some v ∧ (layered specs n).get? name =
      some (if v.isScalar then v else (beneath specs n name).getD v) := by
  rw [get?_layered]
  cases ho : n.overrides.get? name with
  | some v =>
    refine ⟨v, get?_parameters (by rw [ho, Option.some_or]), ?_⟩
    by_cases hs : v.isScalar = true
    · rw [Option.filter_some, if_pos hs, if_pos hs, Option.some_or]
    · rw [Option.filter_some, if_neg hs, if_neg hs, Option.none_or]
      cases beneath specs n name <;> rfl
  | none =>
    have ha : name ∈ (aligned specs n).keys :=
      h.resolve_left (OrderedMap.get?_eq_none_iff.1 ho)
    obtain ⟨v, hv⟩ := Option.isSome_iff_exists.1 (OrderedMap.get?_isSome_iff.2 ha)
    have hs : v.isScalar = true := (mem_aligned (OrderedMap.mem_entries_iff.2 hv)).2
    refine ⟨v, get?_parameters (by rw [ho, hv, Option.none_or]), ?_⟩
    simp [beneath, hv, hs]

end Compiler

variable {answers : String → Id (List InputSpec)}

/-! ## The listing -/

theorem Node.parameters?_eq_some_iff {n : Node} {q : NodeParameters} :
    (n.parameters? answers).run = some q ↔
      q = ⟨n.id, n.typeName, n.title, Compiler.parameters (Compiler.specsOf answers n).run n⟩ ∧
        ∃ name, name ∈ q.values.keys := by
  have hrun : (n.parameters? answers).run =
      if (Compiler.parameters (Compiler.specsOf answers n).run n).isEmpty then none
      else some ⟨n.id, n.typeName, n.title,
        Compiler.parameters (Compiler.specsOf answers n).run n⟩ := rfl
  have hempty : ∀ m : OrderedMap Json, (∃ name, name ∈ m.keys) ↔ ¬ m.isEmpty = true := by
    rintro ⟨entries, -⟩
    cases entries <;> simp [OrderedMap.isEmpty, OrderedMap.keys]
  rw [hrun, hempty]
  constructor
  · intro h
    split at h
    · cases h
    · next he =>
      cases h
      exact ⟨rfl, he⟩
  · rintro ⟨rfl, he⟩
    exact if_neg he

theorem Node.id_of_parameters? {n : Node} {q : NodeParameters}
    (h : (n.parameters? answers).run = some q) : q.id = n.id := by
  rw [(parameters?_eq_some_iff.1 h).1]

theorem Node.parameters?_of_get? {n : Node} {name : String} {v : Json}
    (h : (Compiler.parameters (Compiler.specsOf answers n).run n).get? name = some v) :
    ∃ q, (n.parameters? answers).run = some q ∧ q.values.get? name = some v := by
  have hname : name ∈ (Compiler.parameters (Compiler.specsOf answers n).run n).keys :=
    OrderedMap.get?_isSome_iff.1 (Option.isSome_of_eq_some h)
  exact ⟨_, parameters?_eq_some_iff.2 ⟨rfl, name, hname⟩, h⟩

namespace Graph

theorem parameters_run (g : Graph) : (g.parameters answers).run =
    g.nodes.filterMap fun n => (n.parameters? answers).run := by
  rw [parameters, Id.run_bind, List.idRun_mapM]
  exact List.filterMap_map

section

variable {g : Graph} (h : g.ids.Nodup) {n : Node} (hn : n ∈ g.nodes) {q : NodeParameters}

include h hn

theorem mem_parameters_iff : q ∈ (g.parameters answers).run ∧ q.id = n.id ↔
    (n.parameters? answers).run = some q := by
  rw [parameters_run, List.mem_filterMap]
  constructor
  · rintro ⟨⟨m, hm, hq⟩, hid⟩
    obtain rfl : m = n :=
      List.inj_on_of_nodup_map h hm hn ((Node.id_of_parameters? hq).symm.trans hid)
    exact hq
  · exact fun hq => ⟨⟨n, hn, hq⟩, Node.id_of_parameters? hq⟩

theorem find?_parameters (hq : (n.parameters? answers).run = some q) :
    (g.parameters answers).run.find? (fun q => q.id = n.id) = some q := by
  obtain ⟨hmem, hid⟩ := (mem_parameters_iff h hn).2 hq
  cases hf : (g.parameters answers).run.find? (fun q => q.id = n.id) with
  | none => exact absurd hid (by simpa using List.find?_eq_none.1 hf q hmem)
  | some r =>
    have hr := List.mem_of_find?_eq_some hf
    have hrid : r.id = n.id := by simpa using List.find?_some hf
    exact ((mem_parameters_iff h hn).1 ⟨hr, hrid⟩).symm.trans hq

end

end Graph

namespace Workbench

/-- **What is listed is compiled**, after any commands, save for arrays and objects that were set
over an aligned value or a connection: of every node but save nodes, and every name that is
overridden or aligned, the compiled input is the listed value, or what lies beneath the array or
the object. -/
theorem listed_values_compiled (answers : String → Id (List InputSpec))
    (loading : Loading.Options) (options : CompilerOptions) (cs : List Command)
    (hcs : ∀ g, Command.adopt g ∈ cs → g.ids.Nodup) :
    let w := cs.foldl (Command.after answers) { loading, options }
    ∀ p, (w.prompt answers).run.1 = .ok p →
      ∀ n ∈ w.graph.nodes, n.typeName ≠ w.options.saveType →
        let specs := (Compiler.specsOf answers n).run
        ∀ name, name ∈ n.overrides.keys ∨ name ∈ (Compiler.aligned specs n).keys →
          ∃ q e v, (w.graph.parameters answers).run.find? (fun q => q.id = n.id) = some q ∧
            p.get? n.id = some e ∧ q.values.get? name = some v ∧
            e.inputs.get? name =
              some (if v.isScalar then v else (Compiler.beneath specs n name).getD v) := by
  intro w p hp n hn ht specs name hname
  have hf : Fresh answers w := (fresh_new loading options).foldl_after cs
  have hnew : ({ loading, options } : Workbench).graph.ids.Nodup := List.nodup_nil
  have hids : w.graph.ids.Nodup := nodup_foldl_after hnew hcs
  have hc : p = Compiler.payload w.options (fun n => (Compiler.specsOf answers n).run) w.graph :=
    Compiler.compile_eq_ok (recompiled_eq_ok.1 (hf.prompt_eq ▸ hp)).2.2
  obtain ⟨v, hlisted, hlayered⟩ := Compiler.layered_of_listed hname
  obtain ⟨q, hq, hv⟩ := Node.parameters?_of_get? hlisted
  refine ⟨q, _, v, Graph.find?_parameters hids hn hq, hc ▸ Compiler.get?_payload hids _ _ hn, hv,
    ?_⟩
  rw [Compiler.entry, Compiler.nodeInputs, if_neg ht]
  exact hlayered

/-- One of two encoders is given an array in place of its aligned text, the other a number. -/
theorem listed_values_compiled_of_encoders :
    let answers : String → Id (List InputSpec) := fun _ => pure [⟨"text", some .text, .empty⟩]
    let encoder (id : Int) (text : String) : Json := .object [("id", .int id),
      ("type", .text "CLIPTextEncode"), ("widgets_values", .array [.text text])]
    let cs : List Command := [.adopt .empty,
      .loadJson (.object [("nodes", .array [encoder 6 "a bottle", encoder 7 "blurry"])]),
      .setById "6" "text" (.array [.text "a", .text "b"]), .prompt, .setById "7" "text" (.nat 3)]
    let w := cs.foldl (Command.after answers) { loading := {}, options := {} }
    (∀ g, Command.adopt g ∈ cs → g.ids.Nodup) ∧ ∃ p, (w.prompt answers).run.1 = .ok p ∧
      ∃ n ∈ w.graph.nodes, n.id = "7" ∧ n.typeName ≠ w.options.saveType ∧
        "text" ∈ n.overrides.keys ∧
          let specs := (Compiler.specsOf answers n).run
          ∃ q e v, (w.graph.parameters answers).run.find? (fun q => q.id = n.id) = some q ∧
            p.get? n.id = some e ∧ q.values.get? "text" = some v ∧
            e.inputs.get? "text" =
              some (if v.isScalar then v else (Compiler.beneath specs n "text").getD v) := by
  intro answers encoder cs w
  have hcs : ∀ g, Command.adopt g ∈ cs → g.ids.Nodup := by
    intro g hg
    obtain rfl : g = .empty := by simpa [cs] using hg
    exact List.nodup_nil
  have hs : (w.prompt answers).run.1.toOption.isSome = true := by decide +kernel
  have hn : ∃ n ∈ w.graph.nodes, n.id = "7" ∧ n.typeName ≠ w.options.saveType ∧
      "text" ∈ n.overrides.keys := by decide +kernel
  -- what the commands are is settled, and nothing has to compute them again
  clear_value answers cs
  obtain ⟨p, hp⟩ := Option.isSome_iff_exists.1 hs
  have hp : (w.prompt answers).run.1 = .ok p := eq_ok_of_toOption hp
  obtain ⟨n, hmem, hid, ht, hk⟩ := hn
  exact ⟨hcs, p, hp, n, hmem, hid, ht, hk,
    listed_values_compiled answers {} {} cs hcs p hp n hmem ht "text" (.inl hk)⟩

/-- Arrays that are set over an aligned text and over a connection are listed, but the text and the
connection are compiled. -/
theorem listed_arrays_not_compiled :
    let answers : String → Id (List InputSpec) := fun _ => pure [⟨"text", some .text, .empty⟩]
    let origin : Json := .object [("id", .int 5), ("type", .text "Style")]
    let encoder : Json := .object [("id", .int 6), ("type", .text "CLIPTextEncode"),
      ("inputs", .array [.object [("name", .text "style"), ("widget", .object [])]]),
      ("widgets_values", .array [.text "a bottle"])]
    let link : Json := .array [.int 1, .int 5, .int 0, .int 6, .int 0, .text "STRING"]
    let cs : List Command := [
      .loadJson (.object [("nodes", .array [origin, encoder]), ("links", .array [link])]),
      .setById "6" "text" (.array [.text "noisy"]), .setById "6" "style" (.array [.text "flat"])]
    let w := cs.foldl (Command.after answers) { loading := {}, options := {} }
    ∃ p, (w.prompt answers).run.1 = .ok p ∧ ∃ n ∈ w.graph.nodes, n.id = "6" ∧
      n.typeName ≠ w.options.saveType ∧ "text" ∈ n.overrides.keys ∧ "style" ∈ n.overrides.keys ∧
        ∃ q e, (w.graph.parameters answers).run.find? (fun q => q.id = n.id) = some q ∧
          p.get? n.id = some e ∧
          q.values.get? "text" = some (.array [.text "noisy"]) ∧
          e.inputs.get? "text" = some (.text "a bottle") ∧
          q.values.get? "style" = some (.array [.text "flat"]) ∧
          e.inputs.get? "style" = some (.array [.text "5", .nat 0]) := by
  intro answers origin encoder link cs w
  have hc : ((Compiler.compile answers w.options w.graph).run.toOption.bind (·.get? "6")).any
      (fun e => e.inputs.get? "text" = some (.text "a bottle") ∧
        e.inputs.get? "style" = some (.array [.text "5", .nat 0])) = true := by decide +kernel
  have hl : ((w.graph.parameters answers).run.find? fun q => q.id = "6").any
      (fun q => q.values.get? "text" = some (.array [.text "noisy"]) ∧
        q.values.get? "style" = some (.array [.text "flat"])) = true := by decide +kernel
  have hn : ∃ n ∈ w.graph.nodes, n.id = "6" ∧ n.typeName ≠ w.options.saveType ∧
      "text" ∈ n.overrides.keys ∧ "style" ∈ n.overrides.keys := by decide +kernel
  have hg : w.stage ≠ .unloaded ∧ w.graph.isEmpty = false ∧ w.graph.danglingRefs = [] ∧
      w.graph.nodes.length = 2 ∧ w.graph.feeders = [(0, []), (1, [0])] := by decide +kernel
  clear_value answers cs
  obtain ⟨hs, he, hd, hlen, hf⟩ := hg
  have hcyc : w.graph.isCyclic = false := by
    simp [Graph.isCyclic, hlen, hf, Graph.peelTimes, Graph.peel_eq]
  have hv : w.graph.validate = .ok () := by simp [Graph.validate, he, hd, hcyc]
  obtain ⟨e, hc, hce⟩ := (Option.any_eq_true ..).1 hc
  obtain ⟨p, hp, hpe⟩ := Option.bind_eq_some_iff.1 hc
  obtain ⟨q, hq, hqv⟩ := (Option.any_eq_true ..).1 hl
  obtain ⟨n, hmem, hid, ht, hk⟩ := hn
  have hr : w.recompiled answers = .ok p :=
    recompiled_eq_ok.2 ⟨hs, hv, eq_ok_of_toOption hp⟩
  have hpr : (w.prompt answers).run.1 = .ok p :=
    ((fresh_new {} {}).foldl_after cs).prompt_eq.trans hr
  obtain ⟨hct, hcs⟩ := of_decide_eq_true hce
  obtain ⟨hlt, hls⟩ := of_decide_eq_true hqv
  refine ⟨p, hpr, n, hmem, hid, ht, hk.1, hk.2, q, e, ?_⟩
  rw [hid]
  exact ⟨hq, hpe, hlt, hct, hls, hcs⟩

end Workbench

end PromptGraph
