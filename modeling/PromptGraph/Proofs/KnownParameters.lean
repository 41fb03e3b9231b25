import PromptGraph.Proofs.Listing
import PromptGraph.Proofs.Precedence

/-!
# Which parameters are listed

What a patch of a node may use and what is listed of it are collected apart from each other. Both
have what is overridden and what is aligned; of the widgets, a patch may use all, but a wired one is
not listed (`mem_keys_parameters_iff`). So the listing has the known names save those of wired
inputs that are not overridden (`listed_names`).
-/

namespace PromptGraph

open Compiler

variable {answers : String → Id (List InputSpec)}

namespace Compiler

theorem mem_keys_foldl_insertNew {wired : String → Bool} {names : List String}
    {m : OrderedMap Json} {name : String} :
    name ∈ (names.foldl (fun m name => if wired name then m else m.insertNew name .null) m).keys ↔
      name ∈ m.keys ∨ name ∈ names ∧ ¬ wired name = true := by
  induction names generalizing m with
  | nil => simp
  | cons other names ih =>
    rw [List.foldl_cons, ih, List.mem_cons]
    by_cases hw : wired other = true
    · have hne : ¬ wired name = true → name ≠ other := fun hn he => hn (he ▸ hw)
      rw [if_pos hw]
      tauto
    · have hnw : name = other → ¬ wired name = true := fun he => he ▸ hw
      rw [if_neg hw, OrderedMap.mem_keys_insertNew]
      tauto

theorem mem_keys_parameters {specs : List InputSpec} {n : Node} {name : String} :
    name ∈ (parameters specs n).keys ↔ name ∈ n.overrides.keys ∨ name ∈ (aligned specs n).keys ∨
      name ∈ n.widgets ∧ name ∉ n.connections.keys := by
  have hwired : n.connections.contains name = true ↔ name ∈ n.connections.keys :=
    OrderedMap.contains_iff
  have hkeys : name ∈ ((aligned specs n).insertAll n.overrides.entries).keys ↔
      name ∈ n.overrides.keys ∨ name ∈ (aligned specs n).keys :=
    OrderedMap.mem_keys_insertAll.trans or_comm
  rw [parameters, mem_keys_foldl_insertNew, hkeys, hwired, or_assoc]

end Compiler

namespace Node

/-- **What is listed of a node**: what it knows, but for what is wired and not overridden. -/
theorem mem_keys_parameters_iff {n : Node} {name : String} :
    name ∈ (parameters (specsOf answers n).run n).keys ↔ name ∈ (n.knownNames answers).run ∧
      (name ∈ n.connections.keys → name ∈ n.overrides.keys) := by
  have ha : name ∈ (aligned (specsOf answers n).run n).keys → name ∉ n.connections.keys :=
    notMem_connections_of_aligned
  rw [mem_keys_parameters, mem_knownNames]
  tauto

end Node

namespace Workbench

/-- **What is listed.** After any commands, an entry of the listing for a node has the names that
the node knows, save those of wired inputs that are not overridden; and there is an entry exactly
when there is such a name. -/
theorem listed_names (answers : String → Id (List InputSpec)) (loading : Loading.Options)
    (options : CompilerOptions) (cs : List Command)
    (hcs : ∀ g, Command.adopt g ∈ cs → g.Indexed) :
    let w := cs.foldl (Command.after answers) { loading, options }
    ∀ n ∈ w.graph.nodes,
      let listed (name : String) : Prop := name ∈ (w.graph.knownNames answers n.id).run ∧
        (name ∈ n.connections.keys → name ∈ n.overrides.keys)
      (∀ q ∈ (w.graph.parameters answers).run, q.id = n.id →
        ∀ name, name ∈ q.values.keys ↔ listed name) ∧
      ((∃ q ∈ (w.graph.parameters answers).run, q.id = n.id) ↔ ∃ name, listed name) := by
  intro w n hn listed
  have h : w.graph.Indexed :=
    indexed_foldl_after (w := { loading, options }) Graph.Indexed.empty hcs
  clear_value w
  have hlisted : ∀ name, name ∈ (parameters (specsOf answers n).run n).keys ↔ listed name := by
    intro name
    rw [Node.mem_keys_parameters_iff]
    simp only [listed, Graph.knownNames_eq, h.node?_of_mem hn]
    rfl
  simp only [← hlisted]
  refine ⟨fun q hq hid name => ?_, ?_⟩
  · have hq := (Graph.mem_parameters_iff h.nodup hn).1 ⟨hq, hid⟩
    rw [(Node.parameters?_eq_some_iff.1 hq).1]
  · simp only [Graph.mem_parameters_iff h.nodup hn, Node.parameters?_eq_some_iff, exists_eq_left]

/-- An encoder with a text, a wired style and a mood, which is set to an array. -/
theorem listed_names_of_encoder :
    let answers : String → Id (List InputSpec) := fun _ => pure [⟨"text", some .text, .empty⟩]
    let widget (name : String) : Json := .object [("name", .text name), ("widget", .object [])]
    let origin : Json := .object [("id", .int 5), ("type", .text "Style")]
    let encoder : Json := .object [("id", .int 6), ("type", .text "CLIPTextEncode"),
      ("inputs", .array [widget "style", widget "mood"]),
      ("widgets_values", .array [.text "a bottle"])]
    let link : Json := .array [.int 1, .int 5, .int 0, .int 6, .int 0, .text "STRING"]
    let cs : List Command := [.adopt .empty,
      .loadJson (.object [("nodes", .array [origin, encoder]), ("links", .array [link])]),
      .setById "6" "mood" (.array [.text "calm"])]
    let w := cs.foldl (Command.after answers) { loading := {}, options := {} }
    (∀ g, Command.adopt g ∈ cs → g.Indexed) ∧ ∃ n ∈ w.graph.nodes, n.id = "6" ∧
      n.connections.keys = ["style"] ∧ n.overrides.keys = ["mood"] ∧
      ∃ q ∈ (w.graph.parameters answers).run, q.id = n.id ∧ ∀ name, name ∈ q.values.keys ↔
        name ∈ (w.graph.knownNames answers n.id).run ∧
          (name ∈ n.connections.keys → name ∈ n.overrides.keys) := by
  intro answers widget origin encoder link cs w
  have hcs : ∀ g, Command.adopt g ∈ cs → g.Indexed := by
    intro g hg
    obtain rfl : g = .empty := by simpa [cs] using hg
    exact Graph.Indexed.empty
  have hn : ∃ n ∈ w.graph.nodes, n.id = "6" ∧ n.connections.keys = ["style"] ∧
      n.overrides.keys = ["mood"] := by decide +kernel
  have hknown : "text" ∈ (w.graph.knownNames answers "6").run := by decide +kernel
  clear_value answers cs
  obtain ⟨n, hn, hid, hwired, hset⟩ := hn
  obtain ⟨hnames, hentry⟩ := listed_names answers {} {} cs hcs n hn
  obtain ⟨q, hq, hqid⟩ := hentry.2 ⟨"text", hid ▸ hknown, by simp [hwired]⟩
  exact ⟨hcs, n, hn, hid, hwired, hset, q, hq, hqid, hnames q hq hqid⟩

/-- Two encoders have a wired style, which may be patched and is not listed; the other one has
nothing else, so there is no entry for it. -/
theorem wired_widgets_not_listed :
    let answers : String → Id (List InputSpec) := fun _ => pure [⟨"text", some .text, .empty⟩]
    let origin : Json := .object [("id", .int 5), ("type", .text "Style")]
    let encoder (id : Int) (values : List Json) : Json := .object [("id", .int id),
      ("type", .text "CLIPTextEncode"), ("widgets_values", .array values),
      ("inputs", .array [.object [("name", .text "style"), ("widget", .object [])]])]
    let link (id : Int) : Json :=
      .array [.int id, .int 5, .int 0, .int id, .int 0, .text "STRING"]
    let w := [Command.loadJson (.object [
      ("nodes", .array [origin, encoder 6 [.text "a bottle"], encoder 8 []]),
      ("links", .array [link 6, link 8])])].foldl (Command.after answers) {}
    "style" ∈ (w.graph.knownNames answers "6").run ∧
      "style" ∈ (w.graph.knownNames answers "8").run ∧
      (∃ q ∈ (w.graph.parameters answers).run, q.id = "6" ∧ "style" ∉ q.values.keys) ∧
      ∀ q ∈ (w.graph.parameters answers).run, q.id ≠ "8" := by
  decide +kernel

end Workbench

end PromptGraph
