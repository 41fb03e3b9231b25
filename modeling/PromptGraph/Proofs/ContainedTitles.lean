import PromptGraph.Proofs.LowerCase
import PromptGraph.Proofs.PatchLimits

/-!
# Titles that contain a text

A search by a part of titles lowers the case of the wanted text and of each title before it looks
for the one within the other. So it finds every title that holds the wanted text as it is written
when the lower case of the text lies within that of all texts that hold it; otherwise there is a
document with a title that it misses (`verbatim_titles_considered`).
-/

namespace PromptGraph

open PromptGraph.Graph

variable {answers : String → Id (List InputSpec)} {loading : Loading.Options}
  {options : CompilerOptions}

namespace Workbench

/-- A new workbench comes to this by commands that take up no graphs but such as are as documents
describe them. -/
def Reached (answers : String → Id (List InputSpec)) (loading : Loading.Options)
    (options : CompilerOptions) (w : Workbench) : Prop :=
  ∃ cs : List Command, (∀ g, Command.adopt g ∈ cs → g.Described) ∧
    w = cs.foldl (Command.after answers) { loading, options }

/-- Setting a parameter by title goes through the node. -/
def Considers (w : Workbench) (wanted : String) (mode : MatchMode) (n : Node) : Prop :=
  ∃ ids, w.index.idsMatching wanted mode = .ok ids ∧ n.id ∈ ids

theorem Reached.described {w : Workbench} (h : Reached answers loading options w) :
    w.graph.Described ∧ w.index = .ofGraph w.graph := by
  obtain ⟨cs, hcs, rfl⟩ := h
  exact framed_foldl_after described_frame Loading.described_ofJson ⟨.empty, rfl⟩ hcs

theorem Reached.considers_iff {w : Workbench} (h : Reached answers loading options w)
    {wanted : String} {mode : MatchMode} (hr : mode.Reads wanted) {n : Node}
    (hn : n ∈ w.graph.nodes) :
    w.Considers wanted mode n ↔ ∃ title ∈ n.title, mode.Matches wanted title := by
  obtain ⟨hg, hi⟩ := h.described
  have hids := hi ▸ IdentityIndex.idsMatching_of_described hg hr
  constructor
  · rintro ⟨ids, hfound, hid⟩
    obtain rfl := Except.ok.inj (hids.symm.trans hfound)
    obtain ⟨m, hm, he⟩ := List.mem_map.1 hid
    obtain ⟨hmem, hmatch⟩ := List.mem_filter.1 hm
    obtain rfl := List.inj_on_of_nodup_map hg.filed.indexed.nodup hmem hn he
    exact of_decide_eq_true hmatch
  · intro hmatch
    exact ⟨_, hids, List.mem_map_of_mem (List.mem_filter.2 ⟨hn, decide_eq_true hmatch⟩)⟩

end Workbench

/-! ## A document with a title -/

/-- A prompt whose one node has the title. -/
def Prompt.titled (title : String) : Prompt :=
  ⟨.ofList [("1", ⟨"Note", .empty, some ⟨some title⟩⟩)]⟩

namespace Loading

theorem exists_titled (o : Options) {title : String} (h : title ≠ "") :
    ∃ n ∈ (ofJson o (Prompt.titled title).toJson).nodes, n.title = some title := by
  have hplain : Dialect.Unmarked (Prompt.titled title).ids := by
    have hids : (Prompt.titled title).ids = ["1"] := rfl
    rw [hids]
    exact List.forall_mem_singleton.2 (by decide)
  rw [ofJson_toJson o hplain, (nodes_ofPrompt _).2]
  refine ⟨_, List.mem_map_of_mem List.mem_cons_self, ?_⟩
  show usefulTitle (some title) = some title
  simp [usefulTitle, h]

end Loading

namespace Workbench

/-- **A search by a part of titles** goes through every node whose title holds the wanted text as it
is written, in every workbench that commands come to, if, and only if, every capital sigma of the
text is settled within it. It always goes through the nodes that have the very title, as the
search by title does, and that search goes through no others. -/
theorem verbatim_titles_considered (answers : String → Id (List InputSpec))
    (loading : Loading.Options) (options : CompilerOptions) (wanted : String) :
    ((∀ w, Reached answers loading options w → ∀ n ∈ w.graph.nodes, ∀ title ∈ n.title,
        wanted.toList <:+: title.toList → w.Considers wanted .contains n) ↔
      Text.Steady wanted.toList) ∧
    ∀ w, Reached answers loading options w → ∀ n ∈ w.graph.nodes,
      (w.Considers wanted .exact n ↔ n.title = some wanted) ∧
        (w.Considers wanted .exact n → w.Considers wanted .contains n) := by
  have hcontains : MatchMode.contains.Reads wanted := nofun
  have hexact : MatchMode.exact.Reads wanted := nofun
  refine ⟨?_, fun w hw n hn => ?_⟩
  · rw [← Text.toLower_infix_iff]
    constructor
    · -- every text is a title of some document, but for the empty one, which is none
      intro h title hpart
      by_cases htitle : title = ""
      · obtain rfl : wanted = "" := by simpa [htitle] using hpart
        subst htitle
        exact List.infix_refl _
      · have hw : Reached answers loading options
            (loadJson { loading, options } (Prompt.titled title).toJson) :=
          ⟨[.loadJson (Prompt.titled title).toJson], by simp, rfl⟩
        obtain ⟨n, hn, ht⟩ := Loading.exists_titled loading htitle
        have hfound := h _ hw n hn title ht hpart
        obtain ⟨t, hnt, hmatch⟩ := (hw.considers_iff hcontains hn).1 hfound
        obtain rfl := Option.some.inj (ht.symm.trans hnt)
        exact hmatch
    · intro h w hw n hn title ht hpart
      exact (hw.considers_iff hcontains hn).2 ⟨title, ht, h title hpart⟩
  · have htitled : w.Considers wanted .exact n ↔ n.title = some wanted := by
      rw [hw.considers_iff hexact hn]
      exact ⟨fun ⟨title, ht, he⟩ => he ▸ ht, fun ht => ⟨wanted, ht, rfl⟩⟩
    refine ⟨htitled, fun h => (hw.considers_iff hcontains hn).2 ⟨wanted, htitled.1 h, ?_⟩⟩
    exact List.infix_refl _

/-- The first letters of a title are not found in it: alone, they end in a final sigma. -/
theorem beginning_of_title_missed :
    let answers : String → Id (List InputSpec) := fun _ => pure [⟨"text", some .text, .empty⟩]
    let document : Json := .object [("nodes", .array [.object [("id", .int 6),
      ("type", .text "CLIPTextEncode"), ("title", .text "ΚΑΣΤΡΟ"), ("inputs", .array [.object
        [("name", .text "text"), ("widget", .object [("name", .text "text")])]])]])]
    let w := [Command.loadJson document].foldl (Command.after answers)
      ({ loading := {}, options := {} } : Workbench)
    let hits (wanted : String) : Option Nat :=
      (w.setByTitle answers wanted "text" (.text "a castle") .contains none).run.toOption.map
        Prod.fst
    (∃ n ∈ w.graph.nodes, ∃ title ∈ n.title, "ΚΑΣ".toList <:+: title.toList ∧
      ¬ w.Considers "ΚΑΣ" .contains n) ∧ hits "ΚΑΣΤ" = some 1 ∧ hits "ΚΑΣ" = some 0 := by
  intro answers document w hits
  have htitled : ∃ n ∈ w.graph.nodes, n.title = some "ΚΑΣΤΡΟ" := by decide +kernel
  have hpart : "ΚΑΣ".toList <:+: "ΚΑΣΤΡΟ".toList := ⟨[], "ΤΡΟ".toList, rfl⟩
  have hmissed : (w.index.idsMatching "ΚΑΣ" .contains).toOption = some [] := by decide +kernel
  have hhits : hits "ΚΑΣΤ" = some 1 ∧ hits "ΚΑΣ" = some 0 := by decide +kernel
  obtain ⟨n, hn, ht⟩ := htitled
  refine ⟨⟨n, hn, _, ht, hpart, ?_⟩, hhits⟩
  rintro ⟨ids, hfound, hid⟩
  rw [hfound] at hmissed
  obtain rfl := Option.some.inj hmissed
  exact List.not_mem_nil hid

end Workbench

end PromptGraph
