import PromptGraph.Proofs.Freshness
import PromptGraph.Proofs.LoadedGraph

/-!
# What commands keep

Beside taking up another graph, all that commands do to the graph of a workbench is to patch its
nodes one by one. `Graph.Stable answers P` says that such a patch keeps `P`; what is stable and
holds of every loaded graph then holds after any commands (`Stable.foldl_after`), like having
distinct ids (`stable_nodup`) and a right position table (`stable_indexed`).
-/

namespace PromptGraph

variable {answers : String → Id (List InputSpec)}

namespace Graph

/-- Patching a node keeps `P`. -/
def Stable (answers : String → Id (List InputSpec)) (P : Graph → Prop) : Prop :=
  ∀ {g g' : Graph} {params : OrderedMap Json} {id : NodeId},
    (g.patch? answers params id).run = some g' → P g → P g'

theorem modifyOverrides?_of_patch? {params : OrderedMap Json} {g g' : Graph} {id : NodeId}
    (h : (g.patch? answers params id).run = some g') : ∃ f, g.modifyOverrides? id f = some g' := by
  unfold patch? at h
  rw [Id.run_bind] at h
  dsimp only [Id.run_pure] at h
  split at h
  · cases h
  · exact ⟨_, h⟩

section

variable {P : Graph → Prop} (h : Stable answers P)

include h

theorem Stable.patchEach (limit : Option Nat) (params : OrderedMap Json) (ids : List NodeId)
    {s : Nat × Graph} (hs : P s.2) : P (Graph.patchEach answers limit params ids s).run.2 := by
  induction ids generalizing s with
  | nil => exact hs
  | cons id ids ih =>
    obtain ⟨hits, g⟩ := s
    rw [Graph.patchEach]
    split
    · exact hs
    · rw [Id.run_bind]
      split
      · next g' hp => exact ih (h hp hs)
      · exact ih hs

theorem Stable.patchTargets (ts : List (List NodeId × OrderedMap Json)) {s : Nat × Graph}
    (hs : P s.2) : P (Graph.patchTargets answers ts s).run.2 := by
  induction ts generalizing s with
  | nil => exact hs
  | cons t ts ih =>
    rw [Graph.patchTargets, Id.run_bind]
    exact ih (h.patchEach none t.2 t.1 hs)

end

/-! ## Ids and positions -/

theorem ids_of_modifyOverrides? {g g' : Graph} {id : NodeId}
    {f : OrderedMap Json → OrderedMap Json} (h : g.modifyOverrides? id f = some g') :
    g'.ids = g.ids := by
  rcases modifyOverrides?_cases g id f with hn | ⟨position, hs⟩
  · rw [hn] at h
    cases h
  · rw [hs] at h
    cases h
    exact map_modify (by intro n; rfl) g.nodes position

theorem stable_nodup : Stable answers fun g => g.ids.Nodup := by
  intro g g' params id hp hn
  obtain ⟨f, hf⟩ := modifyOverrides?_of_patch? hp
  rwa [ids_of_modifyOverrides? hf]

theorem stable_indexed : Stable answers Indexed := by
  intro g g' params id hp hi
  obtain ⟨f, hf⟩ := modifyOverrides?_of_patch? hp
  intro other i
  rw [ids_of_modifyOverrides? hf, ← hi other i]
  rcases modifyOverrides?_cases g id f with hn | ⟨position, hs⟩
  · rw [hn] at hf
    cases hf
  · rw [hs] at hf
    cases hf
    rfl

end Graph

namespace Workbench

open Loading

/-! ## Graphs of workbenches -/

theorem graph_settle (w : Workbench) (s : Nat × Graph) : (w.settle s).2.graph = s.2 := by
  unfold settle
  dsimp only
  split <;> rfl

theorem prompt_keeps (answers : String → Id (List InputSpec)) (w : Workbench) :
    ∃ stage compiled, (w.prompt answers).run.2 = { w with stage, compiled } := by
  unfold prompt
  split
  · exact ⟨w.stage, w.compiled, rfl⟩
  · exact ⟨w.stage, w.compiled, rfl⟩
  · rw [Id.run_bind]
    split
    · exact ⟨_, _, rfl⟩
    · exact ⟨w.stage, w.compiled, rfl⟩

theorem save_keeps (answers : String → Id (List InputSpec)) (w : Workbench) (files : FileTree)
    (path : String) :
    ∃ stage compiled, (w.save answers files path).run.2 = { w with stage, compiled } := by
  unfold save
  have hp := prompt_keeps answers w
  rw [Id.run_bind]
  split
  · next p w' he => rwa [he] at hp
  · next e w' he => rwa [he] at hp

theorem execute_keeps (answers : String → Id (List InputSpec)) (w : Workbench)
    (run : Prompt → Id (Except Failure RunOutcome)) :
    ∃ stage compiled, (w.execute answers run).run.2 = { w with stage, compiled } := by
  unfold execute
  have hp := prompt_keeps answers w
  rw [Id.run_bind]
  split
  · next e w' he => rwa [he] at hp
  · next p w' he =>
    rw [he] at hp
    obtain ⟨stage, compiled, rfl⟩ := hp
    rw [Id.run_bind]
    split <;> exact ⟨_, _, rfl⟩

end Workbench

/-! ## Runs of commands -/

namespace Graph

open Workbench Loading

section

variable {P : Graph → Prop} (h : Stable answers P)

include h

theorem Stable.workbench_patchEach {w : Workbench} (hw : P w.graph) (limit : Option Nat)
    (params : OrderedMap Json) (ids : List NodeId) :
    P (w.patchEach answers limit params ids).run.2.graph := by
  show P (w.settle _).2.graph
  rw [graph_settle]
  exact h.patchEach limit params ids hw

theorem Stable.workbench_apply {w : Workbench} (hw : P w.graph) (b : OverrideBundle) :
    P (w.apply answers b).run.2.graph := by
  show P (w.settle _).2.graph
  rw [graph_settle]
  exact h.patchTargets _ hw

variable (hl : ∀ g, Assembled g → P g)

include hl

/-- What holds of loaded graphs and is stable is kept by every command, if it holds of a graph that
is taken up. -/
theorem Stable.after {w : Workbench} (hw : P w.graph) {c : Command}
    (hc : ∀ g, c = .adopt g → P g) : P (c.after answers w).graph := by
  cases c with
  | loadFile files path =>
    simp only [Command.after, Workbench.loadFile]
    cases hf : ofFile w.loading files path with
    | ok g => exact hl _ (assembled_ofFile hf)
    | error e => exact hw
  | loadText text => exact hl _ (assembled_ofText w.loading text)
  | loadJson document => exact hl _ (assembled_ofJson w.loading document)
  | adopt g => exact hc g rfl
  | loadTemplate folder files id =>
    simp only [Command.after, Workbench.loadTemplate]
    cases folder.get files id with
    | ok t => exact h.workbench_apply (hl _ (assembled_ofJson w.loading t.document)) t.defaults
    | error e => exact hw
  | setById id name value => exact h.workbench_patchEach hw none _ [id]
  | setByTitle title name value mode limit =>
    simp only [Command.after, setByTitle]
    cases w.index.idsMatching title mode with
    | ok ids => exact h.workbench_patchEach hw limit _ ids
    | error e => exact hw
  | setByType typeName params limit => exact h.workbench_patchEach hw limit params _
  | apply bundle => exact h.workbench_apply hw bundle
  | parameters => exact hw
  | prompt =>
    obtain ⟨stage, compiled, he⟩ := prompt_keeps answers w
    rwa [Command.after, he]
  | save files path =>
    obtain ⟨stage, compiled, he⟩ := save_keeps answers w files path
    rwa [Command.after, he]
  | execute run =>
    obtain ⟨stage, compiled, he⟩ := execute_keeps answers w run
    rwa [Command.after, he]

theorem Stable.foldl_after {w : Workbench} (hw : P w.graph) {cs : List Command}
    (hcs : ∀ g, Command.adopt g ∈ cs → P g) : P (cs.foldl (Command.after answers) w).graph := by
  induction cs generalizing w with
  | nil => exact hw
  | cons c cs ih =>
    refine ih (h.after hl hw fun g hc => ?_) fun g hg => hcs g (List.mem_cons_of_mem _ hg)
    exact hcs g (hc ▸ List.mem_cons_self)

end

end Graph

namespace Workbench

open PromptGraph.Graph

theorem nodup_foldl_after {w : Workbench} (h : w.graph.ids.Nodup) {cs : List Command}
    (hcs : ∀ g, Command.adopt g ∈ cs → g.ids.Nodup) :
    (cs.foldl (Command.after answers) w).graph.ids.Nodup :=
  stable_nodup.foldl_after (fun _ hg => hg.indexed.nodup) h hcs

theorem indexed_foldl_after {w : Workbench} (h : Indexed w.graph) {cs : List Command}
    (hcs : ∀ g, Command.adopt g ∈ cs → Indexed g) :
    Indexed (cs.foldl (Command.after answers) w).graph :=
  stable_indexed.foldl_after (fun _ hg => hg.indexed) h hcs

end Workbench

end PromptGraph
