import PromptGraph.Workflow.Workbench

/-!
# The compiled prompt is never stale

`Command.after answers w c` is the workbench that an operation `c` leaves behind, when schema
lookups give `answers`. Every command keeps `Fresh`: what is kept of an earlier compilation is what
compiling would give now. So `save` and `execute` use the prompt of the graph as it stands
(`recompiled`), whatever commands came before.
-/

namespace PromptGraph

variable {answers : String → Id (List InputSpec)}

/-! ## Patches and their hits -/

namespace Graph

/-- Hits were counted, in a graph with nodes, or nothing was done. -/
def Counted (s s' : Nat × Graph) : Prop := s' = s ∨ s.1 < s'.1 ∧ s.2 ≠ .empty

theorem Counted.refl (s : Nat × Graph) : Counted s s := .inl rfl

theorem Counted.trans {s t u : Nat × Graph} (h : Counted s t) (h' : Counted t u) : Counted s u := by
  rcases h with rfl | ⟨hlt, hne⟩
  · exact h'
  · rcases h' with rfl | ⟨hlt', -⟩
    · exact .inr ⟨hlt, hne⟩
    · exact .inr ⟨Nat.lt_trans hlt hlt', hne⟩

theorem patch?_empty (params : OrderedMap Json) (id : NodeId) :
    (empty.patch? answers params id).run = none := by
  have hk : empty.knownNames answers id = pure [] := rfl
  simp [patch?, hk]

theorem ne_empty_of_patch? {params : OrderedMap Json} {g g' : Graph} {id : NodeId}
    (h : (g.patch? answers params id).run = some g') : g ≠ .empty := by
  rintro rfl
  rw [patch?_empty] at h
  cases h

theorem patchEach_counted (limit : Option Nat) (params : OrderedMap Json) (ids : List NodeId)
    (s : Nat × Graph) : Counted s (patchEach answers limit params ids s).run := by
  induction ids generalizing s with
  | nil => exact .refl s
  | cons id ids ih =>
    obtain ⟨hits, g⟩ := s
    rw [patchEach]
    split
    · exact .refl _
    · rw [Id.run_bind]
      split
      · next g' hp =>
        have hstep : Counted (hits, g) (hits + 1, g') :=
          .inr ⟨Nat.lt_succ_self hits, ne_empty_of_patch? hp⟩
        exact hstep.trans (ih _)
      · exact ih _

/-- **A patch that counts no hit changes nothing**, and the empty graph counts none. -/
theorem patchTargets_counted (ts : List (List NodeId × OrderedMap Json)) (s : Nat × Graph) :
    Counted s (patchTargets answers ts s).run := by
  induction ts generalizing s with
  | nil => exact .refl s
  | cons t ts ih =>
    rw [patchTargets, Id.run_bind]
    exact (patchEach_counted none t.2 t.1 s).trans (ih _)

end Graph

/-! ## Fresh workbenches -/

namespace Workbench

open PromptGraph.Graph

/-- What compiling the workbench gives, whatever is kept of an earlier compilation. -/
def recompiled (answers : String → Id (List InputSpec)) (w : Workbench) : Except Failure Prompt :=
  if w.stage = .unloaded then .error (.compile .nothingLoaded) else (w.compileGraph answers).run

theorem recompiled_eq_ok {w : Workbench} {p : Prompt} :
    w.recompiled answers = .ok p ↔ w.stage ≠ .unloaded ∧ w.graph.validate = .ok () ∧
      (Compiler.compile answers w.options w.graph).run = .ok p := by
  unfold recompiled compileGraph
  by_cases hu : w.stage = .unloaded
  · simp [hu]
  · rw [if_neg hu]
    cases w.graph.validate with
    | error e => simp
    | ok u =>
      rw [Id.run_bind]
      cases (Compiler.compile answers w.options w.graph).run with
      | error e =>
        constructor
        · rintro ⟨⟩
        · rintro ⟨-, -, ⟨⟩⟩
      | ok q =>
        constructor
        · rintro ⟨⟩
          exact ⟨hu, rfl, rfl⟩
        · rintro ⟨-, -, ⟨⟩⟩
          rfl

/-- The prompt that is kept is the one that compiling gives, and the stage says whether one is. -/
structure Fresh (answers : String → Id (List InputSpec)) (w : Workbench) : Prop where
  valid : ∀ p, w.compiled = some p → w.graph.validate = .ok ()
  current : ∀ p, w.compiled = some p → (Compiler.compile answers w.options w.graph).run = .ok p
  unloaded : w.stage = .unloaded → w.graph = .empty ∧ w.compiled = none
  loaded : w.stage = .loaded → w.compiled = none
  kept : w.stage = .compiled ∨ w.stage = .done → ∃ p, w.compiled = some p
  idle : w.stage ≠ .executing

variable {w : Workbench}

/-- Nothing is kept right after loading. -/
theorem fresh_of_loaded (hs : w.stage = .loaded) (hc : w.compiled = none) : Fresh answers w := by
  constructor <;> simp [hs, hc]

theorem fresh_new (loading : Loading.Options) (options : CompilerOptions) :
    Fresh answers { loading, options } := by
  constructor <;> simp

theorem fresh_adopt (w : Workbench) (g : Graph) : Fresh answers (w.adopt g) :=
  fresh_of_loaded rfl rfl

theorem Fresh.settle (h : Fresh answers w) {s : Nat × Graph} (hs : Counted (0, w.graph) s) :
    Fresh answers (w.settle s).2 := by
  rcases hs with rfl | ⟨hpos, hne⟩
  · have he : (w.settle (0, w.graph)).2 = w := by simp [Workbench.settle]
    rwa [he]
  · have hst : w.stage ≠ .unloaded := fun hu => hne (h.unloaded hu).1
    simp only [Workbench.settle, if_pos (And.intro hpos hst)]
    exact fresh_of_loaded rfl rfl

theorem Fresh.patchEach (h : Fresh answers w) (limit : Option Nat) (params : OrderedMap Json)
    (ids : List NodeId) : Fresh answers (w.patchEach answers limit params ids).run.2 :=
  h.settle (patchEach_counted limit params ids _)

theorem Fresh.apply (h : Fresh answers w) (b : OverrideBundle) :
    Fresh answers (w.apply answers b).run.2 :=
  h.settle (patchTargets_counted _ _)

theorem Fresh.recompiled_eq (h : Fresh answers w) {p : Prompt} (hc : w.compiled = some p) :
    w.recompiled answers = .ok p := by
  have hu : w.stage ≠ .unloaded := by
    intro hu
    rw [(h.unloaded hu).2] at hc
    cases hc
  exact recompiled_eq_ok.2 ⟨hu, h.valid p hc, h.current p hc⟩

theorem fresh_of_recompiled {p : Prompt} (hp : w.recompiled answers = .ok p) {stage : Stage}
    (hs : stage = .compiled ∨ stage = .done) :
    Fresh answers { w with stage, compiled := some p } := by
  obtain ⟨-, hv, hc⟩ := recompiled_eq_ok.1 hp
  refine ⟨fun q hq => hv, fun q hq => ?_, ?_, ?_, fun _ => ⟨p, rfl⟩, ?_⟩
  · cases hq
    exact hc
  all_goals rcases hs with rfl | rfl <;> rintro ⟨⟩

/-- **What `prompt` does**: it gives what compiling gives, and keeps a prompt that it gives. -/
theorem Fresh.prompt_cases (h : Fresh answers w) :
    (∃ e, w.recompiled answers = .error e ∧ (w.prompt answers).run = (.error e, w)) ∨
      ∃ p stage, w.recompiled answers = .ok p ∧ (stage = .compiled ∨ stage = .done) ∧
        (w.prompt answers).run = (.ok p, { w with stage, compiled := some p }) := by
  unfold Workbench.prompt
  split
  · next hu => exact .inl ⟨_, if_pos hu, rfl⟩
  · next p hc hu =>
    have hs : w.stage = .compiled ∨ w.stage = .done := by
      have hl := h.loaded
      have hi := h.idle
      cases hst : w.stage <;> simp_all
    refine .inr ⟨p, w.stage, h.recompiled_eq hc, hs, ?_⟩
    rw [← hc]
    rfl
  · next hc hu =>
    have hr : w.recompiled answers = (w.compileGraph answers).run := if_neg hu
    rw [Id.run_bind, ← hr]
    cases w.recompiled answers with
    | error e => exact .inl ⟨e, rfl, rfl⟩
    | ok p => exact .inr ⟨p, .compiled, rfl, .inl rfl, rfl⟩

theorem Fresh.prompt_eq (h : Fresh answers w) :
    (w.prompt answers).run.1 = w.recompiled answers := by
  rcases h.prompt_cases with ⟨e, hr, hp⟩ | ⟨p, stage, hr, -, hp⟩
  · rw [hp, hr]
  · rw [hp, hr]

theorem Fresh.prompt (h : Fresh answers w) : Fresh answers (w.prompt answers).run.2 := by
  rcases h.prompt_cases with ⟨e, -, hp⟩ | ⟨p, stage, hr, hs, hp⟩
  · rwa [hp]
  · rw [hp]
    exact fresh_of_recompiled hr hs

theorem Fresh.save (h : Fresh answers w) (files : FileTree) (path : String) :
    (w.save answers files path).run.1 = (match w.recompiled answers with
      | .ok p => p.save files path
      | .error e => (.error e, files)) ∧ Fresh answers (w.save answers files path).run.2 := by
  unfold Workbench.save
  rw [Id.run_bind]
  rcases h.prompt_cases with ⟨e, hr, hp⟩ | ⟨p, stage, hr, hs, hp⟩
  · rw [hp, hr]
    exact ⟨rfl, h⟩
  · rw [hp, hr]
    exact ⟨rfl, fresh_of_recompiled hr hs⟩

/-- **What `execute` does**: it runs what compiling gives, and keeps it. -/
theorem Fresh.execute_run (h : Fresh answers w)
    (run : Prompt → Id (Except Failure RunOutcome)) :
    (w.execute answers run).run = match w.recompiled answers with
      | .error e => (.error e, w)
      | .ok p => match (run p).run with
        | .ok outcome => (.ok outcome, { w with stage := .done, compiled := some p })
        | .error e => (.error e, { w with stage := .compiled, compiled := some p }) := by
  unfold Workbench.execute
  rw [Id.run_bind]
  rcases h.prompt_cases with ⟨e, hr, hp⟩ | ⟨p, stage, hr, -, hp⟩
  · rw [hp, hr]
    rfl
  · rw [hp, hr]
    dsimp only
    rw [Id.run_bind]
    cases (run p).run <;> rfl

theorem Fresh.execute (h : Fresh answers w) (run : Prompt → Id (Except Failure RunOutcome)) :
    (w.execute answers run).run.1 = (w.recompiled answers).bind (fun p => (run p).run) ∧
      Fresh answers (w.execute answers run).run.2 := by
  rw [h.execute_run]
  cases hr : w.recompiled answers with
  | error e => exact ⟨rfl, h⟩
  | ok p =>
    dsimp only [Except.bind]
    cases hrun : (run p).run with
    | ok outcome => exact ⟨rfl, fresh_of_recompiled hr (.inr rfl)⟩
    | error e => exact ⟨rfl, fresh_of_recompiled hr (.inl rfl)⟩

end Workbench

/-! ## Runs of commands -/

/-- An operation on a workbench, with what its surroundings hold at the time. -/
inductive Command where
  | loadFile (files : FileTree) (path : String)
  | loadText (text : String)
  | loadJson (document : Json)
  | adopt (graph : Graph)
  | loadTemplate (folder : TemplateFolder) (files : FileTree) (id : String)
  | setById (id name : String) (value : Json)
  | setByTitle (title name : String) (value : Json) (mode : MatchMode) (limit : Option Nat)
  | setByType (typeName : String) (params : OrderedMap Json) (limit : Option Nat)
  | apply (bundle : OverrideBundle)
  | parameters
  | prompt
  | save (files : FileTree) (path : String)
  | execute (run : Prompt → Except Failure RunOutcome)

namespace Command

/-- The workbench that a command leaves; one that fails to load or to match leaves it alone. -/
def after (answers : String → Id (List InputSpec)) (w : Workbench) : Command → Workbench
  | loadFile files path => (w.loadFile files path).toOption.getD w
  | loadText text => w.loadText text
  | loadJson document => w.loadJson document
  | adopt graph => w.adopt graph
  | loadTemplate folder files id =>
    ((w.loadTemplate answers folder files id).run.toOption.map Prod.snd).getD w
  | setById id name value => (w.setById answers id name value).run.2
  | setByTitle title name value mode limit =>
    ((w.setByTitle answers title name value mode limit).run.toOption.map Prod.snd).getD w
  | setByType typeName params limit => (w.setByType answers typeName params limit).run.2
  | apply bundle => (w.apply answers bundle).run.2
  | parameters => w
  | prompt => (w.prompt answers).run.2
  | save files path => (w.save answers files path).run.2
  | execute run => (w.execute answers run).run.2

end Command

namespace Workbench

theorem Fresh.after {w : Workbench} (h : Fresh answers w) (c : Command) :
    Fresh answers (c.after answers w) := by
  cases c with
  | loadFile files path =>
    simp only [Command.after, loadFile]
    cases Loading.ofFile w.loading files path with
    | ok g => exact fresh_adopt w g
    | error e => exact h
  | loadText text => exact fresh_adopt w _
  | loadJson document => exact fresh_adopt w _
  | adopt g => exact fresh_adopt w g
  | loadTemplate folder files id =>
    simp only [Command.after, loadTemplate]
    cases folder.get files id with
    | ok t => exact (fresh_adopt w _).apply t.defaults
    | error e => exact h
  | setById id name value => exact h.patchEach none _ [id]
  | setByTitle title name value mode limit =>
    simp only [Command.after, setByTitle]
    cases w.index.idsMatching title mode with
    | ok ids => exact h.patchEach limit _ ids
    | error e => exact h
  | setByType typeName params limit => exact h.patchEach limit params _
  | apply bundle => exact h.apply bundle
  | parameters => exact h
  | prompt => exact h.prompt
  | save files path => exact (h.save files path).2
  | execute run => exact (h.execute run).2

theorem Fresh.foldl_after {w : Workbench} (h : Fresh answers w) (cs : List Command) :
    Fresh answers (cs.foldl (Command.after answers) w) := by
  induction cs generalizing w with
  | nil => exact h
  | cons c cs ih => exact ih (h.after c)

/-- **The compiled prompt is never stale.** After any commands, a prompt that is kept is what
compiling the graph gives, the stage says whether one is kept, and no run is under way; what `save`
writes and what `execute` runs is what compiling gives at the time. -/
theorem never_stale (answers : String → Id (List InputSpec)) (loading : Loading.Options)
    (options : CompilerOptions) (cs : List Command) :
    let w := cs.foldl (Command.after answers) { loading, options }
    Fresh answers w ∧
      (∀ files path, (w.save answers files path).run.1 = match w.recompiled answers with
        | .ok p => p.save files path
        | .error e => (.error e, files)) ∧
      ∀ run, (w.execute answers run).run.1 = (w.recompiled answers).bind fun p => (run p).run :=
  have h := (fresh_new loading options).foldl_after cs
  ⟨h, fun files path => (h.save files path).1, fun run => (h.execute run).1⟩

end Workbench

end PromptGraph
