import PromptGraph.Proofs.Building
import PromptGraph.Proofs.Freshness

/-!
# What a command that fails leaves behind

Step by step (`Command.steps`), a command fails before it has touched the workbench, or when it has
a compiled prompt at hand and puts it to use (`Failing`). So it leaves the graph and the index
alone; and where it leaves anything new, that is the prompt of the graph (`failed_command_keeps`).
-/

namespace PromptGraph

variable {answers : String → Id (List InputSpec)}

/-! ## Commands step by step -/

/-- An operation on a workbench as its steps. The first that fails ends it, and the workbench stays
as it is then. -/
abbrev Steps := EStateM Failure Workbench

namespace Steps

/-- The compiled prompt, which is compiled now unless it is there. -/
def compiled (answers : String → Id (List InputSpec)) : Steps Prompt := do
  let w ← get
  if w.stage = .unloaded then throw (.compile .nothingLoaded)
  match w.compiled with
  | some p => return p
  | none =>
    let p ← ofExcept (w.compileGraph answers).run
    modify fun w => { w with stage := .compiled, compiled := some p }
    return p

/-- What an operation gives, and the workbench that it leaves. -/
def result {α : Type} : Except Failure α × Workbench → EStateM.Result Failure Workbench α
  | (.ok a, w) => .ok a w
  | (.error e, w) => .error e w

variable {α : Type} {w : Workbench}

theorem run_ofExcept (r : Except Failure α) : (ofExcept r : Steps α).run w = result (r, w) := by
  cases r <;> rfl

theorem prompt_run (w : Workbench) : (w.prompt answers).run =
    if w.stage = .unloaded then (.error (.compile .nothingLoaded), w)
    else match w.compiled with
      | some p => (.ok p, w)
      | none => match (w.compileGraph answers).run with
        | .ok p => (.ok p, { w with stage := .compiled, compiled := some p })
        | .error e => (.error e, w) := by
  unfold Workbench.prompt
  split
  · next hu => rw [if_pos hu]; rfl
  · next p hc hu => rw [if_neg hu, hc]; rfl
  · next hc hu =>
    rw [if_neg hu, hc, Id.run_bind]
    cases (w.compileGraph answers).run <;> rfl

theorem compiled_run (w : Workbench) :
    (compiled answers).run w = result (w.prompt answers).run := by
  rw [prompt_run]
  simp only [compiled, EStateM.run_bind, EStateM.run_get]
  split
  · rfl
  cases w.compiled with
  | some p => rfl
  | none =>
    simp only [EStateM.run_bind, run_ofExcept]
    cases (w.compileGraph answers).run <;> rfl

end Steps

namespace Command

open Steps

def steps (answers : String → Id (List InputSpec)) : Command → Steps Unit
  | loadFile files path => do
    let g ← ofExcept (Loading.ofFile (← get).loading files path)
    modify (·.adopt g)
  | loadText text => modify (·.loadText text)
  | loadJson document => modify (·.loadJson document)
  | adopt graph => modify (·.adopt graph)
  | loadTemplate folder files id => do
    let t ← ofExcept (folder.get files id)
    modify (·.loadJson t.document)
    modify fun w => (w.apply answers t.defaults).run.2
  | setById id name value => modify fun w => (w.setById answers id name value).run.2
  | setByTitle title name value mode limit => do
    let ids ← ofExcept ((← get).index.idsMatching title mode)
    modify fun w => (w.patchEach answers limit (.ofList [(name, value)]) ids).run.2
  | setByType typeName params limit =>
    modify fun w => (w.setByType answers typeName params limit).run.2
  | apply bundle => modify fun w => (w.apply answers bundle).run.2
  | parameters => return
  | prompt => discard (compiled answers)
  | save files path => do
    let p ← compiled answers
    ofExcept (p.save files path).1
  | execute run => do
    let p ← compiled answers
    modify fun w => { w with stage := .executing }
    match run p with
    | .ok _ => modify fun w => { w with stage := .done }
    | .error e => do
      modify fun w => { w with stage := .compiled }
      throw e

/-- Whether the command succeeds, or else how it fails. -/
def outcome (answers : String → Id (List InputSpec)) (w : Workbench) :
    Command → Except Failure Unit
  | loadFile files path => (w.loadFile files path).map fun _ => ()
  | loadTemplate folder files id => (w.loadTemplate answers folder files id).run.map fun _ => ()
  | setByTitle title name value mode limit =>
    (w.setByTitle answers title name value mode limit).run.map fun _ => ()
  | prompt => (w.prompt answers).run.1.map fun _ => ()
  | save files path => (w.save answers files path).run.1.1
  | execute run => (w.execute answers run).run.1.map fun _ => ()
  | _ => .ok ()

/-- The command puts the compiled prompt to use. -/
def usesPrompt : Command → Bool
  | save .. => true
  | execute .. => true
  | _ => false

/-- **The steps of a command** come to what the command gives and leaves. -/
theorem steps_run (c : Command) (w : Workbench) :
    (c.steps answers).run w = result (c.outcome answers w, c.after answers w) := by
  cases c with
  | loadFile files path =>
    simp only [steps, outcome, after, Workbench.loadFile, EStateM.run_bind, EStateM.run_get,
      run_ofExcept]
    cases h : Loading.ofFile w.loading files path <;> rfl
  | loadText | loadJson | adopt | setById | setByType | apply | parameters => rfl
  | loadTemplate folder files id =>
    simp only [steps, outcome, after, Workbench.loadTemplate, EStateM.run_bind, run_ofExcept]
    cases h : folder.get files id <;> rfl
  | setByTitle title name value mode limit =>
    simp only [steps, outcome, after, Workbench.setByTitle, EStateM.run_bind, EStateM.run_get,
      run_ofExcept]
    cases h : w.index.idsMatching title mode <;> rfl
  | prompt =>
    show ((compiled answers) >>= fun _ => pure ()).run w = _
    rw [EStateM.run_bind, compiled_run]
    simp only [outcome, after]
    obtain ⟨r, w'⟩ := (w.prompt answers).run
    cases r <;> rfl
  | save files path =>
    simp only [steps, outcome, after, Workbench.save, EStateM.run_bind, run_ofExcept, compiled_run]
    rw [Id.run_bind]
    obtain ⟨r, w'⟩ := (w.prompt answers).run
    cases r <;> rfl
  | execute run =>
    simp only [steps, outcome, after, Workbench.execute, EStateM.run_bind, compiled_run]
    rw [Id.run_bind]
    obtain ⟨r, w'⟩ := (w.prompt answers).run
    cases r with
    | error e => rfl
    | ok p =>
      dsimp only [result, EStateM.run_modify]
      rw [Id.run_bind]
      show _ = result (Except.map _ (Prod.fst _), _)
      cases run p <;> rfl

theorem steps_run_eq_error_iff {c : Command} {w w' : Workbench} {e : Failure} :
    (c.steps answers).run w = .error e w' ↔
      c.outcome answers w = .error e ∧ c.after answers w = w' := by
  rw [steps_run]
  cases c.outcome answers w <;> simp [result]

end Command

/-! ## How commands fail -/

theorem eq_error_of_map {α β ε : Type} {f : α → β} {x : Except ε α} {e : ε}
    (h : x.map f = .error e) : x = .error e := by
  cases x with
  | error e' =>
    cases h
    rfl
  | ok a => cases h

namespace Workbench

/-- How a command fails with `e`, and the workbench that it leaves behind. -/
inductive Failing (answers : String → Id (List InputSpec)) (w : Workbench) (e : Failure) :
    Command → Workbench → Prop where
  | untouched {c : Command} : (c.usesPrompt = true → w.recompiled answers = .error e) →
      Failing answers w e c w
  | unsaved {files : FileTree} {path : String} {p : Prompt} {stage : Stage} :
      w.recompiled answers = .ok p → (stage = .compiled ∨ stage = .done) →
      (p.save files path).1 = .error e →
      Failing answers w e (.save files path) { w with stage, compiled := some p }
  | unfinished {run : Prompt → Except Failure RunOutcome} {p : Prompt} :
      w.recompiled answers = .ok p → run p = .error e →
      Failing answers w e (.execute run) { w with stage := .compiled, compiled := some p }

variable {w : Workbench}

theorem Failing.of_unused {c : Command} {e : Failure} (h : c.usesPrompt = false) :
    Failing answers w e c w :=
  .untouched fun hu => absurd (h.symm.trans hu) Bool.false_ne_true

theorem Fresh.save_failing (h : Fresh answers w) {files : FileTree} {path : String} {e : Failure}
    (hf : (w.save answers files path).run.1.1 = .error e) :
    Failing answers w e (.save files path) (w.save answers files path).run.2 := by
  unfold Workbench.save at hf ⊢
  rw [Id.run_bind] at hf ⊢
  rcases h.prompt_cases with ⟨e', hr, hp⟩ | ⟨p, stage, hr, hs, hp⟩
  · rw [hp] at hf ⊢
    cases hf
    exact .untouched fun _ => hr
  · rw [hp] at hf ⊢
    exact .unsaved hr hs hf

theorem Fresh.execute_failing (h : Fresh answers w) {run : Prompt → Except Failure RunOutcome}
    {e : Failure} (hf : (w.execute answers run).run.1 = .error e) :
    Failing answers w e (.execute run) (w.execute answers run).run.2 := by
  rw [h.execute_run] at hf ⊢
  cases hr : w.recompiled answers with
  | error e' =>
    rw [hr] at hf
    cases hf
    exact .untouched fun _ => hr
  | ok p =>
    rw [hr] at hf
    dsimp only at hf ⊢
    have hid : Id.run (run p) = run p := rfl
    rw [hid] at hf ⊢
    cases hrun : run p with
    | ok outcome =>
      rw [hrun] at hf
      cases hf
    | error e' =>
      rw [hrun] at hf
      cases hf
      exact .unfinished hr hrun

/-- **How commands fail**: before they have touched the workbench, or with the compiled prompt at
hand. -/
theorem Fresh.failing (h : Fresh answers w) {c : Command} {e : Failure}
    (hf : c.outcome answers w = .error e) : Failing answers w e c (c.after answers w) := by
  cases c with
  | loadFile files path =>
    have hload : w.loadFile files path = .error e := eq_error_of_map hf
    rw [Command.after, hload]
    exact .of_unused rfl
  | loadText | loadJson | adopt | setById | setByType | apply | parameters => cases hf
  | loadTemplate folder files id =>
    have hload : (w.loadTemplate answers folder files id).run = .error e := eq_error_of_map hf
    rw [Command.after, hload]
    exact .of_unused rfl
  | setByTitle title name value mode limit =>
    have hset : (w.setByTitle answers title name value mode limit).run = .error e :=
      eq_error_of_map hf
    rw [Command.after, hset]
    exact .of_unused rfl
  | prompt =>
    have hprompt : (w.prompt answers).run.1 = .error e := eq_error_of_map hf
    rw [Command.after]
    rcases h.prompt_cases with ⟨e', hr, hp⟩ | ⟨p, stage, hr, hs, hp⟩
    · rw [hp]
      exact .of_unused rfl
    · rw [hp] at hprompt
      cases hprompt
  | save files path => exact h.save_failing hf
  | execute run => exact h.execute_failing (eq_error_of_map hf)

/-- **Commands that fail are atomic.** After any commands, one that fails at some step leaves the
graph and the index as they were. If it does not use the compiled prompt, or if compiling is what
fails, it leaves everything as it was. And a run that fails leaves behind the prompt that compiling
the graph gives, as compiled. -/
theorem failed_command_keeps (answers : String → Id (List InputSpec)) (loading : Loading.Options)
    (options : CompilerOptions) (cs : List Command) (c : Command) :
    let w := cs.foldl (Command.after answers) { loading, options }
    ∀ e w', (c.steps answers).run w = .error e w' →
      (c.outcome answers w = .error e ∧ c.after answers w = w') ∧
      (w'.graph = w.graph ∧ w'.index = w.index) ∧
      (c.usesPrompt = false ∨ (∃ e', w.recompiled answers = .error e') → w' = w) ∧
      ∀ run p, c = .execute run → w.recompiled answers = .ok p →
        run p = .error e ∧ (Compiler.compile answers w.options w.graph).run = .ok p ∧
          w' = { w with stage := .compiled, compiled := some p } := by
  intro w e w' hsteps
  have hend := Command.steps_run_eq_error_iff.1 hsteps
  refine ⟨hend, ?_⟩
  have h : Fresh answers w := (fresh_new loading options).foldl_after cs
  have hfail : Failing answers w e c w' := hend.2 ▸ h.failing hend.1
  clear_value w
  cases hfail with
  | untouched hr =>
    refine ⟨⟨rfl, rfl⟩, fun _ => rfl, ?_⟩
    rintro run p rfl hp
    rw [hr rfl] at hp
    cases hp
  | unsaved hp hs hsave =>
    refine ⟨⟨rfl, rfl⟩, ?_, nofun⟩
    rintro (hu | ⟨e', hr⟩)
    · cases hu
    · rw [hr] at hp
      cases hp
  | unfinished hp hrun =>
    refine ⟨⟨rfl, rfl⟩, ?_, ?_⟩
    · rintro (hu | ⟨e', hr⟩)
      · cases hu
      · rw [hr] at hp
        cases hp
    · rintro run p' ⟨⟩ hp'
      obtain rfl := Except.ok.inj (hp.symm.trans hp')
      exact ⟨hrun, (recompiled_eq_ok.1 hp).2.2, rfl⟩

/-- A run times out after the text of an encoder was changed. -/
theorem failed_command_keeps_of_run :
    let answers : String → Id (List InputSpec) := fun _ => pure [⟨"text", some .text, .empty⟩]
    let encoder : Json := .object [("id", .int 6), ("type", .text "CLIPTextEncode"),
      ("widgets_values", .array [.text "a bottle"])]
    let cs : List Command := [.loadJson (.object [("nodes", .array [encoder])]), .prompt,
      .setById "6" "text" (.text "a cup")]
    let c : Command := .execute fun _ => .error (.timedOut "job")
    let w := cs.foldl (Command.after answers) { loading := {}, options := {} }
    w.stage = .loaded ∧ ∃ w', (c.steps answers).run w = .error (.timedOut "job") w' ∧
      c.after answers w = w' ∧ (w'.graph = w.graph ∧ w'.index = w.index) ∧ ∃ p,
        (Compiler.compile answers w.options w.graph).run = .ok p ∧
          w' = { w with stage := .compiled, compiled := some p } := by
  intro answers encoder cs c w
  have hs : w.stage = .loaded := by decide +kernel
  have hp : (w.recompiled answers).toOption.isSome = true := by decide +kernel
  have hf : c.outcome answers w = .error (.timedOut "job") := by decide +kernel
  clear_value answers cs
  obtain ⟨p, hp⟩ := Option.isSome_iff_exists.1 hp
  have hsteps : (c.steps answers).run w = .error (.timedOut "job") (c.after answers w) :=
    Command.steps_run_eq_error_iff.2 ⟨hf, rfl⟩
  obtain ⟨-, hkept, -, hrun⟩ := failed_command_keeps answers {} {} cs c _ _ hsteps
  obtain ⟨-, hc, hw⟩ := hrun _ p rfl (eq_ok_of_toOption hp)
  exact ⟨hs, _, hsteps, rfl, hkept, p, hc, hw⟩

end Workbench

end PromptGraph
