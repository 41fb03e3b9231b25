import PromptGraph.Graph.Validity
import PromptGraph.Loading.Basic
import PromptGraph.Run.Protocol
import PromptGraph.Workflow.Parameters
import PromptGraph.Workflow.Template
import PromptGraph.Workflow.TitleMatch

/-!
# The workbench

A workbench holds one workflow: its graph, the index of what it was loaded from, and the compiled
prompt, which is kept until the next load or patch. `Stage` says how far the workflow has come.

Operations that compile or ask for known parameters look schemas up through `lookup`, in a monad
`m` of the caller's choice. Those that can fail leave the workbench as it was, except that a run
that fails leaves the compiled prompt behind.
-/

namespace PromptGraph

/-- How far a workflow has come. -/
inductive Stage where
  | unloaded
  | loaded
  | compiled
  | executing
  | done
  deriving DecidableEq, Repr

def Stage.name : Stage → String
  | unloaded => "unloaded"
  | loaded => "loaded"
  | compiled => "compiled"
  | executing => "executing"
  | done => "done"

/-- Writes a prompt to a file; makes the folders above it. -/
def Prompt.save (p : Prompt) (t : FileTree) (path : String) : Except Failure Unit × FileTree :=
  let (t, made) := match Path.parent? path with
    | some folder => t.makeFolders folder
    | none => (t, .ok ())
  match made.bind fun () => t.writeText path p.toJson.pretty with
  | .ok t => (.ok (), t)
  | .error e => (.error (.notStored e), t)

structure Workbench where
  loading : Loading.Options := {}
  options : CompilerOptions := {}
  graph : Graph := .empty
  index : IdentityIndex := {}
  stage : Stage := .unloaded
  compiled : Option Prompt := none

namespace Workbench

/-! ## Loading -/

/-- Takes up a graph in place of what was there. -/
def adopt (w : Workbench) (graph : Graph) : Workbench :=
  { w with graph, index := .ofGraph graph, stage := .loaded, compiled := none }

def loadJson (w : Workbench) (document : Json) : Workbench :=
  w.adopt (Loading.ofJson w.loading document)

def loadText (w : Workbench) (text : String) : Workbench := w.adopt (Loading.ofText w.loading text)

def loadFile (w : Workbench) (files : FileTree) (path : String) : Except Failure Workbench :=
  (Loading.ofFile w.loading files path).map w.adopt

/-! ## Patching -/

/-- Takes up a patched graph, with the number of nodes that were changed. -/
def settle (w : Workbench) (patched : Nat × Graph) : Nat × Workbench :=
  let (hits, graph) := patched
  (hits, if 0 < hits ∧ w.stage ≠ .unloaded then
      { w with graph, stage := .loaded, compiled := none }
    else { w with graph })

section Lookup

variable {m : Type → Type} [Monad m] (lookup : String → m (List InputSpec))

/-- Patches nodes; gives the number of those that were changed, at most `limit`. -/
def patchEach (w : Workbench) (limit : Option Nat) (params : OrderedMap Json) (ids : List NodeId) :
    m (Nat × Workbench) := do
  return w.settle (← Graph.patchEach lookup limit params ids (0, w.graph))

def setById (w : Workbench) (id name : String) (value : Json) : m (Nat × Workbench) :=
  w.patchEach lookup none (.ofList [(name, value)]) [id]

/-- Sets a parameter of the nodes whose title matches, in file order. -/
def setByTitle (w : Workbench) (title name : String) (value : Json) (mode : MatchMode)
    (limit : Option Nat) : m (Except Failure (Nat × Workbench)) :=
  match w.index.idsMatching title mode with
  | .ok ids => return .ok (← w.patchEach lookup limit (.ofList [(name, value)]) ids)
  | .error e => pure (.error e)

/-- Sets the known ones of some parameters of the nodes of a type, in file order. -/
def setByType (w : Workbench) (typeName : String) (params : OrderedMap Json)
    (limit : Option Nat) : m (Nat × Workbench) :=
  w.patchEach lookup limit params (w.index.idsOfType typeName)

/-- The nodes that a bundle addresses and the parameters for them: by id, by title, by type. -/
def targets (x : IdentityIndex) (b : OverrideBundle) : List (List NodeId × OrderedMap Json) :=
  b.byId.entries.map (fun e => ([e.1], e.2)) ++
    b.byTitle.entries.map (fun e => (x.idsTitled e.1, e.2)) ++
    b.byType.entries.map (fun e => (x.idsOfType e.1, e.2))

/-- Applies a bundle; gives the sum of the changes. -/
def apply (w : Workbench) (b : OverrideBundle) : m (Nat × Workbench) := do
  return w.settle (← Graph.patchTargets lookup (targets w.index b) (0, w.graph))

def loadTemplate (w : Workbench) (folder : TemplateFolder) (files : FileTree) (id : String) :
    m (Except Failure (Nat × Workbench)) :=
  match folder.get files id with
  | .ok t => return .ok (← (w.loadJson t.document).apply lookup t.defaults)
  | .error e => pure (.error e)

/-! ## Compiling -/

def compileGraph (w : Workbench) : m (Except Failure Prompt) :=
  match w.graph.validate with
  | .ok () => return (← Compiler.compile lookup w.options w.graph).mapError .compile
  | .error e => pure (.error (.graph e))

/-- The compiled prompt, which is compiled now unless it is there. -/
def prompt (w : Workbench) : m (Except Failure Prompt × Workbench) :=
  match w.stage, w.compiled with
  | .unloaded, _ => pure (.error (.compile .nothingLoaded), w)
  | _, some p => pure (.ok p, w)
  | _, none => do
    match ← w.compileGraph lookup with
    | .ok p => return (.ok p, { w with stage := .compiled, compiled := some p })
    | .error e => return (.error e, w)

def save (w : Workbench) (files : FileTree) (path : String) :
    m ((Except Failure Unit × FileTree) × Workbench) := do
  match ← w.prompt lookup with
  | (.ok p, w) => return (p.save files path, w)
  | (.error e, w) => return ((.error e, files), w)

def execute (w : Workbench) (run : Prompt → m (Except Failure RunOutcome)) :
    m (Except Failure RunOutcome × Workbench) := do
  match ← w.prompt lookup with
  | (.error e, w) => return (.error e, w)
  | (.ok p, w) =>
    let running := { w with stage := .executing }
    match ← run p with
    | .ok outcome => return (.ok outcome, { running with stage := .done })
    | .error e => return (.error e, { running with stage := .compiled })

end Lookup

end Workbench

end PromptGraph
