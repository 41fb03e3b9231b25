import PromptGraph.Compile.Align
import PromptGraph.Compile.FilenamePrefix
import PromptGraph.Failure

/-!
# Compiling

Each node becomes one entry of the prompt. Its inputs are laid in layers: connections, aligned
widget values, overrides. A scalar override replaces what is there; an array or an object only
fills a gap. A save node always leaves with a file name prefix.

Schemas are asked for through `lookup`, in a monad `m` of the caller's choice, and only for nodes
that have widget values.
-/

namespace PromptGraph

structure CompilerOptions where
  /-- The type of the nodes that save images. -/
  saveType : String := "SaveImage"
  /-- The input of a save node that holds the prefix. -/
  prefixInput : String := "filename_prefix"
  defaultPrefix : String := "ComfyUI"
  sanitizePrefix : Bool := true
  /-- Refuse nodes of unknown type. -/
  strict : Bool := false
  deriving DecidableEq

namespace Compiler

/-- Names and values that the widget values of a node fill. -/
def aligned (specs : List InputSpec) (n : Node) : OrderedMap Json :=
  if n.values.isEmpty then .empty else Align.align specs n.values n.connections.contains

/-- Lays an override: a scalar replaces, anything else fills a gap. -/
def overlay (inputs : OrderedMap Json) (e : String × Json) : OrderedMap Json :=
  if e.2.isScalar then inputs.insert e.1 e.2 else inputs.insertNew e.1 e.2

/-- Connections, aligned values and overrides in layers. -/
def layered (specs : List InputSpec) (n : Node) : OrderedMap Json :=
  let wired := n.connections.mapValues Connection.toJson
  n.overrides.entries.foldl overlay (wired.insertAll (aligned specs n).entries)

/-- No usable prefix is given. -/
def prefixMissing : Option Json → Bool
  | none => true
  | some .null => true
  | some (.text s) => s.isEmpty
  | some _ => false

/-- The text of a prefix that can be made clean. -/
def prefixText? : Json → Option String
  | .text s => some s
  | .number n => some (Json.numberText n)
  | .bool b => some (if b then "true" else "false")
  | _ => none

/-- Fills in the default prefix and makes the prefix clean. -/
def applyPrefix (o : CompilerOptions) (inputs : OrderedMap Json) : OrderedMap Json :=
  let filled := if prefixMissing (inputs.get? o.prefixInput)
    then inputs.insert o.prefixInput (.text o.defaultPrefix) else inputs
  if o.sanitizePrefix then
    match (filled.get? o.prefixInput).bind prefixText? with
    | some raw =>
      filled.insert o.prefixInput (.text (FilenamePrefix.sanitize raw o.defaultPrefix))
    | none => filled
  else filled

def nodeInputs (o : CompilerOptions) (specs : List InputSpec) (n : Node) : OrderedMap Json :=
  if n.typeName = o.saveType then applyPrefix o (layered specs n) else layered specs n

def entry (o : CompilerOptions) (specs : List InputSpec) (n : Node) : PromptNode where
  classType := n.typeName
  inputs := nodeInputs o specs n
  details := n.title.map fun t => { title := some t }

def refuses (o : CompilerOptions) (n : Node) : Bool := o.strict && n.typeName = unknownType

/-- Aligned values overlaid with overrides; an unconnected widget without a value is null. -/
def parameters (specs : List InputSpec) (n : Node) : OrderedMap Json :=
  n.widgets.foldl (fun m name => if n.connections.contains name then m else m.insertNew name .null)
    ((aligned specs n).insertAll n.overrides.entries)

section Lookup

variable {m : Type → Type} [Monad m] (lookup : String → m (List InputSpec))

/-- The schema of a node, asked for only when it has widget values. -/
def specsOf (n : Node) : m (List InputSpec) :=
  if n.values.isEmpty then pure [] else lookup n.typeName

def compileNode (o : CompilerOptions) (n : Node) : m (Except CompileError PromptNode) :=
  if refuses o n then pure (.error (.unknownType n.id))
  else do return .ok (entry o (← specsOf lookup n) n)

/-- Compiles nodes in order onto a prompt, up to the first that is refused. -/
def compileNodes (o : CompilerOptions) : List Node → Prompt → m (Except CompileError Prompt)
  | [], p => pure (.ok p)
  | n :: rest, p => do
    match ← compileNode lookup o n with
    | .ok e => compileNodes o rest (p.insert n.id e)
    | .error e => return .error e

def compile (o : CompilerOptions) (g : Graph) : m (Except CompileError Prompt) :=
  compileNodes lookup o g.nodes .empty

/-- What the widget values of a node fill, by its schema. -/
def align (n : Node) : m (OrderedMap Json) := do return aligned (← specsOf lookup n) n

/-- The current value of every parameter that the node knows by name. -/
def resolvedParameters (n : Node) : m (OrderedMap Json) := do
  return parameters (← specsOf lookup n) n

end Lookup

end Compiler

end PromptGraph
