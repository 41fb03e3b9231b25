import PromptGraph.Numeric.Word
import PromptGraph.Settings.Basic
import PromptGraph.Toml.Reader

/-!
# Reading settings

Settings are a record of records. A record is written as a table, whose unknown keys are passed
over, or as an array of its fields in order, in which later fields may be missing and further items
are passed over. A date or time stands for a record of which nothing is written. What is not written
keeps its default.
-/

namespace PromptGraph

namespace Settings

/-! ## Values -/

def text? : Toml → Option String
  | .text s => some s
  | _ => none

def bool? : Toml → Option Bool
  | .bool b => some b
  | _ => none

def nat? : Toml → Option Nat
  | .int i => if 0 ≤ i ∧ i < Word.span64 then some i.toNat else none
  | _ => none

def texts? : Toml → Option (List String)
  | .array items => items.mapM text?
  | _ => none

/-- The kind of a source: its name, alone or as the one key of a table with nothing in its value. -/
def sourceKind? : Toml → Option SourceKind
  | .text name => SourceKind.variants.lookup name
  | .table [(name, .array [])] => SourceKind.variants.lookup name
  | .table [(name, .table [])] => SourceKind.variants.lookup name
  | _ => none

/-! ## Records -/

/-- A field of a record: its key, and how its value is taken. -/
abbrev Field (α : Type) := String × (α → Toml → Option α)

def takeEntry {α : Type} (fields : List (Field α)) (a : α) (e : String × Toml) : Option α :=
  match fields.lookup e.1 with
  | some take => take a e.2
  | none => if e.2.isTakable then some a else none

/-- Takes a record onto its defaults. -/
def record? {α : Type} (fields : List (Field α)) (defaults : α) : Toml → Option α
  | .table entries => entries.foldlM (takeEntry fields) defaults
  | .array items => (fields.zip items).foldlM (fun a f => f.1.2 a f.2) defaults
  | .moment => some defaults
  | _ => none

def schemaFields : List (Field SchemaSettings) := [
  ("source", fun s v => (sourceKind? v).map fun source => { s with source }),
  ("url", fun s v => (text? v).map fun url => { s with url }),
  ("file", fun s v => (text? v).map fun file => { s with file := some file }),
  ("timeout_ms", fun s v => (nat? v).map fun timeoutMs => { s with timeoutMs }),
  ("cache_capacity", fun s v => (nat? v).map fun cacheCapacity => { s with cacheCapacity }),
  ("failure_ttl_ms", fun s v => (nat? v).map fun failureTtlMs => { s with failureTtlMs })]

def compilerFields : List (Field CompilerOptions) := [
  ("save_type", fun o v => (text? v).map fun saveType => { o with saveType }),
  ("filename_prefix_input", fun o v => (text? v).map fun prefixInput => { o with prefixInput }),
  ("default_filename_prefix", fun o v =>
    (text? v).map fun defaultPrefix => { o with defaultPrefix }),
  ("sanitize_filename_prefix", fun o v =>
    (bool? v).map fun sanitizePrefix => { o with sanitizePrefix }),
  ("strict", fun o v => (bool? v).map fun strict => { o with strict })]

def loaderFields : List (Field Loading.Options) := [
  ("ui_only_types", fun o v => (texts? v).map fun editorOnly => { o with editorOnly })]

def fields : List (Field Settings) := [
  ("schema", fun s v => (record? schemaFields {} v).map fun schema => { s with schema }),
  ("compiler", fun s v => (record? compilerFields {} v).map fun compiler => { s with compiler }),
  ("loader", fun s v => (record? loaderFields {} v).map fun loader => { s with loader })]

/-! ## Texts and files -/

def parse (text : String) : Except Failure Settings :=
  match (Toml.parse? text).bind fun entries => record? fields {} (.table entries) with
  | some s => .ok s
  | none => .error .badSettings

def read (files : FileTree) (path : String) : Except Failure Settings :=
  match files.readText path with
  | .ok text => parse text
  | .error e => .error (.settingsUnreadable path e)

end Settings

end PromptGraph
