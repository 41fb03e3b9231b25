import PromptGraph.Compile.Basic
import PromptGraph.Loading.Editor
import PromptGraph.Schema.Cache

/-!
# Settings

Where schemas come from, how prompts are compiled and what loading leaves out. Every setting has a
default.
-/

namespace PromptGraph

/-- The kinds of sources that settings can name. -/
inductive SourceKind where
  | live
  | file
  deriving DecidableEq

namespace SourceKind

def variants : List (String × SourceKind) := [("live", .live), ("file", .file)]

def name : SourceKind → String
  | live => "live"
  | file => "file"

end SourceKind

structure SchemaSettings where
  source : SourceKind := .live
  /-- The address of the service. -/
  url : String := "http://127.0.0.1:8188"
  /-- The file that holds a catalog. -/
  file : Option String := none
  timeoutMs : Nat := Source.defaultTimeoutMs
  /-- Entries that a cache has room for. -/
  cacheCapacity : Nat := 1024
  failureTtlMs : Nat := SchemaCache.defaultFailureTtlMs
  deriving DecidableEq

namespace SchemaSettings

def toSource (s : SchemaSettings) : Except Failure Source :=
  match s.source, s.file with
  | .live, _ => .ok (.ofAddress s.url s.timeoutMs)
  | .file, some path => .ok (.file path)
  | .file, none => .error .schemaFileUnnamed

/-- An empty cache as the settings describe it. -/
def toCache (s : SchemaSettings) : SchemaCache := .withFailureTtl s.failureTtlMs

/-- A session that begins with the cache that the settings describe. -/
def toSession (s : SchemaSettings) (outside : Surroundings) : Session where
  outside
  cache := s.toCache
  hasRoom := s.cacheCapacity ≠ 0

end SchemaSettings

structure Settings where
  schema : SchemaSettings := {}
  compiler : CompilerOptions := {}
  loader : Loading.Options := {}
  deriving DecidableEq

end PromptGraph
