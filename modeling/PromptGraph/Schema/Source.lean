import PromptGraph.Failure
import PromptGraph.Files.RawPath
import PromptGraph.Json.Value
import PromptGraph.Schema.Catalog

/-!
# Schema sources

Schemas come from a running service, from a file, or from a document at hand. `Source.key` tells
sources apart; `Source.fetch` reads a whole catalog from the surroundings.
-/

namespace PromptGraph

/-- What a service answers to a request. -/
structure Reply where
  status : Nat
  body : String

/-- A service at an address that gives its replies in turn and then repeats the last one. Without
replies it cannot be reached. -/
structure Service where
  address : String := ""
  replies : List Reply := []
  /-- The paths that were asked for. -/
  seen : List String := []

namespace Service

def next? (s : Service) : Option Reply := (s.replies[s.seen.length]?).or s.replies.getLast?

/-- Asks for a path below `base`. -/
def get (s : Service) (base path : String) : Option Reply × Service :=
  if base = s.address then
    match s.next? with
    | some r => (some r, { s with seen := s.seen ++ [path] })
    | none => (none, s)
  else (none, s)

end Service

/-- What lies outside: files, a service, and the time in milliseconds. -/
structure Surroundings where
  files : FileTree
  service : Service := {}
  now : Nat := 0

inductive Source where
  | live (address : String) (timeoutMs : Nat)
  | file (path : RawPath)
  | inline (key : String) (document : Json)

namespace Source

/-- Longest wait for a service, in milliseconds, unless told otherwise. -/
def defaultTimeoutMs : Nat := 5000

/-- A text without the slashes at its end. -/
def dropSlashes (s : String) : String :=
  String.ofList (s.toList.reverse.dropWhile (· = '/')).reverse

/-- A service; slashes at the end of its address do not count. -/
def ofAddress (address : String) (timeoutMs : Nat := defaultTimeoutMs) : Source :=
  .live (dropSlashes address) timeoutMs

/-- The text that identifies the source. A file goes by what is shown of its path. -/
def key : Source → String
  | live address _ => address
  | file path => "file:" ++ path.display
  | inline key _ => "inline:" ++ key

/-- The path that a service lists its node types under. -/
def listing : String := "/object_info"

/-- The catalog that a service sends. -/
def ofReply : Option Reply → Except Failure Catalog
  | none => .error .unreachable
  | some r =>
    if 400 ≤ r.status then .error .unreachable
    else match Json.parse? r.body with
      | some j => .ok (.ofJson j)
      | none => .error .unreachable

def fetch (s : Source) (w : Surroundings) : Except Failure Catalog × Surroundings :=
  match s with
  | live address _ =>
    let (reply, service) := w.service.get address listing
    (ofReply reply, { w with service })
  | file path =>
    (match w.files.readRaw path with
      | .error e => .error (.schemaUnreadable path.display e)
      | .ok text => match Json.parse? text with
        | some j => .ok (.ofJson j)
        | none => .error .badJson, w)
  | inline _ document => (.ok (.ofJson document), w)

end Source

end PromptGraph
