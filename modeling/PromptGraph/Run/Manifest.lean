import PromptGraph.Failure
import PromptGraph.Json.Value
import PromptGraph.Run.Protocol

/-!
# Manifests

A folder with one file per run, named by the run's handle: an object with the handle, a time stamp
and the artifacts, which may overwrite both.
-/

namespace PromptGraph

structure ManifestFolder where
  root : String

namespace ManifestFolder

def fileOf (f : ManifestFolder) (handle : String) : String := Path.join f.root (handle ++ ".json")

/-- The handle cannot name a file of the folder. -/
def isBadHandle (handle : String) : Bool :=
  handle.isEmpty || handle.toList.any fun c => c = '/' || c = '\\'

def manifest (handle timestamp : String) (artifacts : Artifacts) : OrderedMap Json :=
  (OrderedMap.ofList [("handle_id", .text handle), ("timestamp", .text timestamp)]).insertAll
    artifacts.entries

/-- Stores the manifest of a run and gives its path. -/
def store (f : ManifestFolder) (timestamp : String) (t : FileTree) (handle : String)
    (artifacts : Artifacts) : Except Failure String × FileTree :=
  if isBadHandle handle then (.error (.badHandle handle), t)
  else match t.makeFolders f.root with
    | (t, .error e) => (.error (.notStored e), t)
    | (t, .ok ()) =>
      let file := f.fileOf handle
      match t.writeText file (Json.object (manifest handle timestamp artifacts).entries).pretty with
      | .ok t => (.ok file, t)
      | .error e => (.error (.notStored e), t)

def read (f : ManifestFolder) (t : FileTree) (handle : String) :
    Except Failure (List (String × Json)) :=
  let file := f.fileOf handle
  match t.readText file with
  | .error e => .error (.manifestUnreadable file e)
  | .ok text => match Json.parse? text with
    | some (.object fs) => .ok fs
    | some _ => .error (.manifestNotObject file)
    | none => .error .badJson

end ManifestFolder

end PromptGraph
