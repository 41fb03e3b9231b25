import PromptGraph.Files.Path
import PromptGraph.OrderedMap

/-!
# File trees

`FileTree` maps the components of a path, joined by slashes, to what is found there: a text, bytes
that are no text, or a folder. A path is followed component by component; each step has to start
in a folder.
-/

namespace PromptGraph

/-- Why a path could not be read or written. -/
inductive FileError where
  | notFound
  | taken
  | notAFolder
  | isAFolder
  | nameTooLong
  | notText
  | nulInName
  deriving DecidableEq

/-- The system's words for a failure. -/
def FileError.message : FileError → String
  | notFound => "No such file or directory (os error 2)"
  | taken => "File exists (os error 17)"
  | notAFolder => "Not a directory (os error 20)"
  | isAFolder => "Is a directory (os error 21)"
  | nameTooLong => "File name too long (os error 36)"
  | notText => "stream did not contain valid UTF-8"
  | nulInName => "file name contained an unexpected NUL byte"

/-- What is found at a path. -/
inductive FileNode where
  | text (content : String)
  | bytes
  | folder
  deriving DecidableEq

/-- What a path leads to, by its components joined with slashes. -/
structure FileTree where
  nodes : OrderedMap FileNode

namespace FileTree

/-- The tree that holds nothing but the folder `root`. -/
def ofRoot (root : String) : FileTree := ⟨OrderedMap.empty.insert root .folder⟩

def place (components : List String) : String := String.intercalate "/" components

/-- What stands at a place. The root and the working folder, where paths start, are folders. -/
def at? (t : FileTree) (components : List String) : Option FileNode :=
  if (place components).isEmpty then some .folder else t.nodes.get? (place components)

def put (t : FileTree) (components : List String) (node : FileNode) : FileTree :=
  ⟨t.nodes.insert (place components) node⟩

/-- Longest name of a file, in bytes. -/
def nameLimit : Nat := 255

/-- Longest path, in bytes. -/
def pathLimit : Nat := 4095

def enter (t : FileTree) (here : List String) : Except FileError Unit :=
  match t.at? here with
  | some .folder => .ok ()
  | some _ => .error .notAFolder
  | none => .error .notFound

/-- The place above another; there is none above the places where paths start. -/
def above (here : List String) : List String := if here = [""] then here else here.dropLast

def follow (t : FileTree) (here : List String) : List String → Except FileError (List String)
  | [] => .ok here
  | c :: rest => do
    t.enter here
    if c = "" ∨ c = "." then t.follow here rest
    else if c = ".." then t.follow (above here) rest
    else if nameLimit < c.utf8ByteSize then .error .nameTooLong
    else t.follow (here ++ [c]) rest

/-- Where a path starts: at the root, whose one component is empty, or in the working folder. -/
def start (path : String) : List String := if Path.isAbsolute path then [""] else []

/-- The place that the pieces of a path lead to. -/
def resolve (t : FileTree) (path : String) : Except FileError (List String) :=
  t.follow (start path) (Path.pieces path)

/-- What is wrong with the text of a path, whatever the tree holds. -/
def fault? (path : String) : Option FileError :=
  if path.toList.contains '\x00' then some .nulInName
  else if path.isEmpty then some .notFound
  else if pathLimit < path.utf8ByteSize then some .nameTooLong
  else none

def locate (t : FileTree) (path : String) : Except FileError (List String) :=
  match fault? path with
  | some e => .error e
  | none => t.resolve path

/-- The path asks for a folder. -/
def asksForFolder (path : String) : Bool := path.toList.getLast? = some '/'

def lookup (t : FileTree) (path : String) : Except FileError FileNode := do
  let here ← t.locate path
  match t.at? here with
  | some .folder => .ok .folder
  | some node => if asksForFolder path then .error .notAFolder else .ok node
  | none => .error .notFound

def readText (t : FileTree) (path : String) : Except FileError String := do
  match ← t.lookup path with
  | .text s => .ok s
  | .bytes => .error .notText
  | .folder => .error .isAFolder

def isFolder (t : FileTree) (path : String) : Bool :=
  match t.lookup path with
  | .ok .folder => true
  | _ => false

/-- Puts a node that is not a folder at a path. -/
def write (t : FileTree) (path : String) (node : FileNode) : Except FileError FileTree := do
  let here ← t.locate path
  t.enter here.dropLast
  if asksForFolder path ∨ t.at? here = some .folder then .error .isAFolder
  else .ok (t.put here node)

def writeText (t : FileTree) (path content : String) : Except FileError FileTree :=
  t.write path (.text content)

def makeFolder (t : FileTree) (path : String) : Except FileError FileTree := do
  let here ← t.locate path
  t.enter here.dropLast
  match t.at? here with
  | some .folder => .ok t
  | some _ => .error .taken
  | none => .ok (t.put here .folder)

/-- Makes each folder on the way; what was made stays when a later one fails. -/
def makeFoldersFrom (front : String) : List String → FileTree → FileTree × Except FileError Unit
  | [], t => (t, .ok ())
  | c :: rest, t =>
    if c.isEmpty then makeFoldersFrom (front ++ "/") rest t
    else match t.makeFolder (front ++ c) with
      | .ok t => makeFoldersFrom (front ++ c ++ "/") rest t
      | .error e => (t, .error e)

/-- Makes a folder and all folders above it; the empty path asks for none. -/
def makeFolders (t : FileTree) (path : String) : FileTree × Except FileError Unit :=
  if path.isEmpty then (t, .ok ())
  else match fault? path with
    | some e => (t, .error e)
    | none => makeFoldersFrom "" (Path.pieces path) t

def remove (t : FileTree) (path : String) : FileTree :=
  match t.locate path with
  | .ok here => ⟨t.nodes.erase (place here)⟩
  | .error _ => t

def names (t : FileTree) (path : String) : List String :=
  match t.locate path with
  | .error _ => []
  | .ok here => t.nodes.keys.filterMap fun key =>
    let pieces := Path.pieces key
    if pieces.dropLast = here then pieces.getLast? else none

end FileTree

end PromptGraph
