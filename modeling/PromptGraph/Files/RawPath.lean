import PromptGraph.Files.Tree
import PromptGraph.Text.Bytes

/-!
# Paths as bytes

The system takes almost any bytes for a path, whether or not they write a text. What is shown of a
path has a replacement character for each stretch of bytes that writes none, so that different paths
can show alike.
-/

namespace PromptGraph

structure RawPath where
  bytes : List UInt8
  deriving DecidableEq

namespace RawPath

def ofText (s : String) : RawPath := ⟨s.toList.flatMap String.utf8EncodeChar⟩

instance : Coe String RawPath := ⟨ofText⟩

/-- What is shown of a path. -/
def display (p : RawPath) : String :=
  String.ofList ((Text.readChars none p.bytes).map fun c => c.getD '\uFFFD')

def text? (p : RawPath) : Option String :=
  ((Text.readChars none p.bytes).mapM id).map String.ofList

end RawPath

/-- Reads a whole text. Trees hold files under names that are texts, so there is none at a path
that is no text. -/
def FileTree.readRaw (t : FileTree) (p : RawPath) : Except FileError String :=
  match p.text? with
  | some path => t.readText path
  | none => .error .notFound

end PromptGraph
