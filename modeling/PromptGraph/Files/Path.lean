/-!
# Paths

A path is a text with components separated by slashes. `join` appends a relative path and is
replaced by an absolute one; `parent?` drops the last component; `stem?` is the name of a file
without its last extension.
-/

namespace PromptGraph.Path

def isAbsolute (path : String) : Bool := path.toList.head? = some '/'

/-- The path of `name` below `root`. -/
def join (root name : String) : String :=
  if isAbsolute name then name
  else if root.isEmpty then name
  else if root.toList.getLast? = some '/' then root ++ name
  else root ++ "/" ++ name

def pieces (path : String) : List String := (path.toList.splitOn '/').map String.ofList

/-- The path without its last component; none when nothing is left of it. -/
def parent? (path : String) : Option String :=
  let named := (pieces path).reverse.dropWhile fun p => p = "" ∨ p = "."
  let front := ((named.drop 1).dropWhile fun p => p = "" ∨ p = ".").reverse
  let text := String.intercalate "/" front
  if text.isEmpty then none else some text

/-- Splits a name at its last point, unless the point comes first. -/
def splitExtension (name : String) : String × Option String :=
  let back := name.toList.reverse
  let extension := back.takeWhile (· ≠ '.')
  match back.dropWhile (· ≠ '.') with
  | [] => (name, none)
  | _ :: front =>
    if front.isEmpty then (name, none)
    else (String.ofList front.reverse, some (String.ofList extension.reverse))

/-- The name of a file without the extension, when that is `extension`. -/
def stem? (extension name : String) : Option String :=
  match splitExtension name with
  | (stem, some e) => if e = extension then some stem else none
  | (_, none) => none

end PromptGraph.Path
