import PromptGraph.Text.CodePoints

/-!
# White space

`isBlank` is the Unicode property `White_Space`; `trim` removes blanks from both ends.
-/

namespace PromptGraph.Text

/-- The code points of white space. -/
def blanks : CodePoints := [
  (9, 13), (32, 32), (133, 133), (160, 160), (5760, 5760), (8192, 8202), (8232, 8233),
  (8239, 8239), (8287, 8287), (12288, 12288)]

def isBlank (c : Char) : Bool := blanks.has c

/-- Drops the characters that satisfy `p` from both ends. -/
def trimWhere (p : Char → Bool) (cs : List Char) : List Char :=
  ((cs.dropWhile p).reverse.dropWhile p).reverse

def trim (s : String) : String := String.ofList (trimWhere isBlank s.toList)

end PromptGraph.Text
