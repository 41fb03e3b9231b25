import PromptGraph.Text.Blank

/-!
# File name prefixes

A prefix is clean when it is not empty, holds no separator or reserved character, and neither
starts nor ends with white space or a point. `sanitize` drops what is forbidden, trims white space,
points and white space again, and falls back to a default.
-/

namespace PromptGraph.FilenamePrefix

/-- Path separators and reserved characters. -/
def forbidden : List Char := ['\\', '/', ':', '*', '?', '"', '<', '>', '|']

def cleaned (cs : List Char) : List Char :=
  let kept := cs.filter fun c => !forbidden.contains c
  Text.trimWhere Text.isBlank (Text.trimWhere (· == '.') (Text.trimWhere Text.isBlank kept))

/-- The prefix made clean, or the default when nothing is left of it. -/
def sanitize (text fallback : String) : String :=
  match cleaned text.toList with
  | [] => fallback
  | cs => String.ofList cs

end PromptGraph.FilenamePrefix
