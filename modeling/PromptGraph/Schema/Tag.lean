import PromptGraph.Text.Blank
import PromptGraph.Text.Case

/-!
# Type tags

The declared type of an input. The five scalar tags can be filled from a widget value; any other
tag, kept in upper case, names what flows through a connection.
-/

namespace PromptGraph

inductive TypeTag where
  | int
  | float
  | text
  | bool
  | combo
  | other (name : String)
  deriving DecidableEq

namespace TypeTag

/-- The tag that an upper-case word names. -/
def ofWord (w : String) : TypeTag :=
  if w = "INT" then int
  else if w = "FLOAT" then float
  else if w = "STRING" then text
  else if w = "BOOL" ∨ w = "BOOLEAN" then bool
  else if w = "COMBO" then combo
  else other w

/-- Reads a tag as a schema writes it, ignoring case and blanks around it. -/
def parse (s : String) : TypeTag := ofWord (Text.toUpper (Text.trim s))

def word : TypeTag → String
  | int => "INT"
  | float => "FLOAT"
  | text => "STRING"
  | bool => "BOOL"
  | combo => "COMBO"
  | other name => name

def isPrimitive : TypeTag → Bool
  | other _ => false
  | _ => true

end TypeTag

end PromptGraph
