import PromptGraph.Json.Basic
import PromptGraph.Numeric.Notation
import PromptGraph.Text.Quoted

/-!
# Printed JSON

`compact` prints without blanks, `pretty` with two spaces of indentation per level. Non-ASCII
characters stand as they are; controls are escaped.
-/

namespace PromptGraph.Json

/-- Numbers are written with a point from 0.00001 up to below ten to the sixteenth. -/
def pointWindow : PointWindow := ⟨-5, 16⟩

def numberText : Number → String
  | .int i => toString i
  | .float x => x.write binary64 pointWindow

def escapeChar (c : Char) : String :=
  if c = '"' then "\\\""
  else if c = '\\' then "\\\\"
  else if c = '\n' then "\\n"
  else if c = '\r' then "\\r"
  else if c = '\t' then "\\t"
  else if c = '\x08' then "\\b"
  else if c = '\x0c' then "\\f"
  else if c.toNat < 32 then
    "\\u00" ++ (if c.toNat < 16 then "0" else "") ++ Text.hexText c.toNat
  else c.toString

def stringText (s : String) : String := "\"" ++ String.join (s.toList.map escapeChar) ++ "\""

mutual

def compact : Json → String
  | .null => "null"
  | .bool b => if b then "true" else "false"
  | .number n => numberText n
  | .text s => stringText s
  | .array xs => "[" ++ String.intercalate "," (compactItems xs) ++ "]"
  | .object fs => "\x7b" ++ String.intercalate "," (compactFields fs) ++ "\x7d"

def compactItems : List Json → List String
  | [] => []
  | x :: xs => compact x :: compactItems xs

def compactFields : List (String × Json) → List String
  | [] => []
  | (k, x) :: fs => (stringText k ++ ":" ++ compact x) :: compactFields fs

end

/-- A line break followed by `level` steps of indentation. -/
def newline (level : Nat) : String := "\n" ++ String.ofList (List.replicate (2 * level) ' ')

mutual

/-- The value over several lines; `level` is the indentation of its closing bracket. -/
def prettyAt (level : Nat) : Json → String
  | .array (x :: xs) =>
    "[" ++ newline (level + 1) ++
      String.intercalate ("," ++ newline (level + 1)) (prettyItems (level + 1) (x :: xs)) ++
      newline level ++ "]"
  | .object (p :: fs) =>
    "\x7b" ++ newline (level + 1) ++
      String.intercalate ("," ++ newline (level + 1)) (prettyFields (level + 1) (p :: fs)) ++
      newline level ++ "\x7d"
  | j => compact j

def prettyItems (level : Nat) : List Json → List String
  | [] => []
  | x :: xs => prettyAt level x :: prettyItems level xs

def prettyFields (level : Nat) : List (String × Json) → List String
  | [] => []
  | (k, x) :: fs => (stringText k ++ ": " ++ prettyAt level x) :: prettyFields level fs

end

def pretty (j : Json) : String := prettyAt 0 j

end PromptGraph.Json
