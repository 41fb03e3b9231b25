import PromptGraph.Text.Printable

/-!
# Quoted text

A text in double quotes as it appears in messages: quotes, backslashes and the usual controls are
escaped by a backslash, other characters that are not printable by their code point.
-/

namespace PromptGraph.Text

/-- The digits of `n` in base 16, in lower case. -/
def hexText (n : Nat) : String := String.ofList (Nat.toDigits 16 n)

def quoteChar (c : Char) : String :=
  if c = '"' then "\\\""
  else if c = '\\' then "\\\\"
  else if c = '\n' then "\\n"
  else if c = '\t' then "\\t"
  else if c = '\r' then "\\r"
  else if c.toNat = 0 then "\\0"
  else if isPrintable c then c.toString
  else "\\u\x7b" ++ hexText c.toNat ++ "\x7d"

def quoted (s : String) : String := "\"" ++ String.join (s.toList.map quoteChar) ++ "\""

end PromptGraph.Text
