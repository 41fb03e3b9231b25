import PromptGraph.Numeric.Word
import PromptGraph.Text.Blank

/-!
# Decimal digits

`readNat?` reads a run of ASCII digits, `readSlot?` a slot number: blanks around it are dropped, a
plus sign may precede it, and it has to fit 32 bits.
-/

namespace PromptGraph.Text

/-- The character is one of the ten ASCII digits. -/
def isDigit (c : Char) : Bool := '0' ≤ c && c ≤ '9'

def digitsValue (cs : List Char) : Nat := cs.foldl (fun n c => 10 * n + (c.toNat - 48)) 0

def readNat? (cs : List Char) : Option Nat :=
  if cs ≠ [] ∧ cs.all isDigit then some (digitsValue cs) else none

/-- The largest 32-bit number is one less. -/
def slotLimit : Nat := Word.span32

def readSlot? (s : String) : Option Nat :=
  let cs := trimWhere isBlank s.toList
  let digits := match cs with
    | '+' :: rest => rest
    | _ => cs
  (readNat? digits).filter (· < slotLimit)

end PromptGraph.Text
