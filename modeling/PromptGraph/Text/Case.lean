import PromptGraph.Text.CaseTable

/-!
# Letter case

`toLower` and `toUpper` apply the full Unicode mappings to a whole text: one character may become
several, and a capital sigma becomes the final form at the end of a word. `lowerChar` maps a single
character without looking at its neighbours.
-/

namespace PromptGraph.Text

/-- The image of `n` under the first run that reaches it. -/
def CaseRun.image? : List CaseRun → Nat → Option Nat
  | [], _ => none
  | r :: rest, n =>
    if n ≤ r.last then
      if r.first ≤ n ∧ (n - r.first) % r.stride = 0 then some (n + r.delta).toNat else none
    else image? rest n

def lowerChar (c : Char) : List Char :=
  if c.toNat = 0x130 then ['i', '\u0307']
  else match CaseRun.image? lowerRuns c.toNat with
    | some n => [Char.ofNat n]
    | none => [c]

def upperChar (c : Char) : List Char :=
  match upperExpansions.find? fun e => e.1 = c.toNat with
  | some (_, ns) => ns.map Char.ofNat
  | none => match CaseRun.image? upperRuns c.toNat with
    | some n => [Char.ofNat n]
    | none => [c]

/-- Past the characters that case ignores comes a cased one. -/
def startsCased (cs : List Char) : Bool :=
  match cs.dropWhile caseIgnorablePoints.has with
  | [] => false
  | c :: _ => casedPoints.has c

/-- A capital sigma between `before`, nearest first, and `after` ends a word. -/
def endsWord (before after : List Char) : Bool := startsCased before && !startsCased after

/-- The lower case of the rest of a text; `before` is what precedes it, nearest first. -/
def lowerRest (before : List Char) : List Char → List Char
  | [] => []
  | c :: rest =>
    (if c = 'Σ' then [if endsWord before rest then 'ς' else 'σ'] else lowerChar c)
      ++ lowerRest (c :: before) rest

def toLower (s : String) : String := String.ofList (lowerRest [] s.toList)

def toUpper (s : String) : String := String.ofList (s.toList.flatMap upperChar)

end PromptGraph.Text
