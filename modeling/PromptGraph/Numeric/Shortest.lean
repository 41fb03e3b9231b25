import PromptGraph.Numeric.Binary

/-!
# Shortest decimals

`Binary.shortest` finds the decimal with the fewest digits that still rounds to the number, and of
those the one nearest to it. For one digit, two digits and so on it looks at the two neighbours of
the number on that decimal grid; the first grid with a hit wins.
-/

namespace PromptGraph

/-- The decimal `digits · 10 ^ exponent`. -/
structure Decimal where
  digits : Nat
  exponent : Int
  deriving DecidableEq, Repr

/-- The least `j`, counted from `start`, with `den ≤ num · 10 ^ j`. -/
def leadingZeros (den : Nat) : Nat → Nat → Nat → Nat
  | 0, _, j => j
  | fuel + 1, num, j => if den ≤ num then j else leadingZeros den fuel (10 * num) (j + 1)

/-- The exponent of the largest power of ten that is at most `num / den`. -/
def floorLog10 (num den : Nat) : Int :=
  if den ≤ num then ((Nat.toDigits 10 (num / den)).length : Int) - 1
  else -(leadingZeros den den num 0 : Int)

namespace Decimal

def ratio (d : Decimal) : Nat × Nat :=
  if 0 ≤ d.exponent then (d.digits * Nat.pow 10 d.exponent.toNat, 1)
  else (d.digits, Nat.pow 10 (-d.exponent).toNat)

/-- Moves factors of ten from the digits to the exponent. -/
def strip : Nat → Decimal → Decimal
  | 0, d => d
  | fuel + 1, d =>
    if d.digits ≠ 0 ∧ d.digits % 10 = 0 then strip fuel ⟨d.digits / 10, d.exponent + 1⟩ else d

end Decimal

def ratioLt (a b : Nat × Nat) : Bool := a.1 * b.2 < b.1 * a.2

namespace Binary

/-- Four times the mantissa of the ends of the interval that rounds to the number. -/
def interval (f : FloatFormat) (b : Binary) : Nat × Nat :=
  let below := if b.mantissa = f.leastFull ∧ f.minExponent < b.exponent then 1 else 2
  (4 * b.mantissa - below, 4 * b.mantissa + 2)

/-- `m · 2 ^ (exponent - 2)` as a quotient. -/
def quarters (b : Binary) (m : Nat) : Nat × Nat := ratio ⟨false, m, b.exponent - 2⟩

/-- The decimal rounds to the number. -/
def covers (f : FloatFormat) (b : Binary) (d : Decimal) : Bool :=
  let ends := interval f b
  let lo := quarters b ends.1
  let hi := quarters b ends.2
  if b.mantissa % 2 = 0 then !ratioLt d.ratio lo && !ratioLt hi d.ratio
  else ratioLt lo d.ratio && ratioLt d.ratio hi

/-- The neighbours of the number on the grid of step `10 ^ k`, the nearer one first. -/
def neighbours (b : Binary) (k : Int) : List Decimal :=
  let v := b.ratio
  let s : Nat × Nat :=
    if 0 ≤ k then (v.1, v.2 * Nat.pow 10 k.toNat) else (v.1 * Nat.pow 10 (-k).toNat, v.2)
  let d := s.1 / s.2
  let r := s.1 % s.2
  let down : Decimal := ⟨d, k⟩
  let up : Decimal := ⟨d + 1, k⟩
  if 2 * r < s.2 ∨ (2 * r = s.2 ∧ d % 2 = 0) then [down, up] else [up, down]

/-- Searches grids from step `10 ^ k` downwards. -/
def searchGrids (f : FloatFormat) (b : Binary) : Nat → Int → Decimal
  | 0, k => ((neighbours b k).head?).getD ⟨0, 0⟩
  | fuel + 1, k =>
    match (neighbours b k).find? (covers f b) with
    | some d => d
    | none => searchGrids f b fuel (k - 1)

/-- The decimal with the fewest digits that reads back as the absolute value. -/
def shortest (f : FloatFormat) (b : Binary) : Decimal :=
  if b.mantissa = 0 then ⟨0, 0⟩
  else (searchGrids f b 16 (floorLog10 b.ratio.1 b.ratio.2)).strip 20

end Binary

end PromptGraph
