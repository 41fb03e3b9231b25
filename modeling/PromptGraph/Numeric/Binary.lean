/-!
# Binary floating-point numbers

A finite number is `± mantissa · 2 ^ exponent`. `FloatFormat.round` gives the nearest number of a
format to a quotient of natural numbers, a tie going to the even mantissa, and nothing when the
quotient lies beyond the largest number. All arithmetic is exact up to that one rounding.
-/

namespace PromptGraph

/-- Nearest natural number to `num / den`; a half goes to the even neighbour. -/
def roundHalfEven (num den : Nat) : Nat :=
  let q := num / den
  let r := num % den
  if 2 * r < den then q else if den < 2 * r then q + 1 else q + q % 2

/-- A binary format: mantissas below `2 ^ precision`, exponents between the two bounds. -/
structure FloatFormat where
  precision : Nat
  minExponent : Int
  maxExponent : Int

def binary64 : FloatFormat := ⟨53, -1074, 971⟩

def binary32 : FloatFormat := ⟨24, -149, 104⟩

/-- A finite number `± mantissa · 2 ^ exponent`. -/
structure Binary where
  negative : Bool
  mantissa : Nat
  exponent : Int
  deriving DecidableEq, Repr

/-- The quotient `num / den` divided by `2 ^ e`. -/
def scaleRatio (num den : Nat) (e : Int) : Nat × Nat :=
  if 0 ≤ e then (num, den * Nat.pow 2 e.toNat) else (num * Nat.pow 2 (-e).toNat, den)

/-- The exponent of the largest power of two that is at most `num / den`. -/
def floorLog2 (num den : Nat) : Int :=
  let l : Int := (num.log2 : Int) - den.log2
  let s := scaleRatio num den l
  if s.2 ≤ s.1 then l else l - 1

namespace FloatFormat

/-- The least mantissa that uses the whole precision. -/
def leastFull (f : FloatFormat) : Nat := Nat.pow 2 (f.precision - 1)

/-- The number of the format nearest to `± num / den`; none when it is too large. -/
def round (f : FloatFormat) (negative : Bool) (num den : Nat) : Option Binary :=
  if num = 0 then some ⟨negative, 0, f.minExponent⟩
  else
    let e := max f.minExponent (floorLog2 num den - (f.precision - 1 : Nat))
    let s := scaleRatio num den e
    let m := roundHalfEven s.1 s.2
    let b : Binary :=
      if m = 2 * f.leastFull then ⟨negative, f.leastFull, e + 1⟩ else ⟨negative, m, e⟩
    if f.maxExponent < b.exponent then none else some b

end FloatFormat

namespace Binary

def ratio (b : Binary) : Nat × Nat :=
  if 0 ≤ b.exponent then (b.mantissa * Nat.pow 2 b.exponent.toNat, 1)
  else (b.mantissa, Nat.pow 2 (-b.exponent).toNat)

def isZero (b : Binary) : Bool := b.mantissa == 0

def mul? (f : FloatFormat) (a b : Binary) : Option Binary :=
  f.round (a.negative != b.negative) (a.ratio.1 * b.ratio.1) (a.ratio.2 * b.ratio.2)

def div? (f : FloatFormat) (a b : Binary) : Option Binary :=
  f.round (a.negative != b.negative) (a.ratio.1 * b.ratio.2) (a.ratio.2 * b.ratio.1)

def convert? (f : FloatFormat) (b : Binary) : Option Binary :=
  f.round b.negative b.ratio.1 b.ratio.2

def ofInt? (f : FloatFormat) (i : Int) : Option Binary := f.round (i < 0) i.natAbs 1

end Binary

end PromptGraph
