import PromptGraph.Json.Value
import PromptGraph.Toml.Basic
import PromptGraph.Toml.Text

/-!
# Booleans, numbers, dates and times

What stands for itself without quotes. Single underscores may separate digits; a decimal number has
no zero in front; hexadecimal, octal and binary numbers have no sign. A date, which has to be in the
calendar, and a time are parted by a letter or one space; seconds may be missing.
-/

namespace PromptGraph.Toml

open Text (isDigit)

/-! ## Numbers -/

/-- Digits without the underscores between them. -/
def joinDigits? (digit : Char → Bool) : List Char → Option (List Char)
  | [] => none
  | [c] => if digit c then some [c] else none
  | c :: '_' :: rest => if digit c then (joinDigits? digit rest).map (c :: ·) else none
  | c :: rest => if digit c then (joinDigits? digit rest).map (c :: ·) else none

/-- A sign, if there is one, and what follows it. -/
def splitSign : List Char → Bool × List Char
  | '-' :: rest => (true, rest)
  | '+' :: rest => (false, rest)
  | cs => (false, cs)

def decimal? (cs : List Char) : Option (List Char) := do
  let ds ← joinDigits? isDigit cs
  if ds.length ≠ 1 ∧ ds.head? = some '0' then none else some ds

/-- The number that digits to a base write. -/
def inBase? (base : Nat) (cs : List Char) : Option Nat := do
  let value := fun c => (Text.CodePoints.hexValue? c).filter (· < base)
  let ds ← joinDigits? (fun c => (value c).isSome) cs
  ds.foldlM (fun n c => (value c).map (base * n + ·)) 0

def int? : List Char → Option Int
  | '0' :: 'x' :: rest => (inBase? 16 rest).map Int.ofNat
  | '0' :: 'o' :: rest => (inBase? 8 rest).map Int.ofNat
  | '0' :: 'b' :: rest => (inBase? 2 rest).map Int.ofNat
  | cs => do
    let (negative, cs) := splitSign cs
    let n := Text.digitsValue (← decimal? cs)
    return if negative then -Int.ofNat n else Int.ofNat n

def splitAtChar (p : Char → Bool) (cs : List Char) : List Char × Option (List Char) :=
  (cs.takeWhile (!p ·), (cs.dropWhile (!p ·)).tail?)

def floatParts? (negative : Bool) (cs : List Char) : Option Json.NumberText := do
  let (mantissa, exponent) := splitAtChar (fun c => c = 'e' || c = 'E') cs
  let (whole, fraction) := splitAtChar (· = '.') mantissa
  if fraction.isNone ∧ exponent.isNone then none
  let exponent ← exponent.mapM fun e => do
    let (negative, ds) := splitSign e
    return (negative, ← joinDigits? isDigit ds)
  let fraction ← fraction.mapM (joinDigits? isDigit)
  return { negative, whole := ← decimal? whole, fraction := fraction.getD [], exponent }

/-- Whether a floating-point number fits; none when it is no such number. -/
def float? (cs : List Char) : Option Bool :=
  let (negative, cs) := splitSign cs
  if cs = "inf".toList ∨ cs = "nan".toList then some true
  else (floatParts? negative cs).map fun n => n.value?.isSome

/-! ## Dates and times -/

/-- A number of so many digits, and what follows it. -/
def takeNumber? (digits : Nat) (cs : List Char) : Option (Nat × List Char) := do
  let ds := cs.take digits
  if ds.length = digits then return (← Text.readNat? ds, cs.drop digits) else none

def after? (p : Char → Bool) : List Char → Option (List Char)
  | c :: rest => if p c then some rest else none
  | [] => none

def isLeapYear (y : Nat) : Bool := y % 4 = 0 && (y % 100 ≠ 0 || y % 400 = 0)

def daysIn (y month : Nat) : Nat :=
  if month = 2 then (if isLeapYear y then 29 else 28)
  else if month = 4 ∨ month = 6 ∨ month = 9 ∨ month = 11 then 30
  else 31

def afterDate? (cs : List Char) : Option (List Char) := do
  let (y, rest) ← takeNumber? 4 cs
  let (month, rest) ← takeNumber? 2 (← after? (· = '-') rest)
  let (day, rest) ← takeNumber? 2 (← after? (· = '-') rest)
  if 1 ≤ month ∧ month ≤ 12 ∧ 1 ≤ day ∧ day ≤ daysIn y month then some rest else none

def afterClock? (cs : List Char) : Option (List Char) := do
  let (hour, rest) ← takeNumber? 2 cs
  let (minute, rest) ← takeNumber? 2 (← after? (· = ':') rest)
  if hour < 24 ∧ minute < 60 then some rest else none

/-- What follows seconds with a fraction; a second may be a leap second. -/
def afterSeconds? (cs : List Char) : Option (List Char) := do
  let (second, rest) ← takeNumber? 2 cs
  if 60 < second then none
  match rest with
  | '.' :: rest =>
    if (rest.takeWhile isDigit).isEmpty then none else some (rest.dropWhile isDigit)
  | rest => some rest

def afterTime? (cs : List Char) : Option (List Char) := do
  match ← afterClock? cs with
  | ':' :: rest => afterSeconds? rest
  | rest => some rest

/-- The distance to universal time, or nothing at all. -/
def isOffset : List Char → Bool
  | [] => true
  | ['Z'] => true
  | ['z'] => true
  | '+' :: rest => afterClock? rest = some []
  | '-' :: rest => afterClock? rest = some []
  | _ => false

/-- A date, a time, or both. -/
def isMoment (cs : List Char) : Bool :=
  match afterDate? cs with
  | some [] => true
  | some (c :: rest) =>
    (c = 'T' || c = 't' || c = ' ') && (afterTime? rest).any isOffset
  | none => afterTime? cs = some []

/-! ## Words -/

def scalar? (word : List Char) : Option Toml :=
  if word = "true".toList then some (.bool true)
  else if word = "false".toList then some (.bool false)
  else ((int? word).map Toml.int).or <| ((float? word).map Toml.float).or <|
    if isMoment word then some .moment else none

def isWordChar (c : Char) : Bool :=
  c.isAlphanum || c = '_' || c = '-' || c = '+' || c = '.' || c = ':'

/-- Takes a word, with the time that follows a date after one space. -/
def takeWord (cs : List Char) : List Char × List Char :=
  let word := cs.takeWhile isWordChar
  let rest := cs.dropWhile isWordChar
  match afterDate? word, rest with
  | some [], ' ' :: c :: more =>
    if isDigit c then
      (word ++ ' ' :: (c :: more).takeWhile isWordChar, (c :: more).dropWhile isWordChar)
    else (word, rest)
  | _, _ => (word, rest)

def readScalar (cs : List Char) : Option (Toml × List Char) :=
  let (word, rest) := takeWord cs
  (scalar? word).map (·, rest)

end PromptGraph.Toml
