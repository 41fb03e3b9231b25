import PromptGraph.Json.Written
import PromptGraph.Numeric.Word

/-!
# The value of a written document

`Written.value?` takes the whole value: repeated keys collapse (the last value at the first
position), a number has to be in range, a string must not hold half a surrogate pair, and arrays
and objects nest at most `nestingLimit` deep. `Written.shaped?` takes only what a `Shape` reads:
fields that a record does not know are dropped without a look.

A number without point and exponent is an integer when it fits 64 bits, signed or unsigned, except
`-0`. Any other number is taken from at most 64 bits of leading digits, by one rounded product
with, or quotient by, a power of ten.
-/

namespace PromptGraph.Json

/-- Arrays and objects nest at most so deep. -/
def nestingLimit : Nat := 127

/-- Significant digits are read while the number they write stays below this. -/
def significandLimit : Nat := Word.span64

/-- Largest decimal exponent handled in one step. -/
def decimalReach : Nat := 308

/-- Largest exponent that may be written out. -/
def exponentLimit : Nat := Word.span31

namespace NumberText

/-- Takes digits onto `sig` while it stays in range; returns the digits left over. -/
def takeDigits (sig : Nat) : List Char → Nat × List Char
  | [] => (sig, [])
  | c :: rest =>
    let next := 10 * sig + (c.toNat - 48)
    if next < significandLimit then takeDigits next rest else (sig, c :: rest)

def powerOfTen? (n : Nat) : Option Binary := binary64.round false (Nat.pow 10 n) 1

/-- Scales `x` by `10 ^ e`; none when the result is too large. -/
def scaleByTen : Nat → Binary → Int → Option Binary
  | 0, x, _ => some x
  | fuel + 1, x, e =>
    if e.natAbs ≤ decimalReach then do
      let p ← powerOfTen? e.natAbs
      if 0 ≤ e then x.mul? binary64 p else x.div? binary64 p
    else if x.isZero then some x
    else if 0 ≤ e then none
    else do
      let p ← powerOfTen? decimalReach
      scaleByTen fuel (← x.div? binary64 p) (e + decimalReach)

def float? (negative : Bool) (sig : Nat) (e : Int) : Option Number := do
  let x ← binary64.round false sig 1
  let y ← scaleByTen 3 x e
  return .float { y with negative := negative }

def value? (n : NumberText) : Option Number :=
  let (sig, dropped) := takeDigits 0 n.whole
  if n.fraction.isEmpty ∧ n.exponent.isNone then
    if !dropped.isEmpty then float? n.negative sig dropped.length
    else if !n.negative then some (.int sig)
    else if sig = 0 ∨ Word.span63 < sig then float? true sig 0
    else some (.int (-sig))
  else
    let (sig, unread) := takeDigits sig n.fraction
    let start : Int := (dropped.length : Int) - ((n.fraction.length - unread.length : Nat) : Int)
    match n.exponent with
    | none => float? n.negative sig start
    | some (negative, ds) =>
      let e := ds.foldl (fun e c => 10 * e + (c.toNat - 48)) 0
      if exponentLimit ≤ e then
        if sig ≠ 0 ∧ !negative then none else float? n.negative 0 0
      else float? n.negative sig (if negative then start - (e : Int) else start + (e : Int))

end NumberText

namespace Written

def isHighHalf (n : Nat) : Bool := 0xD800 ≤ n && n < 0xDC00

def isLowHalf (n : Nat) : Bool := 0xDC00 ≤ n && n < 0xE000

/-- Joins surrogate pairs; none when a half stands alone. -/
def joinUnits : List Nat → Option (List Char)
  | [] => some []
  | a :: rest =>
    if isHighHalf a then
      match rest with
      | b :: more =>
        if isLowHalf b then
          (joinUnits more).map (Char.ofNat (0x10000 + 1024 * (a - 0xD800) + (b - 0xDC00)) :: ·)
        else none
      | [] => none
    else if isLowHalf a then none
    else (joinUnits rest).map (Char.ofNat a :: ·)

/-- The text of code units. -/
def unitsText? (us : List Nat) : Option String := (joinUnits us).map String.ofList

mutual

/-- The value of a document nested at most `depth` deep. -/
def value? (depth : Nat) : Written → Option Json
  | .null => some .null
  | .bool b => some (.bool b)
  | .number n => n.value?.map .number
  | .text us => (unitsText? us).map .text
  | .array xs => match depth with
    | 0 => none
    | depth + 1 => (itemValues? depth xs).map .array
  | .object fs => match depth with
    | 0 => none
    | depth + 1 => (fieldValues? depth fs).map fun fs => .object (Entries.ofList fs)

def itemValues? (depth : Nat) : List Written → Option (List Json)
  | [] => some []
  | x :: xs => do return (← value? depth x) :: (← itemValues? depth xs)

def fieldValues? (depth : Nat) : List (List Nat × Written) → Option (List (String × Json))
  | [] => some []
  | (k, x) :: fs => do
    return (← unitsText? k, ← value? depth x) :: (← fieldValues? depth fs)

end

end Written

/-- Which parts of a document are read. -/
inductive Shape where
  /-- All of it. -/
  | whole
  /-- The named fields of a record, which may also be written as an array in this order. -/
  | record (fields : List (String × Shape))
  /-- The value of every key. -/
  | table (entry : Shape)

namespace Written

mutual

/-- The parts of a document that the shape reads, repeated keys of a table included. -/
def shaped? (shape : Shape) (depth : Nat) : Written → Option Json
  | .array xs => match shape, depth with
    | .record fields, depth + 1 => (shapedItems? (fields.map Prod.snd) depth xs).map .array
    | _, depth => value? depth (.array xs)
  | .object fs => match shape, depth with
    | .record fields, depth + 1 => (shapedFields? fields depth fs).map .object
    | .table entry, depth + 1 => (shapedEntries? entry depth fs).map .object
    | _, depth => value? depth (.object fs)
  | w => value? depth w

def shapedItems? (shapes : List Shape) (depth : Nat) : List Written → Option (List Json)
  | [] => some []
  | x :: xs => match shapes with
    | [] => none
    | s :: shapes => do return (← shaped? s depth x) :: (← shapedItems? shapes depth xs)

/-- Each known field may be written once. -/
def shapedFields? (fields : List (String × Shape)) (depth : Nat) :
    List (List Nat × Written) → Option (List (String × Json))
  | [] => some []
  | (k, x) :: fs => do
    let key ← unitsText? k
    match Entries.get? fields key with
    | none => shapedFields? fields depth fs
    | some s =>
      let j ← shaped? s depth x
      let rest ← shapedFields? fields depth fs
      if Entries.contains rest key then none else some ((key, j) :: rest)

def shapedEntries? (entry : Shape) (depth : Nat) :
    List (List Nat × Written) → Option (List (String × Json))
  | [] => some []
  | (k, x) :: fs => do
    return (← unitsText? k, ← shaped? entry depth x) :: (← shapedEntries? entry depth fs)

end

end Written

def parse? (s : String) : Option Json := do (← Written.read? s).value? nestingLimit

/-- What the shape reads of the value that the text writes. -/
def parseShaped? (shape : Shape) (s : String) : Option Json := do
  (← Written.read? s).shaped? shape nestingLimit

end PromptGraph.Json
