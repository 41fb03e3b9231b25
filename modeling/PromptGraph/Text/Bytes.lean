/-!
# Bytes as text

`readChars` reads bytes as UTF-8, character by character. Bytes that write no character are passed
over in stretches: as many as could begin one, or a single byte.
-/

namespace PromptGraph.Text

/-- A character whose first bytes have been read. -/
structure PartialChar where
  /-- The number that the bytes so far write. -/
  value : Nat
  /-- How many bytes come after the next one. -/
  more : Nat
  low : Nat
  high : Nat

/-- What a byte above the ASCII range begins. -/
def begin? (b : Nat) : Option PartialChar :=
  if 0xC2 ≤ b ∧ b ≤ 0xDF then some ⟨b - 0xC0, 0, 0x80, 0xBF⟩
  else if b = 0xE0 then some ⟨b - 0xE0, 1, 0xA0, 0xBF⟩
  else if b = 0xED then some ⟨b - 0xE0, 1, 0x80, 0x9F⟩
  else if 0xE1 ≤ b ∧ b ≤ 0xEF then some ⟨b - 0xE0, 1, 0x80, 0xBF⟩
  else if b = 0xF0 then some ⟨b - 0xF0, 2, 0x90, 0xBF⟩
  else if b = 0xF4 then some ⟨b - 0xF0, 2, 0x80, 0x8F⟩
  else if 0xF1 ≤ b ∧ b ≤ 0xF3 then some ⟨b - 0xF0, 2, 0x80, 0xBF⟩
  else none

/-- What is read of a byte that follows no partial character: characters, none for bytes that write
none, and the partial character that it leaves. -/
def startByte (b : Nat) : List (Option Char) × Option PartialChar :=
  if b < 0x80 then ([some (Char.ofNat b)], none)
  else match begin? b with
    | some p => ([], some p)
    | none => ([none], none)

def readByte : Option PartialChar → Nat → List (Option Char) × Option PartialChar
  | none, b => startByte b
  | some p, b =>
    if p.low ≤ b ∧ b ≤ p.high then
      let value := 64 * p.value + (b - 0x80)
      match p.more with
      | 0 => ([some (Char.ofNat value)], none)
      | more + 1 => ([], some ⟨value, more, 0x80, 0xBF⟩)
    else (none :: (startByte b).1, (startByte b).2)

/-- The characters that bytes write, none for each stretch of bytes that write none. -/
def readChars (pending : Option PartialChar) : List UInt8 → List (Option Char)
  | [] => if pending.isSome then [none] else []
  | b :: rest => (readByte pending b.toNat).1 ++ readChars (readByte pending b.toNat).2 rest

end PromptGraph.Text
