import PromptGraph.Text.CodePoints

/-!
# Encoded characters

The characters of a range, by their bytes: as few sequences of byte ranges as cover exactly the
encodings of the characters, in increasing order.
-/

namespace PromptGraph.Pattern

open Text (CodePoints)

abbrev ByteRange := Nat × Nat

/-- Bytes that follow the first byte of a character and may be any. -/
def anyBytes (count : Nat) : List ByteRange := List.replicate count (0x80, 0xBF)

/-- Covers the numbers between two bounds, written as a digit and `count` further digits to base 64.
A digit is a byte above `mark`, later ones above 128. -/
def covers : Nat → Nat → Nat → Nat → List (List ByteRange)
  | 0, mark, lo, hi => [[(mark + lo, mark + hi)]]
  | count + 1, mark, lo, hi =>
    let block := Nat.pow 64 (count + 1)
    let first := lo / block
    let final := hi / block
    let lead := fun d => (mark + d, mark + d)
    if first = final then
      (covers count 0x80 (lo % block) (hi % block)).map (lead first :: ·)
    else
      let cutLow := lo % block ≠ 0
      let cutHigh := hi % block ≠ block - 1
      let low := if cutLow then first + 1 else first
      let high := if cutHigh then final - 1 else final
      (if cutLow then (covers count 0x80 (lo % block) (block - 1)).map (lead first :: ·)
        else []) ++
      (if low ≤ high then [(mark + low, mark + high) :: anyBytes (count + 1)] else []) ++
      (if cutHigh then (covers count 0x80 0 (hi % block)).map (lead final :: ·) else [])

/-- Code points whose encodings have the same number of bytes. -/
structure EncodedSpan where
  /-- The bytes after the first one. -/
  count : Nat
  /-- What marks a first byte. -/
  mark : Nat
  lo : Nat
  hi : Nat

def encodedSpans : List EncodedSpan := [
  ⟨0, 0, 0, 0x7F⟩, ⟨1, 0xC0, 0x80, 0x7FF⟩, ⟨2, 0xE0, 0x800, 0xD7FF⟩, ⟨2, 0xE0, 0xE000, 0xFFFF⟩,
  ⟨3, 0xF0, 0x10000, 0x10FFFF⟩]

/-- The encodings of the characters in a range. -/
def rangeEncodings (range : Nat × Nat) : List (List ByteRange) :=
  encodedSpans.flatMap fun s =>
    let lo := max s.lo range.1
    let hi := min s.hi range.2
    if lo ≤ hi then covers s.count s.mark lo hi else []

def encodings (points : CodePoints) : List (List ByteRange) := points.flatMap rangeEncodings

end PromptGraph.Pattern
