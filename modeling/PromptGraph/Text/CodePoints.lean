/-!
# Sets of code points

A set is a list of closed, disjoint ranges in increasing order. `contains` stops at the first range
that ends at or after the code point. `ofRanges` sorts and merges; union, complement and the other
operations are built on it. `ofHex` reads a set from its written form: words such as `41-5a`, `b5`
or `100-12e/2`, the last for every second code point.
-/

namespace PromptGraph.Text

/-- Closed, disjoint ranges of code points in increasing order. -/
abbrev CodePoints := List (Nat × Nat)

def charOf? (code : Nat) : Option Char :=
  if code.isValidChar then some (Char.ofNat code) else none

namespace CodePoints

def contains : CodePoints → Nat → Bool
  | [], _ => false
  | (lo, hi) :: rest, n => if n ≤ hi then decide (lo ≤ n) else contains rest n

def has (s : CodePoints) (c : Char) : Bool := s.contains c.toNat

/-! ## Written sets -/

def hexValue? (c : Char) : Option Nat :=
  if '0' ≤ c ∧ c ≤ '9' then some (c.toNat - 48)
  else if 'a' ≤ c ∧ c ≤ 'f' then some (c.toNat - 87)
  else if 'A' ≤ c ∧ c ≤ 'F' then some (c.toNat - 55)
  else none

/-- The number that characters write, if all are hexadecimal digits. -/
def readHex? (cs : List Char) : Option Nat :=
  cs.foldlM (fun n c => (hexValue? c).map (16 * n + ·)) 0

def hexNumber (digits : String) : Nat :=
  digits.toList.foldl (fun n c => 16 * n + (hexValue? c).getD 0) 0

def rangeOfHex (word : String) : Nat × Nat :=
  match word.splitOn "-" with
  | [lo, hi] => (hexNumber lo, hexNumber hi)
  | _ => (hexNumber word, hexNumber word)

/-- Every `stride`-th code point of a range. -/
def strided (range : Nat × Nat) (stride : Nat) : CodePoints :=
  (List.range ((range.2 - range.1) / stride + 1)).map fun i =>
    (range.1 + i * stride, range.1 + i * stride)

def ofWord (word : String) : CodePoints :=
  match word.splitOn "/" with
  | [range, stride] => strided (rangeOfHex range) (hexNumber stride)
  | _ => [rangeOfHex word]

def ofHex (line : String) : CodePoints := (line.splitOn " ").flatMap ofWord

def ofLines (lines : List String) : CodePoints := lines.flatMap ofHex

/-! ## Operations -/

/-- Merges ranges, sorted by their lower ends, that overlap or touch. -/
def merge : CodePoints → CodePoints
  | [] => []
  | r :: rest => go r rest
where
  go (r : Nat × Nat) : CodePoints → CodePoints
    | [] => [r]
    | s :: rest =>
      if s.1 ≤ r.2 + 1 then go (r.1, max r.2 s.2) rest else r :: go s rest

/-- The set of all code points in any of the ranges. -/
def ofRanges (ranges : List (Nat × Nat)) : CodePoints :=
  merge ((ranges.filter fun r => decide (r.1 ≤ r.2)).mergeSort fun a b => decide (a.1 ≤ b.1))

def last : Nat := 0x10FFFF

def all : CodePoints := [(0, last)]

/-- The code point after another; surrogates are passed over. -/
def after (n : Nat) : Nat := if n = 0xD7FF then 0xE000 else n + 1

/-- The code point before another; surrogates are passed over. -/
def before (n : Nat) : Nat := if n = 0xE000 then 0xD7FF else n - 1

/-- The code points from `start` on that are not in the set. -/
def gapsFrom (start : Nat) : CodePoints → CodePoints
  | [] => if start ≤ last then [(start, last)] else []
  | (lo, hi) :: rest =>
    if start < lo ∧ start ≤ before lo then (start, before lo) :: gapsFrom (after hi) rest
    else gapsFrom (after hi) rest

def complement (s : CodePoints) : CodePoints := gapsFrom 0 s

/-- The complement, as a pattern takes it. Nothing lies between two ranges that meet around the
surrogates; there the bounds of the gap cross, and both of them stay in. -/
def negation (s : CodePoints) : CodePoints :=
  let meet := List.any s (·.2 = 0xD7FF) && List.any s (·.1 = 0xE000)
  if meet then ofRanges ((0xD7FF, 0xE000) :: complement s) else complement s

def union (s t : CodePoints) : CodePoints := ofRanges (s ++ t)

def inter (s t : CodePoints) : CodePoints :=
  s.flatMap fun r => t.filterMap fun u =>
    let lo := max r.1 u.1
    let hi := min r.2 u.2
    if lo ≤ hi then some (lo, hi) else none

def diff (s t : CodePoints) : CodePoints := inter s (complement t)

def symmDiff (s t : CodePoints) : CodePoints := diff (union s t) (inter s t)

end CodePoints

end PromptGraph.Text
