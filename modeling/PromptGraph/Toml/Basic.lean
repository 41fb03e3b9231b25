import PromptGraph.Numeric.Word

/-!
# Settings values

The values that a settings text can write. Of floating-point numbers, dates and times only what
decides whether a text can be used is kept: nothing reads them.
-/

namespace PromptGraph

inductive Toml where
  | text (s : String)
  | int (i : Int)
  /-- A floating-point number, and whether double precision holds it. -/
  | float (fits : Bool)
  | bool (b : Bool)
  /-- A date, a time, or both. -/
  | moment
  | array (items : List Toml)
  | table (entries : List (String × Toml))

namespace Toml

mutual

/-- Every number in the value can be taken: integers have at most 128 bits. -/
def isTakable : Toml → Bool
  | .int i => decide (-Word.span127 ≤ i) && decide (i < Word.span128)
  | .float fits => fits
  | .array items => itemsTakable items
  | .table entries => entriesTakable entries
  | _ => true

def itemsTakable : List Toml → Bool
  | [] => true
  | v :: vs => v.isTakable && itemsTakable vs

def entriesTakable : List (String × Toml) → Bool
  | [] => true
  | (_, v) :: es => v.isTakable && entriesTakable es

end

end Toml

end PromptGraph
