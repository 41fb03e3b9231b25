import PromptGraph.Numeric.Shortest

/-!
# Written decimals

A decimal is written with a point while its leading exponent lies in a window, and with an
exponent otherwise. A written number always shows a point or an exponent.
-/

namespace PromptGraph

/-- Leading exponents from `lowest` up to below `limit` are written without an exponent. -/
structure PointWindow where
  lowest : Int
  limit : Int

namespace PointWindow

/-- The digits with a point, the first digit standing at `10 ^ lead`. -/
def positional (ds : String) (lead : Int) : String :=
  let zeros := fun n : Nat => String.ofList (List.replicate n '0')
  if lead < 0 then "0." ++ zeros ((-lead).toNat - 1) ++ ds
  else
    let whole := lead.toNat + 1
    if ds.length ≤ whole then ds ++ zeros (whole - ds.length) ++ ".0"
    else String.ofList (ds.toList.take whole) ++ "." ++ String.ofList (ds.toList.drop whole)

def scientific (ds : String) (lead : Int) : String :=
  let rest := ds.toList.drop 1
  let mantissa := String.ofList (ds.toList.take 1) ++
    (if rest.isEmpty then "" else "." ++ String.ofList rest)
  mantissa ++ "e" ++ (if lead < 0 then "-" else "+") ++ toString lead.natAbs

/-- The text of a decimal. -/
def write (w : PointWindow) (d : Decimal) : String :=
  if d.digits = 0 then "0.0"
  else
    let ds := toString d.digits
    let lead := d.exponent + (ds.length : Int) - 1
    if w.lowest ≤ lead ∧ lead < w.limit then positional ds lead else scientific ds lead

end PointWindow

/-- The shortest text of a number in the given format. -/
def Binary.write (f : FloatFormat) (w : PointWindow) (b : Binary) : String :=
  (if b.negative then "-" else "") ++ w.write (b.shortest f)

end PromptGraph
