import PromptGraph.Pattern.Basic
import PromptGraph.Pattern.Modes

/-!
# What a written pattern means

`ofExpr?` carries the flags from left to right; those that a group sets end with it.
-/

namespace PromptGraph.Pattern

/-- The place that an anchor means. -/
def lookOf (m : Modes) : Anchor → Look
  | .textStart => .textStart
  | .textEnd => .textEnd
  | .lineStart => if m.multiLine then .lineStart m.carriageReturn else .textStart
  | .lineEnd => if m.multiLine then .lineEnd m.carriageReturn else .textEnd
  | .word place => .word place m.unicode

def ofAtom? (m : Modes) : Atom → Option Pattern
  | .scalar x => (m.scalar? x).map (ofPoints · m.unicode)
  | .dot => m.dot?.map (ofPoints · m.unicode)
  | .anchor a => some (.look (lookOf m a))
  | .shorthand s negated => (m.complement? negated (m.shorthand s)).map (ofPoints · m.unicode)
  | .property name value negated => (m.query? name value negated).map (ofPoints · m.unicode)

mutual

/-- What a written pattern means, and the modes after it. -/
def ofExpr? (m : Modes) : Expr → Option (Pattern × Modes)
  | .empty => some (.empty, m)
  | .atom a => return (← ofAtom? m a, m)
  | .flags change => some (.empty, m.change change)
  | .bracket negated inner => do
    return (ofPoints (← m.close? negated (← inner.points? m)) m.unicode, m)
  | .group change captures inner => do
    let (p, _) ← ofExpr? (m.change change) inner
    return (if captures then .capture p else p, m)
  | .repetition inner min max lazy => do
    let (p, after) ← ofExpr? m inner
    return (repeated p min max (lazy = m.swapGreed), after)
  | .sequence es => do
    let (ps, after) ← ofAll? m es
    return (ofParts ps, after)
  | .choice es => do
    let (ps, after) ← ofAll? m es
    return (ofBranches ps, after)

/-- The same for patterns that stand one after the other. -/
def ofAll? (m : Modes) : List Expr → Option (List Pattern × Modes)
  | [] => some ([], m)
  | e :: es => do
    let (p, m) ← ofExpr? m e
    let (ps, m) ← ofAll? m es
    return (p :: ps, m)

end

end PromptGraph.Pattern
