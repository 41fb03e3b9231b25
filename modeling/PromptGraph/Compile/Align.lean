import PromptGraph.Schema.Input

/-!
# Alignment

Widget values come as a bare list. Each input that a widget value can fill, in schema order, takes
the first value from where the previous input left off that fits its tag; values passed over are
lost. A connected input takes none, and once no value fits, the remaining inputs stay unset.
-/

namespace PromptGraph

def TypeTag.accepts : Option TypeTag → Json → Bool
  | none, j => j.isText
  | some .text, j => j.isText
  | some .combo, j => j.isText
  | some .int, j => j.isInteger
  | some .float, j => j.isNumber
  | some .bool, j => j.isBool
  | some (.other _), _ => false

namespace Align

/-- The input takes part in the alignment. -/
def isOpen (connected : String → Bool) (s : InputSpec) : Bool :=
  s.isPrimitive && !connected s.name

/-- Deals values to inputs, each of which passes over what does not fit it. -/
def deal : List InputSpec → List Json → List (String × Json)
  | [], _ => []
  | s :: specs, values =>
    match values.dropWhile fun v => !TypeTag.accepts s.tag v with
    | [] => []
    | v :: rest => (s.name, v) :: deal specs rest

/-- Names and values that the widget values fill. -/
def align (specs : List InputSpec) (values : List Json) (connected : String → Bool) :
    OrderedMap Json :=
  .ofList (deal (specs.filter (isOpen connected)) values)

end Align

end PromptGraph
