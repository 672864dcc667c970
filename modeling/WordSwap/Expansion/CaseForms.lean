import WordSwap.Casing.Basic
import WordSwap.Document
import WordSwap.Expansion.Atoms
import WordSwap.Rule

/-! The leaves of a rule with one input and one output. The engine applies them in order, so the
case-insensitive one, which matches whatever the others do, comes last. -/

namespace WordSwap

structure Boundaries where
  leading : String
  trailing : String
  deriving DecidableEq, Repr

namespace Boundaries

/-- Accented Latin letters count as letters here, which the engine's own word boundary denies. -/
def default : Boundaries where
  leading := "(?<=^|\\s|[^\\w\\u00C0-\\u024F])"
  trailing := "(?=$|\\s|[^\\w\\u00C0-\\u024F])"

def wrap (b : Boundaries) (r : Rule) (pattern : String) : String :=
  if r.wholeWord then b.leading ++ pattern ++ b.trailing else pattern

end Boundaries

namespace Rule

def caseForms (b : Boundaries) (r : Rule) (input output : String) : List Leaf :=
  let leaf (form : String → String) (caseSensitive : Bool) : Leaf :=
    .literal (b.wrap r (form input)) caseSensitive (form output)
  match r.caseMode with
  | .ignore => [leaf id false]
  | .matchExact => [leaf id true]
  | .preserve => [leaf Casing.upper true, leaf Casing.title true, leaf Casing.lower false]

def leaves (b : Boundaries) (r : Rule) : Except Breach (List Leaf) :=
  match r.inputs, r.outputs, r.bidirectional with
  | [input], [output], false => .ok (r.caseForms b input output)
  | _, _, _ => .error .notAtomic

end Rule

def expandCapitalization (b : Boundaries) : List Rule → Except Breach (List Leaf) :=
  expandEach (Rule.leaves b)

end WordSwap
