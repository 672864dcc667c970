import WordSwap.Rule

/-! From a rule to the rules with one input and one output that it stands for: its number forms, the
directions of each, and one rule for every input spelling. -/

namespace WordSwap

inductive Breach where
  | pluralsUnresolved
  | noInputs
  | tokensRequired
  | notOneWay
  | notAtomic
  deriving DecidableEq, Repr

structure Malformed where
  reason : String
  deriving DecidableEq, Repr

def Breach.reason : Breach → String
  | .pluralsUnresolved => "plural data must be resolved before direction expansion"
  | .noInputs => "rule has no inputs"
  | .tokensRequired => "bidirectional rule requires token routing"
  | .notOneWay =>
    "rule must be unidirectional without plural data before multi-input expansion"
  | .notAtomic =>
    "rule must be unidirectional and singular before capitalization expansion"

def Breach.malformed (b : Breach) : Malformed := ⟨b.reason⟩

namespace Malformed

def inRule (name : String) (m : Malformed) : Malformed := ⟨"\"" ++ name ++ "\": " ++ m.reason⟩

def message (m : Malformed) : String := "malformed rule: " ++ m.reason

end Malformed

def expandEach {α β ε : Type} (f : α → Except ε (List β)) : List α → Except ε (List β)
  | [] => .ok []
  | a :: rest =>
    match f a with
    | .error e => .error e
    | .ok here =>
      match expandEach f rest with
      | .error e => .error e
      | .ok later => .ok (here ++ later)

namespace Rule

def singular (r : Rule) : Rule := r.withoutPlurals

def plural (r : Rule) : Rule :=
  { r with
    inputs := r.inputPlurals
    outputs := r.outputPlurals
    inputPlurals := []
    outputPlurals := [] }

def numberForms (r : Rule) : List Rule :=
  if r.hasPlurals then [r.singular, r.plural] else [r.singular]

end Rule

def expandPlurals (rules : List Rule) : List Rule := rules.flatMap Rule.numberForms

namespace Rule

def forward (output : String) (r : Rule) : Rule :=
  { r with outputs := [output], bidirectional := false }

def backward (input : String) (r : Rule) : Rule :=
  { r with inputs := r.outputs, outputs := [input], bidirectional := false }

/-- Without tokens the backward rule would undo what the forward one has written, so a rule that
goes both ways needs them. -/
def directions (r : Rule) : Except Breach (List Rule) :=
  if !r.inputPlurals.isEmpty || !r.outputPlurals.isEmpty then
    .error .pluralsUnresolved
  else
    match r.inputs, r.outputs with
    | input :: _, output :: _ =>
      if !r.bidirectional then .ok [r.forward output]
      else if r.tokenRouting then .ok [r.forward output, r.backward input]
      else .error .tokensRequired
    | _, _ => .error .noInputs

end Rule

def expandDirections : List Rule → Except Breach (List Rule) := expandEach Rule.directions

def Rule.spellings (r : Rule) : Except Breach (List Rule) :=
  if r.bidirectional || !r.inputPlurals.isEmpty || !r.outputPlurals.isEmpty then
    .error .notOneWay
  else
    .ok (r.inputs.map fun input => { r with inputs := [input] })

def expandInputs : List Rule → Except Breach (List Rule) := expandEach Rule.spellings

end WordSwap
