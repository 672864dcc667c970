/-! Substitution rules as their author declares them. A rule reads its inputs and writes its
outputs; the first spelling of each side is the one that the other direction writes. -/

namespace WordSwap

inductive CaseMode where
  | ignore
  | matchExact
  | preserve
  deriving DecidableEq, Repr, Inhabited

structure Rule where
  inputs : List String
  outputs : List String
  inputPlurals : List String
  outputPlurals : List String
  wholeWord : Bool
  caseMode : CaseMode
  tokenRouting : Bool
  bidirectional : Bool
  deriving DecidableEq, Repr, Inhabited

namespace Rule

def defaultPlural (word : String) : String := word ++ "s"

def ofSpellings (inputs outputs : List String) : Rule where
  inputs := inputs
  outputs := outputs
  inputPlurals := inputs.map defaultPlural
  outputPlurals := outputs.map defaultPlural
  wholeWord := true
  caseMode := .preserve
  tokenRouting := true
  bidirectional := false

def ofPair (input output : String) : Rule := ofSpellings [input] [output]

def bothWays (r : Rule) : Rule := { r with bidirectional := true }

def withoutPlurals (r : Rule) : Rule := { r with inputPlurals := [], outputPlurals := [] }

def withInputPlurals (words : List String) (r : Rule) : Rule := { r with inputPlurals := words }

def withOutputPlurals (words : List String) (r : Rule) : Rule := { r with outputPlurals := words }

def withCaseMode (mode : CaseMode) (r : Rule) : Rule := { r with caseMode := mode }

def withoutTokens (r : Rule) : Rule := { r with tokenRouting := false }

def insideWords (r : Rule) : Rule := { r with wholeWord := false }

def firstInput? (r : Rule) : Option String := r.inputs.head?

def canonicalOutput? (r : Rule) : Option String := r.outputs.head?

def hasPlurals (r : Rule) : Bool := !r.inputPlurals.isEmpty && !r.outputPlurals.isEmpty

def name (r : Rule) : String :=
  r.firstInput?.getD "" ++ " -> " ++ r.canonicalOutput?.getD ""

inductive Edit where
  | bothWays
  | withoutPlurals
  | inputPlurals (words : List String)
  | outputPlurals (words : List String)
  | caseMode (mode : CaseMode)
  | withoutTokens
  | insideWords
  deriving DecidableEq, Repr

def edit (r : Rule) : Edit → Rule
  | .bothWays => r.bothWays
  | .withoutPlurals => r.withoutPlurals
  | .inputPlurals words => r.withInputPlurals words
  | .outputPlurals words => r.withOutputPlurals words
  | .caseMode mode => r.withCaseMode mode
  | .withoutTokens => r.withoutTokens
  | .insideWords => r.insideWords

def editAll (r : Rule) (edits : List Edit) : Rule := edits.foldl edit r

end Rule

end WordSwap
