import WordSwap.Json.Record
import WordSwap.Schema.Keywords

namespace WordSwap

structure RuleDraft where
  inputs : Option (List String)
  outputs : Option (List String)
  inputPlurals : Option (List String)
  outputPlurals : Option (List String)
  wholeWord : Option Bool
  caseMode : Option CaseMode
  tokenRouting : Option Bool
  bidirectional : Option Bool

namespace RuleDraft

def blank : RuleDraft := ⟨none, none, none, none, none, none, none, none⟩

def finish (d : RuleDraft) : Except Nat Rule :=
  match d.inputs, d.outputs with
  | none, _ => .error 0
  | some _, none => .error 1
  | some inputs, some outputs => .ok {
      inputs := inputs
      outputs := outputs
      inputPlurals := d.inputPlurals.getD []
      outputPlurals := d.outputPlurals.getD []
      wholeWord := d.wholeWord.getD true
      caseMode := d.caseMode.getD .preserve
      tokenRouting := d.tokenRouting.getD true
      bidirectional := d.bidirectional.getD false }

open Json.Reader in
def fields : List (Json.Field RuleDraft) :=
  [⟨"primaryInputs", fun d => d.inputs.isSome,
      (list text).map fun v d => { d with inputs := some v }⟩,
   ⟨"reverseInputs", fun d => d.outputs.isSome,
      (list text).map fun v d => { d with outputs := some v }⟩,
   ⟨"primaryPlurals", fun d => d.inputPlurals.isSome,
      (list text).map fun v d => { d with inputPlurals := some v }⟩,
   ⟨"reversePlurals", fun d => d.outputPlurals.isSome,
      (list text).map fun v d => { d with outputPlurals := some v }⟩,
   ⟨"wholeWordMatch", fun d => d.wholeWord.isSome,
      boolean.map fun v d => { d with wholeWord := some v }⟩,
   ⟨"capitalizationMode", fun d => d.caseMode.isSome,
      (choice CaseMode.keywords).map fun v d => { d with caseMode := some v }⟩,
   ⟨"tokenRouting", fun d => d.tokenRouting.isSome,
      boolean.map fun v d => { d with tokenRouting := some v }⟩,
   ⟨"bidirectional", fun d => d.bidirectional.isSome,
      boolean.map fun v d => { d with bidirectional := some v }⟩]

end RuleDraft

namespace Rule

def record : Json.Record RuleDraft Rule where
  title := "SubstitutionRule"
  fields := RuleDraft.fields
  blank := RuleDraft.blank
  finish := RuleDraft.finish

def reader : Json.Reader Rule := record.reader

end Rule

inductive SpellingFlaw where
  | noInputs
  | noOutputs
  | unpairedPlurals
  deriving DecidableEq, Repr

def SpellingFlaw.message : SpellingFlaw → String
  | .noInputs => "primaryInputs must not be empty"
  | .noOutputs => "reverseInputs must not be empty"
  | .unpairedPlurals => "primaryPlurals and reversePlurals must both be empty or both be set"

def Rule.flaw? (r : Rule) : Option SpellingFlaw :=
  if r.inputs.isEmpty then some .noInputs
  else if r.outputs.isEmpty then some .noOutputs
  else if r.inputPlurals.isEmpty != r.outputPlurals.isEmpty then some .unpairedPlurals
  else none

inductive RuleListFault where
  | json (fault : Json.Fault)
  | flawed (index : Nat) (name : String) (flaw : SpellingFlaw)
  deriving DecidableEq, Repr

def RuleListFault.chain : RuleListFault → List String
  | .json fault => ["Failed to parse rule JSON", fault.message]
  | .flawed index name flaw =>
    ["Rule " ++ toString index ++ " (" ++ name ++ ")", flaw.message]

def firstFlaw? (index : Nat) : List Rule → Option RuleListFault
  | [] => none
  | r :: rest =>
    match r.flaw? with
    | some flaw => some (.flawed index r.name flaw)
    | none => firstFlaw? (index + 1) rest

def parseRules (s : String) : Except RuleListFault (List Rule) :=
  match (Json.Reader.list Rule.reader).whole s.toList with
  | .error fault => .error (.json fault)
  | .ok rules =>
    match firstFlaw? 0 rules with
    | some fault => .error fault
    | none => .ok rules

end WordSwap
