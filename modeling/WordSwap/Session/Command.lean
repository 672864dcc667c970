namespace WordSwap

inductive Command where
  | generate (rules : Option String) (output : String) (print : Bool) (verbose : Bool)
  | analyze (rules : Option String) (verbose : Bool)
  deriving DecidableEq, Repr

namespace Command

def defaultOutput : String := "./output/GeneratedRules.json"

def verbose : Command → Bool
  | .generate _ _ _ v => v
  | .analyze _ v => v

inductive Switch where
  | rules
  | output
  | print
  | verbose
  deriving DecidableEq, Repr

namespace Switch

def takesValue : Switch → Bool
  | .rules | .output => true
  | .print | .verbose => false

def long : Switch → List Char
  | .rules => "rules".toList
  | .output => "output".toList
  | .print => "print".toList
  | .verbose => "verbose".toList

def short? : Switch → Option Char
  | .rules => some 'r'
  | .output => some 'o'
  | .print => none
  | .verbose => some 'v'

end Switch

abbrev Given := List (Switch × String)

def give (given : Given) (switch : Switch) (value : String) : Option Given :=
  if (given.lookup switch).isSome then none else some (given ++ [(switch, value)])

def giveValue (given : Given) (switch : Switch) (value : List Char) : Option Given :=
  if value.isEmpty then none else give given switch (String.ofList value)

structure Step where
  given : Given
  pending : Option Switch

def Step.done (given : Given) : Step := ⟨given, none⟩

def letters (switches : List Switch) (given : Given) : List Char → Option Step
  | [] => some (.done given)
  | c :: rest =>
    match switches.find? fun s => s.short? == some c with
    | none => none
    | some switch =>
      if switch.takesValue then
        match rest with
        | [] => some ⟨given, some switch⟩
        | '=' :: value => (giveValue given switch value).map .done
        | value => (giveValue given switch value).map .done
      else (give given switch "").bind fun given => letters switches given rest

def word (switches : List Switch) (given : Given) (argument : List Char) : Option Step :=
  let name := argument.takeWhile (· != '=')
  match switches.find? fun s => s.long == name with
  | none => none
  | some switch =>
    match switch.takesValue, argument.dropWhile (· != '=') with
    | true, [] => some ⟨given, some switch⟩
    | true, _ :: value => (giveValue given switch value).map .done
    | false, [] => (give given switch "").map .done
    | false, _ :: _ => none

def argument (switches : List Switch) (given : Given) : List Char → Option Step
  | '-' :: '-' :: rest => word switches given rest
  | '-' :: c :: rest => letters switches given (c :: rest)
  | _ => none

def isValue : List Char → Bool
  | '-' :: _ :: _ => false
  | _ => true

def switchesFrom (switches : List Switch) : Given → List (List Char) → Option Given
  | given, [] => some given
  | given, first :: rest =>
    if first = ['-', '-'] then if rest.isEmpty then some given else none
    else
      match argument switches given first with
      | none => none
      | some ⟨given, none⟩ => switchesFrom switches given rest
      | some ⟨given, some switch⟩ =>
        match rest with
        | [] => none
        | value :: rest =>
          if isValue value then
            match giveValue given switch value with
            | none => none
            | some given => switchesFrom switches given rest
          else none

def ofGenerate (given : Given) : Command :=
  .generate (given.lookup .rules) ((given.lookup .output).getD defaultOutput)
    (given.lookup .print).isSome (given.lookup .verbose).isSome

def ofAnalyze (given : Given) : Command :=
  .analyze (given.lookup .rules) (given.lookup .verbose).isSome

def parse : List String → Option Command
  | [] => some (ofGenerate [])
  | ["--"] => some (ofGenerate [])
  | first :: rest =>
    if first = "generate" then
      (switchesFrom [.rules, .output, .print, .verbose] [] (rest.map String.toList)).map
        ofGenerate
    else if first = "analyze" then
      (switchesFrom [.rules, .verbose] [] (rest.map String.toList)).map ofAnalyze
    else none

end Command

end WordSwap
