import WordSwap.Catalogue
import WordSwap.Generation
import WordSwap.Session.Command
import WordSwap.Session.Report
import WordSwap.Session.Storage

namespace WordSwap

open Files

namespace Tally

def line (t : Tally) : String :=
  t.name ++ ": " ++ toString t.atomicRules ++ " atomic rules, " ++
    toString t.phase1Leaves ++ " phase 1 leaves, " ++
    toString t.phase2Leaves ++ " phase 2 leaves"

end Tally

namespace Session

def sourceLine : Option String → LogLine
  | some path => .info ("Loading rules from " ++ Text.quoted path)
  | none => .info "Using built-in rule catalogue"

def countLine (rules : Nat) : LogLine :=
  .info ("Generating replacement rules from " ++ toString rules ++ " declarations...")

def expansionLines (r : Run) (t : GroupTraits) : List LogLine :=
  r.done.map (fun e => .debug e.tally.line) ++
    match r.result t with
    | .error _ => []
    | .ok g =>
      [.info ("Expanded " ++ toString r.done.length ++ " rules into " ++
        toString g.phase1.length ++ " phase 1 groups and " ++
        toString g.phase2.length ++ " phase 2 groups")]

def writtenLine (d : Document) (output : String) : LogLine :=
  .info ("Wrote " ++ toString d.groups.length ++ " groups (" ++ toString d.leafCount ++
    " substitutions) to " ++ Text.quoted output)

def malformedChain (m : Malformed) : List String := ["Failed to expand rules", m.message]

def analysis (rules : Nat) (g : Generated) : String :=
  let phase1 := g.tallies.foldr (fun t n => t.phase1Leaves + n) 0
  let phase2 := g.tallies.foldr (fun t n => t.phase2Leaves + n) 0
  let routed := (g.tallies.filter fun t => 0 < t.phase2Leaves).length
  let lines :=
    ["Rule Expansion", "=============="] ++ g.tallies.map Tally.line ++
    ["",
     "Totals",
     "------",
     "Rules: " ++ toString rules,
     "Token-routed rules: " ++ toString routed,
     "Phase 1 groups: " ++ toString g.phase1.length,
     "Phase 2 groups: " ++ toString g.phase2.length,
     "Substitutions: " ++ toString (phase1 + phase2) ++ " (" ++ toString phase1 ++
       " phase 1, " ++ toString phase2 ++ " phase 2)"]
  String.join (lines.map (· ++ "\n"))

section

variable {m : Type → Type} [Monad m] [Access m]

def rulesFrom : Option String → m (Except LoadFault (List Rule))
  | some path => loadRules path
  | none => return .ok Catalogue.rules

def generate (source : Option String) (output : String) (print : Bool) : m Report := do
  match ← rulesFrom source with
  | .error fault => return .failed [sourceLine source] fault.chain
  | .ok rules =>
    let expansion := run Settings.default.boundaries rules
    let log := [sourceLine source, countLine rules.length] ++
      expansionLines expansion Settings.default.traits
    match expansion.result Settings.default.traits with
    | .error malformed => return .failed log (malformedChain malformed)
    | .ok g =>
      match ← writeDocument output g.document with
      | .error fault => return .failed log fault.chain
      | .ok () =>
        return ⟨0, log ++ [writtenLine g.document output],
          if print then g.document.text ++ "\n" else "", ""⟩

def analyze (source : Option String) : m Report := do
  match ← rulesFrom source with
  | .error fault => return .failed [sourceLine source] fault.chain
  | .ok rules =>
    let expansion := run Settings.default.boundaries rules
    let log := sourceLine source :: expansionLines expansion Settings.default.traits
    match expansion.result Settings.default.traits with
    | .error malformed => return .failed log (malformedChain malformed)
    | .ok g => return ⟨0, log, analysis rules.length g, ""⟩

def perform (c : Command) : m Report := do
  let report ←
    match c with
    | .generate source output print _ => generate source output print
    | .analyze source _ => analyze source
  return report.shownAt c.verbose

end

end Session

end WordSwap
