import WordSwap.Document
import WordSwap.Expansion.Atoms
import WordSwap.Expansion.CaseForms
import WordSwap.Token

/-! From rules to the groups of a document. A run ends at the first malformed rule and then yields
nothing but what it had to say about the rules before. -/

namespace WordSwap

structure Settings where
  boundaries : Boundaries
  traits : GroupTraits
  deriving DecidableEq, Repr

def Settings.default : Settings := ⟨.default, .default⟩

structure Tally where
  name : String
  atomicRules : Nat
  phase1Leaves : Nat
  phase2Leaves : Nat
  deriving DecidableEq, Repr

structure Expanded where
  name : String
  atomicRules : Nat
  routed : Routed
  deriving DecidableEq, Repr

namespace Expanded

def tally (e : Expanded) : Tally :=
  ⟨e.name, e.atomicRules, e.routed.phase1.length, e.routed.phase2.length⟩

def phase1Group (t : GroupTraits) (e : Expanded) : Group := .ofLeaves t e.name e.routed.phase1

def phase2Group? (t : GroupTraits) (e : Expanded) : Option Group :=
  if e.routed.phase2.isEmpty then none else some (.ofLeaves t e.name e.routed.phase2)

end Expanded

namespace Rule

def atoms (r : Rule) : Except Breach (List Rule) :=
  match expandDirections (expandPlurals [r]) with
  | .error b => .error b
  | .ok rules => expandInputs rules

def expand (b : Boundaries) (r : Rule) : Except Malformed Expanded :=
  match r.atoms with
  | .error breach => .error (breach.malformed.inRule r.name)
  | .ok atoms =>
    match expandCapitalization b atoms with
    | .error breach => .error (breach.malformed.inRule r.name)
    | .ok leaves => .ok ⟨r.name, atoms.length, route r.tokenRouting leaves⟩

end Rule

structure Run where
  done : List Expanded
  fault : Option Malformed
  deriving DecidableEq, Repr

def run (b : Boundaries) : List Rule → Run
  | [] => ⟨[], none⟩
  | r :: rest =>
    match r.expand b with
    | .error m => ⟨[], some m⟩
    | .ok e =>
      let later := run b rest
      ⟨e :: later.done, later.fault⟩

structure Generated where
  phase1 : List Group
  phase2 : List Group
  tallies : List Tally
  deriving DecidableEq, Repr

namespace Generated

def ofExpanded (t : GroupTraits) (done : List Expanded) : Generated where
  phase1 := done.map (Expanded.phase1Group t)
  phase2 := done.filterMap (Expanded.phase2Group? t)
  tallies := done.map Expanded.tally

def document (g : Generated) : Document := ⟨g.phase1 ++ g.phase2⟩

end Generated

namespace Run

def result (t : GroupTraits) (r : Run) : Except Malformed Generated :=
  match r.fault with
  | some m => .error m
  | none => .ok (.ofExpanded t r.done)

end Run

def generate (s : Settings) (rules : List Rule) : Except Malformed Generated :=
  (run s.boundaries rules).result s.traits

end WordSwap
