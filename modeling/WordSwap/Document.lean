/-! What the substitution engine loads: find-and-replace leaves, in groups, in a document. -/

namespace WordSwap

inductive PatternKind where
  | regexp
  deriving DecidableEq, Repr, Inhabited

inductive OutputKind where
  | text
  | function
  deriving DecidableEq, Repr, Inhabited

structure Leaf where
  pattern : String
  patternKind : PatternKind
  output : String
  outputKind : OutputKind
  caseSensitive : Bool
  deriving DecidableEq, Repr, Inhabited

def Leaf.literal (pattern : String) (caseSensitive : Bool) (output : String) : Leaf :=
  ⟨pattern, .regexp, output, .text, caseSensitive⟩

inductive HtmlScope where
  | none
  | output
  | inputOutput
  deriving DecidableEq, Repr, Inhabited

inductive GroupMode where
  | auto
  | manual
  | autoAndManual
  deriving DecidableEq, Repr, Inhabited

structure GroupTraits where
  urls : List String
  html : HtmlScope
  enabled : Bool
  mode : GroupMode
  deriving DecidableEq, Repr, Inhabited

def GroupTraits.default : GroupTraits := ⟨[], .none, true, .autoAndManual⟩

structure Group where
  name : String
  urls : List String
  substitutions : List Leaf
  html : HtmlScope
  enabled : Bool
  mode : GroupMode
  deriving DecidableEq, Repr, Inhabited

def Group.ofLeaves (traits : GroupTraits) (name : String) (leaves : List Leaf) : Group :=
  ⟨name, traits.urls, leaves, traits.html, traits.enabled, traits.mode⟩

structure Document where
  groups : List Group
  deriving DecidableEq, Repr, Inhabited

def Document.leafCount (d : Document) : Nat :=
  d.groups.foldr (fun g n => g.substitutions.length + n) 0

end WordSwap
