import WordSwap.Document
import WordSwap.Rule

namespace WordSwap

def byKeyword {α : Type} (keyword : α → String) (values : List α) : List (String × α) :=
  values.map fun a => (keyword a, a)

namespace CaseMode

def keyword : CaseMode → String
  | .ignore => "ignore"
  | .matchExact => "matchExact"
  | .preserve => "preserve"

def keywords : List (String × CaseMode) := byKeyword keyword [.ignore, .matchExact, .preserve]

end CaseMode

namespace PatternKind

def keyword : PatternKind → String
  | .regexp => "regexp"

def keywords : List (String × PatternKind) := byKeyword keyword [.regexp]

end PatternKind

namespace OutputKind

def keyword : OutputKind → String
  | .text => "text"
  | .function => "function"

def keywords : List (String × OutputKind) := byKeyword keyword [.text, .function]

end OutputKind

namespace HtmlScope

def keyword : HtmlScope → String
  | .none => "none"
  | .output => "output"
  | .inputOutput => "inputOutput"

def keywords : List (String × HtmlScope) := byKeyword keyword [.none, .output, .inputOutput]

end HtmlScope

namespace GroupMode

def keyword : GroupMode → String
  | .auto => "auto"
  | .manual => "manual"
  | .autoAndManual => "auto&manual"

def keywords : List (String × GroupMode) := byKeyword keyword [.auto, .manual, .autoAndManual]

end GroupMode

end WordSwap
