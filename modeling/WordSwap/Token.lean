import WordSwap.Document
import WordSwap.Hash.Sha256
import WordSwap.Numeral.Decimal
import WordSwap.Text.Basic

/-! Tokens stand in for the output of a leaf. The first half of a routed leaf writes the token, and
the second half, which runs after all first halves, turns it into the output. -/

namespace WordSwap

/-- A text behind its length in bytes, so that texts laid end to end can be told apart. -/
def lengthPrefixed (s : String) : List UInt8 :=
  Text.littleEndian 8 (Text.utf8 s).length ++ Text.utf8 s

namespace Leaf

def encoding (l : Leaf) : List UInt8 :=
  lengthPrefixed l.pattern ++ lengthPrefixed l.output ++ [if l.caseSensitive then 1 else 0]

def fingerprint (l : Leaf) : Nat := Text.valueOf ((Hash.Sha256.digest l.encoding).take 16)

def token (l : Leaf) : String := String.ofList (Numeral.fixed 39 l.fingerprint)

def writingToken (l : Leaf) : Leaf := { l with output := l.token }

def readingToken (l : Leaf) : Leaf := .literal l.token true l.output

end Leaf

structure Routed where
  phase1 : List Leaf
  phase2 : List Leaf
  deriving DecidableEq, Repr

def route (tokenRouting : Bool) (leaves : List Leaf) : Routed :=
  if tokenRouting then ⟨leaves.map Leaf.writingToken, leaves.map Leaf.readingToken⟩
  else ⟨leaves, []⟩

end WordSwap
