import WordSwap.Json.Literal
import WordSwap.Json.Punctuation
import WordSwap.Json.Text

/-! Passing over a value that nobody asks for. It has to be well formed, to any depth, but its
numbers may be of any size and its escapes may stand for no character. -/

namespace WordSwap.Json

inductive Bracket where
  | list
  | object
  deriving DecidableEq, Repr

namespace Bracket

def closing : Bracket → Char
  | .list => ']'
  | .object => '\x7d'

def unclosed : Bracket → Fault
  | .list => .endOfList
  | .object => .endOfObject

def expectedComma : Bracket → Fault
  | .list => .expectedCommaOrBracket
  | .object => .expectedCommaOrBrace

end Bracket

def skipScalar (c : Char) (rest : List Char) : Except Fault (List Char) :=
  if c = '\x22' then skipTextBody rest
  else if c = 'n' then word "ull".toList rest
  else if c = 't' then word "rue".toList rest
  else if c = 'f' then word "alse".toList rest
  else if c = '-' ∨ Numeral.isDigit c then skipNumber (c :: rest)
  else .error .expectedValue

def skipKey (s : List Char) : Except Fault (List Char) :=
  match skipBlank s with
  | [] => .error .endOfObject
  | c :: rest =>
    if c = '\x22' then
      match skipTextBody rest with
      | .error e => .error e
      | .ok afterKey => colon afterKey
    else .error .keyNotString

theorem skipScalar_length {c : Char} {s rest : List Char} (h : skipScalar c s = .ok rest) :
    rest.length ≤ s.length := by
  unfold skipScalar at h
  split at h
  · exact Nat.le_of_lt (skipTextBody_length h)
  · split at h
    · exact word_length h
    · split at h
      · exact word_length h
      · split at h
        · exact word_length h
        · split at h
          · exact Nat.le_of_lt_succ (skipNumber_length h)
          · cases h

theorem skipKey_length {s rest : List Char} (h : skipKey s = .ok rest) :
    rest.length < s.length := by
  unfold skipKey at h
  split at h
  · cases h
  · rename_i hs
    have := length_lt_of_skipBlank hs
    split at h
    · split at h
      · cases h
      · rename_i hb
        have := skipTextBody_length hb
        have := colon_length h
        omega
    · cases h

inductive Awaited where
  | value
  | key
  | mark
  deriving DecidableEq, Repr

/-- Passes over the rest of a value, where `enclosing` are the brackets still open around what
comes next, the innermost first. -/
def skipFrom (awaited : Awaited) (enclosing : List Bracket) (s : List Char) :
    Except Fault (List Char) :=
  match awaited with
  | .value =>
    match hs : skipBlank s with
    | [] => .error .endOfValue
    | c :: rest =>
      have := length_lt_of_skipBlank hs
      if c = '[' then
        match hr : skipBlank rest with
        | [] => .error .endOfList
        | d :: inside =>
          have := length_lt_of_skipBlank hr
          if d = ']' then skipFrom .mark enclosing inside
          else skipFrom .value (.list :: enclosing) (d :: inside)
      else if c = '\x7b' then
        match hr : skipBlank rest with
        | [] => .error .endOfObject
        | d :: inside =>
          have := length_lt_of_skipBlank hr
          if d = '\x7d' then skipFrom .mark enclosing inside
          else skipFrom .key (.object :: enclosing) (d :: inside)
      else
        match hr : skipScalar c rest with
        | .error e => .error e
        | .ok after =>
          have := skipScalar_length hr
          skipFrom .mark enclosing after
  | .key =>
    match hs : skipKey s with
    | .error e => .error e
    | .ok rest =>
      have := skipKey_length hs
      skipFrom .value enclosing rest
  | .mark =>
    match enclosing with
    | [] => .ok s
    | b :: outer =>
      match hs : skipBlank s with
      | [] => .error b.unclosed
      | c :: rest =>
        have := length_lt_of_skipBlank hs
        if c = b.closing then skipFrom .mark outer rest
        else if c = ',' then
          skipFrom (match b with | .list => .value | .object => .key) (b :: outer) rest
        else .error b.expectedComma
termination_by s.length
decreasing_by all_goals ((try simp only [List.length_cons]); omega)

def skipValue (s : List Char) : Except Fault (List Char) := skipFrom .value [] s

theorem skipFrom_length_le {awaited : Awaited} {enclosing : List Bracket} {s rest : List Char}
    (h : skipFrom awaited enclosing s = .ok rest) : rest.length ≤ s.length := by
  fun_induction skipFrom awaited enclosing s <;> simp_all <;> omega

theorem skipValue_length {s rest : List Char} (h : skipValue s = .ok rest) :
    rest.length < s.length := by
  unfold skipValue skipFrom at h
  split at h
  · cases h
  · rename_i hs
    have := length_lt_of_skipBlank hs
    split at h
    · split at h
      · cases h
      · rename_i hr
        have := length_lt_of_skipBlank hr
        split at h
        · have := skipFrom_length_le h
          omega
        · have := skipFrom_length_le h
          simp only [List.length_cons] at this
          omega
    · split at h
      · split at h
        · cases h
        · rename_i hr
          have := length_lt_of_skipBlank hr
          split at h
          · have := skipFrom_length_le h
            omega
          · have := skipFrom_length_le h
            simp only [List.length_cons] at this
            omega
      · split at h
        · cases h
        · rename_i hr
          have := skipScalar_length hr
          have := skipFrom_length_le h
          omega

end WordSwap.Json
