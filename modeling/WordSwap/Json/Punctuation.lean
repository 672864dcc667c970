import WordSwap.Json.Reader

namespace WordSwap.Json

def colon (s : List Char) : Except Fault (List Char) :=
  match skipBlank s with
  | [] => .error .endOfObject
  | c :: rest => if c = ':' then .ok rest else .error .expectedColon

def listOpening (s : List Char) : Reading Bool :=
  match skipBlank s with
  | [] => .error .endOfList
  | c :: rest => if c = ']' then .ok (false, rest) else .ok (true, c :: rest)

def listSeparator (s : List Char) : Reading Bool :=
  match skipBlank s with
  | [] => .error .endOfList
  | c :: afterItem =>
    if c = ']' then .ok (false, afterItem)
    else if c = ',' then
      match skipBlank afterItem with
      | [] => .error .endOfValue
      | d :: rest => if d = ']' then .error .trailingComma else .ok (true, d :: rest)
    else .error .expectedCommaOrBracket

def listClosing (s : List Char) : Except Fault (List Char) :=
  match skipBlank s with
  | [] => .error .endOfList
  | c :: rest =>
    if c = ']' then .ok rest
    else if c = ',' ∧ (skipBlank rest).head? = some ']' then .error .trailingComma
    else .error .trailingCharacters

def objectOpening (s : List Char) : Reading Bool :=
  match skipBlank s with
  | [] => .error .endOfObject
  | c :: rest =>
    if c = '\x7d' then .ok (false, rest)
    else if c = '\x22' then .ok (true, rest)
    else .error .keyNotString

def objectSeparator (s : List Char) : Reading Bool :=
  match skipBlank s with
  | [] => .error .endOfObject
  | c :: afterMember =>
    if c = '\x7d' then .ok (false, afterMember)
    else if c = ',' then
      match skipBlank afterMember with
      | [] => .error .endOfValue
      | d :: rest =>
        if d = '\x22' then .ok (true, rest)
        else if d = '\x7d' then .error .trailingComma
        else .error .keyNotString
    else .error .expectedCommaOrBrace

theorem colon_length {s rest : List Char} (h : colon s = .ok rest) : rest.length < s.length := by
  unfold colon at h
  split at h
  · cases h
  · rename_i hs
    have := length_lt_of_skipBlank hs
    split at h <;> cases h
    assumption

theorem listOpening_length {s rest : List Char} {more : Bool}
    (h : listOpening s = .ok (more, rest)) : rest.length ≤ s.length := by
  unfold listOpening at h
  split at h
  · cases h
  · rename_i hs
    have := length_lt_of_skipBlank hs
    split at h <;> cases h
    · exact Nat.le_of_lt this
    · exact this

theorem listSeparator_length {s rest : List Char} {more : Bool}
    (h : listSeparator s = .ok (more, rest)) : rest.length < s.length := by
  unfold listSeparator at h
  split at h
  · cases h
  · rename_i hs
    have := length_lt_of_skipBlank hs
    split at h
    · cases h
      exact this
    · split at h
      · split at h
        · cases h
        · rename_i ht
          have := length_lt_of_skipBlank ht
          split at h <;> cases h
          rw [List.length_cons]
          omega
      · cases h

theorem listClosing_length {s rest : List Char} (h : listClosing s = .ok rest) :
    rest.length < s.length := by
  unfold listClosing at h
  split at h
  · cases h
  · rename_i hs
    have := length_lt_of_skipBlank hs
    split at h
    · cases h
      exact this
    · split at h <;> cases h

theorem objectOpening_length {s rest : List Char} {more : Bool}
    (h : objectOpening s = .ok (more, rest)) : rest.length < s.length := by
  unfold objectOpening at h
  split at h
  · cases h
  · rename_i hs
    have := length_lt_of_skipBlank hs
    split at h
    · cases h
      exact this
    · split at h <;> cases h
      exact this

theorem objectSeparator_length {s rest : List Char} {more : Bool}
    (h : objectSeparator s = .ok (more, rest)) : rest.length < s.length := by
  unfold objectSeparator at h
  split at h
  · cases h
  · rename_i hs
    have := length_lt_of_skipBlank hs
    split at h
    · cases h
      exact this
    · split at h
      · split at h
        · cases h
        · rename_i ht
          have := length_lt_of_skipBlank ht
          split at h
          · cases h
            omega
          · split at h <;> cases h
      · cases h

end WordSwap.Json
