import WordSwap.Json.Literal
import WordSwap.Json.Punctuation
import WordSwap.Json.Text

namespace WordSwap.Json

/-- The fault of a value that is not of the wanted type. A word, a number or a text is read to its
end first, and a fault in it wins. -/
def mismatch (wanted : String) (c : Char) (rest : List Char) : Fault :=
  let afterWord (w : String) (found : Found) : Fault :=
    match word w.toList rest with
    | .error e => e
    | .ok _ => .wrongType found wanted
  if c = 'n' then afterWord "ull" .null
  else if c = 't' then afterWord "rue" (.boolean true)
  else if c = 'f' then afterWord "alse" (.boolean false)
  else if c = '-' ∨ Numeral.isDigit c then
    match number (c :: rest) with
    | .error e => e
    | .ok (n, _) => .wrongType (.number n) wanted
  else if c = '\x22' then
    match textBody.run rest with
    | .error e => e
    | .ok (t, _) => .wrongType (.text t) wanted
  else if c = '[' then .wrongType .list wanted
  else if c = '\x7b' then .wrongType .object wanted
  else .expectedValue

def readBoolean (s : List Char) : Reading Bool :=
  match skipBlank s with
  | [] => .error .endOfValue
  | c :: rest =>
    if c = 't' then
      match word "rue".toList rest with
      | .error e => .error e
      | .ok after => .ok (true, after)
    else if c = 'f' then
      match word "alse".toList rest with
      | .error e => .error e
      | .ok after => .ok (false, after)
    else .error (mismatch "a boolean" c rest)

def readText (s : List Char) : Reading String :=
  match skipBlank s with
  | [] => .error .endOfValue
  | c :: rest =>
    if c = '\x22' then textBody.run rest else .error (mismatch "a string" c rest)

def null (s : List Char) : Except Fault (List Char) :=
  match skipBlank s with
  | [] => .error .endOfValue
  | c :: rest =>
    if c = 'n' then word "ull".toList rest else .error (mismatch "unit" c rest)

theorem readBoolean_length {s rest : List Char} {b : Bool} (h : readBoolean s = .ok (b, rest)) :
    rest.length < s.length := by
  unfold readBoolean at h
  split at h
  · cases h
  · rename_i hs
    have := length_lt_of_skipBlank hs
    split at h
    · split at h <;> cases h
      rename_i hw
      exact Nat.lt_of_le_of_lt (word_length hw) this
    · split at h
      · split at h <;> cases h
        rename_i hw
        exact Nat.lt_of_le_of_lt (word_length hw) this
      · cases h

theorem readText_length {s rest : List Char} {t : String} (h : readText s = .ok (t, rest)) :
    rest.length < s.length := by
  unfold readText at h
  split at h
  · cases h
  · rename_i hs
    have := length_lt_of_skipBlank hs
    split at h
    · exact Nat.lt_trans (textBody.shrinks h) this
    · cases h

theorem null_length {s rest : List Char} (h : null s = .ok rest) : rest.length < s.length := by
  unfold null at h
  split at h
  · cases h
  · rename_i hs
    have := length_lt_of_skipBlank hs
    split at h
    · exact Nat.lt_of_le_of_lt (word_length h) this
    · cases h

section

variable {α : Type}

def items (r : Reader α) (s : List Char) : Reading (List α) :=
  match hr : r.run s with
  | .error e => .error e
  | .ok (a, afterItem) =>
    match hs : listSeparator afterItem with
    | .error e => .error e
    | .ok (false, rest) => .ok ([a], rest)
    | .ok (true, next) =>
      have := r.shrinks hr
      have := listSeparator_length hs
      match items r next with
      | .error e => .error e
      | .ok (as, rest) => .ok (a :: as, rest)
termination_by s.length

theorem items_length {r : Reader α} {s rest : List Char} {as : List α}
    (h : items r s = .ok (as, rest)) : rest.length < s.length := by
  fun_induction items r s generalizing as rest with
  | case1 => cases h
  | case2 => cases h
  | case3 s a afterItem hr rest' hs =>
    cases h
    have := r.shrinks hr
    have := listSeparator_length hs
    omega
  | case4 => cases h
  | case5 s a afterItem hr next hs _ _ as' rest' hi ih =>
    have := ih hi
    cases h
    omega

def readList (r : Reader α) (s : List Char) : Reading (List α) :=
  match skipBlank s with
  | [] => .error .endOfValue
  | c :: inside =>
    if c = '[' then
      match listOpening inside with
      | .error e => .error e
      | .ok (false, rest) => .ok ([], rest)
      | .ok (true, first) => items r first
    else .error (mismatch "a sequence" c inside)

theorem readList_length {r : Reader α} {s rest : List Char} {as : List α}
    (h : readList r s = .ok (as, rest)) : rest.length < s.length := by
  unfold readList at h
  split at h
  · cases h
  · rename_i hs
    have := length_lt_of_skipBlank hs
    split at h
    · split at h
      · cases h
      · rename_i ho
        have := listOpening_length ho
        cases h
        omega
      · rename_i ho
        have := listOpening_length ho
        have := items_length h
        omega
    · cases h

def variant (options : List (String × α)) (name : String) : Except Fault α :=
  match options.lookup name with
  | some a => .ok a
  | none => .error (.unknownVariant name (options.map Prod.fst))

def variantMember (options : List (String × α)) (s : List Char) : Reading α :=
  match skipBlank s with
  | [] => .error .endOfObject
  | c :: rest =>
    if c = '\x22' then
      match textBody.run rest with
      | .error e => .error e
      | .ok (name, afterName) =>
        match variant options name with
        | .error e => .error e
        | .ok a =>
          match colon afterName with
          | .error e => .error e
          | .ok value =>
            match null value with
            | .error e => .error e
            | .ok afterValue =>
              match skipBlank afterValue with
              | [] => .error .endOfObject
              | d :: after => if d = '\x7d' then .ok (a, after) else .error .expectedValue
    else .error (if c = '\x7d' then .expectedValue else .keyNotString)

def readVariant (options : List (String × α)) (s : List Char) : Reading α :=
  match skipBlank s with
  | [] => .error .endOfValue
  | c :: rest =>
    if c = '\x22' then
      match textBody.run rest with
      | .error e => .error e
      | .ok (name, after) =>
        match variant options name with
        | .error e => .error e
        | .ok a => .ok (a, after)
    else if c = '\x7b' then variantMember options rest
    else .error .expectedValue

theorem variantMember_length {options : List (String × α)} {s rest : List Char} {a : α}
    (h : variantMember options s = .ok (a, rest)) : rest.length < s.length := by
  unfold variantMember at h
  split at h
  · cases h
  · rename_i hs
    have := length_lt_of_skipBlank hs
    split at h
    · split at h
      · cases h
      · rename_i ht
        have := textBody.shrinks ht
        split at h
        · cases h
        · split at h
          · cases h
          · rename_i hc
            have := colon_length hc
            split at h
            · cases h
            · rename_i hn
              have := null_length hn
              split at h
              · cases h
              · rename_i he
                have := length_lt_of_skipBlank he
                split at h <;> cases h
                omega
    · cases h

theorem readVariant_length {options : List (String × α)} {s rest : List Char} {a : α}
    (h : readVariant options s = .ok (a, rest)) : rest.length < s.length := by
  unfold readVariant at h
  split at h
  · cases h
  · rename_i hs
    have := length_lt_of_skipBlank hs
    split at h
    · split at h
      · cases h
      · rename_i ht
        have := textBody.shrinks ht
        split at h <;> cases h
        omega
    · split at h
      · have := variantMember_length h
        omega
      · cases h

end

namespace Reader

def boolean : Reader Bool := ⟨readBoolean, readBoolean_length⟩

def text : Reader String := ⟨readText, readText_length⟩

def list {α : Type} (r : Reader α) : Reader (List α) := ⟨readList r, readList_length⟩

def choice {α : Type} (options : List (String × α)) : Reader α :=
  ⟨readVariant options, readVariant_length⟩

end Reader

end WordSwap.Json
