import WordSwap.Json.Skipped
import WordSwap.Json.Typed

/-! Records: objects with known fields in any order, or lists of the fields in theirs. A record is
read into a draft, which holds the fields met so far. -/

namespace WordSwap.Json

structure Field (δ : Type) where
  name : String
  isSet : δ → Bool
  read : Reader (δ → δ)

structure Record (δ α : Type) where
  title : String
  fields : List (Field δ)
  blank : δ
  finish : δ → Except Nat α

section

variable {δ α : Type}

def member (fields : List (Field δ)) (d : δ) (s : List Char) : Reading δ :=
  match textBody.run s with
  | .error e => .error e
  | .ok (key, afterKey) =>
    match fields.find? fun f => f.name == key with
    | none =>
      match colon afterKey with
      | .error e => .error e
      | .ok value =>
        match skipValue value with
        | .error e => .error e
        | .ok rest => .ok (d, rest)
    | some f =>
      if f.isSet d then .error (.duplicateField f.name)
      else
        match colon afterKey with
        | .error e => .error e
        | .ok value =>
          match f.read.run value with
          | .error e => .error e
          | .ok (set, rest) => .ok (set d, rest)

theorem member_length {fields : List (Field δ)} {d d' : δ} {s rest : List Char}
    (h : member fields d s = .ok (d', rest)) : rest.length < s.length := by
  unfold member at h
  split at h
  · cases h
  · rename_i ht
    have := textBody.shrinks ht
    split at h
    · split at h
      · cases h
      · rename_i hc
        have := colon_length hc
        split at h <;> cases h
        rename_i hv
        have := skipValue_length hv
        omega
    · rename_i f _
      split at h
      · cases h
      · split at h
        · cases h
        · rename_i hc
          have := colon_length hc
          split at h <;> cases h
          rename_i hv
          have := f.read.shrinks hv
          omega

def members (fields : List (Field δ)) (d : δ) (s : List Char) : Reading δ :=
  match hm : member fields d s with
  | .error e => .error e
  | .ok (d', afterMember) =>
    match hs : objectSeparator afterMember with
    | .error e => .error e
    | .ok (false, rest) => .ok (d', rest)
    | .ok (true, next) =>
      have := member_length hm
      have := objectSeparator_length hs
      members fields d' next
termination_by s.length

theorem members_length {fields : List (Field δ)} {d d' : δ} {s rest : List Char}
    (h : members fields d s = .ok (d', rest)) : rest.length < s.length := by
  fun_induction members fields d s with
  | case1 => cases h
  | case2 => cases h
  | case3 d s d'' afterMember hm rest' hs =>
    cases h
    have := member_length hm
    have := objectSeparator_length hs
    omega
  | case4 d s d'' afterMember hm next hs _ _ ih =>
    have := ih h
    omega

def fieldsInOrder (d : δ) : List (Field δ) → List Char → Reading δ
  | [], s =>
    match listClosing s with
    | .error e => .error e
    | .ok rest => .ok (d, rest)
  | f :: fields, s =>
    match f.read.run s with
    | .error e => .error e
    | .ok (set, afterField) =>
      if fields.isEmpty then
        match listClosing afterField with
        | .error e => .error e
        | .ok rest => .ok (set d, rest)
      else
        match listSeparator afterField with
        | .error e => .error e
        | .ok (false, rest) => .ok (set d, rest)
        | .ok (true, next) => fieldsInOrder (set d) fields next

theorem fieldsInOrder_length {fields : List (Field δ)} {d d' : δ} {s rest : List Char}
    (h : fieldsInOrder d fields s = .ok (d', rest)) : rest.length < s.length := by
  induction fields generalizing d s with
  | nil =>
    unfold fieldsInOrder at h
    split at h <;> cases h
    rename_i hc
    exact listClosing_length hc
  | cons f fields ih =>
    unfold fieldsInOrder at h
    split at h
    · cases h
    · rename_i hf
      have := f.read.shrinks hf
      split at h
      · split at h <;> cases h
        rename_i hc
        have := listClosing_length hc
        omega
      · split at h
        · cases h
        · rename_i hs
          have := listSeparator_length hs
          cases h
          omega
        · rename_i hs
          have := listSeparator_length hs
          have := ih h
          omega

namespace Record

variable (record : Record δ α)

def listDraft (s : List Char) : Reading δ :=
  match listOpening s with
  | .error e => .error e
  | .ok (false, rest) => .ok (record.blank, rest)
  | .ok (true, first) => fieldsInOrder record.blank record.fields first

def objectDraft (s : List Char) : Reading δ :=
  match objectOpening s with
  | .error e => .error e
  | .ok (false, rest) => .ok (record.blank, rest)
  | .ok (true, first) => members record.fields record.blank first

def wrongLength (i : Nat) : Fault := .wrongLength i record.title record.fields.length

def missingField (i : Nat) : Fault :=
  .missingField ((record.fields.map Field.name).getD i "")

def finished (fault : Nat → Fault) : Reading δ → Reading α
  | .error e => .error e
  | .ok (d, rest) =>
    match record.finish d with
    | .error i => .error (fault i)
    | .ok a => .ok (a, rest)

def readRecord (s : List Char) : Reading α :=
  match skipBlank s with
  | [] => .error .endOfValue
  | c :: inside =>
    if c = '[' then record.finished record.wrongLength (record.listDraft inside)
    else if c = '\x7b' then record.finished record.missingField (record.objectDraft inside)
    else .error (mismatch ("struct " ++ record.title) c inside)

variable {record}

theorem listDraft_length {s rest : List Char} {d : δ}
    (h : record.listDraft s = .ok (d, rest)) : rest.length ≤ s.length := by
  unfold listDraft at h
  split at h
  · cases h
  · rename_i ho
    cases h
    exact listOpening_length ho
  · rename_i ho
    have := listOpening_length ho
    have := fieldsInOrder_length h
    omega

theorem objectDraft_length {s rest : List Char} {d : δ}
    (h : record.objectDraft s = .ok (d, rest)) : rest.length ≤ s.length := by
  unfold objectDraft at h
  split at h
  · cases h
  · rename_i ho
    cases h
    exact Nat.le_of_lt (objectOpening_length ho)
  · rename_i ho
    have := objectOpening_length ho
    have := members_length h
    omega

theorem draft_of_finished {fault : Nat → Fault} {draft : Reading δ} {rest : List Char} {a : α}
    (h : record.finished fault draft = .ok (a, rest)) :
    ∃ d, draft = .ok (d, rest) ∧ record.finish d = .ok a := by
  unfold finished at h
  split at h
  · cases h
  · rename_i d rest'
    split at h <;> cases h
    exact ⟨d, rfl, by assumption⟩

theorem readRecord_length {s rest : List Char} {a : α}
    (h : record.readRecord s = .ok (a, rest)) : rest.length < s.length := by
  unfold readRecord at h
  split at h
  · cases h
  · rename_i hs
    have := length_lt_of_skipBlank hs
    split at h
    · obtain ⟨d, hd, -⟩ := draft_of_finished h
      have := listDraft_length hd
      omega
    · split at h
      · obtain ⟨d, hd, -⟩ := draft_of_finished h
        have := objectDraft_length hd
        omega
      · cases h

def reader (record : Record δ α) : Reader α := ⟨record.readRecord, readRecord_length⟩

end Record

end

end WordSwap.Json
