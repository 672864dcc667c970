import WordSwap.Json.Reader

namespace WordSwap.Json

def hexValue? (c : Char) : Option Nat :=
  if '0' ≤ c ∧ c ≤ '9' then some (c.toNat - 48)
  else if 'a' ≤ c ∧ c ≤ 'f' then some (c.toNat - 87)
  else if 'A' ≤ c ∧ c ≤ 'F' then some (c.toNat - 55)
  else none

def hexNumber? (a b c d : Char) : Option Nat :=
  match hexValue? a, hexValue? b, hexValue? c, hexValue? d with
  | some a, some b, some c, some d => some (((a * 16 + b) * 16 + c) * 16 + d)
  | _, _, _, _ => none

def hexFour : List Char → Reading Nat
  | a :: b :: c :: d :: rest =>
    match hexNumber? a b c d with
    | some n => .ok (n, rest)
    | none => .error .invalidEscape
  | s => .error (if s.foldr (fun c n => c.utf8Size + n) 0 < 4 then .endOfString else .invalidEscape)

def pairedChar (lead trail : Nat) : Char :=
  Char.ofNat (0x10000 + (lead - 0xD800) * 0x400 + (trail - 0xDC00))

def surrogatePair (lead : Nat) : List Char → Reading Char
  | [] => .error .endOfString
  | ['\\'] => .error .endOfString
  | '\\' :: 'u' :: s =>
    match hexFour s with
    | .error e => .error e
    | .ok (trail, rest) =>
      if 0xDC00 ≤ trail ∧ trail ≤ 0xDFFF then
        .ok (pairedChar lead trail, rest)
      else .error .loneSurrogate
  | _ => .error .halfSurrogatePair

def unicodeEscape (s : List Char) : Reading Char :=
  match hexFour s with
  | .error e => .error e
  | .ok (n, rest) =>
    if 0xDC00 ≤ n ∧ n ≤ 0xDFFF then .error .loneSurrogate
    else if 0xD800 ≤ n ∧ n ≤ 0xDBFF then surrogatePair n rest
    else .ok (Char.ofNat n, rest)

def shortEscape? : Char → Option Char
  | '\x22' => some '\x22'
  | '\\' => some '\\'
  | '/' => some '/'
  | 'b' => some '\x08'
  | 'f' => some '\x0c'
  | 'n' => some '\n'
  | 'r' => some '\r'
  | 't' => some '\t'
  | _ => none

def readEscape : List Char → Reading Char
  | [] => .error .endOfString
  | c :: s =>
    if c = 'u' then unicodeEscape s
    else
      match shortEscape? c with
      | some d => .ok (d, s)
      | none => .error .invalidEscape

def readSkippedEscape : List Char → Reading Unit
  | [] => .error .endOfString
  | c :: s =>
    if c = 'u' then
      match hexFour s with
      | .error e => .error e
      | .ok (_, rest) => .ok ((), rest)
    else
      match shortEscape? c with
      | some _ => .ok ((), s)
      | none => .error .invalidEscape

theorem hexFour_length {s rest : List Char} {n : Nat} (h : hexFour s = .ok (n, rest)) :
    rest.length < s.length := by
  unfold hexFour at h
  split at h
  · split at h
    · simp only [Except.ok.injEq, Prod.mk.injEq] at h
      obtain ⟨-, rfl⟩ := h
      simp only [List.length_cons]
      omega
    · simp at h
  · simp at h

theorem surrogatePair_length {lead : Nat} {s rest : List Char} {c : Char}
    (h : surrogatePair lead s = .ok (c, rest)) : rest.length < s.length := by
  unfold surrogatePair at h
  split at h
  · cases h
  · cases h
  · split at h
    · cases h
    · rename_i hx
      have := hexFour_length hx
      split at h
      · simp only [Except.ok.injEq, Prod.mk.injEq] at h
        obtain ⟨-, rfl⟩ := h
        simp only [List.length_cons]
        omega
      · cases h
  · cases h

theorem unicodeEscape_length {s rest : List Char} {c : Char}
    (h : unicodeEscape s = .ok (c, rest)) : rest.length < s.length := by
  unfold unicodeEscape at h
  split at h
  · cases h
  · rename_i hx
    have hs := hexFour_length hx
    split at h
    · cases h
    · split at h
      · exact Nat.lt_trans (surrogatePair_length h) hs
      · cases h
        exact hs

def escape : Reader Char where
  run := readEscape
  shrinks {s c rest} h := by
    unfold readEscape at h
    split at h
    · cases h
    · split at h
      · exact Nat.lt_succ_of_lt (unicodeEscape_length h)
      · split at h <;> cases h
        exact Nat.lt_succ_self _

def skippedEscape : Reader Unit where
  run := readSkippedEscape
  shrinks {s c rest} h := by
    unfold readSkippedEscape at h
    split at h
    · cases h
    · split at h
      · split at h <;> cases h
        rename_i hx
        exact Nat.lt_succ_of_lt (hexFour_length hx)
      · split at h <;> cases h
        exact Nat.lt_succ_self _

def body {α : Type} (escapes : Reader α) (plain : Char → α) (done : List α) :
    List Char → Reading (List α)
  | [] => .error .endOfString
  | c :: s =>
    if c = '\x22' then .ok (done.reverse, s)
    else if c = '\\' then
      match h : escapes.run s with
      | .error e => .error e
      | .ok (a, rest) =>
        have := escapes.shrinks h
        body escapes plain (a :: done) rest
    else if c.toNat < 0x20 then .error .controlCharacter
    else body escapes plain (plain c :: done) s
termination_by s => s.length

theorem body_length {α : Type} {escapes : Reader α} {plain : Char → α} {done result : List α}
    {s rest : List Char} (h : body escapes plain done s = .ok (result, rest)) :
    rest.length < s.length := by
  fun_induction body escapes plain done s with
  | case1 => cases h
  | case2 =>
    cases h
    exact Nat.lt_succ_self _
  | case3 => cases h
  | case4 done s hb a rest' hr hlt ih =>
    have := ih h
    rw [List.length_cons]
    omega
  | case5 => cases h
  | case6 done c s hq hb hlt ih =>
    have := ih h
    rw [List.length_cons]
    omega

def textBody : Reader String :=
  Reader.map String.ofList ⟨body escape id [], body_length⟩

def skipTextBody (s : List Char) : Except Fault (List Char) :=
  match body skippedEscape (fun _ => ()) [] s with
  | .error e => .error e
  | .ok (_, rest) => .ok rest

theorem skipTextBody_length {s rest : List Char} (h : skipTextBody s = .ok rest) :
    rest.length < s.length := by
  unfold skipTextBody at h
  split at h <;> cases h
  rename_i hb
  exact body_length hb

end WordSwap.Json
