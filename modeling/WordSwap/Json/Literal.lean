import WordSwap.Json.Reader

namespace WordSwap.Json

def word : List Char → List Char → Except Fault (List Char)
  | [], s => .ok s
  | _ :: _, [] => .error .endOfValue
  | c :: cs, d :: s => if c = d then word cs s else .error .expectedWord

theorem word_length {cs s rest : List Char} (h : word cs s = .ok rest) :
    rest.length ≤ s.length := by
  induction cs generalizing s with
  | nil => cases h; exact Nat.le_refl _
  | cons c cs ih =>
    cases s with
    | nil => cases h
    | cons d s =>
      rw [word] at h
      split at h
      · exact Nat.le_succ_of_le (ih h)
      · cases h

def digits (s : List Char) : Reading (List Char) :=
  match s.takeWhile Numeral.isDigit, s.dropWhile Numeral.isDigit with
  | [], [] => .error .endOfValue
  | [], _ :: _ => .error .invalidNumber
  | d :: ds, rest => .ok (d :: ds, rest)

def wholePart : List Char → Reading (List Char)
  | '0' :: rest => if (rest.takeWhile Numeral.isDigit).isEmpty then .ok (['0'], rest)
      else .error .invalidNumber
  | s => digits s

def fractionPart : List Char → Reading (Option (List Char))
  | '.' :: s =>
    match digits s with
    | .error e => .error e
    | .ok (ds, rest) => .ok (some ds, rest)
  | s => .ok (none, s)

def signPart : List Char → Bool × List Char
  | '-' :: rest => (true, rest)
  | '+' :: rest => (false, rest)
  | s => (false, s)

def exponentPart : List Char → Reading (Option (Bool × List Char))
  | [] => .ok (none, [])
  | c :: s =>
    if c = 'e' ∨ c = 'E' then
      match digits (signPart s).2 with
      | .error e => .error e
      | .ok (ds, rest) => .ok (some ((signPart s).1, ds), rest)
    else .ok (none, c :: s)

def minusPart : List Char → Bool × List Char
  | '-' :: rest => (true, rest)
  | s => (false, s)

def numberText (s : List Char) : Reading NumberText :=
  match wholePart (minusPart s).2 with
  | .error e => .error e
  | .ok (whole, afterWhole) =>
    match fractionPart afterWhole with
    | .error e => .error e
    | .ok (fraction, afterFraction) =>
      match exponentPart afterFraction with
      | .error e => .error e
      | .ok (exponent, rest) => .ok (⟨(minusPart s).1, whole, fraction, exponent⟩, rest)

theorem digits_length {s ds rest : List Char} (h : digits s = .ok (ds, rest)) :
    rest.length < s.length := by
  have hs := congrArg List.length (List.takeWhile_append_dropWhile (p := Numeral.isDigit) (l := s))
  rw [List.length_append] at hs
  rw [digits] at h
  split at h <;> cases h
  rename_i ht
  rw [ht, List.length_cons] at hs
  omega

theorem wholePart_length {s ds rest : List Char} (h : wholePart s = .ok (ds, rest)) :
    rest.length < s.length := by
  unfold wholePart at h
  split at h
  · split at h <;> cases h
    exact Nat.lt_succ_self _
  · exact digits_length h

theorem fractionPart_length {s rest : List Char} {ds : Option (List Char)}
    (h : fractionPart s = .ok (ds, rest)) : rest.length ≤ s.length := by
  unfold fractionPart at h
  split at h
  · split at h <;> cases h
    rename_i hd
    exact Nat.le_succ_of_le (Nat.le_of_lt (digits_length hd))
  · cases h
    exact Nat.le_refl _

theorem signPart_length (s : List Char) : (signPart s).2.length ≤ s.length := by
  unfold signPart
  split <;> simp

theorem minusPart_length (s : List Char) : (minusPart s).2.length ≤ s.length := by
  unfold minusPart
  split <;> simp

theorem exponentPart_length {s rest : List Char} {ds : Option (Bool × List Char)}
    (h : exponentPart s = .ok (ds, rest)) : rest.length ≤ s.length := by
  unfold exponentPart at h
  split at h
  · cases h
    exact Nat.le_refl _
  · rename_i c t
    split at h
    · split at h <;> cases h
      rename_i hd
      have := digits_length hd
      have := signPart_length t
      rw [List.length_cons]
      omega
    · cases h
      exact Nat.le_refl _

theorem numberText_length {s rest : List Char} {t : NumberText}
    (h : numberText s = .ok (t, rest)) : rest.length < s.length := by
  unfold numberText at h
  split at h
  · cases h
  · rename_i hw
    split at h
    · cases h
    · rename_i hf
      split at h <;> cases h
      rename_i he
      have := wholePart_length hw
      have := fractionPart_length hf
      have := exponentPart_length he
      have := minusPart_length s
      omega

def number (s : List Char) : Reading Number :=
  match numberText s with
  | .error e => .error e
  | .ok (t, rest) =>
    match Number.ofText? t with
    | none => .error .numberOutOfRange
    | some n => .ok (n, rest)

def skipNumber (s : List Char) : Except Fault (List Char) :=
  match numberText s with
  | .error _ => .error .invalidNumber
  | .ok (_, rest) => .ok rest

theorem skipNumber_length {s rest : List Char} (h : skipNumber s = .ok rest) :
    rest.length < s.length := by
  unfold skipNumber at h
  split at h <;> cases h
  rename_i hn
  exact numberText_length hn

end WordSwap.Json
