import WordSwap.Json.Fault

namespace WordSwap.Json

abbrev Reading (α : Type) := Except Fault (α × List Char)

structure Reader (α : Type) where
  run : List Char → Reading α
  shrinks : ∀ {s a rest}, run s = .ok (a, rest) → rest.length < s.length

def isBlank (c : Char) : Bool := c == ' ' || c == '\t' || c == '\n' || c == '\r'

def skipBlank (s : List Char) : List Char := s.dropWhile isBlank

theorem skipBlank_length_le (s : List Char) : (skipBlank s).length ≤ s.length :=
  (List.dropWhile_sublist isBlank).length_le

theorem length_lt_of_skipBlank {s rest : List Char} {c : Char} (h : skipBlank s = c :: rest) :
    rest.length < s.length := by
  have := skipBlank_length_le s
  rw [h, List.length_cons] at this
  omega

namespace Reader

variable {α β : Type}

def map (f : α → β) (r : Reader α) : Reader β where
  run s :=
    match r.run s with
    | .error e => .error e
    | .ok (a, rest) => .ok (f a, rest)
  shrinks {s b rest} h := by
    cases hr : r.run s with
    | error e => simp [hr] at h
    | ok p =>
      obtain ⟨a, rest'⟩ := p
      simp only [hr, Except.ok.injEq, Prod.mk.injEq] at h
      obtain ⟨-, rfl⟩ := h
      exact r.shrinks hr

def whole (r : Reader α) (s : List Char) : Except Fault α :=
  match r.run s with
  | .error e => .error e
  | .ok (a, rest) => if (skipBlank rest).isEmpty then .ok a else .error .trailingCharacters

end Reader

end WordSwap.Json
