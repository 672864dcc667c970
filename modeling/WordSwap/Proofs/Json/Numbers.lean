import WordSwap.Proofs.Json.Texts

namespace WordSwap.Json

lemma isDigit_iff (c : Char) : Numeral.isDigit c = true ↔ '0' ≤ c ∧ c ≤ '9' := by
  simp [Numeral.isDigit]

def NoDigit (s : List Char) : Prop := ∀ c ∈ s.head?, Numeral.isDigit c = false

def Stops (s : List Char) : Prop :=
  ∀ c ∈ s.head?, Numeral.isDigit c = false ∧ c ≠ '.' ∧ c ≠ 'e' ∧ c ≠ 'E'

lemma takeWhile_digits {ds s : List Char} (hd : DigitsOnly ds) (hs : NoDigit s) :
    (ds ++ s).takeWhile Numeral.isDigit = ds := by
  rw [List.takeWhile_append_of_pos fun c hc => (isDigit_iff c).mpr (hd.2 c hc)]
  cases s with
  | nil => exact List.append_nil ds
  | cons c s => rw [List.takeWhile_cons_of_neg (by simp [hs c rfl]), List.append_nil]

lemma dropWhile_digits {ds s : List Char} (hd : DigitsOnly ds) (hs : NoDigit s) :
    (ds ++ s).dropWhile Numeral.isDigit = s := by
  rw [List.dropWhile_append_of_pos fun c hc => (isDigit_iff c).mpr (hd.2 c hc)]
  cases s with
  | nil => rfl
  | cons c s => exact List.dropWhile_cons_of_neg (by simp [hs c rfl])

lemma digits_append {ds s : List Char} (hd : DigitsOnly ds) (hs : NoDigit s) :
    digits (ds ++ s) = .ok (ds, s) := by
  obtain ⟨d, ds, rfl⟩ := List.exists_cons_of_ne_nil hd.1
  simp only [digits, takeWhile_digits hd hs, dropWhile_digits hd hs]

lemma wholePart_append {whole s : List Char} (h : WholeForm whole) (hs : NoDigit s) :
    wholePart (whole ++ s) = .ok (whole, s) := by
  cases h with
  | zero =>
    have ht : s.takeWhile Numeral.isDigit = [] := by
      cases s with
      | nil => rfl
      | cons c s => exact List.takeWhile_cons_of_neg (by simp [hs c rfl])
    simp [wholePart, ht]
  | other hd hz =>
    obtain ⟨d, ds, rfl⟩ := List.exists_cons_of_ne_nil hd.1
    have hd0 : d ≠ '0' := by simpa using hz
    rw [← digits_append hd hs, List.cons_append, wholePart]
    simpa using hd0

lemma fractionPart_append {fraction s : List Char} (h : FractionForm fraction) (hs : NoDigit s)
    (hp : '.' ∉ s.head?) : ∃ ds, fractionPart (fraction ++ s) = .ok (ds, s) := by
  cases h with
  | absent =>
    refine ⟨none, ?_⟩
    rw [List.nil_append, fractionPart]
    rintro t rfl
    exact hp rfl
  | @present ds hd =>
    refine ⟨some ds, ?_⟩
    rw [List.cons_append, fractionPart, digits_append hd hs]

lemma signPart_digits {sign ds : List Char} (h : sign = [] ∨ sign = ['+'] ∨ sign = ['-'])
    (hd : DigitsOnly ds) (s : List Char) : (signPart (sign ++ (ds ++ s))).2 = ds ++ s := by
  rcases h with rfl | rfl | rfl
  · obtain ⟨d, ds, rfl⟩ := List.exists_cons_of_ne_nil hd.1
    have hdigit := hd.2 d List.mem_cons_self
    rw [List.nil_append, signPart]
    · rintro t ⟨⟩
      exact absurd hdigit (by decide)
    · rintro t ⟨⟩
      exact absurd hdigit (by decide)
  · rfl
  · rfl

lemma exponentPart_append {exponent s : List Char} (h : ExponentForm exponent) (hs : Stops s) :
    ∃ ds, exponentPart (exponent ++ s) = .ok (ds, s) := by
  cases h with
  | absent =>
    refine ⟨none, ?_⟩
    cases s with
    | nil => rfl
    | cons c s =>
      obtain ⟨-, -, he, hE⟩ := hs c rfl
      simp [exponentPart, he, hE]
  | @present e sign ds he hsign hd =>
    have hdigits : digits (ds ++ s) = .ok (ds, s) := digits_append hd fun c hc => (hs c hc).1
    refine ⟨some ((signPart (sign ++ (ds ++ s))).1, ds), ?_⟩
    rw [List.append_assoc, List.cons_append, exponentPart, if_pos he, signPart_digits hsign hd,
      hdigits]

lemma exponent_head {exponent s : List Char} (h : ExponentForm exponent) (hs : Stops s) :
    NoDigit (exponent ++ s) ∧ '.' ∉ (exponent ++ s).head? := by
  cases h with
  | absent => exact ⟨fun c hc => (hs c hc).1, fun hc => (hs '.' hc).2.1 rfl⟩
  | present he _ _ =>
    rcases he with rfl | rfl <;> exact ⟨by rintro c ⟨⟩; decide, by simp⟩

lemma fraction_head {fraction s : List Char} (h : FractionForm fraction) (hs : NoDigit s) :
    NoDigit (fraction ++ s) := by
  cases h with
  | absent => exact hs
  | present _ => rintro c ⟨⟩; decide

lemma minusPart_whole {minus whole : List Char} (hm : minus = [] ∨ minus = ['-'])
    (hw : WholeForm whole) (s : List Char) :
    (minusPart (minus ++ (whole ++ s))).2 = whole ++ s := by
  rcases hm with rfl | rfl
  · cases hw with
    | zero => rfl
    | other hd _ =>
      obtain ⟨d, ds, rfl⟩ := List.exists_cons_of_ne_nil hd.1
      have hdigit := hd.2 d List.mem_cons_self
      rw [List.nil_append, minusPart]
      rintro t ⟨⟩
      exact absurd hdigit (by decide)
  · rfl

lemma skipNumber_append {number s : List Char} (h : NumberForm number) (hs : Stops s) :
    skipNumber (number ++ s) = .ok s := by
  obtain @⟨minus, whole, fraction, exponent, hm, hw, hf, he⟩ := h
  obtain ⟨hnodigit, hnopoint⟩ := exponent_head he hs
  obtain ⟨ds, hfraction⟩ := fractionPart_append hf hnodigit hnopoint
  obtain ⟨es, hexponent⟩ := exponentPart_append he hs
  simp only [List.append_assoc, skipNumber, numberText, minusPart_whole hm hw,
    wholePart_append hw (fraction_head hf hnodigit), hfraction, hexponent]

lemma number_head {number : List Char} (h : NumberForm number) :
    ∃ c s, number = c :: s ∧ (c = '-' ∨ Numeral.isDigit c = true) := by
  obtain @⟨minus, whole, fraction, exponent, hm, hw, hf, he⟩ := h
  rcases hm with rfl | rfl
  · cases hw with
    | zero => exact ⟨_, _, rfl, Or.inr rfl⟩
    | other hd _ =>
      obtain ⟨d, ds, rfl⟩ := List.exists_cons_of_ne_nil hd.1
      exact ⟨_, _, rfl, Or.inr ((isDigit_iff d).mpr (hd.2 d List.mem_cons_self))⟩
  · exact ⟨_, _, rfl, Or.inl rfl⟩

end WordSwap.Json
