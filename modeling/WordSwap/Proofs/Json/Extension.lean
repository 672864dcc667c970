import WordSwap.Proofs.Json.Foreign

/-! What is read from a text is read as well from every longer one. A number ends where something
else stands, so the text may not end with one. -/

namespace WordSwap.Json

section

variable {α β : Type}

def Reader.Steady (r : Reader α) : Prop :=
  ∀ ⦃s a rest⦄, r.run s = .ok (a, rest) → ∀ t, r.run (s ++ t) = .ok (a, rest ++ t)

lemma Reader.Steady.map {r : Reader α} (hr : r.Steady) (f : α → β) : (r.map f).Steady := by
  intro s b rest h t
  cases hs : r.run s with
  | error e => simp [Reader.map, hs] at h
  | ok p =>
    simp only [Reader.map, hs] at h
    simp only [Reader.map, hr hs t]
    grind

end

section

variable {s rest : List Char}

lemma dropWhile_extend {p : Char → Bool} {c : Char} (h : s.dropWhile p = c :: rest)
    (t : List Char) : (s ++ t).dropWhile p = c :: (rest ++ t) := by
  rw [List.dropWhile_append, h]
  rfl

lemma skipBlank_extend {c : Char} (h : skipBlank s = c :: rest) (t : List Char) :
    skipBlank (s ++ t) = c :: (rest ++ t) :=
  dropWhile_extend h t

lemma colon_extend (h : colon s = .ok rest) (t : List Char) :
    colon (s ++ t) = .ok (rest ++ t) := by
  cases hs : skipBlank s with
  | nil => simp [colon, hs] at h
  | cons c u =>
    simp only [colon, hs] at h
    simp only [colon, skipBlank_extend hs]
    grind

lemma listOpening_extend {more : Bool} (h : listOpening s = .ok (more, rest)) (t : List Char) :
    listOpening (s ++ t) = .ok (more, rest ++ t) := by
  cases hs : skipBlank s with
  | nil => simp [listOpening, hs] at h
  | cons c u =>
    simp only [listOpening, hs] at h
    simp only [listOpening, skipBlank_extend hs]
    grind

lemma listSeparator_extend {more : Bool} (h : listSeparator s = .ok (more, rest))
    (t : List Char) : listSeparator (s ++ t) = .ok (more, rest ++ t) := by
  cases hs : skipBlank s with
  | nil => simp [listSeparator, hs] at h
  | cons c u =>
    simp only [listSeparator, hs] at h
    simp only [listSeparator, skipBlank_extend hs]
    cases hu : skipBlank u with
    | nil => grind
    | cons d v =>
      simp only [hu] at h
      simp only [skipBlank_extend hu]
      grind

lemma listClosing_extend (h : listClosing s = .ok rest) (t : List Char) :
    listClosing (s ++ t) = .ok (rest ++ t) := by
  cases hs : skipBlank s with
  | nil => simp [listClosing, hs] at h
  | cons c u =>
    simp only [listClosing, hs] at h
    simp only [listClosing, skipBlank_extend hs]
    grind

lemma objectOpening_extend {more : Bool} (h : objectOpening s = .ok (more, rest))
    (t : List Char) : objectOpening (s ++ t) = .ok (more, rest ++ t) := by
  cases hs : skipBlank s with
  | nil => simp [objectOpening, hs] at h
  | cons c u =>
    simp only [objectOpening, hs] at h
    simp only [objectOpening, skipBlank_extend hs]
    grind

lemma objectSeparator_extend {more : Bool} (h : objectSeparator s = .ok (more, rest))
    (t : List Char) : objectSeparator (s ++ t) = .ok (more, rest ++ t) := by
  cases hs : skipBlank s with
  | nil => simp [objectSeparator, hs] at h
  | cons c u =>
    simp only [objectSeparator, hs] at h
    simp only [objectSeparator, skipBlank_extend hs]
    cases hu : skipBlank u with
    | nil => grind
    | cons d v =>
      simp only [hu] at h
      simp only [skipBlank_extend hu]
      grind

lemma word_extend {w : List Char} (h : word w s = .ok rest) (t : List Char) :
    word w (s ++ t) = .ok (rest ++ t) := by
  induction w generalizing s with
  | nil => grind [word]
  | cons c w ih => cases s <;> grind [word]

lemma hexFour_extend {n : Nat} (h : hexFour s = .ok (n, rest)) (t : List Char) :
    hexFour (s ++ t) = .ok (n, rest ++ t) := by
  rcases s with _ | ⟨a, _ | ⟨b, _ | ⟨c, _ | ⟨d, s⟩⟩⟩⟩
  case cons.cons.cons.cons =>
    cases hn : hexNumber? a b c d with
    | none => simp [hexFour, hn] at h
    | some m =>
      simp only [hexFour, hn] at h
      simp only [List.cons_append, hexFour, hn]
      grind
  all_goals cases h

lemma surrogatePair_extend {lead : Nat} {c : Char} (h : surrogatePair lead s = .ok (c, rest))
    (t : List Char) : surrogatePair lead (s ++ t) = .ok (c, rest ++ t) := by
  unfold surrogatePair at h
  split at h
  case h_3 u =>
    cases hu : hexFour u with
    | error e => simp [hu] at h
    | ok p =>
      simp only [hu] at h
      simp only [List.cons_append, surrogatePair, hexFour_extend hu t]
      grind
  all_goals cases h

lemma unicodeEscape_extend {c : Char} (h : unicodeEscape s = .ok (c, rest)) (t : List Char) :
    unicodeEscape (s ++ t) = .ok (c, rest ++ t) := by
  cases hs : hexFour s with
  | error e => simp [unicodeEscape, hs] at h
  | ok p =>
    simp only [unicodeEscape, hs] at h
    simp only [unicodeEscape, hexFour_extend hs t]
    grind [surrogatePair_extend]

end

section

variable {α : Type}

lemma escape_steady : escape.Steady := by
  intro s c rest h t
  simp only [escape] at h ⊢
  cases s with
  | nil => cases h
  | cons d s =>
    simp only [readEscape] at h
    simp only [List.cons_append, readEscape]
    split at h
    next hd => rw [if_pos hd, unicodeEscape_extend h]
    next hd =>
      rw [if_neg hd]
      split at h <;> cases h
      rfl

lemma skippedEscape_steady : skippedEscape.Steady := by
  intro s c rest h t
  simp only [skippedEscape] at h ⊢
  cases s with
  | nil => cases h
  | cons d s =>
    simp only [readSkippedEscape] at h
    simp only [List.cons_append, readSkippedEscape]
    split at h
    next hd =>
      rw [if_pos hd]
      split at h <;> cases h
      rename_i hs
      rw [hexFour_extend hs]
    next hd =>
      rw [if_neg hd]
      split at h <;> cases h
      rfl

lemma body_extend {escapes : Reader α} (he : escapes.Steady) {plain : Char → α}
    {done result : List α} {s rest : List Char}
    (h : body escapes plain done s = .ok (result, rest)) (t : List Char) :
    body escapes plain done (s ++ t) = .ok (result, rest ++ t) := by
  fun_induction body escapes plain done s with
  | case1 => cases h
  | case2 => cases h; simp [body]
  | case3 => cases h
  | case4 done s a rest' hr hlt hq ih =>
    rw [List.cons_append, body_escape (he hr t), ih h]
  | case5 => cases h
  | case6 done c s hq hb hlt ih =>
    rw [List.cons_append, body_plain ⟨hq, hb, by omega⟩, ih h]

lemma textBody_steady : textBody.Steady := by
  apply Reader.Steady.map
  intro s a rest h
  exact body_extend escape_steady h

lemma skipTextBody_extend {s rest : List Char} (h : skipTextBody s = .ok rest) (t : List Char) :
    skipTextBody (s ++ t) = .ok (rest ++ t) := by
  cases hs : body skippedEscape (fun _ => ()) [] s with
  | error e => simp [skipTextBody, hs] at h
  | ok p =>
    simp only [skipTextBody, hs] at h
    simp only [skipTextBody, body_extend skippedEscape_steady hs t]
    grind

end

section

variable {s rest : List Char}

lemma takeWhile_extend {p : Char → Bool} (h : s.dropWhile p ≠ []) (t : List Char) :
    (s ++ t).takeWhile p = s.takeWhile p := by
  rw [List.takeWhile_append, if_neg]
  intro hlength
  have hsplit := congrArg List.length (List.takeWhile_append_dropWhile (p := p) (l := s))
  rw [List.length_append, hlength] at hsplit
  exact h (List.length_eq_zero_iff.mp (by omega))

lemma ne_nil_of_length_le (h : rest.length ≤ s.length) (hrest : rest ≠ []) : s ≠ [] :=
  List.ne_nil_of_length_pos (Nat.lt_of_lt_of_le (List.length_pos_iff.mpr hrest) h)

lemma digits_extend {ds : List Char} (h : digits s = .ok (ds, rest)) (hrest : rest ≠ [])
    (t : List Char) : digits (s ++ t) = .ok (ds, rest ++ t) := by
  rw [digits] at h
  split at h <;> cases h
  rename_i htake
  obtain ⟨c, u, hdrop⟩ := List.exists_cons_of_ne_nil hrest
  rw [digits, dropWhile_extend hdrop, takeWhile_extend hrest, htake, hdrop]
  rfl

lemma wholePart_extend {ds : List Char} (h : wholePart s = .ok (ds, rest)) (hrest : rest ≠ [])
    (t : List Char) : wholePart (s ++ t) = .ok (ds, rest ++ t) := by
  unfold wholePart at h
  split at h
  next u =>
    split at h <;> cases h
    rename_i hu
    obtain ⟨c, rest, rfl⟩ := List.exists_cons_of_ne_nil hrest
    simp only [List.cons_append, wholePart]
    grind [List.takeWhile_cons]
  next hzero =>
    have hs : s ≠ [] := by
      rintro rfl
      cases h
    obtain ⟨d, u, rfl⟩ := List.exists_cons_of_ne_nil hs
    rw [← digits_extend h hrest, List.cons_append, wholePart]
    rintro v ⟨⟩
    exact hzero u rfl

lemma fractionPart_extend {ds : Option (List Char)} (h : fractionPart s = .ok (ds, rest))
    (hrest : rest ≠ []) (t : List Char) : fractionPart (s ++ t) = .ok (ds, rest ++ t) := by
  unfold fractionPart at h
  split at h
  next u =>
    split at h <;> cases h
    rename_i hd
    rw [List.cons_append, fractionPart, digits_extend hd hrest]
  next hpoint =>
    cases h
    obtain ⟨c, rest, rfl⟩ := List.exists_cons_of_ne_nil hrest
    rw [List.cons_append, fractionPart]
    rintro v ⟨⟩
    exact hpoint rest rfl

lemma signPart_extend (h : s ≠ []) (t : List Char) :
    signPart (s ++ t) = ((signPart s).1, (signPart s).2 ++ t) := by
  obtain ⟨c, s, rfl⟩ := List.exists_cons_of_ne_nil h
  unfold signPart
  grind

lemma minusPart_extend (h : s ≠ []) (t : List Char) :
    minusPart (s ++ t) = ((minusPart s).1, (minusPart s).2 ++ t) := by
  obtain ⟨c, s, rfl⟩ := List.exists_cons_of_ne_nil h
  unfold minusPart
  grind

lemma exponentPart_extend {ds : Option (Bool × List Char)}
    (h : exponentPart s = .ok (ds, rest)) (hrest : rest ≠ []) (t : List Char) :
    exponentPart (s ++ t) = .ok (ds, rest ++ t) := by
  cases s with
  | nil => cases h; exact absurd rfl hrest
  | cons c s =>
    rw [exponentPart] at h
    rw [List.cons_append, exponentPart]
    split at h
    next hc =>
      rw [if_pos hc]
      split at h <;> cases h
      rename_i hd
      have hs : s ≠ [] := by
        rintro rfl
        cases hd
      rw [signPart_extend hs, digits_extend hd hrest]
    next hc =>
      cases h
      rw [if_neg hc, List.cons_append]

lemma numberText_extend {n : NumberText} (h : numberText s = .ok (n, rest)) (hrest : rest ≠ [])
    (t : List Char) : numberText (s ++ t) = .ok (n, rest ++ t) := by
  have hs : s ≠ [] := by
    rintro rfl
    cases h
  unfold numberText at h
  split at h
  · cases h
  · rename_i afterWhole hw
    split at h
    · cases h
    · rename_i afterFraction hf
      split at h <;> cases h
      rename_i he
      have hfraction : afterFraction ≠ [] := ne_nil_of_length_le (exponentPart_length he) hrest
      have hwhole : afterWhole ≠ [] := ne_nil_of_length_le (fractionPart_length hf) hfraction
      simp only [numberText, minusPart_extend hs, wholePart_extend hw hwhole,
        fractionPart_extend hf hfraction, exponentPart_extend he hrest]

lemma skipNumber_extend (h : skipNumber s = .ok rest) (hrest : rest ≠ []) (t : List Char) :
    skipNumber (s ++ t) = .ok (rest ++ t) := by
  unfold skipNumber at h
  split at h <;> cases h
  rename_i hn
  rw [skipNumber, numberText_extend hn hrest]

lemma skipScalar_extend {c : Char} (h : skipScalar c s = .ok rest) (hrest : rest ≠ [])
    (t : List Char) : skipScalar c (s ++ t) = .ok (rest ++ t) := by
  unfold skipScalar at h ⊢
  split_ifs at h ⊢
  · exact skipTextBody_extend h t
  · exact word_extend h t
  · exact word_extend h t
  · exact word_extend h t
  · exact skipNumber_extend h hrest t

lemma skipKey_extend (h : skipKey s = .ok rest) (t : List Char) :
    skipKey (s ++ t) = .ok (rest ++ t) := by
  cases hs : skipBlank s with
  | nil => simp [skipKey, hs] at h
  | cons c u =>
    simp only [skipKey, hs] at h
    split at h
    · split at h
      · cases h
      · rename_i hc _ _ hu
        simp only [skipKey, skipBlank_extend hs, if_pos hc, skipTextBody_extend hu,
          colon_extend h]
    · cases h

lemma skipFrom_extend {awaited : Awaited} {enclosing : List Bracket}
    (h : skipFrom awaited enclosing s = .ok rest) (hrest : rest ≠ []) (t : List Char) :
    skipFrom awaited enclosing (s ++ t) = .ok (rest ++ t) := by
  fun_induction skipFrom awaited enclosing s with
  | case1 => cases h
  | case2 => cases h
  | case3 enclosing s u v hs _ hu _ ih =>
    have hs' : skipBlank (s ++ t) = Bracket.list.opening :: (u ++ t) := skipBlank_extend hs t
    rw [← ih h]
    exact skipFrom_empty hs' (skipBlank_extend hu t)
  | case4 enclosing s u d v hu _ hd hs _ ih =>
    have hs' : skipBlank (s ++ t) = Bracket.list.opening :: (u ++ t) := skipBlank_extend hs t
    rw [← ih h]
    exact skipFrom_open hs' (skipBlank_extend hu t) hd
  | case5 => cases h
  | case6 enclosing s u v hs _ _ hu _ ih =>
    have hs' : skipBlank (s ++ t) = Bracket.object.opening :: (u ++ t) := skipBlank_extend hs t
    rw [← ih h]
    exact skipFrom_empty hs' (skipBlank_extend hu t)
  | case7 enclosing s u d v hu _ hd hs _ _ ih =>
    have hs' : skipBlank (s ++ t) = Bracket.object.opening :: (u ++ t) := skipBlank_extend hs t
    rw [← ih h]
    exact skipFrom_open hs' (skipBlank_extend hu t) hd
  | case8 => cases h
  | case9 enclosing s c u hs _ hlist hobject after hu _ ih =>
    have hafter : after ≠ [] := ne_nil_of_length_le (skipFrom_length_le h) hrest
    rw [← ih h]
    exact skipFrom_scalar (skipBlank_extend hs t) hlist hobject (skipScalar_extend hu hafter t)
  | case10 => cases h
  | case11 enclosing s u hs _ ih =>
    rw [← ih h]
    exact skipFrom_key (skipKey_extend hs t)
  | case12 s =>
    cases h
    rw [skipFrom]
  | case13 => cases h
  | case14 s b outer u hs _ ih =>
    rw [← ih h]
    exact skipFrom_close (skipBlank_extend hs t)
  | case15 s b outer u hs _ _ ih =>
    rw [← ih h]
    exact skipFrom_comma (skipBlank_extend hs t)
  | case16 => cases h

lemma skipValue_extend (h : skipValue s = .ok rest) (hrest : rest ≠ []) (t : List Char) :
    skipValue (s ++ t) = .ok (rest ++ t) :=
  skipFrom_extend h hrest t

end

end WordSwap.Json
