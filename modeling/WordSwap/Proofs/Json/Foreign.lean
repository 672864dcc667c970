import WordSwap.Proofs.Json.Numbers

namespace WordSwap.Json

lemma stops_blank_cons {w : List Char} (hw : Blank w) {c : Char}
    (hc : c = ',' ∨ c = ']' ∨ c = '\x7d') (s : List Char) : Stops (w ++ c :: s) := by
  cases w with
  | nil =>
    rintro d ⟨⟩
    rcases hc with rfl | rfl | rfl <;> decide
  | cons b w =>
    rintro d ⟨⟩
    rcases hw b List.mem_cons_self with rfl | rfl | rfl | rfl <;> decide

namespace Bracket

def awaits : Bracket → Awaited
  | .list => .value
  | .object => .key

lemma closing_mark (b : Bracket) : b.closing = ',' ∨ b.closing = ']' ∨ b.closing = '\x7d' := by
  cases b <;> decide

lemma isBlank_closing (b : Bracket) : isBlank b.closing = false := by cases b <;> rfl

end Bracket

section

variable {enclosing : List Bracket} {b : Bracket} {s t u : List Char}

lemma skipFrom_bracket (hs : skipBlank s = b.opening :: t) :
    skipFrom .value enclosing s =
      match skipBlank t with
      | [] => .error b.unclosed
      | d :: inside =>
        if d = b.closing then skipFrom .mark enclosing inside
        else skipFrom b.awaits (b :: enclosing) (d :: inside) := by
  cases b with
  | list =>
    change skipBlank s = '[' :: t at hs
    rw [skipFrom]
    split
    next h => rw [hs] at h; cases h
    next h =>
      rw [hs] at h
      cases h
      simp only [if_true]
      split
      next ht => simp only [ht]; rfl
      next ht => simp only [ht]; rfl
  | object =>
    change skipBlank s = '\x7b' :: t at hs
    rw [skipFrom]
    split
    next h => rw [hs] at h; cases h
    next h =>
      rw [hs] at h
      cases h
      rw [if_neg (by decide), if_pos rfl]
      split
      next ht => simp only [ht]; rfl
      next ht => simp only [ht]; rfl

lemma skipFrom_empty (hs : skipBlank s = b.opening :: t) (ht : skipBlank t = b.closing :: u) :
    skipFrom .value enclosing s = skipFrom .mark enclosing u := by
  simp only [skipFrom_bracket hs, ht, if_true]

lemma skipFrom_open {d : Char} (hs : skipBlank s = b.opening :: t) (ht : skipBlank t = d :: u)
    (hd : d ≠ b.closing) :
    skipFrom .value enclosing s = skipFrom b.awaits (b :: enclosing) (d :: u) := by
  simp only [skipFrom_bracket hs, ht, if_neg hd]

lemma skipFrom_scalar {c : Char} (hs : skipBlank s = c :: t) (hlist : c ≠ '[')
    (hobject : c ≠ '\x7b') (ht : skipScalar c t = .ok u) :
    skipFrom .value enclosing s = skipFrom .mark enclosing u := by
  rw [skipFrom]
  split
  next h => rw [hs] at h; cases h
  next h =>
    rw [hs] at h
    cases h
    rw [if_neg hlist, if_neg hobject]
    split
    next he => rw [ht] at he; cases he
    next he => rw [ht] at he; cases he; rfl

lemma skipFrom_key (hs : skipKey s = .ok t) :
    skipFrom .key enclosing s = skipFrom .value enclosing t := by
  conv_lhs => rw [skipFrom]
  split
  next h => rw [hs] at h; cases h
  next h => rw [hs] at h; cases h; rfl

lemma skipFrom_close (hs : skipBlank s = b.closing :: t) :
    skipFrom .mark (b :: enclosing) s = skipFrom .mark enclosing t := by
  conv_lhs => rw [skipFrom.eq_def]
  simp only
  split
  next h => rw [hs] at h; cases h
  next h => rw [hs] at h; cases h; rw [if_pos rfl]

lemma skipFrom_comma (hs : skipBlank s = ',' :: t) :
    skipFrom .mark (b :: enclosing) s = skipFrom b.awaits (b :: enclosing) t := by
  conv_lhs => rw [skipFrom.eq_def]
  simp only
  split
  next h => rw [hs] at h; cases h
  next h =>
    rw [hs] at h
    cases h
    cases b <;> rfl

end

lemma foreignText_solid {s : List Char} (h : ForeignText s) : Solid s := by
  obtain ⟨units, inside, -, rfl⟩ := h
  exact ⟨_, _, rfl, by decide⟩

lemma number_solid {s : List Char} (h : NumberForm s) : Solid s := by
  obtain ⟨c, t, rfl, hc⟩ := number_head h
  refine ⟨c, t, rfl, ?_⟩
  rcases hc with rfl | hc
  · decide
  · refine ⟨?_, ?_, ?_⟩
    · by_contra hblank
      rw [Bool.not_eq_false, isBlank_iff] at hblank
      rcases hblank with rfl | rfl | rfl | rfl <;> cases hc
    · rintro rfl
      cases hc
    · rintro rfl
      cases hc

lemma opening_solid (b : Bracket) (s : List Char) : Solid (b.opening :: s) := by
  cases b <;> exact ⟨_, _, rfl, by decide⟩

lemma value_solid {s : List Char} (h : Foreign .value s) : Solid s := by
  cases h with
  | word hw =>
    simp only [List.mem_cons, List.not_mem_nil, or_false] at hw
    rcases hw with rfl | rfl | rfl <;> exact ⟨_, _, rfl, by decide⟩
  | number hn => exact number_solid hn
  | text ht => exact foreignText_solid ht
  | @empty b _ _ => exact opening_solid b _
  | @full b _ _ => exact opening_solid b _

lemma item_solid {b : Bracket} {s : List Char} (h : Foreign (.item b) s) : Solid s := by
  cases h with
  | element hv => exact value_solid hv
  | member hk _ _ _ =>
    simpa only [List.append_assoc] using (foreignText_solid hk).append _

lemma items_solid {b : Bracket} {s : List Char} (h : Foreign (.items b) s) (rest : List Char) :
    Solid (skipBlank (s ++ rest)) := by
  cases h with
  | last hv hi _ => simpa only [List.append_assoc] using solid_behind hv (item_solid hi) _
  | more hv hi _ _ => simpa only [List.append_assoc] using solid_behind hv (item_solid hi) _

lemma skipScalar_word {w : String} (hw : w ∈ ["null", "true", "false"]) (rest : List Char) :
    ∃ c t, w.toList = c :: t ∧ c ≠ '[' ∧ c ≠ '\x7b' ∧ skipScalar c (t ++ rest) = .ok rest := by
  simp only [List.mem_cons, List.not_mem_nil, or_false] at hw
  rcases hw with rfl | rfl | rfl <;> exact ⟨_, _, rfl, by decide, by decide, rfl⟩

lemma skipScalar_number {number rest : List Char} (h : NumberForm number) (hs : Stops rest) :
    ∃ c t, number = c :: t ∧ c ≠ '[' ∧ c ≠ '\x7b' ∧ skipScalar c (t ++ rest) = .ok rest := by
  have hskip := skipNumber_append h hs
  obtain ⟨c, t, rfl, hc⟩ := number_head h
  have hne (d : Char) (hd : d ≠ '-' ∧ Numeral.isDigit d = false) : c ≠ d := by
    rintro rfl
    rcases hc with rfl | hc
    · exact hd.1 rfl
    · rw [hd.2] at hc
      cases hc
  refine ⟨c, t, rfl, hne _ (by decide), hne _ (by decide), ?_⟩
  rw [skipScalar, if_neg (hne _ (by decide)), if_neg (hne _ (by decide)),
    if_neg (hne _ (by decide)), if_neg (hne _ (by decide)), if_pos hc]
  exact hskip

def Skipped : Part → List Char → Prop
  | .value, s => ∀ enclosing t rest, Stops rest → skipBlank t = s ++ rest →
      skipFrom .value enclosing t = skipFrom .mark enclosing rest
  | .item b, s => ∀ enclosing t rest, Stops rest → skipBlank t = s ++ rest →
      skipFrom b.awaits (b :: enclosing) t = skipFrom .mark (b :: enclosing) rest
  | .items b, s => ∀ enclosing t rest, skipBlank t = skipBlank (s ++ b.closing :: rest) →
      skipFrom b.awaits (b :: enclosing) t = skipFrom .mark enclosing rest

lemma skipKey_foreignText {k v s t : List Char} (hk : ForeignText k) (hv : Blank v)
    (ht : skipBlank t = k ++ (v ++ ':' :: s)) : skipKey t = .ok s := by
  obtain ⟨units, inside, hinside, rfl⟩ := hk
  rw [skipKey, ht, List.cons_append, List.append_assoc, List.singleton_append]
  simp only [if_true, skipTextBody_append hinside, colon_written hv]

lemma foreign_skipped {p : Part} {s : List Char} (h : Foreign p s) : Skipped p s := by
  induction h with
  | word hw =>
    intro enclosing t rest _ ht
    obtain ⟨c, u, hu, hlist, hobject, hskip⟩ := skipScalar_word hw rest
    rw [hu] at ht
    exact skipFrom_scalar ht hlist hobject hskip
  | number hn =>
    intro enclosing t rest hrest ht
    obtain ⟨c, u, rfl, hlist, hobject, hskip⟩ := skipScalar_number hn hrest
    exact skipFrom_scalar ht hlist hobject hskip
  | text hs =>
    intro enclosing t rest _ ht
    obtain ⟨units, inside, hinside, rfl⟩ := hs
    have ht' : skipBlank t = '\x22' :: (inside ++ '\x22' :: rest) := by simpa using ht
    apply skipFrom_scalar ht' (by decide) (by decide)
    exact skipTextBody_append hinside rest
  | @empty b v hv =>
    intro enclosing t rest _ ht
    have ht' : skipBlank t = b.opening :: (v ++ b.closing :: rest) := by simpa using ht
    exact skipFrom_empty ht' (skipBlank_blank_cons hv b.isBlank_closing rest)
  | @full b s hs ih =>
    intro enclosing t rest _ ht
    have ht' : skipBlank t = b.opening :: (s ++ b.closing :: rest) := by simpa using ht
    obtain ⟨c, u, hhead, -, hbracket, hbrace⟩ := items_solid hs (b.closing :: rest)
    rw [skipFrom_open ht' hhead (by cases b <;> assumption), ← hhead]
    exact ih _ _ rest (skipBlank_skipBlank _)
  | element _ ih =>
    intro enclosing t rest hrest ht
    exact ih _ t rest hrest ht
  | @member k v w s hk hv hw hs ih =>
    intro enclosing t rest hrest ht
    simp only [List.append_assoc, List.cons_append] at ht
    rw [Bracket.awaits, skipFrom_key (skipKey_foreignText hk hv ht)]
    exact ih _ _ rest hrest (skipBlank_solid hw (value_solid hs) rest)
  | @last b v s w hv hs hw ih =>
    intro enclosing t rest ht
    simp only [List.append_assoc] at ht
    rw [skipBlank_solid hv (item_solid hs)] at ht
    rw [ih enclosing t _ (stops_blank_cons hw b.closing_mark rest) ht]
    exact skipFrom_close (skipBlank_blank_cons hw b.isBlank_closing rest)
  | @more b v s w items hv hs hw _ ih ihrest =>
    intro enclosing t rest ht
    simp only [List.append_assoc, List.cons_append] at ht
    rw [skipBlank_solid hv (item_solid hs)] at ht
    rw [ih enclosing t _ (stops_blank_cons hw (Or.inl rfl) _) ht,
      skipFrom_comma (skipBlank_blank_cons hw (by decide) _)]
    exact ihrest enclosing _ rest rfl

lemma skipValue_foreign {s v rest : List Char} (h : Foreign .value s) (hv : Blank v)
    (hrest : Stops rest) : skipValue (v ++ (s ++ rest)) = .ok rest := by
  rw [skipValue, foreign_skipped h [] _ rest hrest (skipBlank_solid hv (value_solid h) rest)]
  rw [skipFrom]

end WordSwap.Json
