import WordSwap.Json.Typed
import WordSwap.Proofs.Json.Texts

namespace WordSwap.Json

section

variable {α : Type}

structure Accepts (r : Reader α) (P : α → List Char → Prop) : Prop where
  solid : ∀ {a s}, P a s → Solid s
  run : ∀ {a s t rest}, P a s → skipBlank t = s ++ rest → r.run t = .ok (a, rest)

lemma Accepts.map {β : Type} {r : Reader α} {P : α → List Char → Prop} (hr : Accepts r P)
    (f : α → β) {a : α} {s t rest : List Char} (hs : P a s) (ht : skipBlank t = s ++ rest) :
    (r.map f).run t = .ok (f a, rest) := by
  simp only [Reader.map, hr.run hs ht]

lemma Accepts.whole {r : Reader α} {P : α → List Char → Prop} (hr : Accepts r P) {a : α}
    {t : String} (h : WrittenWhole P a t) : r.whole t.toList = .ok a := by
  obtain ⟨v, s, w, hv, hs, hw, ht⟩ := h
  have hrun := hr.run hs (skipBlank_solid hv (hr.solid hs) w)
  simp only [Reader.whole, ht, List.append_assoc, hrun, skipBlank_blank hw, List.isEmpty_nil,
    if_true]

lemma writtenText_solid {t : String} {s : List Char} (h : WrittenText t s) : Solid s := by
  obtain ⟨inside, -, rfl⟩ := h
  exact ⟨_, _, rfl, by decide⟩

lemma textBody_written {key : String} {k : List Char} (h : WrittenText key k)
    (rest : List Char) :
    ∃ t, k ++ rest = '\x22' :: t ∧ textBody.run t = .ok (key, rest) := by
  obtain ⟨inside, hinside, rfl⟩ := h
  exact ⟨inside ++ '\x22' :: rest, by simp, textBody_run hinside rest⟩

lemma accepts_text : Accepts Reader.text WrittenText where
  solid := writtenText_solid
  run {key s t rest} hs ht := by
    obtain ⟨u, hu, hrun⟩ := textBody_written hs rest
    simp only [Reader.text, readText, ht, hu, if_true, hrun]

lemma accepts_boolean : Accepts Reader.boolean WrittenBoolean where
  solid {b s} hs := by
    cases b <;> subst hs <;> exact ⟨_, _, rfl, by decide⟩
  run {b s t rest} hs ht := by
    cases b with
    | false => subst hs; simp only [Reader.boolean, readBoolean, ht]; rfl
    | true => subst hs; simp only [Reader.boolean, readBoolean, ht]; rfl

lemma accepts_choice {options : List (String × α)} {keyword : α → String}
    (h : ∀ a, options.lookup (keyword a) = some a) :
    Accepts (Reader.choice options) fun a => WrittenText (keyword a) where
  solid := writtenText_solid
  run {a s t rest} hs ht := by
    obtain ⟨u, hu, hrun⟩ := textBody_written hs rest
    simp only [Reader.choice, readVariant, ht, hu, if_true, hrun, variant, h]

lemma separated_solid {P : α → List Char → Prop} (hp : ∀ {a s}, P a s → Solid s) {as : List α}
    {s : List Char} (h : Separated P as s) (rest : List Char) : Solid (skipBlank (s ++ rest)) := by
  cases h with
  | last hv hi _ => simpa only [List.append_assoc] using solid_behind hv (hp hi) _
  | more hv hi _ _ => simpa only [List.append_assoc] using solid_behind hv (hp hi) _

lemma listSeparator_close {w : List Char} (hw : Blank w) (rest : List Char) :
    listSeparator (w ++ ']' :: rest) = .ok (false, rest) := by
  simp only [listSeparator, skipBlank_blank_cons hw (by decide : isBlank ']' = false), if_true]

lemma listSeparator_comma {w t : List Char} (hw : Blank w) (ht : Solid (skipBlank t)) :
    listSeparator (w ++ ',' :: t) = .ok (true, skipBlank t) := by
  obtain ⟨c, u, hc, -, hbracket, -⟩ := ht
  have hcomma : skipBlank (w ++ ',' :: t) = ',' :: t := skipBlank_blank_cons hw (by decide) t
  simp only [listSeparator, hcomma, hc, if_neg hbracket, if_true]
  rfl

lemma items_last {r : Reader α} {t next rest : List Char} {a : α} (ht : r.run t = .ok (a, next))
    (hn : listSeparator next = .ok (false, rest)) : items r t = .ok ([a], rest) := by
  rw [items]
  split
  next h => rw [ht] at h; cases h
  next h =>
    rw [ht] at h
    cases h
    split
    next h => rw [hn] at h; cases h
    next h => rw [hn] at h; cases h; rfl
    next h => rw [hn] at h; cases h

lemma items_more {r : Reader α} {t next later rest : List Char} {a : α} {as : List α}
    (ht : r.run t = .ok (a, next)) (hn : listSeparator next = .ok (true, later))
    (hl : items r later = .ok (as, rest)) : items r t = .ok (a :: as, rest) := by
  rw [items]
  split
  next h => rw [ht] at h; cases h
  next h =>
    rw [ht] at h
    cases h
    split
    next h => rw [hn] at h; cases h
    next h => rw [hn] at h; cases h
    next h =>
      rw [hn] at h
      cases h
      rw [hl]

lemma items_separated {r : Reader α} {P : α → List Char → Prop} (hr : Accepts r P) {as : List α}
    {s : List Char} (h : Separated P as s) {t rest : List Char}
    (ht : skipBlank t = skipBlank (s ++ ']' :: rest)) : items r t = .ok (as, rest) := by
  induction h generalizing t with
  | last hv hs hw =>
    simp only [List.append_assoc] at ht
    rw [skipBlank_solid hv (hr.solid hs)] at ht
    exact items_last (hr.run hs ht) (listSeparator_close hw rest)
  | more hv hs hw hrest ih =>
    simp only [List.append_assoc, List.cons_append] at ht
    rw [skipBlank_solid hv (hr.solid hs)] at ht
    have hsolid := separated_solid hr.solid hrest (']' :: rest)
    exact items_more (hr.run hs ht) (listSeparator_comma hw hsolid) (ih (skipBlank_skipBlank _))

lemma accepts_list {r : Reader α} {P : α → List Char → Prop} (hr : Accepts r P) :
    Accepts (Reader.list r) (WrittenList P) where
  solid hs := by cases hs <;> exact ⟨_, _, rfl, by decide⟩
  run {as s t rest} hs ht := by
    cases hs with
    | @empty v hv =>
      have ht' : skipBlank t = '[' :: (v ++ ']' :: rest) := by simpa using ht
      have hclose : skipBlank (v ++ ']' :: rest) = ']' :: rest :=
        skipBlank_blank_cons hv (by decide) rest
      simp only [Reader.list, readList, ht', if_true, listOpening, hclose]
    | @items _ s hs =>
      have ht' : skipBlank t = '[' :: (s ++ ']' :: rest) := by simpa using ht
      obtain ⟨c, u, hc, -, hbracket, -⟩ := separated_solid hr.solid hs (']' :: rest)
      have hopening :
          listOpening (s ++ ']' :: rest) = .ok (true, skipBlank (s ++ ']' :: rest)) := by
        simp only [listOpening, hc, if_neg hbracket]
      simp only [Reader.list, readList, ht', if_true, hopening]
      exact items_separated hr hs (skipBlank_skipBlank _)

end

end WordSwap.Json
