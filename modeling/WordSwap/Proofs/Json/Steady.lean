import Mathlib.Data.List.TakeWhile
import WordSwap.Proofs.Json.Extension
import WordSwap.Proofs.Json.Records

namespace WordSwap.Json

section

variable {α : Type} {s rest : List Char}

lemma boolean_steady : Reader.boolean.Steady := by
  intro s b rest h t
  simp only [Reader.boolean] at h ⊢
  cases hs : skipBlank s with
  | nil => simp [readBoolean, hs] at h
  | cons c u =>
    simp only [readBoolean, hs] at h
    simp only [readBoolean, skipBlank_extend hs t]
    split_ifs at h ⊢
    · split at h <;> cases h
      rename_i hw
      rw [word_extend hw]
    · split at h <;> cases h
      rename_i hw
      rw [word_extend hw]

lemma text_steady : Reader.text.Steady := by
  intro s v rest h t
  simp only [Reader.text] at h ⊢
  cases hs : skipBlank s with
  | nil => simp [readText, hs] at h
  | cons c u =>
    simp only [readText, hs] at h
    simp only [readText, skipBlank_extend hs t]
    split_ifs at h ⊢
    exact textBody_steady h t

lemma null_extend (h : null s = .ok rest) (t : List Char) : null (s ++ t) = .ok (rest ++ t) := by
  cases hs : skipBlank s with
  | nil => simp [null, hs] at h
  | cons c u =>
    simp only [null, hs] at h
    simp only [null, skipBlank_extend hs t]
    split_ifs at h ⊢
    exact word_extend h t

lemma variantMember_extend {options : List (String × α)} {a : α}
    (h : variantMember options s = .ok (a, rest)) (t : List Char) :
    variantMember options (s ++ t) = .ok (a, rest ++ t) := by
  cases hs : skipBlank s with
  | nil => simp [variantMember, hs] at h
  | cons c u =>
    simp only [variantMember, hs] at h
    simp only [variantMember, skipBlank_extend hs t]
    split_ifs at h ⊢
    split at h
    · cases h
    · rename_i hname
      split at h
      · cases h
      · rename_i hvariant
        split at h
        · cases h
        · rename_i hcolon
          split at h
          · cases h
          · rename_i afterValue hnull
            split at h
            · cases h
            · rename_i hbrace
              simp only [textBody_steady hname t, hvariant, colon_extend hcolon t,
                null_extend hnull t, skipBlank_extend hbrace t]
              split_ifs at h ⊢
              cases h
              rfl

lemma choice_steady (options : List (String × α)) : (Reader.choice options).Steady := by
  intro s a rest h t
  simp only [Reader.choice] at h ⊢
  cases hs : skipBlank s with
  | nil => simp [readVariant, hs] at h
  | cons c u =>
    simp only [readVariant, hs] at h
    simp only [readVariant, skipBlank_extend hs t]
    split_ifs at h ⊢
    · split at h
      · cases h
      · rename_i hname
        split at h <;> cases h
        rename_i hvariant
        simp only [textBody_steady hname t, hvariant]
    · exact variantMember_extend h t

lemma items_extend {r : Reader α} (hr : r.Steady) {as : List α} (h : items r s = .ok (as, rest))
    (t : List Char) : items r (s ++ t) = .ok (as, rest ++ t) := by
  fun_induction items r s generalizing as rest with
  | case1 => cases h
  | case2 => cases h
  | case3 s a afterItem hi rest' hs =>
    cases h
    exact items_last (hr hi t) (listSeparator_extend hs t)
  | case4 => cases h
  | case5 s a afterItem hi next hs _ _ as' rest' hrest ih =>
    cases h
    exact items_more (hr hi t) (listSeparator_extend hs t) (ih hrest)

lemma list_steady {r : Reader α} (hr : r.Steady) : (Reader.list r).Steady := by
  intro s as rest h t
  simp only [Reader.list] at h ⊢
  cases hs : skipBlank s with
  | nil => simp [readList, hs] at h
  | cons c u =>
    simp only [readList, hs] at h
    simp only [readList, skipBlank_extend hs t]
    split_ifs at h ⊢
    split at h
    · cases h
    · rename_i ho
      cases h
      rw [listOpening_extend ho]
    · rename_i ho
      rw [listOpening_extend ho]
      exact items_extend hr h t

end

section

variable {δ α : Type} {fields : List (Field δ)} {d d' : δ} {s rest : List Char}

lemma member_extend (hf : ∀ f ∈ fields, f.read.Steady) (h : member fields d s = .ok (d', rest))
    (hrest : rest ≠ []) (t : List Char) : member fields d (s ++ t) = .ok (d', rest ++ t) := by
  unfold member at h
  split at h
  · cases h
  · rename_i hkey
    split at h
    · rename_i hnone
      split at h
      · cases h
      · rename_i hcolon
        split at h <;> cases h
        rename_i hvalue
        simp only [member, textBody_steady hkey t, hnone, colon_extend hcolon t,
          skipValue_extend hvalue hrest t]
    · rename_i f hfound
      split_ifs at h with hset
      split at h
      · cases h
      · rename_i hcolon
        split at h <;> cases h
        rename_i hvalue
        have hrun := hf f (List.mem_of_find?_eq_some hfound) hvalue t
        simp only [member, textBody_steady hkey t, hfound, if_neg hset, colon_extend hcolon t,
          hrun]

lemma members_extend (hf : ∀ f ∈ fields, f.read.Steady) (h : members fields d s = .ok (d', rest))
    (t : List Char) : members fields d (s ++ t) = .ok (d', rest ++ t) := by
  fun_induction members fields d s with
  | case1 => cases h
  | case2 => cases h
  | case3 d s d'' afterMember hm rest' hs =>
    cases h
    have hafter : afterMember ≠ [] := by rintro rfl; cases hs
    exact members_last (member_extend hf hm hafter t) (objectSeparator_extend hs t)
  | case4 d s d'' afterMember hm next hs _ _ ih =>
    have hafter : afterMember ≠ [] := by rintro rfl; cases hs
    rw [members_more (member_extend hf hm hafter t) (objectSeparator_extend hs t), ih h]

lemma fieldsInOrder_extend (hf : ∀ f ∈ fields, f.read.Steady)
    (h : fieldsInOrder d fields s = .ok (d', rest)) (t : List Char) :
    fieldsInOrder d fields (s ++ t) = .ok (d', rest ++ t) := by
  induction fields generalizing d s with
  | nil =>
    unfold fieldsInOrder at h
    split at h <;> cases h
    rename_i hc
    rw [fieldsInOrder, listClosing_extend hc]
  | cons f fields ih =>
    rw [List.forall_mem_cons] at hf
    unfold fieldsInOrder at h
    split at h
    · cases h
    · rename_i hvalue
      simp only [fieldsInOrder, hf.1 hvalue t]
      split_ifs at h ⊢
      · split at h <;> cases h
        rename_i hc
        rw [listClosing_extend hc]
      · split at h
        · cases h
        · rename_i hs
          cases h
          rw [listSeparator_extend hs]
        · rename_i hs
          rw [listSeparator_extend hs]
          exact ih hf.2 h

namespace Record

variable {record : Record δ α}

lemma listDraft_extend (hf : ∀ f ∈ record.fields, f.read.Steady)
    (h : record.listDraft s = .ok (d, rest)) (t : List Char) :
    record.listDraft (s ++ t) = .ok (d, rest ++ t) := by
  unfold listDraft at h
  split at h
  · cases h
  · rename_i ho
    cases h
    rw [listDraft, listOpening_extend ho]
  · rename_i ho
    rw [listDraft, listOpening_extend ho]
    exact fieldsInOrder_extend hf h t

lemma objectDraft_extend (hf : ∀ f ∈ record.fields, f.read.Steady)
    (h : record.objectDraft s = .ok (d, rest)) (t : List Char) :
    record.objectDraft (s ++ t) = .ok (d, rest ++ t) := by
  unfold objectDraft at h
  split at h
  · cases h
  · rename_i ho
    cases h
    rw [objectDraft, objectOpening_extend ho]
  · rename_i ho
    rw [objectDraft, objectOpening_extend ho]
    exact members_extend hf h t

lemma finished_of_draft {fault : Nat → Fault} {a : α} (h : record.finish d = .ok a) :
    record.finished fault (.ok (d, rest)) = .ok (a, rest) := by
  simp only [finished, h]

lemma reader_steady (hf : ∀ f ∈ record.fields, f.read.Steady) : record.reader.Steady := by
  intro s a rest h t
  simp only [reader] at h ⊢
  cases hs : skipBlank s with
  | nil => simp [readRecord, hs] at h
  | cons c u =>
    simp only [readRecord, hs] at h
    simp only [readRecord, skipBlank_extend hs t]
    split_ifs at h ⊢
    · obtain ⟨d, hd, hfinish⟩ := draft_of_finished h
      rw [listDraft_extend hf hd, finished_of_draft hfinish]
    · obtain ⟨d, hd, hfinish⟩ := draft_of_finished h
      rw [objectDraft_extend hf hd, finished_of_draft hfinish]

end Record

end

section

variable {α : Type} {r : Reader α} {s t : List Char} {a : α}

lemma skipBlank_eq_nil_iff : skipBlank s = [] ↔ Blank s := by
  simp only [skipBlank, List.dropWhile_eq_nil_iff, isBlank_iff, Blank]

lemma whole_eq_ok_iff : r.whole s = .ok a ↔ ∃ rest, r.run s = .ok (a, rest) ∧ Blank rest := by
  unfold Reader.whole
  cases hs : r.run s with
  | error e => simp
  | ok p =>
    simp only [← skipBlank_eq_nil_iff, ← List.isEmpty_iff]
    grind

lemma blank_append_iff : Blank (s ++ t) ↔ Blank s ∧ Blank t := List.forall_mem_append

lemma whole_blank (hr : r.Steady) (h : r.whole s = .ok a) (ht : Blank t) :
    r.whole (s ++ t) = .ok a := by
  rw [whole_eq_ok_iff] at h ⊢
  obtain ⟨rest, hs, hrest⟩ := h
  exact ⟨rest ++ t, hr hs t, blank_append_iff.mpr ⟨hrest, ht⟩⟩

lemma whole_trailing (hr : r.Steady) (h : r.whole s = .ok a) (ht : ¬ Blank t) :
    r.whole (s ++ t) = .error .trailingCharacters := by
  obtain ⟨rest, hs, -⟩ := whole_eq_ok_iff.mp h
  have hrest : skipBlank (rest ++ t) ≠ [] := by
    rw [Ne, skipBlank_eq_nil_iff, blank_append_iff]
    exact fun hblank => ht hblank.2
  simp only [Reader.whole, hr hs t, List.isEmpty_iff, if_neg hrest]

lemma whole_cut (hr : r.Steady) (h : r.whole (s ++ t) = .ok a) (ht : ¬ Blank t) :
    ∃ fault, r.whole s = .error fault := by
  cases hs : r.whole s with
  | error fault => exact ⟨fault, rfl⟩
  | ok b =>
    rw [whole_trailing hr hs ht] at h
    cases h

end

end WordSwap.Json
