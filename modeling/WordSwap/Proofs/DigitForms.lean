import WordSwap.Proofs.CaseMappings
import WordSwap.Proofs.Declared
import WordSwap.Proofs.Numerals

/-! A case form of a text is a number exactly if the text is, and then it is the text itself. -/

namespace WordSwap

def AllDigits (cs : List Char) : Prop := ∀ c ∈ cs, Numeral.isDigit c = true

lemma allDigits_append {cs ds : List Char} : AllDigits (cs ++ ds) ↔ AllDigits cs ∧ AllDigits ds :=
  List.forall_mem_append

lemma allDigits_cons {c : Char} {cs : List Char} :
    AllDigits (c :: cs) ↔ Numeral.isDigit c = true ∧ AllDigits cs :=
  List.forall_mem_cons

lemma isDigit_iff_toNat (c : Char) :
    Numeral.isDigit c = true ↔ 48 ≤ c.toNat ∧ c.toNat ≤ 57 := by
  simp only [Numeral.isDigit, Bool.and_eq_true, decide_eq_true_eq]
  rfl

namespace Casing

def Table.BehindDigits (t : Table) : Prop :=
  (∀ s ∈ t.stretches, 57 < s.first ∧ 57 < s.image) ∧
    ∀ e ∈ t.expansions, 57 < e.1 ∧ ∃ code ∈ e.2, 57 < code

instance : DecidablePred Table.BehindDigits := fun t =>
  inferInstanceAs (Decidable ((∀ s ∈ t.stretches, _) ∧ ∀ e ∈ t.expansions, _))

lemma uppercase_behindDigits : uppercase.BehindDigits := by decide +kernel

lemma lowercase_behindDigits : lowercase.BehindDigits := by decide +kernel

lemma isDigit_ofNat {n : Nat} (h : 57 < n) : Numeral.isDigit (Char.ofNat n) = false := by
  by_cases hn : n.isValidChar
  · have hcode : (Char.ofNat n).toNat = n := by
      rw [Char.ofNat, dif_pos hn]
      rfl
    rw [Bool.eq_false_iff, Ne, isDigit_iff_toNat, hcode]
    omega
  · -- The number of no character stands for the zero character.
    rw [Char.ofNat, dif_neg hn]
    decide

namespace Table

variable {t : Table} {c : Char}

lemma map_digit (ht : t.BehindDigits) (hc : Numeral.isDigit c = true) : t.map c = [c] := by
  have hle : c.toNat ≤ 57 := ((isDigit_iff_toNat c).mp hc).2
  apply map_of_not_covered
  · intro s hs
    have hfirst := (ht.1 s hs).1
    have hbefore : ¬ s.first ≤ c.toNat := by omega
    simp [Stretch.covers, hbefore]
  · intro e he
    have hkey := (ht.2 e he).1
    omega

lemma isDigit_of_map (ht : t.BehindDigits) (h : AllDigits (t.map c)) :
    Numeral.isDigit c = true := by
  rw [map] at h
  split at h
  next s hs =>
    have himage := (ht.1 s (List.mem_of_find?_eq_some hs)).2
    have hdigit := h _ List.mem_cons_self
    rw [isDigit_ofNat (by rw [Stretch.map]; omega)] at hdigit
    cases hdigit
  next =>
    split at h
    next codes hcodes =>
      obtain ⟨before, after, hexpansions, -⟩ := List.lookup_eq_some_iff.mp hcodes
      obtain ⟨code, hcode, hbehind⟩ := (ht.2 (c.toNat, codes) (by simp [hexpansions])).2
      have hdigit := h _ (List.mem_map_of_mem hcode)
      rw [isDigit_ofNat hbehind] at hdigit
      cases hdigit
    next => exact h c List.mem_cons_self

end Table

structure KeepsDigits (form : String → String) : Prop where
  only : ∀ {s : String}, AllDigits (form s).toList → AllDigits s.toList
  same : ∀ {s : String}, AllDigits s.toList → form s = s

lemma keepsDigits_id : KeepsDigits id := ⟨id, fun _ => rfl⟩

lemma keepsDigits_ofList {f : List Char → List Char}
    (only : ∀ {cs}, AllDigits (f cs) → AllDigits cs) (same : ∀ {cs}, AllDigits cs → f cs = cs) :
    KeepsDigits fun s => String.ofList (f s.toList) where
  only h := only (by rwa [String.toList_ofList] at h)
  same h := by rw [same h, String.ofList_toList]

lemma keepsDigits_upper : KeepsDigits upper := by
  apply keepsDigits_ofList
  · intro cs h c hc
    exact Table.isDigit_of_map uppercase_behindDigits fun d hd =>
      h d (List.mem_flatMap.mpr ⟨c, hc, hd⟩)
  · intro cs h
    exact upperChars_eq_self fun c hc => Table.map_digit uppercase_behindDigits (h c hc)

lemma keepsDigits_title : KeepsDigits title := by
  apply keepsDigits_ofList
  · intro cs h
    cases cs with
    | nil => exact h
    | cons c cs =>
      obtain ⟨hc, hcs⟩ := allDigits_append.mp h
      exact allDigits_cons.mpr ⟨Table.isDigit_of_map uppercase_behindDigits hc, hcs⟩
  · intro cs h
    exact titleChars_eq_self fun c hc =>
      Table.map_digit uppercase_behindDigits (h c (List.mem_of_mem_head? hc))

lemma isDigit_of_lowerChar {before after : List Char} {c : Char}
    (h : AllDigits (lowerChar before c after)) : Numeral.isDigit c = true := by
  rw [lowerChar] at h
  split at h
  · split at h <;> exact absurd (h _ List.mem_cons_self) (by decide)
  · exact Table.isDigit_of_map lowercase_behindDigits h

lemma allDigits_of_lowerFrom {before cs : List Char} (h : AllDigits (lowerFrom before cs)) :
    AllDigits cs := by
  induction cs generalizing before with
  | nil => exact h
  | cons c cs ih =>
    obtain ⟨hc, hcs⟩ := allDigits_append.mp h
    exact allDigits_cons.mpr ⟨isDigit_of_lowerChar hc, ih hcs⟩

lemma keepsDigits_lower : KeepsDigits lower := by
  apply keepsDigits_ofList allDigits_of_lowerFrom
  intro cs h
  apply lowerFrom_eq_self
  intro c hc
  refine ⟨?_, Table.map_digit lowercase_behindDigits (h c hc)⟩
  rintro rfl
  exact absurd (h _ hc) (by decide)

end Casing

open Casing in
lemma CaseMode.keepsDigits {mode : CaseMode} {form : (String → String) × Bool}
    (h : form ∈ mode.forms) : KeepsDigits form.1 := by
  cases mode <;> simp only [forms, List.mem_cons, List.not_mem_nil, or_false] at h
  case ignore => exact h ▸ keepsDigits_id
  case matchExact => exact h ▸ keepsDigits_id
  case preserve =>
    rcases h with rfl | rfl | rfl
    · exact keepsDigits_upper
    · exact keepsDigits_title
    · exact keepsDigits_lower

end WordSwap
