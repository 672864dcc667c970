import Mathlib.Tactic.Common
import WordSwap.Json.Layout
import WordSwap.Proofs.Json.Grammar

namespace WordSwap.Json

lemma isBlank_iff (c : Char) : isBlank c = true ↔ c = ' ' ∨ c = '\t' ∨ c = '\n' ∨ c = '\r' := by
  simp [isBlank, or_assoc]

lemma blank_nil : Blank [] := List.forall_mem_nil _

lemma skipBlank_append {v : List Char} (hv : Blank v) (s : List Char) :
    skipBlank (v ++ s) = skipBlank s :=
  List.dropWhile_append_of_pos fun c hc => (isBlank_iff c).mpr (hv c hc)

lemma skipBlank_cons {c : Char} (hc : isBlank c = false) (s : List Char) :
    skipBlank (c :: s) = c :: s :=
  List.dropWhile_cons_of_neg (by simp [hc])

lemma skipBlank_blank_cons {v : List Char} (hv : Blank v) {c : Char} (hc : isBlank c = false)
    (s : List Char) : skipBlank (v ++ c :: s) = c :: s := by
  rw [skipBlank_append hv, skipBlank_cons hc]

lemma skipBlank_blank {v : List Char} (hv : Blank v) : skipBlank v = [] := by
  rw [← List.append_nil v, skipBlank_append hv]
  rfl

lemma skipBlank_skipBlank (s : List Char) : skipBlank (skipBlank s) = skipBlank s := by
  induction s with
  | nil => rfl
  | cons c s ih =>
    cases hc : isBlank c with
    | false => rw [skipBlank_cons hc, skipBlank_cons hc]
    | true =>
      have hcons : skipBlank (c :: s) = skipBlank s := List.dropWhile_cons_of_pos hc
      rw [hcons, ih]

def Solid (s : List Char) : Prop :=
  ∃ c t, s = c :: t ∧ isBlank c = false ∧ c ≠ ']' ∧ c ≠ '\x7d'

lemma skipBlank_solid {v s : List Char} (hv : Blank v) (hs : Solid s) (rest : List Char) :
    skipBlank (v ++ (s ++ rest)) = s ++ rest := by
  obtain ⟨c, t, rfl, hc, -⟩ := hs
  exact skipBlank_blank_cons hv hc _

lemma Solid.append {s : List Char} (hs : Solid s) (rest : List Char) : Solid (s ++ rest) := by
  obtain ⟨c, t, rfl, hc⟩ := hs
  exact ⟨c, t ++ rest, rfl, hc⟩

lemma solid_behind {v s : List Char} (hv : Blank v) (hs : Solid s) (rest : List Char) :
    Solid (skipBlank (v ++ (s ++ rest))) := by
  rw [skipBlank_solid hv hs]
  exact hs.append rest

lemma colon_written {v : List Char} (hv : Blank v) (s : List Char) :
    colon (v ++ ':' :: s) = .ok s := by
  have hcolon : skipBlank (v ++ ':' :: s) = ':' :: s := skipBlank_blank_cons hv (by decide) s
  simp only [colon, hcolon, if_true]

lemma hexValue?_of_hexDigit {c : Char} {n : Nat} (h : HexDigit c n) : hexValue? c = some n := by
  have hl : ∀ p ∈ "0123456789abcdef".toList.zipIdx, hexValue? p.1 = some p.2 := by decide
  have hu : ∀ p ∈ "0123456789ABCDEF".toList.zipIdx, hexValue? p.1 = some p.2 := by decide
  rcases h with h | h
  · exact hl _ h
  · exact hu _ h

lemma hexDigit_hexDigit {n : Nat} (h : n < 16) : HexDigit (hexDigit n) n := by
  have hd : ∀ n < 16, (hexDigit n, n) ∈ "0123456789abcdef".toList.zipIdx := by decide
  exact Or.inl (hd n h)

lemma hexFour_append {s : List Char} {n : Nat} (h : HexCode s n) (rest : List Char) :
    hexFour (s ++ rest) = .ok (n, rest) := by
  obtain ⟨ha, hb, hc, hd⟩ := h
  simp only [List.cons_append, List.nil_append, hexFour, hexNumber?, hexValue?_of_hexDigit ha,
    hexValue?_of_hexDigit hb, hexValue?_of_hexDigit hc, hexValue?_of_hexDigit hd]

lemma toNat_not_surrogate (c : Char) : c.toNat < 0xD800 ∨ 0xDFFF < c.toNat := by
  rcases c.valid with h | ⟨h, -⟩
  · exact Or.inl h
  · exact Or.inr h

lemma readEscape_short {letter c : Char} (h : (letter, c) ∈ shortEscapes) (rest : List Char) :
    readEscape (letter :: rest) = .ok (c, rest) := by
  simp only [shortEscapes, List.mem_cons, Prod.mk.injEq, List.not_mem_nil, or_false] at h
  rcases h with ⟨rfl, rfl⟩ | ⟨rfl, rfl⟩ | ⟨rfl, rfl⟩ | ⟨rfl, rfl⟩ | ⟨rfl, rfl⟩ | ⟨rfl, rfl⟩ |
    ⟨rfl, rfl⟩ | ⟨rfl, rfl⟩ <;> rfl

lemma readEscape_code {c : Char} {s : List Char} (h : HexCode s c.toNat) (rest : List Char) :
    readEscape ('u' :: (s ++ rest)) = .ok (c, rest) := by
  have hc := toNat_not_surrogate c
  have htrail : ¬ (0xDC00 ≤ c.toNat ∧ c.toNat ≤ 0xDFFF) := by omega
  have hlead : ¬ (0xD800 ≤ c.toNat ∧ c.toNat ≤ 0xDBFF) := by omega
  simp only [readEscape, if_true, unicodeEscape, hexFour_append h, if_neg htrail, if_neg hlead,
    Char.ofNat_toNat]

lemma readEscape_pair {c : Char} {high low : List Char} {lead trail : Nat}
    (hh : HexCode high lead) (hl : HexCode low trail) (h1 : 0xD800 ≤ lead) (h2 : lead ≤ 0xDBFF)
    (h3 : 0xDC00 ≤ trail) (h4 : trail ≤ 0xDFFF)
    (hc : c.toNat = 0x10000 + (lead - 0xD800) * 0x400 + (trail - 0xDC00)) (rest : List Char) :
    readEscape ('u' :: (high ++ '\\' :: 'u' :: (low ++ rest))) = .ok (c, rest) := by
  have hlead : ¬ (0xDC00 ≤ lead ∧ lead ≤ 0xDFFF) := by omega
  have hpair : pairedChar lead trail = c := by rw [pairedChar, ← hc, Char.ofNat_toNat]
  simp only [readEscape, if_true, unicodeEscape, hexFour_append hh, if_neg hlead,
    if_pos (And.intro h1 h2), surrogatePair, hexFour_append hl, if_pos (And.intro h3 h4), hpair]

lemma readSkippedEscape_short {letter c : Char} (h : (letter, c) ∈ shortEscapes)
    (rest : List Char) : readSkippedEscape (letter :: rest) = .ok ((), rest) := by
  simp only [shortEscapes, List.mem_cons, Prod.mk.injEq, List.not_mem_nil, or_false] at h
  rcases h with ⟨rfl, rfl⟩ | ⟨rfl, rfl⟩ | ⟨rfl, rfl⟩ | ⟨rfl, rfl⟩ | ⟨rfl, rfl⟩ | ⟨rfl, rfl⟩ |
    ⟨rfl, rfl⟩ | ⟨rfl, rfl⟩ <;> rfl

lemma readSkippedEscape_code {s : List Char} {n : Nat} (h : HexCode s n) (rest : List Char) :
    readSkippedEscape ('u' :: (s ++ rest)) = .ok ((), rest) := by
  simp only [readSkippedEscape, if_true, hexFour_append h]

section

variable {α : Type} {escapes : Reader α} {plain : Char → α}

lemma body_plain {c : Char} (hc : Plain c) (done : List α) (rest : List Char) :
    body escapes plain done (c :: rest) = body escapes plain (plain c :: done) rest := by
  obtain ⟨hquote, hbackslash, hcontrol⟩ := hc
  rw [body, if_neg hquote, if_neg hbackslash, if_neg (by omega)]

lemma body_escape {s rest : List Char} {a : α} (h : escapes.run s = .ok (a, rest))
    (done : List α) :
    body escapes plain done ('\\' :: s) = body escapes plain (a :: done) rest := by
  rw [body, if_neg (by decide), if_pos rfl]
  split
  next he => rw [h] at he; cases he
  next he => rw [h] at he; cases he; rfl

lemma body_inTurn (escapes : Reader α) (plain : Char → α) {P : α → List Char → Prop}
    (hp : ∀ {a s}, P a s → ∀ done rest,
      body escapes plain done (s ++ rest) = body escapes plain (a :: done) rest)
    {as : List α} {inside : List Char} (h : InTurn P as inside) (done : List α)
    (rest : List Char) :
    body escapes plain done (inside ++ '\x22' :: rest) = .ok (done.reverse ++ as, rest) := by
  induction h generalizing done with
  | nil => rw [List.nil_append, body, if_pos rfl, List.append_nil]
  | cons ha _ ih => rw [List.append_assoc, hp ha, ih, List.reverse_cons, List.append_assoc,
      List.singleton_append]

end

lemma body_writtenChar {c : Char} {s : List Char} (h : WrittenChar c s) (done : List Char)
    (rest : List Char) : body escape id done (s ++ rest) = body escape id (c :: done) rest := by
  cases h with
  | plain hc => exact body_plain hc done rest
  | short hc => exact body_escape (readEscape_short hc rest) done
  | code hc => exact body_escape (readEscape_code hc rest) done
  | pair hh hl h1 h2 h3 h4 hc =>
    rw [List.append_assoc]
    exact body_escape (readEscape_pair hh hl h1 h2 h3 h4 hc rest) done

lemma body_foreignChar {u : Unit} {s : List Char} (h : ForeignChar s) (done : List Unit)
    (rest : List Char) :
    body skippedEscape (fun _ => ()) done (s ++ rest) =
      body skippedEscape (fun _ => ()) (u :: done) rest := by
  cases h with
  | plain hc => exact body_plain hc done rest
  | short hc => exact body_escape (readSkippedEscape_short hc rest) done
  | code hc => exact body_escape (readSkippedEscape_code hc rest) done

lemma textBody_run {t : String} {inside : List Char} (h : InTurn WrittenChar t.toList inside)
    (rest : List Char) : textBody.run (inside ++ '\x22' :: rest) = .ok (t, rest) := by
  have hb := body_inTurn escape id body_writtenChar h [] rest
  simp only [textBody, Reader.map, hb, List.reverse_nil, List.nil_append, String.ofList_toList]

lemma skipTextBody_append {units : List Unit} {inside : List Char}
    (h : InTurn (fun _ => ForeignChar) units inside) (rest : List Char) :
    skipTextBody (inside ++ '\x22' :: rest) = .ok rest := by
  have hb := body_inTurn skippedEscape (fun _ => ()) body_foreignChar h [] rest
  simp only [skipTextBody, hb]

lemma writtenChar_escapeChar (c : Char) : WrittenChar c (escapeChar c) := by
  unfold escapeChar
  split
  case h_8 hquote hbackslash _ _ _ _ _ =>
    split
    next hc =>
      have hzero : HexDigit '0' 0 := hexDigit_hexDigit (by decide : 0 < 16)
      have hcode := HexCode.mk hzero hzero (hexDigit_hexDigit (by omega : c.toNat / 16 < 16))
        (hexDigit_hexDigit (by omega : c.toNat % 16 < 16))
      have hn : ((0 * 16 + 0) * 16 + c.toNat / 16) * 16 + c.toNat % 16 = c.toNat := by omega
      rw [hn] at hcode
      exact .code hcode
    next hc => exact .plain ⟨hquote, hbackslash, by omega⟩
  all_goals exact .short (by decide)

lemma inTurn_flatMap {α : Type} {P : α → List Char → Prop} {f : α → List Char}
    (h : ∀ a, P a (f a)) (as : List α) : InTurn P as (as.flatMap f) := by
  induction as with
  | nil => exact .nil
  | cons a as ih => exact .cons (h a) ih

lemma writtenText_escaped (t : String) : WrittenText t (escaped t) :=
  ⟨_, inTurn_flatMap writtenChar_escapeChar t.toList, rfl⟩

end WordSwap.Json
