import Mathlib.Data.List.Infix
import WordSwap.Session.Run

/-! What the texts that a run shows tell: of an error its failure and all its causes, and of a rule
the whole tally. -/

namespace WordSwap

namespace Report

/-- The error begins with the failure and holds its causes below it, with all lines of a cause but
the first moved in. -/
def Explains (r : Report) : List String → Prop
  | [] => False
  | failure :: causes =>
    ∃ below spaces, r.errors = "Error: " ++ failure ++ "\n" ++ below ∧
      ∀ cause ∈ causes, indented spaces cause <:+: below.toList

lemma indented_infix_causeLines {numbered : Bool} {causes : List String} {cause : String}
    (h : cause ∈ causes) (n : Nat) :
    indented (if numbered then 7 else 4) cause <:+: causeLines numbered n causes := by
  induction causes generalizing n with
  | nil => cases h
  | cons first causes ih =>
    simp only [causeLines]
    rcases List.mem_cons.mp h with rfl | h
    · refine List.IsInfix.trans (List.IsSuffix.isInfix ?_) (List.prefix_append _ _).isInfix
      exact (List.suffix_append _ _).trans (List.suffix_cons _ _)
    · exact (ih h _).trans (List.suffix_append _ _).isInfix

lemma explains_failed (log : List LogLine) {chain : List String} (h : chain ≠ []) :
    (failed log chain).Explains chain := by
  match chain, h with
  | [failure], _ =>
    refine ⟨"", 0, ?_, List.forall_mem_nil _⟩
    rw [String.append_empty]
    rfl
  | failure :: cause :: causes, _ =>
    let numbered : Bool := 1 < (cause :: causes).length
    let lines := String.ofList (causeLines numbered 0 (cause :: causes))
    refine ⟨"\nCaused by:" ++ lines ++ "\n", if numbered then 7 else 4, ?_, fun said hsaid => ?_⟩
    · simp only [failed, errorText, String.append_assoc]
      rfl
    · refine (indented_infix_causeLines hsaid 0).trans ?_
      simp only [lines, String.toList_append, String.toList_ofList]
      exact List.infix_append _ _ _

end Report

lemma LoadFault.chain_ne_nil (fault : LoadFault) : fault.chain ≠ [] := by cases fault <;> nofun

lemma WriteFault.chain_ne_nil (fault : WriteFault) : fault.chain ≠ [] := by cases fault <;> nofun

lemma takeWhile_digits (n : Nat) (cs : List Char) :
    ((Nat.toDigits 10 n).reverse ++ ' ' :: cs).takeWhile (· ≠ ' ') =
      (Nat.toDigits 10 n).reverse := by
  rw [List.takeWhile_append_of_pos, List.takeWhile_cons_of_neg (by decide), List.append_nil]
  intro c hc
  have hdigit := Nat.isDigit_of_mem_toDigits (by decide) (by decide) (List.mem_reverse.mp hc)
  rw [decide_eq_true_eq]
  rintro rfl
  exact absurd hdigit (by decide)

/-- A text that ends with a number gives the number, and what stands before it. -/
lemma count_inj {before before' : String} {m n : Nat}
    (h : before ++ " " ++ toString m = before' ++ " " ++ toString n) :
    before = before' ∧ m = n := by
  have hchars : (Nat.toDigits 10 m).reverse ++ ' ' :: before.toList.reverse =
      (Nat.toDigits 10 n).reverse ++ ' ' :: before'.toList.reverse := by
    simpa [Nat.toString_eq_ofList_toDigits] using congrArg (fun s => s.toList.reverse) h
  have hdigits := congrArg (List.takeWhile (· ≠ ' ')) hchars
  rw [takeWhile_digits, takeWhile_digits, List.reverse_inj] at hdigits
  rw [hdigits, List.append_cancel_left_eq, List.cons.injEq, List.reverse_inj] at hchars
  have hnumber := congrArg (Nat.ofDigitChars 10 · 0) hdigits
  simp only [Nat.ofDigitChars_ten_toDigits] at hnumber
  exact ⟨String.toList_inj.mp hchars.2, hnumber⟩

namespace Tally

lemma line_eq (t : Tally) :
    t.line = t.name ++ ":" ++ " " ++ toString t.atomicRules ++ " atomic rules," ++ " " ++
      toString t.phase1Leaves ++ " phase 1 leaves," ++ " " ++
        toString t.phase2Leaves ++ " phase 2 leaves" := by
  simp only [line, String.append_assoc]
  rfl

theorem line_inj {t t' : Tally} : t.line = t'.line ↔ t = t' := by
  constructor
  · intro h
    rw [line_eq, line_eq, String.append_left_inj] at h
    obtain ⟨h, hphase2⟩ := count_inj h
    obtain ⟨h, hphase1⟩ := count_inj ((String.append_left_inj _).mp h)
    obtain ⟨h, hatoms⟩ := count_inj ((String.append_left_inj _).mp h)
    have hname := (String.append_left_inj _).mp h
    cases t
    cases t'
    simp only [Tally.mk.injEq]
    exact ⟨hname, hatoms, hphase1, hphase2⟩
  · rintro rfl
    rfl

end Tally
end WordSwap
