import WordSwap.Proofs.Generation
import WordSwap.Proofs.Json.Steady

/-! Rule files that are cut off or padded. The reader of rules never takes back what it has read
when the text goes on. -/

namespace WordSwap

open Json

lemma rules_steady : (Reader.list Rule.reader).Steady := by
  refine list_steady (Record.reader_steady ?_)
  simp only [Rule.record, RuleDraft.fields, List.forall_mem_cons]
  have hwords := list_steady text_steady
  have hmode := choice_steady CaseMode.keywords
  exact ⟨hwords.map _, hwords.map _, hwords.map _, hwords.map _, boolean_steady.map _,
    hmode.map _, boolean_steady.map _, boolean_steady.map _, List.forall_mem_nil _⟩

lemma parseRules_of_whole_error {text : String} {fault : Fault}
    (h : (Reader.list Rule.reader).whole text.toList = .error fault) :
    parseRules text = .error (.json fault) := by
  simp only [parseRules, h]

/-- A rule file that is cut off is no rule file. Behind one there may be blanks, and nothing else.
-/
theorem parseRules_cut_or_padded {text : String} {rules : List Rule}
    (h : parseRules text = .ok rules) :
    (∀ before after : String, text = before ++ after → ']' ∈ after.toList →
      ∃ fault, parseRules before = .error (.json fault)) ∧
    (∀ blanks : String, Blank blanks.toList → parseRules (text ++ blanks) = .ok rules) ∧
    (∀ more : String, (∃ c ∈ more.toList, c ≠ ' ' ∧ c ≠ '\t' ∧ c ≠ '\n' ∧ c ≠ '\r') →
      parseRules (text ++ more) = .error (.json .trailingCharacters)) := by
  obtain ⟨hwhole, hflaw⟩ := parseRules_eq_ok_iff.mp h
  refine ⟨?_, ?_, ?_⟩
  · rintro before after rfl hbracket
    have hafter : ¬ Blank after.toList := fun hblank => by simpa using hblank ']' hbracket
    rw [String.toList_append] at hwhole
    obtain ⟨fault, hbefore⟩ := whole_cut rules_steady hwhole hafter
    exact ⟨fault, parseRules_of_whole_error hbefore⟩
  · intro blanks hblanks
    rw [parseRules_eq_ok_iff, String.toList_append]
    exact ⟨whole_blank rules_steady hwhole hblanks, hflaw⟩
  · rintro more ⟨c, hc, hspace, htab, hline, hreturn⟩
    have hmore : ¬ Blank more.toList := fun hblank => by
      simpa [hspace, htab, hline, hreturn] using hblank c hc
    apply parseRules_of_whole_error
    rw [String.toList_append, whole_trailing rules_steady hwhole hmore]

theorem parseRules_cut_or_padded_skipped :
    let text := "[\x7b\"primaryInputs\":[\"a\"],\"x\":[\"\\ud83d\"],\"reverseInputs\":[\"b\"]\x7d]\n"
    let rules : List Rule := [⟨["a"], ["b"], [], [], true, .preserve, true, false⟩]
    parseRules text = .ok rules ∧
      (∃ fault,
        parseRules "[\x7b\"primaryInputs\":[\"a\"],\"x\":[\"\\ud8" = .error (.json fault)) ∧
      parseRules (text ++ "\t ") = .ok rules ∧
      parseRules (text ++ " []") = .error (.json .trailingCharacters) := by
  intro text rules
  have h : parseRules text = .ok rules := by decide +kernel
  obtain ⟨hcut, hblank, hmore⟩ := parseRules_cut_or_padded h
  refine ⟨h, ?_, hblank _ (by simp [Blank]), hmore _ ⟨'[', by decide, by decide⟩⟩
  exact hcut _ "3d\"],\"reverseInputs\":[\"b\"]\x7d]\n" (by decide +kernel) (by decide)

end WordSwap
