import WordSwap.Proofs.Generation
import WordSwap.Proofs.Json.Records

namespace WordSwap

open Json

lemma lookup_caseMode (mode : CaseMode) :
    CaseMode.keywords.lookup mode.keyword = some mode := by
  cases mode <;> decide

namespace Rule

def forms (r : Rule) : List FieldForm :=
  [⟨"primaryInputs", WrittenList WrittenText r.inputs, False⟩,
   ⟨"reverseInputs", WrittenList WrittenText r.outputs, False⟩,
   ⟨"primaryPlurals", WrittenList WrittenText r.inputPlurals, r.inputPlurals = []⟩,
   ⟨"reversePlurals", WrittenList WrittenText r.outputPlurals, r.outputPlurals = []⟩,
   ⟨"wholeWordMatch", WrittenBoolean r.wholeWord, r.wholeWord = true⟩,
   ⟨"capitalizationMode", WrittenText r.caseMode.keyword, r.caseMode = .preserve⟩,
   ⟨"tokenRouting", WrittenBoolean r.tokenRouting, r.tokenRouting = true⟩,
   ⟨"bidirectional", WrittenBoolean r.bidirectional, r.bidirectional = false⟩]

def held (r : Rule) (keys : List String) : RuleDraft where
  inputs := fieldAmong keys "primaryInputs" r.inputs
  outputs := fieldAmong keys "reverseInputs" r.outputs
  inputPlurals := fieldAmong keys "primaryPlurals" r.inputPlurals
  outputPlurals := fieldAmong keys "reversePlurals" r.outputPlurals
  wholeWord := fieldAmong keys "wholeWordMatch" r.wholeWord
  caseMode := fieldAmong keys "capitalizationMode" r.caseMode
  tokenRouting := fieldAmong keys "tokenRouting" r.tokenRouting
  bidirectional := fieldAmong keys "bidirectional" r.bidirectional

lemma fields_fit (r : Rule) : List.Forall₂ (FieldFits r.held) RuleDraft.fields r.forms := by
  have hwords : Accepts (.list .text) (WrittenList WrittenText) := accepts_list accepts_text
  have hmode := accepts_choice lookup_caseMode
  refine .cons (fieldFits hwords ?_ ?_) <| .cons (fieldFits hwords ?_ ?_) <|
    .cons (fieldFits hwords ?_ ?_) <| .cons (fieldFits hwords ?_ ?_) <|
    .cons (fieldFits accepts_boolean ?_ ?_) <| .cons (fieldFits hmode ?_ ?_) <|
    .cons (fieldFits accepts_boolean ?_ ?_) <| .cons (fieldFits accepts_boolean ?_ ?_) .nil
  all_goals
    intro keys
    simp [held]

lemma finish_held (r : Rule) (keys : List String)
    (h : ∀ form ∈ r.forms, form.name ∉ keys → form.Optional) :
    (r.held keys).finish = .ok r := by
  simp only [forms, List.forall_mem_cons] at h
  obtain ⟨hi, ho, hip, hop, hw, hc, ht, hb, -⟩ := h
  simp only [RuleDraft.finish, held, fieldAmong_of_required hi, fieldAmong_of_required ho,
    getD_fieldAmong hip, getD_fieldAmong hop, getD_fieldAmong hw, getD_fieldAmong hc,
    getD_fieldAmong ht, getD_fieldAmong hb]

lemma fits (r : Rule) : Fits record r.forms r.held r where
  blank := by simp [held, record, RuleDraft.blank]
  fields := r.fields_fit
  finish := r.finish_held

lemma accepts_rule : Accepts reader fun r => WrittenRecord r.forms := accepts_record fits

def Complete (r : Rule) : Prop :=
  r.inputs ≠ [] ∧ r.outputs ≠ [] ∧ (r.inputPlurals = [] ↔ r.outputPlurals = [])

lemma flaw?_of_complete {r : Rule} (h : r.Complete) : r.flaw? = none := r.flaw?_eq_none_iff.mpr h

lemma flaw?_of_not_complete {r : Rule} (h : ¬ r.Complete) :
    r.flaw? = some (if r.inputs = [] then .noInputs else if r.outputs = [] then .noOutputs
      else .unpairedPlurals) := by
  by_cases hi : r.inputs = []
  · simp [flaw?, hi]
  · by_cases ho : r.outputs = []
    · simp [flaw?, hi, ho]
    · cases hip : r.inputPlurals <;> cases hop : r.outputPlurals <;>
        simp_all [flaw?, Complete]

end Rule

lemma firstFlaw?_of_complete {rules : List Rule} (index : Nat) (h : ∀ r ∈ rules, r.Complete) :
    firstFlaw? index rules = none := by
  induction rules generalizing index with
  | nil => rfl
  | cons r rules ih =>
    have hr := Rule.flaw?_of_complete (h r List.mem_cons_self)
    simp only [firstFlaw?, hr, ih (index + 1) fun q hq => h q (List.mem_cons_of_mem r hq)]

lemma firstFlaw?_append {before : List Rule} {r : Rule} {flaw : SpellingFlaw} (after : List Rule)
    (index : Nat) (hb : ∀ q ∈ before, q.Complete) (hr : r.flaw? = some flaw) :
    firstFlaw? index (before ++ r :: after) =
      some (.flawed (index + before.length) r.name flaw) := by
  induction before generalizing index with
  | nil => simp only [List.nil_append, firstFlaw?, hr, List.length_nil, Nat.add_zero]
  | cons q before ih =>
    have hq := Rule.flaw?_of_complete (hb q List.mem_cons_self)
    simp only [List.cons_append, firstFlaw?, hq, List.length_cons,
      ih (index + 1) fun p hp => hb p (List.mem_cons_of_mem q hp)]
    rw [Nat.add_assoc, Nat.add_comm 1]

lemma parseRules_written {rules : List Rule} {text : String}
    (h : WrittenWhole (WrittenList fun r => WrittenRecord r.forms) rules text) :
    parseRules text = (firstFlaw? 0 rules).elim (.ok rules) .error := by
  have hwhole := (accepts_list Rule.accepts_rule).whole h
  cases hflaw : firstFlaw? 0 rules <;>
    simp only [parseRules, hwhole, hflaw, Option.elim_none, Option.elim_some]

/-- From any text that states some rules, exactly these are read if all of them are complete;
otherwise the text is refused over the first rule that is not. -/
theorem parseRules_stated (rules : List Rule) (text : String)
    (h : WrittenWhole (WrittenList fun r => WrittenRecord r.forms) rules text) :
    ((∀ r ∈ rules, r.Complete) → parseRules text = .ok rules) ∧
    ((∃ r ∈ rules, ¬ r.Complete) →
      ∃ (i : Nat) (r : Rule) (fault : RuleListFault), rules[i]? = some r ∧ ¬ r.Complete ∧
        (∀ j < i, ∀ q, rules[j]? = some q → q.Complete) ∧
        parseRules text = .error fault ∧
        fault.chain =
          ["Rule " ++ toString i ++ " (" ++ r.name ++ ")",
            if r.inputs = [] then "primaryInputs must not be empty"
            else if r.outputs = [] then "reverseInputs must not be empty"
            else "primaryPlurals and reversePlurals must both be empty or both be set"]) := by
  rw [parseRules_written h]
  constructor
  · intro hcomplete
    rw [firstFlaw?_of_complete 0 hcomplete, Option.elim_none]
  · intro hflawed
    obtain ⟨before, r, after, rfl, hb, hr⟩ := exists_first_not hflawed
    have hfirst := firstFlaw?_append after 0 hb (Rule.flaw?_of_not_complete hr)
    rw [hfirst, Option.elim_some]
    refine ⟨before.length, r, _, by simp, hr, ?_, rfl, ?_⟩
    · intro j hj q hq
      rw [List.getElem?_append_left hj] at hq
      exact hb q (List.mem_of_getElem? hq)
    · rw [RuleListFault.chain, Nat.zero_add]
      split
      next => rfl
      next => split <;> rfl

theorem parseRules_stated_mixed :
    let ship : Rule := ⟨["a"], ["b"], [], [], true, .preserve, false, false⟩
    let bare : Rule := ⟨["c"], [], [], [], true, .preserve, true, false⟩
    let text :=
      "[\x7b\"x\":[1e5, \x7b\x7d],\"reverseInputs\":[\"b\"],\"tokenRouting\":false," ++
        "\"primaryInputs\":[\"\\u0061\"]\x7d, " ++
        "\x7b\"reverseInputs\":[ ],\"primaryInputs\":[\"c\"]\x7d]"
    WrittenWhole (WrittenList fun r => WrittenRecord r.forms) [ship, bare] text ∧
      ∃ fault, parseRules text = .error fault ∧
        fault.chain = ["Rule 1 (c -> )", "reverseInputs must not be empty"] := by
  intro ship bare text
  have hmember (key : String) (value : List Char) :
      WrittenMember (key, value) (escaped key ++ [] ++ ':' :: [] ++ value) :=
    WrittenMember.mk (writtenText_escaped key) blank_nil blank_nil
  have hblank : Blank [' '] := by simp [Blank]
  have hplain (c : Char) (hc : Plain c) : WrittenList WrittenText [String.ofList [c]]
      ['[', '\x22', c, '\x22', ']'] := by
    have hc : WrittenText (String.ofList [c]) ['\x22', c, '\x22'] :=
      ⟨[c] ++ [], by simpa using InTurn.cons (WrittenChar.plain hc) .nil, rfl⟩
    exact Enclosed.items (Separated.last blank_nil hc blank_nil)
  have hcode : WrittenList WrittenText ["a"] "[\"\\u0061\"]".toList := by
    have h0 : HexDigit '0' 0 := .inl (by decide)
    have h6 : HexDigit '6' 6 := .inl (by decide)
    have h1 : HexDigit '1' 1 := .inl (by decide)
    have ha : WrittenText "a" "\"\\u0061\"".toList :=
      ⟨_, InTurn.cons (WrittenChar.code (HexCode.mk h0 h0 h6 h1)) .nil, rfl⟩
    exact Enclosed.items (Separated.last blank_nil ha blank_nil)
  have hunknown : Foreign .value "[1e5, \x7b\x7d]".toList := by
    have h1 : DigitsOnly ['1'] := by simp [DigitsOnly]
    have h5 : DigitsOnly ['5'] := by simp [DigitsOnly]
    have hnumber : NumberForm "1e5".toList :=
      NumberForm.mk (.inl rfl) (.other h1 (by decide)) .absent (.present (.inl rfl) (.inl rfl) h5)
    have hobject : Foreign .value "\x7b\x7d".toList := @Foreign.empty .object [] blank_nil
    exact .full (.more blank_nil (.element (.number hnumber)) blank_nil
      (.last hblank (.element hobject) blank_nil))
  have hship : ∃ s, WrittenRecord ship.forms s ∧
      s = ("\x7b\"x\":[1e5, \x7b\x7d],\"reverseInputs\":[\"b\"],\"tokenRouting\":false," ++
        "\"primaryInputs\":[\"\\u0061\"]\x7d").toList := by
    refine ⟨_, ⟨_, Enclosed.items <|
      Separated.more blank_nil (hmember "x" "[1e5, \x7b\x7d]".toList) blank_nil <|
      Separated.more blank_nil (hmember "reverseInputs" "[\"b\"]".toList) blank_nil <|
      Separated.more blank_nil (hmember "tokenRouting" "false".toList) blank_nil <|
      Separated.last blank_nil (hmember "primaryInputs" "[\"\\u0061\"]".toList) blank_nil,
      by decide, ?_, ?_, ?_⟩, by simp [escaped, escapeChar]⟩
    · simpa [ship, Rule.forms] using ⟨hcode, hplain 'b' (by simp [Plain]), rfl⟩
    · simp [ship, Rule.forms]
    · simpa [ship, Rule.forms] using hunknown
  have hbare : ∃ s, WrittenRecord bare.forms s ∧
      s = "\x7b\"reverseInputs\":[ ],\"primaryInputs\":[\"c\"]\x7d".toList := by
    refine ⟨_, ⟨_, Enclosed.items <|
      Separated.more blank_nil (hmember "reverseInputs" "[ ]".toList) blank_nil <|
      Separated.last blank_nil (hmember "primaryInputs" "[\"c\"]".toList) blank_nil,
      by decide, ?_, ?_, ?_⟩, by simp [escaped, escapeChar]⟩
    · simpa [bare, Rule.forms] using ⟨hplain 'c' (by simp [Plain]), .empty hblank⟩
    · simp [bare, Rule.forms]
    · simp [bare, Rule.forms]
  obtain ⟨shipText, hship, hst⟩ := hship
  obtain ⟨bareText, hbare, hbt⟩ := hbare
  have hwritten : WrittenWhole (WrittenList fun r => WrittenRecord r.forms) [ship, bare] text :=
    ⟨[], _, [], blank_nil, Enclosed.items <| Separated.more blank_nil hship blank_nil <|
      Separated.last hblank hbare blank_nil, blank_nil, by simp [text, hst, hbt]⟩
  obtain ⟨i, r, fault, hr, hflawed, -, hparse, hchain⟩ :=
    (parseRules_stated [ship, bare] text hwritten).2 ⟨bare, by simp, by simp [bare, Rule.Complete]⟩
  refine ⟨hwritten, fault, hparse, ?_⟩
  rw [hchain]
  rcases i with _ | _ | i
  · obtain rfl : ship = r := by simpa using hr
    exact absurd (by simp [ship, Rule.Complete]) hflawed
  · obtain rfl : bare = r := by simpa using hr
    decide +kernel
  · simp at hr

end WordSwap
