import WordSwap.Proofs.Sessions

/-! What an analysis says of the document that a run over the same rules would write. It counts
leaves rule by rule and groups phase by phase, and both counts are those of the document. -/

namespace WordSwap

open Files

namespace Rule

def swapCount (r : Rule) : Nat :=
  let b := if r.bidirectional then 1 else 0
  let p := if r.inputPlurals ≠ [] ∧ r.outputPlurals ≠ [] then 1 else 0
  r.inputs.length + b * r.outputs.length +
    p * (r.inputPlurals.length + b * r.outputPlurals.length)

def leafTotal (r : Rule) : Nat :=
  let c := if r.caseMode = .preserve then 3 else 1
  let t := if r.tokenRouting then 2 else 1
  c * t * r.swapCount

lemma length_swapsBetween (r : Rule) (inputs outputs : List String) :
    (r.swapsBetween inputs outputs).length =
      inputs.length + (if r.bidirectional then 1 else 0) * outputs.length := by
  cases hb : r.bidirectional <;> simp [swapsBetween, towards, hb]

lemma length_swaps (r : Rule) : r.swaps.length = r.swapCount := by
  rw [swaps, swapCount, List.length_append, length_swapsBetween]
  by_cases hp : r.inputPlurals ≠ [] ∧ r.outputPlurals ≠ []
  · simp only [if_pos hp, length_swapsBetween, Nat.one_mul]
  · simp only [if_neg hp, List.length_nil, Nat.zero_mul]

lemma length_swapLeaves (b : Boundaries) (r : Rule) (swap : String × String) :
    (r.swapLeaves b swap).length = if r.caseMode = .preserve then 3 else 1 := by
  cases hm : r.caseMode <;> simp [swapLeaves, CaseMode.forms, hm]

lemma length_declared (b : Boundaries) (r : Rule) :
    (r.declared b).length = (if r.caseMode = .preserve then 3 else 1) * r.swapCount := by
  rw [← length_swaps, declared]
  induction r.swaps with
  | nil => rfl
  | cons swap swaps ih =>
    rw [List.flatMap_cons, List.length_append, length_swapLeaves, ih, List.length_cons]
    rw [Nat.mul_succ, Nat.add_comm]

lemma tally_expansion (b : Boundaries) (r : Rule) :
    (r.expansion b).tally =
      ⟨r.name, r.swapCount, (r.declared b).length,
        if r.tokenRouting then (r.declared b).length else 0⟩ := by
  cases ht : r.tokenRouting <;> simp [Expanded.tally, expansion, route, length_swaps, ht]

/-- What is said of a rule that has been expanded, by the numbers of its spellings. -/
def line (r : Rule) : String :=
  let leaves := (if r.caseMode = .preserve then 3 else 1) * r.swapCount
  r.name ++ ": " ++ toString r.swapCount ++ " atomic rules, " ++
    toString leaves ++ " phase 1 leaves, " ++
    toString (if r.tokenRouting then leaves else 0) ++ " phase 2 leaves"

lemma line_expansion (b : Boundaries) (r : Rule) : (r.expansion b).tally.line = r.line := by
  rw [tally_expansion, length_declared, Tally.line, line]

lemma leaves_expansion (b : Boundaries) (r : Rule) :
    (r.expansion b).tally.phase1Leaves + (r.expansion b).tally.phase2Leaves = r.leafTotal := by
  rw [tally_expansion, leafTotal, length_declared]
  cases r.tokenRouting with
  | false => simp
  | true => simp only [if_true, Nat.mul_two, Nat.add_mul]

end Rule

lemma leafCount_append (before after : List Group) :
    (Document.mk (before ++ after)).leafCount =
      (Document.mk before).leafCount + (Document.mk after).leafCount := by
  simp only [Document.leafCount]
  induction before with
  | nil => simp
  | cons g before ih => simp only [List.cons_append, List.foldr_cons, ih, Nat.add_assoc]

lemma leafCount_phase1 (t : GroupTraits) (done : List Expanded) :
    (Document.mk (Generated.ofExpanded t done).phase1).leafCount =
      (Generated.ofExpanded t done).tallies.foldr (fun t n => t.phase1Leaves + n) 0 := by
  simp only [Generated.ofExpanded, Document.leafCount, List.foldr_map]
  rfl

lemma leafCount_phase2 (t : GroupTraits) (done : List Expanded) :
    (Document.mk (Generated.ofExpanded t done).phase2).leafCount =
      (Generated.ofExpanded t done).tallies.foldr (fun t n => t.phase2Leaves + n) 0 := by
  simp only [Generated.ofExpanded, Document.leafCount, List.foldr_map]
  induction done with
  | nil => rfl
  | cons e done ih =>
    rw [List.foldr_cons, ← ih]
    -- A rule without a group in the second phase has no leaves there either.
    by_cases hnone : e.routed.phase2 = []
    · rw [List.filterMap_cons_none (by simp [Expanded.phase2Group?, hnone])]
      simp [Expanded.tally, hnone]
    · rw [List.filterMap_cons_some (by simp [Expanded.phase2Group?, hnone]; rfl), List.foldr_cons]
      rfl

section

variable (s : Settings) {rules : List Rule}

lemma length_phase1 (rules : List Rule) :
    (Generated.ofExpanded s.traits (rules.map (Rule.expansion s.boundaries))).phase1.length =
      rules.length := by
  rw [Generated.ofExpanded, List.length_map, List.length_map]

lemma length_phase2 (h : ∀ r ∈ rules, r.Expandable) :
    (Generated.ofExpanded s.traits (rules.map (Rule.expansion s.boundaries))).phase2.length =
      rules.countP (·.tokenRouting) := by
  rw [Generated.ofExpanded, phase2_ofExpanded s h, List.length_map, List.countP_eq_length_filter]

lemma length_routed (h : ∀ r ∈ rules, r.Expandable) :
    ((Generated.ofExpanded s.traits (rules.map (Rule.expansion s.boundaries))).tallies.filter
      fun t => 0 < t.phase2Leaves).length = rules.countP (·.tokenRouting) := by
  rw [← List.countP_eq_length_filter, Generated.ofExpanded, List.countP_map, List.countP_map]
  apply List.countP_congr
  intro r hr
  have hleaves := List.length_pos_iff.mpr (r.declared_ne_nil s.boundaries (h r hr).1)
  simp only [Function.comp_apply, Rule.tally_expansion]
  cases r.tokenRouting <;> simp [hleaves]

lemma leafCount_document (rules : List Rule) :
    (Generated.ofExpanded s.traits (rules.map (Rule.expansion s.boundaries))).document.leafCount =
      rules.foldr (fun r n => r.leafTotal + n) 0 := by
  rw [Generated.document, leafCount_append, leafCount_phase1, leafCount_phase2]
  simp only [Generated.ofExpanded, List.map_map, List.foldr_map, Function.comp_apply]
  induction rules with
  | nil => rfl
  | cons r rules ih =>
    simp only [List.foldr_cons, ← ih, ← r.leaves_expansion s.boundaries]
    omega

end

namespace Session

def prepared (h : Host) (source : Option String) : Except (List String) (List Rule × Generated) :=
  match startingRules h source with
  | .error fault => .error fault.chain
  | .ok rules =>
    match WordSwap.generate .default rules with
    | .error m => .error (malformedChain m)
    | .ok g => .ok (rules, g)

def analysisLog (source : Option String) (rules : List Rule) : List LogLine :=
  sourceLine source ::
    expansionLines (run Settings.default.boundaries rules) Settings.default.traits

section

variable {source : Option String} {h : Host} {rules : List Rule} {g : Generated}
  {chain : List String}

lemma prepared_eq_ok_iff :
    prepared h source = .ok (rules, g) ↔
      startingRules h source = .ok rules ∧ WordSwap.generate .default rules = .ok g := by
  unfold prepared
  cases startingRules h source with
  | error fault => simp
  | ok loaded => cases hg : WordSwap.generate .default loaded <;> grind

lemma prepared_error_cases (hp : prepared h source = .error chain) :
    (∃ fault, startingRules h source = .error fault ∧ chain = fault.chain) ∨
      ∃ rules m, startingRules h source = .ok rules ∧
        WordSwap.generate .default rules = .error m ∧ chain = malformedChain m := by
  rw [prepared] at hp
  split at hp
  next fault hrules => exact .inl ⟨fault, hrules, (Except.error.inj hp).symm⟩
  next rules hrules =>
    split at hp
    next m hm => exact .inr ⟨rules, m, hrules, hm, (Except.error.inj hp).symm⟩
    next => cases hp

lemma prepared_chain_ne_nil (hp : prepared h source = .error chain) : chain ≠ [] := by
  rcases prepared_error_cases hp with ⟨fault, -, rfl⟩ | ⟨_, _, -, -, rfl⟩
  · exact fault.chain_ne_nil
  · exact List.cons_ne_nil _ _

lemma generate_not_prepared (output : String) (print : Bool)
    (hp : prepared h source = .error chain) :
    ∃ log k, generate (m := OnHost) source output print h = (.failed log chain, k) ∧
      k.tree = h.tree := by
  rcases prepared_error_cases hp with ⟨fault, hrules, rfl⟩ | ⟨rules, m, hrules, hm, rfl⟩
  · obtain ⟨k, hrun, htree⟩ := generate_not_loaded output print hrules
    exact ⟨_, k, hrun, htree⟩
  · obtain ⟨k, hrun, htree⟩ := generate_malformed output print hrules hm
    exact ⟨_, k, hrun, htree⟩

lemma analyze_run (source : Option String) (h : Host) :
    ∃ k : Host, k.tree = h.tree ∧ analyze (m := OnHost) source h =
      match startingRules h source with
      | .error fault => (.failed [sourceLine source] fault.chain, k)
      | .ok rules =>
        match WordSwap.generate .default rules with
        | .error malformed => (.failed (analysisLog source rules) (malformedChain malformed), k)
        | .ok g => (⟨0, analysisLog source rules, analysis rules.length g, ""⟩, k) := by
  obtain ⟨k, hload, htree, -⟩ := run_rulesFrom source h
  refine ⟨k, htree, ?_⟩
  rw [analyze, Host.run_bind, hload]
  cases startingRules h source with
  | error fault => rfl
  | ok rules =>
    simp only [WordSwap.generate]
    cases (run Settings.default.boundaries rules).result Settings.default.traits with
    | error malformed => rfl
    | ok g => rfl

lemma analyze_cases (source : Option String) (h : Host) :
    ∃ log k, k.tree = h.tree ∧ analyze (m := OnHost) source h =
      match prepared h source with
      | .error chain => (.failed log chain, k)
      | .ok (rules, g) => (⟨0, log, analysis rules.length g, ""⟩, k) := by
  obtain ⟨k, htree, hrun⟩ := analyze_run source h
  rw [hrun, prepared]
  cases startingRules h source with
  | error fault => exact ⟨_, k, htree, rfl⟩
  | ok rules =>
    refine ⟨analysisLog source rules, k, htree, ?_⟩
    cases hg : WordSwap.generate .default rules <;> simp only [hg]

end

def summary (rules : List Rule) (phase1 phase2 : Nat) : String :=
  let routed := rules.countP (·.tokenRouting)
  let lines :=
    ["Rule Expansion", "=============="] ++
    rules.map Rule.line ++
    ["",
     "Totals",
     "------",
     "Rules: " ++ toString rules.length,
     "Token-routed rules: " ++ toString routed,
     "Phase 1 groups: " ++ toString rules.length,
     "Phase 2 groups: " ++ toString routed,
     "Substitutions: " ++ toString (phase1 + phase2) ++ " (" ++ toString phase1 ++
       " phase 1, " ++ toString phase2 ++ " phase 2)"]
  String.join (lines.map (· ++ "\n"))

lemma analysis_eq_summary {rules : List Rule} {g : Generated}
    (hg : WordSwap.generate .default rules = .ok g) :
    analysis rules.length g =
      summary rules (Document.mk g.phase1).leafCount (Document.mk g.phase2).leafCount := by
  have he := expandable_of_generate hg
  rw [generate_of_expandable .default he, Except.ok.injEq] at hg
  subst hg
  have hlines : (rules.map (Rule.expansion .default)).map (Tally.line ∘ Expanded.tally) =
      rules.map Rule.line := by
    rw [List.map_map]
    exact List.map_congr_left fun r _ => r.line_expansion .default
  rw [analysis, length_routed .default he, length_phase1, length_phase2 .default he,
    leafCount_phase1, leafCount_phase2, summary, ← hlines, ← List.map_map]
  rfl

/-- An analysis fails exactly where a run would fail before it writes anything, with the same error,
and otherwise counts what is in the document that the run goes on to write. -/
theorem analyze_agrees (source : Option String) (h : Host) :
    ∃ report k, analyze (m := OnHost) source h = (report, k) ∧ k.tree = h.tree ∧
      (report.exitCode ≠ 0 ↔ ∃ chain, prepared h source = .error chain) ∧
      (∀ chain, prepared h source = .error chain →
        report.output = "" ∧ report.errors = Report.errorText chain ∧ report.Explains chain ∧
        ∀ output print, ∃ failed j,
          generate (m := OnHost) source output print h = (failed, j) ∧ j.tree = h.tree ∧
            failed.exitCode = report.exitCode ∧ failed.errors = report.errors) ∧
      ∀ rules g, prepared h source = .ok (rules, g) →
        (∀ output print, ∃ j : Host, j.tree = h.tree ∧
          generate (m := OnHost) source output print h =
            match writeFile (m := OnHost) output (Text.utf8 g.document.text) j with
            | (.error fault, i) => (.failed (runLog source rules) fault.chain, i)
            | (.ok (), i) => (writtenReport output print source rules g, i)) ∧
        report.output =
          summary rules (Document.mk g.phase1).leafCount (Document.mk g.phase2).leafCount ∧
        report.errors = "" ∧
        g.phase1.length = rules.length ∧ g.phase2.length = rules.countP (·.tokenRouting) ∧
        g.document.leafCount =
          (Document.mk g.phase1).leafCount + (Document.mk g.phase2).leafCount ∧
        g.document.leafCount = rules.foldr (fun r n => r.leafTotal + n) 0 := by
  obtain ⟨log, k, htree, hrun⟩ := analyze_cases source h
  cases hp : prepared h source with
  | error chain =>
    rw [hp] at hrun
    refine ⟨_, k, hrun, htree, ?_, ?_, ?_⟩
    · simp [Report.failed]
    · rintro _ ⟨⟩
      refine ⟨rfl, rfl, Report.explains_failed log (prepared_chain_ne_nil hp), ?_⟩
      intro output print
      obtain ⟨_, j, hfailed, hj⟩ := generate_not_prepared output print hp
      exact ⟨_, j, hfailed, hj, rfl, rfl⟩
    · rintro _ _ ⟨⟩
  | ok prepared =>
    obtain ⟨rules, g⟩ := prepared
    rw [hp] at hrun
    refine ⟨_, k, hrun, htree, by simp, by rintro _ ⟨⟩, ?_⟩
    rintro _ _ ⟨⟩
    obtain ⟨hrules, hg⟩ := prepared_eq_ok_iff.mp hp
    have hwrites (output : String) (print : Bool) := generate_writes output print hrules hg
    have he := expandable_of_generate hg
    have hsummary := analysis_eq_summary hg
    rw [generate_of_expandable .default he, Except.ok.injEq] at hg
    subst hg
    refine ⟨fun output print => ?_, hsummary, rfl, length_phase1 .default rules,
      length_phase2 .default he, leafCount_append _ _, leafCount_document .default rules⟩
    obtain ⟨j, hj, -, -, hgenerate⟩ := hwrites output print
    exact ⟨j, hj, hgenerate⟩

end Session

end WordSwap
