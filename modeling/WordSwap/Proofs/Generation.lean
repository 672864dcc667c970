import WordSwap.Proofs.Declared
import WordSwap.Schema.RuleList

/-! What a run over a list of rules yields, and which rule ends it. -/

namespace WordSwap

namespace Rule

lemma declared_ne_nil (b : Boundaries) {r : Rule} (h : r.inputs ≠ []) : r.declared b ≠ [] := by
  obtain ⟨input, inputs, hi⟩ := List.exists_cons_of_ne_nil h
  cases hm : r.caseMode <;>
    simp [declared, swaps, swapsBetween, towards, swapLeaves, CaseMode.forms, hi, hm]

lemma phase2Group?_expansion (s : Settings) {r : Rule} (h : r.Expandable) :
    (r.expansion s.boundaries).phase2Group? s.traits =
      if r.tokenRouting then
        some (.ofLeaves s.traits r.name ((r.declared s.boundaries).map Leaf.readingToken))
      else none := by
  have hd := declared_ne_nil s.boundaries h.1
  cases ht : r.tokenRouting <;> simp [Expanded.phase2Group?, expansion, route, ht, hd]

lemma not_expandable_iff (r : Rule) :
    ¬ r.Expandable ↔
      r.inputs = [] ∨ r.outputs = [] ∨ (r.bidirectional = true ∧ r.tokenRouting = false) := by
  simp only [Expandable, ne_eq, Classical.not_and_iff_not_or_not, Decidable.not_not,
    Classical.not_imp, Bool.not_eq_true]

lemma refusal_reason (r : Rule) :
    (r.refusal.malformed.inRule r.name).reason =
      "\"" ++ r.name ++ "\": " ++
        if r.inputs = [] ∨ r.outputs = [] then "rule has no inputs"
        else "bidirectional rule requires token routing" := by
  simp only [refusal, Breach.malformed, Malformed.inRule]
  split <;> rfl

lemma flaw?_eq_none_iff (r : Rule) :
    r.flaw? = none ↔
      r.inputs ≠ [] ∧ r.outputs ≠ [] ∧ (r.inputPlurals = [] ↔ r.outputPlurals = []) := by
  simp only [flaw?, List.isEmpty_iff]
  by_cases hi : r.inputs = []
  · simp [hi]
  · by_cases ho : r.outputs = []
    · simp [hi, ho]
    · cases hp : r.inputPlurals <;> cases hq : r.outputPlurals <;> simp [hi, ho]

end Rule

lemma run_append (b : Boundaries) {before : List Rule} (rest : List Rule)
    (h : ∀ q ∈ before, q.Expandable) :
    run b (before ++ rest) =
      ⟨before.map (Rule.expansion b) ++ (run b rest).done, (run b rest).fault⟩ := by
  induction before with
  | nil => rfl
  | cons q before ih =>
    have hq : q.expand b = .ok (q.expansion b) := Rule.expand_eq_ok b (h q List.mem_cons_self)
    have hrest := ih fun p hp => h p (List.mem_cons_of_mem q hp)
    simp only [List.cons_append, run, hq, hrest, List.map_cons]

lemma run_of_expandable (b : Boundaries) {rules : List Rule} (h : ∀ r ∈ rules, r.Expandable) :
    run b rules = ⟨rules.map (Rule.expansion b), none⟩ := by
  simpa [run] using run_append b [] h

lemma run_of_refused (b : Boundaries) {before : List Rule} {r : Rule} (after : List Rule)
    (hb : ∀ q ∈ before, q.Expandable) (hr : ¬ r.Expandable) :
    run b (before ++ r :: after) =
      ⟨before.map (Rule.expansion b), some (r.refusal.malformed.inRule r.name)⟩ := by
  rw [run_append b _ hb]
  simp only [run, Rule.expand_eq_error b hr, List.append_nil]

lemma generate_of_expandable (s : Settings) {rules : List Rule} (h : ∀ r ∈ rules, r.Expandable) :
    generate s rules =
      .ok (.ofExpanded s.traits (rules.map (Rule.expansion s.boundaries))) := by
  rw [generate, run_of_expandable s.boundaries h, Run.result]

lemma generate_of_refused (s : Settings) {before : List Rule} {r : Rule} (after : List Rule)
    (hb : ∀ q ∈ before, q.Expandable) (hr : ¬ r.Expandable) :
    generate s (before ++ r :: after) = .error (r.refusal.malformed.inRule r.name) := by
  rw [generate, run_of_refused s.boundaries after hb hr, Run.result]

lemma expandable_of_generate {s : Settings} {rules : List Rule} {g : Generated}
    (h : generate s rules = .ok g) : ∀ r ∈ rules, r.Expandable := by
  intro r hr
  by_contra hn
  obtain ⟨before, q, after, rfl, hb, hq⟩ := exists_first_not ⟨r, hr, hn⟩
  rw [generate_of_refused s after hb hq] at h
  cases h

lemma refused_of_generate {s : Settings} {rules : List Rule} {m : Malformed}
    (h : generate s rules = .error m) : ∃ r ∈ rules, ¬ r.Expandable := by
  by_contra hn
  rw [generate_of_expandable s (by simpa using hn)] at h
  cases h

lemma first_refused_of_generate {s : Settings} {rules : List Rule} {m : Malformed}
    (h : generate s rules = .error m) :
    ∃ before r after, rules = before ++ r :: after ∧ (∀ q ∈ before, q.Expandable) ∧
      ¬ r.Expandable ∧ m = r.refusal.malformed.inRule r.name := by
  obtain ⟨before, r, after, rfl, hb, hr⟩ := exists_first_not (refused_of_generate h)
  rw [generate_of_refused s after hb hr, Except.error.injEq] at h
  exact ⟨before, r, after, rfl, hb, hr, h.symm⟩

lemma phase2_ofExpanded (s : Settings) {rules : List Rule} (h : ∀ r ∈ rules, r.Expandable) :
    (rules.map (Rule.expansion s.boundaries)).filterMap (Expanded.phase2Group? s.traits) =
      (rules.filter (·.tokenRouting)).map fun r =>
        .ofLeaves s.traits r.name ((r.declared s.boundaries).map Leaf.readingToken) := by
  induction rules with
  | nil => rfl
  | cons r rules ih =>
    have hr := Rule.phase2Group?_expansion s (h r List.mem_cons_self)
    have hrest := ih fun q hq => h q (List.mem_cons_of_mem r hq)
    cases ht : r.tokenRouting with
    | false =>
      rw [List.map_cons, List.filterMap_cons_none (by simpa [ht] using hr), hrest,
        List.filter_cons_of_neg (by simp [ht])]
    | true =>
      rw [List.map_cons, List.filterMap_cons_some (by simpa [ht] using hr), hrest,
        List.filter_cons_of_pos (by simp [ht]), List.map_cons]

lemma phase1_of_generate {s : Settings} {rules : List Rule} {g : Generated}
    (h : generate s rules = .ok g) {i : Nat} {r : Rule} (hr : rules[i]? = some r) :
    g.phase1[i]? = some ((r.expansion s.boundaries).phase1Group s.traits) := by
  rw [generate_of_expandable s (expandable_of_generate h), Except.ok.injEq] at h
  subst h
  simp [Generated.ofExpanded, hr]

/-- A run that succeeds has the declared leaves of every rule in the rule's own groups; those of a
routed rule stand at the same places of both phases, one half in each. -/
theorem generate_ok_declared (s : Settings) (rules : List Rule) (g : Generated)
    (h : generate s rules = .ok g) :
    (∀ r ∈ rules, r.inputs ≠ [] ∧ r.outputs ≠ []) ∧
    g.phase1 = (rules.map fun r =>
      ⟨r.inputs.headD "" ++ " -> " ++ r.outputs.headD "", s.traits.urls,
        if r.tokenRouting then
          (r.declared s.boundaries).map fun l => { l with output := l.token }
        else r.declared s.boundaries,
        s.traits.html, s.traits.enabled, s.traits.mode⟩) ∧
    g.phase2 = ((rules.filter (·.tokenRouting)).map fun r =>
      ⟨r.inputs.headD "" ++ " -> " ++ r.outputs.headD "", s.traits.urls,
        (r.declared s.boundaries).map fun l => ⟨l.token, .regexp, l.output, .text, true⟩,
        s.traits.html, s.traits.enabled, s.traits.mode⟩) ∧
    g.tallies = rules.map fun r =>
      ⟨r.inputs.headD "" ++ " -> " ++ r.outputs.headD "", r.swaps.length,
        (r.declared s.boundaries).length,
        if r.tokenRouting then (r.declared s.boundaries).length else 0⟩ := by
  have he := expandable_of_generate h
  rw [generate_of_expandable s he, Except.ok.injEq] at h
  subst h
  have hname (r : Rule) : r.name = r.inputs.headD "" ++ " -> " ++ r.outputs.headD "" := by
    simp [Rule.name, Rule.firstInput?, Rule.canonicalOutput?]
  refine ⟨fun r hr => ⟨(he r hr).1, (he r hr).2.1⟩, ?_, ?_, ?_⟩
  · simp only [Generated.ofExpanded, List.map_map]
    apply List.map_congr_left
    intro r _
    cases ht : r.tokenRouting <;>
      simp [Expanded.phase1Group, Rule.expansion, Group.ofLeaves, route, Leaf.writingToken, hname,
        ht]
  · simp only [Generated.ofExpanded, phase2_ofExpanded s he, Group.ofLeaves, hname]
    rfl
  · simp only [Generated.ofExpanded, List.map_map]
    apply List.map_congr_left
    intro r _
    cases ht : r.tokenRouting <;>
      simp [Expanded.tally, Rule.expansion, route, hname, ht]

theorem generate_ok_declared_units :
    let league :=
      (Rule.ofSpellings ["kilometre", "kilometer"] ["league"]).bothWays.withCaseMode .ignore
    let pope := (Rule.ofPair "pope" "Satan").withoutPlurals.withoutTokens.insideWords
    ∃ g, generate .default [league, pope] = .ok g ∧
      g.phase1.map (fun p => p.substitutions.length) = [6, 3] ∧
      (g.phase1.drop 1).map (fun p => p.substitutions.map fun l => (l.pattern, l.output)) =
        [[("POPE", "SATAN"), ("Pope", "Satan"), ("pope", "satan")]] ∧
      g.phase2.map (fun p => (p.name, p.substitutions.map Leaf.output)) =
        [("kilometre -> league",
          ["league", "league", "kilometre", "leagues", "leagues", "kilometres"])] := by
  intro league pope
  have h := generate_of_expandable .default (show ∀ r ∈ [league, pope], r.Expandable by decide)
  obtain ⟨-, h1, h2, -⟩ := generate_ok_declared _ _ _ h
  refine ⟨_, h, ?_, ?_, ?_⟩
  · rw [h1]; rfl
  · rw [h1]; decide +kernel
  · rw [h2]; decide +kernel

lemma firstFlaw?_eq_none {index : Nat} {rules : List Rule} (h : firstFlaw? index rules = none) :
    ∀ r ∈ rules, r.flaw? = none := by
  induction rules generalizing index with
  | nil => exact fun r hr => absurd hr List.not_mem_nil
  | cons q rules ih =>
    simp only [firstFlaw?] at h
    split at h
    next => cases h
    next hq =>
      intro r hr
      rcases List.mem_cons.mp hr with rfl | hr
      · exact hq
      · exact ih h r hr

lemma parseRules_eq_ok_iff {text : String} {rules : List Rule} :
    parseRules text = .ok rules ↔
      (Json.Reader.list Rule.reader).whole text.toList = .ok rules ∧
        firstFlaw? 0 rules = none := by
  unfold parseRules
  cases (Json.Reader.list Rule.reader).whole text.toList with
  | error fault => simp
  | ok read => grind

lemma flaw?_of_parseRules {text : String} {rules : List Rule} (h : parseRules text = .ok rules) :
    ∀ r ∈ rules, r.flaw? = none :=
  firstFlaw?_eq_none (parseRules_eq_ok_iff.mp h).2

lemma passes_of_ok (b : Boundaries) {r : Rule} {rs : List Rule}
    (h : expandDirections (expandPlurals [r]) = .ok rs) :
    ∃ atoms leaves, expandInputs rs = .ok atoms ∧ expandCapitalization b atoms = .ok leaves := by
  by_cases hr : r.Expandable
  · rw [expandDirections_eq_ok hr, Except.ok.injEq] at h
    subst h
    exact ⟨_, _, expandInputs_oneWayForms r, expandCapitalization_atoms b r⟩
  · rw [expandDirections_eq_error hr] at h
    cases h

/-- A run fails exactly if some rule cannot be expanded, and then over the first such rule; rules
from a rule file can only lack tokens. -/
theorem generate_error_first_refused (s : Settings) (rules : List Rule) :
    ((∃ m, generate s rules = .error m) ↔
      ∃ r ∈ rules, r.inputs = [] ∨ r.outputs = [] ∨
        (r.bidirectional = true ∧ r.tokenRouting = false)) ∧
    (∀ m, generate s rules = .error m ↔
      ∃ before r after, rules = before ++ r :: after ∧
        (∀ q ∈ before, q.Expandable) ∧ ¬ r.Expandable ∧
        m.reason = "\"" ++ r.name ++ "\": " ++
          if r.inputs = [] ∨ r.outputs = [] then "rule has no inputs"
          else "bidirectional rule requires token routing") ∧
    (∀ r : Rule,
      expandDirections (expandPlurals [r]) ≠ .error .pluralsUnresolved ∧
      ∀ rs, expandDirections (expandPlurals [r]) = .ok rs →
        ∃ atoms leaves,
          expandInputs rs = .ok atoms ∧ expandCapitalization s.boundaries atoms = .ok leaves) ∧
    (∀ text m, parseRules text = .ok rules → generate s rules = .error m →
      ∃ before r after, rules = before ++ r :: after ∧
        (∀ q ∈ before, q.Expandable) ∧ r.bidirectional = true ∧ r.tokenRouting = false ∧
        m.reason = "\"" ++ r.name ++ "\": " ++ "bidirectional rule requires token routing") := by
  refine ⟨?_, ?_, ?_, ?_⟩
  · simp only [← Rule.not_expandable_iff]
    constructor
    · rintro ⟨m, hm⟩
      exact refused_of_generate hm
    · intro h
      obtain ⟨before, r, after, rfl, hb, hr⟩ := exists_first_not h
      exact ⟨_, generate_of_refused s after hb hr⟩
  · intro m
    constructor
    · intro h
      obtain ⟨before, r, after, he, hb, hr, rfl⟩ := first_refused_of_generate h
      exact ⟨before, r, after, he, hb, hr, r.refusal_reason⟩
    · rintro ⟨before, r, after, rfl, hb, hr, hm⟩
      obtain ⟨reason⟩ := m
      obtain rfl : reason = (r.refusal.malformed.inRule r.name).reason :=
        hm.trans r.refusal_reason.symm
      exact generate_of_refused s after hb hr
  · intro r
    refine ⟨?_, fun rs h => passes_of_ok s.boundaries h⟩
    by_cases hr : r.Expandable
    · simp [expandDirections_eq_ok hr]
    · rw [expandDirections_eq_error hr, Rule.refusal]
      split <;> simp
  · intro text m hp h
    obtain ⟨before, r, after, rfl, hb, hr, rfl⟩ := first_refused_of_generate h
    have hflaw := flaw?_of_parseRules hp r (by simp)
    obtain ⟨hi, ho, -⟩ := r.flaw?_eq_none_iff.mp hflaw
    obtain ⟨hbi, ht⟩ : r.bidirectional = true ∧ r.tokenRouting = false := by
      simpa [hi, ho] using r.not_expandable_iff.mp hr
    exact ⟨before, r, after, rfl, hb, hbi, ht, by simpa [hi, ho] using r.refusal_reason⟩

theorem generate_error_first_refused_file :
    let file :=
      "[ [[\"a\"], [\"b\"]], [[\"c\"], [\"d\"], [], [], true, \"preserve\", false, true] ]"
    let plain : Rule := ⟨["a"], ["b"], [], [], true, .preserve, true, false⟩
    let bare : Rule := ⟨["c"], ["d"], [], [], true, .preserve, false, true⟩
    parseRules file = .ok [plain, bare] ∧
      ∃ m, generate .default [plain, bare] = .error m ∧
        ∃ before r after, [plain, bare] = before ++ r :: after ∧
          (∀ q ∈ before, q.Expandable) ∧ r.bidirectional = true ∧ r.tokenRouting = false ∧
          m.reason = "\"" ++ r.name ++ "\": " ++ "bidirectional rule requires token routing" := by
  intro file plain bare
  have hp : parseRules file = .ok [plain, bare] := by decide +kernel
  have hm := generate_of_refused .default []
    (show ∀ q ∈ [plain], q.Expandable by decide) (show ¬ bare.Expandable by decide)
  exact ⟨hp, _, hm, (generate_error_first_refused .default [plain, bare]).2.2.2 file _ hp hm⟩

end WordSwap
