import WordSwap.Proofs.Generation

namespace WordSwap

namespace Rule

def firstGroup (s : Settings) (r : Rule) : Group :=
  (r.expansion s.boundaries).phase1Group s.traits

def secondGroup (s : Settings) (r : Rule) : Group :=
  .ofLeaves s.traits r.name ((r.declared s.boundaries).map Leaf.readingToken)

lemma firstGroup_name (s : Settings) (r : Rule) : (r.firstGroup s).name = r.name := rfl

lemma secondGroup_name (s : Settings) (r : Rule) : (r.secondGroup s).name = r.name := rfl

lemma firstGroup_substitutions (s : Settings) (r : Rule) :
    (r.firstGroup s).substitutions =
      if r.tokenRouting then (r.declared s.boundaries).map Leaf.writingToken
      else r.declared s.boundaries := by
  cases ht : r.tokenRouting <;>
    simp [firstGroup, Expanded.phase1Group, Group.ofLeaves, expansion, route, ht]

lemma secondGroup_substitutions (s : Settings) (r : Rule) :
    (r.secondGroup s).substitutions = (r.declared s.boundaries).map Leaf.readingToken := rfl

end Rule

variable {s : Settings} {rules : List Rule} {g : Generated}

lemma eq_ofExpanded (h : generate s rules = .ok g) :
    g = .ofExpanded s.traits (rules.map (Rule.expansion s.boundaries)) := by
  rw [generate_of_expandable s (expandable_of_generate h), Except.ok.injEq] at h
  exact h.symm

lemma phase1_eq_map (h : generate s rules = .ok g) : g.phase1 = rules.map (Rule.firstGroup s) := by
  rw [eq_ofExpanded h, Generated.ofExpanded, List.map_map]
  rfl

lemma phase2_eq_map (h : generate s rules = .ok g) :
    g.phase2 = (rules.filter (·.tokenRouting)).map (Rule.secondGroup s) := by
  rw [eq_ofExpanded h]
  exact phase2_ofExpanded s (expandable_of_generate h)

lemma tallies_eq_map (h : generate s rules = .ok g) :
    g.tallies = rules.map fun r => (r.expansion s.boundaries).tally := by
  rw [eq_ofExpanded h]
  simp only [Generated.ofExpanded, List.map_map, Function.comp_def]

lemma generate_eq_error_iff (s : Settings) (rules : List Rule) (m : Malformed) :
    generate s rules = .error m ↔
      ∃ before r after, rules = before ++ r :: after ∧ (∀ q ∈ before, q.Expandable) ∧
        ¬ r.Expandable ∧ m = r.refusal.malformed.inRule r.name := by
  constructor
  · exact first_refused_of_generate
  · rintro ⟨before, r, after, rfl, hb, hr, rfl⟩
    exact generate_of_refused s after hb hr

lemma generate_eq_ok_iff (s : Settings) (rules : List Rule) :
    (∃ g, generate s rules = .ok g) ↔ ∀ r ∈ rules, r.Expandable := by
  constructor
  · rintro ⟨g, hg⟩
    exact expandable_of_generate hg
  · intro h
    exact ⟨_, generate_of_expandable s h⟩

end WordSwap
