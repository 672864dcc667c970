import WordSwap.Proofs.RuleGroups

/-! Rules that go both ways. The forward leaves of such a rule are the backward leaves of the rule
with its sides exchanged. -/

namespace WordSwap

def Generated.leafPairs (g : Generated) : List (Leaf × Leaf) :=
  (g.phase1.flatMap (·.substitutions)).zip (g.phase2.flatMap (·.substitutions))

namespace Rule

def mirror (r : Rule) : Rule :=
  { r with
    inputs := r.outputs
    outputs := r.inputs
    inputPlurals := r.outputPlurals
    outputPlurals := r.inputPlurals }

def pluralsTowards (r : Rule) (inputs outputs : List String) : List (String × String) :=
  if r.hasPlurals then towards inputs outputs else []

def halves (b : Boundaries) (r : Rule) (swaps : List (String × String)) : List (Leaf × Leaf) :=
  (swaps.flatMap (r.swapLeaves b)).map fun l => (l.writingToken, l.readingToken)

variable {r : Rule}

lemma swaps_bothWays (hb : r.bidirectional = true) :
    r.swaps =
      (towards r.inputs r.outputs ++ towards r.outputs r.inputs) ++
        (r.pluralsTowards r.inputPlurals r.outputPlurals ++
          r.pluralsTowards r.outputPlurals r.inputPlurals) := by
  have hbetween (inputs outputs : List String) :
      r.swapsBetween inputs outputs = towards inputs outputs ++ towards outputs inputs := by
    rw [swapsBetween, if_pos hb]
  rw [swaps, hbetween, hbetween]
  by_cases hp : r.inputPlurals ≠ [] ∧ r.outputPlurals ≠ []
  · have hplurals : r.hasPlurals = true := by simpa [hasPlurals] using hp
    simp only [pluralsTowards, if_pos hp, if_pos hplurals]
  · have hplurals : ¬ r.hasPlurals = true := by simpa [hasPlurals] using hp
    simp only [pluralsTowards, if_neg hp, if_neg hplurals, List.append_nil]

lemma halves_append (b : Boundaries) (r : Rule) (xs ys : List (String × String)) :
    r.halves b (xs ++ ys) = r.halves b xs ++ r.halves b ys := by
  rw [halves, List.flatMap_append, List.map_append, halves, halves]

lemma length_halves_swaps (b : Boundaries) (r : Rule) :
    (r.halves b r.swaps).length = (r.declared b).length := by
  rw [halves, List.length_map, declared]

lemma mirror_expandable (r : Rule) : r.mirror.Expandable ↔ r.Expandable := and_left_comm

lemma mirror_refusal (r : Rule) : r.mirror.refusal = r.refusal := by
  simp only [refusal, mirror, or_comm]

lemma mirror_halves (b : Boundaries) (r : Rule) : r.mirror.halves b = r.halves b := rfl

lemma mirror_swaps (hb : r.bidirectional = true) :
    r.mirror.swaps =
      (towards r.outputs r.inputs ++ towards r.inputs r.outputs) ++
        (r.pluralsTowards r.outputPlurals r.inputPlurals ++
          r.pluralsTowards r.inputPlurals r.outputPlurals) := by
  have hplurals : r.mirror.hasPlurals = r.hasPlurals := by
    simp only [hasPlurals, mirror, Bool.and_comm]
  rw [swaps_bothWays (r := r.mirror) hb, pluralsTowards, pluralsTowards, hplurals]
  rfl

lemma mirror_swaps_perm (hb : r.bidirectional = true) : r.mirror.swaps.Perm r.swaps := by
  rw [mirror_swaps hb, swaps_bothWays hb]
  exact List.perm_append_comm.append List.perm_append_comm

end Rule

section

variable {s : Settings} {r : Rule} {g : Generated}

lemma leafPairs_of_generate (h : generate s [r] = .ok g) (hb : r.bidirectional = true) :
    g.leafPairs = r.halves s.boundaries r.swaps := by
  have ht : r.tokenRouting = true := (expandable_of_generate h r List.mem_cons_self).2.2 hb
  have h1 : g.phase1.flatMap (·.substitutions) =
      (r.declared s.boundaries).map Leaf.writingToken := by
    simp [phase1_eq_map h, Rule.firstGroup_substitutions, ht]
  have h2 : g.phase2.flatMap (·.substitutions) =
      (r.declared s.boundaries).map Leaf.readingToken := by
    simp [phase2_eq_map h, Rule.secondGroup_substitutions, ht]
  rw [Generated.leafPairs, h1, h2, List.zip_map', Rule.halves, Rule.declared]

lemma tallies_of_generate (h : generate s [r] = .ok g) (hb : r.bidirectional = true) :
    g.tallies = [⟨r.name, r.swaps.length, g.leafPairs.length, g.leafPairs.length⟩] := by
  have ht : r.tokenRouting = true := (expandable_of_generate h r List.mem_cons_self).2.2 hb
  rw [tallies_eq_map h, leafPairs_of_generate h hb, Rule.length_halves_swaps]
  simp [Expanded.tally, Rule.expansion, route, ht]

lemma reason_of_generate {e : Malformed} (h : generate s [r] = .error e) :
    e.reason = "\"" ++ r.name ++ "\": " ++ r.refusal.reason := by
  obtain ⟨before, q, after, hsplit, -, -, rfl⟩ := first_refused_of_generate h
  have hq : q ∈ [r] := by simp [hsplit]
  obtain rfl := List.mem_singleton.mp hq
  rfl

end

/-- A rule that goes both ways and its mirror image are refused for one reason, or have the same
pairs of leaves with the forward and the backward ones exchanged. -/
theorem generate_mirror (s : Settings) (r : Rule) (hb : r.bidirectional = true) :
    ((∃ g, generate s [r] = .ok g) ↔ ∃ m, generate s [r.mirror] = .ok m) ∧
    (∀ e f, generate s [r] = .error e → generate s [r.mirror] = .error f →
      ∃ reason, e.reason = "\"" ++ r.name ++ "\": " ++ reason ∧
        f.reason = "\"" ++ r.mirror.name ++ "\": " ++ reason) ∧
    (∀ g m, generate s [r] = .ok g → generate s [r.mirror] = .ok m →
      let forth := r.halves s.boundaries (towards r.inputs r.outputs)
      let back := r.halves s.boundaries (towards r.outputs r.inputs)
      let pluralForth :=
        r.halves s.boundaries (r.pluralsTowards r.inputPlurals r.outputPlurals)
      let pluralBack :=
        r.halves s.boundaries (r.pluralsTowards r.outputPlurals r.inputPlurals)
      g.leafPairs = (forth ++ back) ++ (pluralForth ++ pluralBack) ∧
      m.leafPairs = (back ++ forth) ++ (pluralBack ++ pluralForth) ∧
      m.leafPairs.Perm g.leafPairs ∧
      ∃ atoms,
        g.tallies = [⟨r.name, atoms, g.leafPairs.length, g.leafPairs.length⟩] ∧
        m.tallies = [⟨r.mirror.name, atoms, g.leafPairs.length, g.leafPairs.length⟩]) := by
  refine ⟨?_, ?_, ?_⟩
  · simp only [generate_eq_ok_iff, List.forall_mem_singleton, Rule.mirror_expandable]
  · intro e f he hf
    have hreason := reason_of_generate hf
    rw [r.mirror_refusal] at hreason
    exact ⟨_, reason_of_generate he, hreason⟩
  · intro g m hg hm
    have hg' := leafPairs_of_generate hg hb
    have hm' := leafPairs_of_generate hm hb
    -- The exchange keeps the flags, so both rules make the same leaves of the same swaps.
    rw [r.mirror_halves] at hm'
    have hperm : m.leafPairs.Perm g.leafPairs := by
      rw [hg', hm', Rule.halves, Rule.halves]
      exact ((Rule.mirror_swaps_perm hb).flatMap_right _).map _
    refine ⟨?_, ?_, hperm, _, tallies_of_generate hg hb, ?_⟩
    · rw [hg', Rule.swaps_bothWays hb]
      simp only [Rule.halves_append]
    · rw [hm', Rule.mirror_swaps hb]
      simp only [Rule.halves_append]
    · rw [tallies_of_generate hm hb, hperm.length_eq, (Rule.mirror_swaps_perm hb).length_eq]

theorem generate_mirror_units :
    let league :=
      (Rule.ofSpellings ["kilometre", "kilometer"] ["league"]).bothWays.withCaseMode .ignore
    ∃ g m, generate .default [league] = .ok g ∧ generate .default [league.mirror] = .ok m ∧
      g.leafPairs.map (fun pair => pair.2.output) =
        ["league", "league", "kilometre", "leagues", "leagues", "kilometres"] ∧
      m.leafPairs.map (fun pair => pair.2.output) =
        ["kilometre", "league", "league", "kilometres", "leagues", "leagues"] ∧
      m.leafPairs.Perm g.leafPairs := by
  intro league
  have hg := generate_of_expandable .default (show ∀ r ∈ [league], r.Expandable by decide)
  have hm := generate_of_expandable .default (show ∀ r ∈ [league.mirror], r.Expandable by decide)
  obtain ⟨hforth, hback, hperm, -⟩ := (generate_mirror .default league rfl).2.2 _ _ hg hm
  refine ⟨_, _, hg, hm, ?_, ?_, hperm⟩
  · rw [hforth]; decide +kernel
  · rw [hback]; decide +kernel

end WordSwap
