import Mathlib.Data.List.Basic
import WordSwap.Proofs.RuleGroups
import WordSwap.Proofs.TokenEncoding

/-! The settings of a run reach the patterns of rules for whole words, through these their tokens,
and the groups' own fields. -/

namespace WordSwap

def Leaf.kinds (l : Leaf) : PatternKind × OutputKind × Bool :=
  (l.patternKind, l.outputKind, l.caseSensitive)

def Leaf.within (b : Boundaries) (r : Rule) (l : Leaf) : Leaf :=
  { l with pattern := b.wrap r l.pattern }

namespace Rule

def coreLeaves (r : Rule) : List Leaf :=
  r.swaps.flatMap fun swap => r.caseMode.forms.map fun (form, caseSensitive) =>
    .literal (form swap.1) caseSensitive (form swap.2)

lemma declared_eq_within (b : Boundaries) (r : Rule) :
    r.declared b = r.coreLeaves.map (Leaf.within b r) := by
  rw [declared, coreLeaves, List.map_flatMap]
  apply List.flatMap_congr
  intro swap _
  rw [swapLeaves, List.map_map]
  rfl

lemma declared_insideWords (b : Boundaries) {r : Rule} (hw : r.wholeWord = false) :
    r.declared b = r.coreLeaves := by
  have hwithin : Leaf.within b r = id := by
    funext l
    simp [Leaf.within, Boundaries.wrap, hw]
  rw [declared_eq_within, hwithin, List.map_id]

lemma tally_expansion_core (b : Boundaries) (r : Rule) :
    (r.expansion b).tally =
      ⟨r.name, r.swaps.length, r.coreLeaves.length,
        if r.tokenRouting then r.coreLeaves.length else 0⟩ := by
  cases ht : r.tokenRouting <;>
    simp [Expanded.tally, expansion, route, declared_eq_within, ht]

lemma firstGroup_kinds (s : Settings) (r : Rule) :
    (r.firstGroup s).substitutions.map Leaf.kinds = r.coreLeaves.map Leaf.kinds := by
  rw [firstGroup_substitutions, declared_eq_within]
  split <;> simp only [List.map_map] <;> rfl

lemma length_firstGroup (s : Settings) (r : Rule) :
    (r.firstGroup s).substitutions.length = r.coreLeaves.length := by
  simpa using congrArg List.length (r.firstGroup_kinds s)

lemma firstGroup_wholeWord (s : Settings) {r : Rule} (hw : r.wholeWord = true) :
    (r.firstGroup s).substitutions.map Leaf.pattern = r.coreLeaves.map fun l =>
      s.boundaries.leading ++ l.pattern ++ s.boundaries.trailing := by
  have hpattern (l : Leaf) : (l.within s.boundaries r).pattern =
      s.boundaries.leading ++ l.pattern ++ s.boundaries.trailing := by
    rw [Leaf.within, Boundaries.wrap, if_pos hw]
  rw [firstGroup_substitutions, declared_eq_within]
  split <;> simp only [List.map_map, Function.comp_def, Leaf.writingToken, hpattern]

lemma secondGroup_kinds (s : Settings) (r : Rule) :
    (r.secondGroup s).substitutions.map Leaf.kinds =
      r.coreLeaves.map fun _ => (.regexp, .text, true) := by
  rw [secondGroup_substitutions, declared_eq_within, List.map_map, List.map_map]
  rfl

lemma length_secondGroup (s : Settings) (r : Rule) :
    (r.secondGroup s).substitutions.length = r.coreLeaves.length := by
  simpa using congrArg List.length (r.secondGroup_kinds s)

lemma secondGroup_outputs (s : Settings) (r : Rule) :
    (r.secondGroup s).substitutions.map Leaf.output = r.coreLeaves.map Leaf.output := by
  rw [secondGroup_substitutions, declared_eq_within, List.map_map, List.map_map]
  apply List.map_congr_left
  intro l _
  exact (l.within s.boundaries r).readingToken_output

lemma firstGroup_insideWords (s : Settings) {r : Rule} (hw : r.wholeWord = false) :
    (r.firstGroup s).substitutions = (route r.tokenRouting r.coreLeaves).phase1 := by
  rw [firstGroup_substitutions, declared_insideWords _ hw, route]
  split <;> rfl

lemma secondGroup_insideWords (s : Settings) {r : Rule} (hw : r.wholeWord = false)
    (ht : r.tokenRouting = true) :
    (r.secondGroup s).substitutions = (route r.tokenRouting r.coreLeaves).phase2 := by
  rw [secondGroup_substitutions, declared_insideWords _ hw, route, if_pos ht]

end Rule

namespace Generated

def SameBy {α : Type} (view : Group → α) (g g' : Generated) : Prop :=
  g.phase1.map view = g'.phase1.map view ∧ g.phase2.map view = g'.phase2.map view

structure Agree (s s' : Settings) (rules : List Rule) (g g' : Generated) : Prop where
  tallies : g.tallies = g'.tallies
  names : SameBy Group.name g g'
  counts : SameBy (fun group => group.substitutions.length) g g'
  kinds : SameBy (fun group => group.substitutions.map Leaf.kinds) g g'
  outputs : g.phase2.map (fun group => group.substitutions.map Leaf.output) =
    g'.phase2.map fun group => group.substitutions.map Leaf.output
  first_insideWords : ∀ (i : Nat) (r : Rule), rules[i]? = some r → r.wholeWord = false →
    ∃ group group' : Group, g.phase1[i]? = some group ∧ g'.phase1[i]? = some group' ∧
      group.substitutions = (route r.tokenRouting r.coreLeaves).phase1 ∧
      group'.substitutions = (route r.tokenRouting r.coreLeaves).phase1
  second_insideWords : ∀ (i : Nat) (r : Rule), (rules.filter (·.tokenRouting))[i]? = some r →
    r.wholeWord = false →
    ∃ group group' : Group, g.phase2[i]? = some group ∧ g'.phase2[i]? = some group' ∧
      group.substitutions = (route r.tokenRouting r.coreLeaves).phase2 ∧
      group'.substitutions = (route r.tokenRouting r.coreLeaves).phase2
  boundaries : s.boundaries = s'.boundaries →
    SameBy (fun group => (group.name, group.substitutions)) g g'
  wholeWords : ∀ (i : Nat) (r : Rule), rules[i]? = some r → r.wholeWord = true →
    ∃ group group' : Group, g.phase1[i]? = some group ∧ g'.phase1[i]? = some group' ∧
      group.substitutions.map Leaf.pattern = r.coreLeaves.map (fun l =>
        s.boundaries.leading ++ l.pattern ++ s.boundaries.trailing) ∧
      group'.substitutions.map Leaf.pattern = r.coreLeaves.map (fun l =>
        s'.boundaries.leading ++ l.pattern ++ s'.boundaries.trailing)

end Generated

section

variable {s s' : Settings} {rules : List Rule} {g g' : Generated}

lemma sameBy_of_rules {α : Type} {view : Group → α} (h : generate s rules = .ok g)
    (h' : generate s' rules = .ok g')
    (hfirst : ∀ r : Rule, view (r.firstGroup s) = view (r.firstGroup s'))
    (hsecond : ∀ r : Rule, view (r.secondGroup s) = view (r.secondGroup s')) :
    Generated.SameBy view g g' := by
  rw [Generated.SameBy, phase1_eq_map h, phase1_eq_map h', phase2_eq_map h, phase2_eq_map h']
  simp only [List.map_map, Function.comp_def, hfirst, hsecond, and_self]

lemma phase2_at (h : generate s rules = .ok g) {i : Nat} {r : Rule}
    (hr : (rules.filter (·.tokenRouting))[i]? = some r) :
    g.phase2[i]? = some (r.secondGroup s) := by
  rw [phase2_eq_map h, List.getElem?_map, hr, Option.map_some]

lemma agree_of_generate (h : generate s rules = .ok g) (h' : generate s' rules = .ok g') :
    Generated.Agree s s' rules g g' where
  tallies := by
    rw [tallies_eq_map h, tallies_eq_map h']
    simp only [Rule.tally_expansion_core]
  -- The names one by one: to compare whole groups would unfold the hash behind their tokens.
  names := sameBy_of_rules h h' (fun r => by rw [r.firstGroup_name, r.firstGroup_name])
    fun r => by rw [r.secondGroup_name, r.secondGroup_name]
  counts := sameBy_of_rules h h' (fun r => by simp only [Rule.length_firstGroup])
    fun r => by simp only [Rule.length_secondGroup]
  kinds := sameBy_of_rules h h' (fun r => by simp only [Rule.firstGroup_kinds])
    fun r => by simp only [Rule.secondGroup_kinds]
  outputs := by
    rw [phase2_eq_map h, phase2_eq_map h', List.map_map, List.map_map]
    simp only [Function.comp_def, Rule.secondGroup_outputs]
  first_insideWords := by
    intro i r hr hw
    exact ⟨_, _, phase1_of_generate h hr, phase1_of_generate h' hr,
      Rule.firstGroup_insideWords s hw, Rule.firstGroup_insideWords s' hw⟩
  second_insideWords := by
    intro i r hr hw
    have ht : r.tokenRouting = true := (List.mem_filter.mp (List.mem_of_getElem? hr)).2
    exact ⟨_, _, phase2_at h hr, phase2_at h' hr, Rule.secondGroup_insideWords s hw ht,
      Rule.secondGroup_insideWords s' hw ht⟩
  boundaries := by
    intro hb
    apply sameBy_of_rules h h' <;> intro r
    · simp only [Rule.firstGroup_name, Rule.firstGroup_substitutions, hb]
    · simp only [Rule.secondGroup_name, Rule.secondGroup_substitutions, hb]
  wholeWords := by
    intro i r hr hw
    exact ⟨_, _, phase1_of_generate h hr, phase1_of_generate h' hr,
      Rule.firstGroup_wholeWord s hw, Rule.firstGroup_wholeWord s' hw⟩

end

/-- Settings decide neither whether rules can be expanded nor what they expand to. They reach the
patterns of rules for whole words, and through them the tokens of these rules. -/
theorem generate_settings (s s' : Settings) (rules : List Rule) :
    ((∃ g, generate s rules = .ok g) ↔ ∃ g', generate s' rules = .ok g') ∧
    (∀ m, generate s rules = .error m ↔ generate s' rules = .error m) ∧
    ∀ g g', generate s rules = .ok g → generate s' rules = .ok g' →
      Generated.Agree s s' rules g g' := by
  refine ⟨?_, ?_, fun g g' h h' => agree_of_generate h h'⟩
  · rw [generate_eq_ok_iff, generate_eq_ok_iff]
  · intro m
    rw [generate_eq_error_iff, generate_eq_error_iff]

theorem generate_settings_plain :
    let plain : Settings := ⟨⟨"", "!"⟩, ⟨["x"], .output, false, .manual⟩⟩
    let mile := (Rule.ofPair "mile" "furlong").withoutPlurals.withCaseMode .ignore
    let pope := (Rule.ofPair "pope" "Satan").withoutPlurals.insideWords
    ∃ g g', generate .default [mile, pope] = .ok g ∧ generate plain [mile, pope] = .ok g' ∧
      g.tallies = g'.tallies ∧
      (∃ group group' : Group, g.phase1[0]? = some group ∧ g'.phase1[0]? = some group' ∧
        group'.substitutions.map Leaf.pattern = ["mile!"] ∧
        group.substitutions.map Leaf.pattern ≠ ["mile!"]) ∧
      (∃ group group' : Group, g.phase2[1]? = some group ∧ g'.phase2[1]? = some group' ∧
        group.substitutions = group'.substitutions ∧
        group.substitutions.map Leaf.output = ["SATAN", "Satan", "satan"]) := by
  intro plain mile pope
  have he : ∀ r ∈ [mile, pope], r.Expandable := by decide
  have hg := generate_of_expandable .default he
  have hg' := generate_of_expandable plain he
  have hagree := (generate_settings .default plain [mile, pope]).2.2 _ _ hg hg'
  obtain ⟨first, first', hfirst, hfirst', hpatterns, hpatterns'⟩ := hagree.wholeWords 0 mile rfl rfl
  obtain ⟨second, second', hsecond, hsecond', hleaves, hleaves'⟩ :=
    hagree.second_insideWords 1 pope rfl rfl
  refine ⟨_, _, hg, hg', hagree.tallies, ⟨first, first', hfirst, hfirst', ?_, ?_⟩,
    second, second', hsecond, hsecond', hleaves.trans hleaves'.symm, ?_⟩
  · rw [hpatterns']; decide +kernel
  · rw [hpatterns]; decide +kernel
  · rw [hleaves]; decide +kernel

end WordSwap
