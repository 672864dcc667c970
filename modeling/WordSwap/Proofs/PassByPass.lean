import Mathlib.Data.List.Forall2
import WordSwap.Proofs.RuleGroups

/-! Expanding a list of rules pass by pass instead of rule by rule. -/

namespace WordSwap

def expandTogether (b : Boundaries) (rules : List Rule) : Except Breach (List Leaf) :=
  match expandDirections (expandPlurals rules) with
  | .error breach => .error breach
  | .ok oneWays =>
    match expandInputs oneWays with
    | .error breach => .error breach
    | .ok atoms => expandCapitalization b atoms

lemma expandDirections_expandPlurals (rules : List Rule) :
    expandDirections (expandPlurals rules) =
      expandEach (fun r => expandDirections (expandPlurals [r])) rules := by
  simp only [expandDirections, expandPlurals, expandEach_flatMap, List.flatMap_singleton]

lemma expandInputs_flatMap (rules : List Rule) :
    expandInputs (rules.flatMap Rule.oneWayForms) =
      .ok (rules.flatMap fun r => r.swaps.map r.atom) := by
  rw [expandInputs, expandEach_flatMap]
  exact expandEach_eq_ok fun r _ => expandInputs_oneWayForms r

lemma expandTogether_of_expandable (b : Boundaries) {rules : List Rule}
    (h : ∀ r ∈ rules, r.Expandable) :
    expandTogether b rules = .ok (rules.flatMap (Rule.declared b)) := by
  have hd : expandDirections (expandPlurals rules) = .ok (rules.flatMap Rule.oneWayForms) := by
    rw [expandDirections_expandPlurals]
    exact expandEach_eq_ok fun r hr => expandDirections_eq_ok (h r hr)
  have hc : expandCapitalization b (rules.flatMap fun r => r.swaps.map r.atom) =
      .ok (rules.flatMap (Rule.declared b)) := by
    rw [expandCapitalization, expandEach_flatMap]
    exact expandEach_eq_ok fun r _ => expandCapitalization_atoms b r
  simp only [expandTogether, hd, expandInputs_flatMap, hc]

lemma expandTogether_of_refused (b : Boundaries) {before : List Rule} {r : Rule}
    (after : List Rule) (hb : ∀ q ∈ before, q.Expandable) (hr : ¬ r.Expandable) :
    expandTogether b (before ++ r :: after) = .error r.refusal := by
  have hd : expandDirections (expandPlurals (before ++ r :: after)) = .error r.refusal := by
    rw [expandDirections_expandPlurals]
    exact expandEach_eq_error before after (fun q hq => expandDirections_eq_ok (hb q hq))
      (expandDirections_eq_error hr)
  simp only [expandTogether, hd]

lemma expandTogether_singleton (b : Boundaries) {r : Rule} (h : r.Expandable) :
    expandTogether b [r] = .ok (r.declared b) := by
  have hr : ∀ q ∈ [r], q.Expandable := by simpa using h
  simpa using expandTogether_of_expandable b hr

lemma generate_singleton_iff (s : Settings) (r : Rule) :
    (∃ g, generate s [r] = .ok g) ↔ r.Expandable := by
  rw [generate_eq_ok_iff, List.forall_mem_singleton]

lemma generate_singleton_refused_iff (s : Settings) (r : Rule) :
    (∃ m, generate s [r] = .error m) ↔ ¬ r.Expandable := by
  rw [← generate_singleton_iff s]
  cases generate s [r] <;> simp

lemma expandTogether_eq_error_iff (b : Boundaries) (rules : List Rule) (breach : Breach) :
    expandTogether b rules = .error breach ↔
      ∃ before r after, rules = before ++ r :: after ∧ (∀ q ∈ before, q.Expandable) ∧
        ¬ r.Expandable ∧ breach = r.refusal := by
  constructor
  · intro h
    have hn : ∃ r ∈ rules, ¬ r.Expandable := by
      by_contra hall
      rw [expandTogether_of_expandable b (by simpa using hall)] at h
      cases h
    obtain ⟨before, r, after, rfl, hb, hr⟩ := exists_first_not hn
    rw [expandTogether_of_refused b after hb hr, Except.error.injEq] at h
    exact ⟨before, r, after, rfl, hb, hr, h.symm⟩
  · rintro ⟨before, r, after, rfl, hb, hr, rfl⟩
    exact expandTogether_of_refused b after hb hr

lemma expandable_of_expandTogether {b : Boundaries} {rules : List Rule} {leaves : List Leaf}
    (h : expandTogether b rules = .ok leaves) : ∀ r ∈ rules, r.Expandable := by
  by_contra hn
  obtain ⟨before, r, after, rfl, hb, hr⟩ := exists_first_not (by simpa using hn)
  rw [expandTogether_of_refused b after hb hr] at h
  cases h

lemma route_append (tokenRouting : Bool) (xs ys : List Leaf) :
    route tokenRouting (xs ++ ys) =
      ⟨(route tokenRouting xs).phase1 ++ (route tokenRouting ys).phase1,
        (route tokenRouting xs).phase2 ++ (route tokenRouting ys).phase2⟩ := by
  cases tokenRouting <;> simp [route]

lemma phase1_ofExpanded_substitutions (t : GroupTraits) (done : List Expanded) :
    (Generated.ofExpanded t done).phase1.flatMap (·.substitutions) =
      done.flatMap (·.routed.phase1) := by
  simp [Generated.ofExpanded, List.flatMap_map, Expanded.phase1Group, Group.ofLeaves]

lemma phase2_ofExpanded_substitutions (t : GroupTraits) (done : List Expanded) :
    (Generated.ofExpanded t done).phase2.flatMap (·.substitutions) =
      done.flatMap (·.routed.phase2) := by
  simp only [Generated.ofExpanded]
  induction done with
  | nil => rfl
  | cons e done ih =>
    cases h : e.routed.phase2 <;>
      simp [Expanded.phase2Group?, Group.ofLeaves, h, ih]

lemma route_declared (b : Boundaries) {t : Bool} {rules : List Rule}
    (h : ∀ r ∈ rules, r.tokenRouting = t) :
    route t (rules.flatMap (Rule.declared b)) =
      ⟨(rules.map (Rule.expansion b)).flatMap (·.routed.phase1),
        (rules.map (Rule.expansion b)).flatMap (·.routed.phase2)⟩ := by
  induction rules with
  | nil => cases t <;> rfl
  | cons r rules ih =>
    have hr : r.tokenRouting = t := h r List.mem_cons_self
    rw [List.flatMap_cons, route_append, ih fun q hq => h q (List.mem_cons_of_mem r hq)]
    simp [Rule.expansion, hr]

/-- Pass by pass and rule by rule, a list is refused over the same rule for the same reason, and
otherwise gives the same leaves in the same order. -/
theorem expandTogether_agrees (s : Settings) (rules : List Rule) :
    (∀ e : String,
      (∃ breach, expandTogether s.boundaries rules = .error breach ∧ breach.reason = e) ↔
        ∃ before r after m, rules = before ++ r :: after ∧
          (∀ q ∈ before, ∃ g, generate s [q] = .ok g) ∧ (∃ m, generate s [r] = .error m) ∧
          generate s rules = .error m ∧ m.reason = "\"" ++ r.name ++ "\": " ++ e) ∧
    (∀ leaves, expandTogether s.boundaries rules = .ok leaves →
      (∃ parts : List (List Leaf), leaves = parts.flatten ∧
        List.Forall₂ (fun r part => expandTogether s.boundaries [r] = .ok part ∧
          ∃ atoms, r.expand s.boundaries = .ok ⟨r.name, atoms, route r.tokenRouting part⟩)
          rules parts) ∧
      (∀ t, (∀ r ∈ rules, r.tokenRouting = t) →
        ∃ g, generate s rules = .ok g ∧
          (route t leaves).phase1 = g.phase1.flatMap (·.substitutions) ∧
          (route t leaves).phase2 = g.phase2.flatMap (·.substitutions))) := by
  simp only [generate_singleton_iff, generate_singleton_refused_iff, expandTogether_eq_error_iff]
  constructor
  · intro e
    constructor
    · rintro ⟨breach, ⟨before, r, after, rfl, hb, hr, rfl⟩, rfl⟩
      exact ⟨before, r, after, _, rfl, hb, hr, generate_of_refused s after hb hr, rfl⟩
    · rintro ⟨before, r, after, m, rfl, hb, hr, hm, he⟩
      rw [generate_of_refused s after hb hr, Except.error.injEq] at hm
      subst hm
      have hreason : r.refusal.reason = e := (String.append_right_inj _).mp he
      exact ⟨r.refusal, ⟨before, r, after, rfl, hb, hr, rfl⟩, hreason⟩
  · intro leaves h
    have hx := expandable_of_expandTogether h
    rw [expandTogether_of_expandable _ hx, Except.ok.injEq] at h
    subst h
    constructor
    · refine ⟨rules.map (Rule.declared s.boundaries), List.flatMap_def, ?_⟩
      rw [List.forall₂_map_right_iff, List.forall₂_same]
      intro r hr
      exact ⟨expandTogether_singleton _ (hx r hr), _, Rule.expand_eq_ok _ (hx r hr)⟩
    · intro t ht
      refine ⟨_, generate_of_expandable s hx, ?_, ?_⟩
      · rw [phase1_ofExpanded_substitutions, route_declared _ ht]
      · rw [phase2_ofExpanded_substitutions, route_declared _ ht]

theorem expandTogether_agrees_units :
    let league :=
      (Rule.ofSpellings ["kilometre", "kilometer"] ["league"]).bothWays.withCaseMode .ignore
    let pope := (Rule.ofPair "pope" "Satan").withCaseMode .matchExact
    let bare := (Rule.ofPair "rebuild" "avenge").bothWays.withoutTokens
    (∃ breach m, expandTogether Boundaries.default [league, bare, pope] = .error breach ∧
      generate .default [league, bare, pope] = .error m ∧
      m.reason = "\"rebuild -> avenge\": " ++ breach.reason) ∧
    ∃ leaves g, expandTogether Boundaries.default [league, pope] = .ok leaves ∧
      generate .default [league, pope] = .ok g ∧ leaves.length = 8 ∧
      (route true leaves).phase1 = g.phase1.flatMap (·.substitutions) ∧
      (route true leaves).phase2 = g.phase2.flatMap (·.substitutions) := by
  intro league pope bare
  constructor
  · have hb : ∀ q ∈ [league], q.Expandable := by decide
    have hr : ¬ bare.Expandable := by decide
    have hm := generate_of_refused .default [pope] hb hr
    obtain ⟨breach, hbreach, hreason⟩ :=
      ((expandTogether_agrees .default [league, bare, pope]).1 bare.refusal.reason).mpr
        ⟨[league], bare, [pope], _, rfl, fun q hq => (generate_singleton_iff _ q).mpr (hb q hq),
          (generate_singleton_refused_iff _ bare).mpr hr, hm, rfl⟩
    exact ⟨breach, _, hbreach, hm, by rw [hreason]; rfl⟩
  · have h := expandTogether_of_expandable Boundaries.default
      (show ∀ r ∈ [league, pope], r.Expandable by decide)
    obtain ⟨g, hg, h1, h2⟩ :=
      ((expandTogether_agrees .default [league, pope]).2 _ h).2 true (by decide)
    exact ⟨_, g, h, hg, by decide +kernel, h1, h2⟩

end WordSwap
