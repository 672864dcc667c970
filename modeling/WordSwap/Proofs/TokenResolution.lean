import WordSwap.Proofs.Generation
import WordSwap.Proofs.TokenEncoding

/-! Unless the hash collides within the run, all leaves that match one token write one text. -/

namespace WordSwap

def routedLeaves (b : Boundaries) (rules : List Rule) : List Leaf :=
  (rules.filter (·.tokenRouting)).flatMap (Rule.declared b)

def Generated.secondLeaves (g : Generated) : List Leaf :=
  (g.document.groups.drop g.phase1.length).flatMap (·.substitutions)

variable {s : Settings} {rules : List Rule} {g : Generated}

lemma secondLeaves_of_generate (h : generate s rules = .ok g) :
    g.secondLeaves = (routedLeaves s.boundaries rules).map Leaf.readingToken := by
  have he := expandable_of_generate h
  rw [generate_of_expandable s he, Except.ok.injEq] at h
  subst h
  rw [Generated.secondLeaves, Generated.document, List.drop_left, Generated.ofExpanded,
    phase2_ofExpanded s he, List.flatMap_map, routedLeaves, List.map_flatMap]
  rfl

lemma firstGroup_of_generate (h : generate s rules = .ok g) {i : Nat} {r : Rule}
    (hr : rules[i]? = some r) (ht : r.tokenRouting = true) :
    g.document.groups[i]? =
      some (.ofLeaves s.traits r.name ((r.declared s.boundaries).map Leaf.writingToken)) := by
  have hphase1 := phase1_of_generate h hr
  have hi := (List.getElem?_eq_some_iff.mp hphase1).1
  rw [Generated.document, List.getElem?_append_left hi, hphase1]
  simp [Expanded.phase1Group, Rule.expansion, route, ht]

lemma output_eq_of_token_eq {leaves : List Leaf} (hlen : ∀ l ∈ leaves, l.Prefixable)
    (hcol : ∀ a ∈ leaves, ∀ b ∈ leaves, a.digestPrefix = b.digestPrefix → a.encoding = b.encoding)
    {a b : Leaf} (ha : a ∈ leaves) (hb : b ∈ leaves) (h : a.token = b.token) :
    a.output = b.output := by
  have he := hcol a ha b hb ((a.token_eq_iff b).mp h)
  exact ((Leaf.encoding_eq_iff (hlen a ha) (hlen b hb)).mp he).2.2

lemma find?_readingToken {leaves : List Leaf} {l : Leaf} (hl : l ∈ leaves)
    (h : ∀ a ∈ leaves, a.token = l.token → a.output = l.output) :
    ∃ q, (leaves.map Leaf.readingToken).find? (fun q => q.pattern == l.token) = some q ∧
      q.output = l.output := by
  have hs : (leaves.find? fun a => a.token == l.token).isSome :=
    List.find?_isSome.mpr ⟨l, hl, beq_self_eq_true _⟩
  obtain ⟨a, ha⟩ := Option.isSome_iff_exists.mp hs
  have hmem : a ∈ leaves := List.mem_of_find?_eq_some ha
  have htoken : a.token = l.token := by simpa using List.find?_some ha
  refine ⟨a.readingToken, ?_, ?_⟩
  · simp only [List.find?_map, Function.comp_def, Leaf.readingToken_pattern, ha, Option.map_some]
  · rw [Leaf.readingToken_output]
    exact h a hmem htoken

/-- Without a collision of the hash, the first leaf of the second phase that matches a token writes
the output that the token stands for. -/
theorem tokens_resolve (s : Settings) (rules : List Rule) (g : Generated)
    (h : generate s rules = .ok g)
    (hlen : ∀ l ∈ routedLeaves s.boundaries rules,
      l.pattern.utf8ByteSize < 2 ^ 64 ∧ l.output.utf8ByteSize < 2 ^ 64)
    (hcol : ∀ a ∈ routedLeaves s.boundaries rules, ∀ b ∈ routedLeaves s.boundaries rules,
      (Hash.Sha256.digest a.encoding).take 16 = (Hash.Sha256.digest b.encoding).take 16 →
        a.encoding = b.encoding) :
    (∀ (i : Nat) (r : Rule), rules[i]? = some r → r.tokenRouting = true →
      ∃ group : Group, g.document.groups[i]? = some group ∧
        group.substitutions.length = (r.declared s.boundaries).length ∧
        ∀ (j : Nat) (l first : Leaf), (r.declared s.boundaries)[j]? = some l →
          group.substitutions[j]? = some first →
          ∃ q, g.secondLeaves.find? (fun q => q.pattern == first.output) = some q ∧
            q.output = l.output) ∧
    (∀ p ∈ g.secondLeaves, ∀ q ∈ g.secondLeaves, p.pattern = q.pattern → p = q) := by
  rw [secondLeaves_of_generate h]
  constructor
  · intro i r hr ht
    refine ⟨_, firstGroup_of_generate h hr ht, List.length_map _, ?_⟩
    intro j l first hl hfirst
    obtain rfl : l.writingToken = first := by
      simpa [Group.ofLeaves, hl] using hfirst
    have hmem : l ∈ routedLeaves s.boundaries rules :=
      List.mem_flatMap.mpr ⟨r, List.mem_filter.mpr ⟨List.mem_of_getElem? hr, ht⟩,
        List.mem_of_getElem? hl⟩
    exact find?_readingToken hmem fun a ha => output_eq_of_token_eq hlen hcol ha hmem
  · intro p hp q hq hpq
    obtain ⟨a, ha, rfl⟩ := List.mem_map.mp hp
    obtain ⟨b, hb, rfl⟩ := List.mem_map.mp hq
    have htoken : a.token = b.token := hpq
    rw [Leaf.readingToken, Leaf.readingToken, htoken, output_eq_of_token_eq hlen hcol ha hb htoken]

theorem tokens_resolve_overlap :
    let there := (Rule.ofPair "mile" "furlong").withoutPlurals.withCaseMode .matchExact
    let both := there.bothWays
    ∃ g group first q, generate .default [both, there, both] = .ok g ∧
      g.document.groups[1]? = some group ∧ group.substitutions[0]? = some first ∧
      g.secondLeaves.find? (fun q => q.pattern == first.output) = some q ∧ q.output = "furlong" ∧
      (∀ p ∈ g.secondLeaves, ∀ q ∈ g.secondLeaves, p.pattern = q.pattern → p = q) := by
  intro there both
  have h := generate_of_expandable .default
    (show ∀ r ∈ [both, there, both], r.Expandable by decide)
  obtain ⟨hfirst, hsame⟩ := tokens_resolve _ _ _ h (by decide) (by decide +kernel)
  obtain ⟨group, hgroup, hlength, hleaf⟩ := hfirst 1 there rfl rfl
  have hpos : 0 < group.substitutions.length := by
    rw [hlength]
    decide
  have hget := List.getElem?_eq_getElem hpos
  obtain ⟨q, hq, hoq⟩ := hleaf 0 _ _ rfl hget
  exact ⟨_, group, _, q, h, hgroup, hget, hq, hoq, hsame⟩

end WordSwap
