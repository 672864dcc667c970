import WordSwap.Proofs.DigitForms
import WordSwap.Proofs.Generation
import WordSwap.Proofs.TokenEncoding

/-! Which patterns of the first phase match inside a token. -/

namespace WordSwap

variable {r : Rule}

lemma mem_phase1_pattern {tokenRouting : Bool} {leaves : List Leaf} {pattern : String} :
    (∃ p ∈ (route tokenRouting leaves).phase1, p.pattern = pattern) ↔
      ∃ l ∈ leaves, l.pattern = pattern := by
  cases tokenRouting <;> simp [route, Leaf.writingToken]

namespace Rule

lemma mem_declared_pattern (b : Boundaries) (hw : r.wholeWord = false) {pattern : String} :
    (∃ l ∈ r.declared b, l.pattern = pattern) ↔
      ∃ swap ∈ r.swaps, ∃ form ∈ r.caseMode.forms, form.1 swap.1 = pattern := by
  simp only [declared, swapLeaves, hw, List.mem_flatMap, List.mem_map]
  constructor
  · rintro ⟨_, ⟨swap, hswap, form, hform, rfl⟩, rfl⟩
    exact ⟨swap, hswap, form, hform, rfl⟩
  · rintro ⟨swap, hswap, form, hform, rfl⟩
    exact ⟨_, ⟨swap, hswap, form, hform, rfl⟩, rfl⟩

lemma phase1_pattern_iff (b : Boundaries) (hw : r.wholeWord = false) {pattern : String} :
    (∃ p ∈ (r.expansion b).routed.phase1, p.pattern = pattern) ↔
      ∃ swap ∈ r.swaps, ∃ form ∈ r.caseMode.forms, form.1 swap.1 = pattern := by
  rw [expansion, mem_phase1_pattern, mem_declared_pattern b hw]

lemma spelling_of_mem_swaps {swap : String × String} (h : swap ∈ r.swaps) :
    swap.1 ∈ r.inputs ++ r.outputs ++ r.inputPlurals ++ r.outputPlurals := by
  simp only [List.mem_append]
  rcases mem_swaps.mp h with h | ⟨-, h⟩
  · exact .inl (.inl ((mem_swapsBetween h).imp And.left And.left))
  · rw [or_assoc]
    exact .inr ((mem_swapsBetween h).imp And.left And.left)

lemma allDigits_phase1_output (b : Boundaries) (ht : r.tokenRouting = true) {q : Leaf}
    (hq : q ∈ (r.expansion b).routed.phase1) : AllDigits q.output.toList := by
  simp only [expansion, route, ht, if_true, List.mem_map] at hq
  obtain ⟨l, -, rfl⟩ := hq
  exact fun c hc => Leaf.isDigit_of_mem_token hc

lemma phase1_matches_iff (b : Boundaries) (hw : r.wholeWord = false) {number : List Char}
    (hn : AllDigits number) :
    (∃ p ∈ (r.expansion b).routed.phase1, p.pattern.toList <:+: number) ↔
      ∃ swap ∈ r.swaps, AllDigits swap.1.toList ∧ swap.1.toList <:+: number := by
  constructor
  · rintro ⟨p, hp, hmatch⟩
    obtain ⟨swap, hswap, form, hform, hpattern⟩ :=
      (phase1_pattern_iff b hw).mp ⟨p, hp, rfl⟩
    have hkeeps := CaseMode.keepsDigits hform
    rw [← hpattern] at hmatch
    have hdigits : AllDigits swap.1.toList := hkeeps.only fun c hc => hn c (hmatch.subset hc)
    rw [hkeeps.same hdigits] at hmatch
    exact ⟨swap, hswap, hdigits, hmatch⟩
  · rintro ⟨swap, hswap, hdigits, hmatch⟩
    obtain ⟨form, hform⟩ : ∃ form, form ∈ r.caseMode.forms := by
      cases r.caseMode <;> exact ⟨_, List.mem_cons_self⟩
    obtain ⟨p, hp, hpattern⟩ := (phase1_pattern_iff b hw).mpr ⟨swap, hswap, form, hform, rfl⟩
    refine ⟨p, hp, ?_⟩
    rw [hpattern, (CaseMode.keepsDigits hform).same hdigits]
    exact hmatch

end Rule

/-- A pattern that may match inside words is found in the token of another rule exactly if its rule
swaps a number that is found there. -/
theorem token_matched_iff_number (s : Settings) (rules : List Rule) (g : Generated)
    (h : generate s rules = .ok g) (i j : Nat) (a b : Rule) (ha : rules[i]? = some a)
    (hb : rules[j]? = some b) (ht : a.tokenRouting = true) (hw : b.wholeWord = false) :
    ∃ ga gb : Group, g.phase1[i]? = some ga ∧ g.phase1[j]? = some gb ∧
      ∀ q ∈ ga.substitutions,
        ((∃ p ∈ gb.substitutions, p.pattern.toList <:+: q.output.toList) ↔
          ∃ swap ∈ b.swaps, (∀ c ∈ swap.1.toList, Numeral.isDigit c = true) ∧
            swap.1.toList <:+: q.output.toList) ∧
        ((∀ word ∈ b.inputs ++ b.outputs ++ b.inputPlurals ++ b.outputPlurals,
            ∃ c ∈ word.toList, Numeral.isDigit c = false) →
          ∀ p ∈ gb.substitutions, ¬ p.pattern.toList <:+: q.output.toList) := by
  refine ⟨_, _, phase1_of_generate h ha, phase1_of_generate h hb, ?_⟩
  intro q hq
  have hmatches := Rule.phase1_matches_iff s.boundaries hw
    (Rule.allDigits_phase1_output s.boundaries ht hq)
  refine ⟨hmatches, ?_⟩
  intro hwords p hp hmatch
  obtain ⟨swap, hswap, hdigits, -⟩ := hmatches.mp ⟨p, hp, hmatch⟩
  obtain ⟨c, hc, hletter⟩ := hwords _ (Rule.spelling_of_mem_swaps hswap)
  rw [hdigits c hc] at hletter
  cases hletter

theorem token_matched_iff_number_one :
    let ship : Rule := ⟨["ship"], ["dinghy"], [], [], true, .ignore, true, false⟩
    let one : Rule := ⟨["1"], ["one"], [], [], false, .ignore, false, false⟩
    let file := "[[[\"ship\"], [\"dinghy\"], [], [], true, \"ignore\"]," ++
      " [[\"1\"], [\"one\"], [], [], false, \"ignore\", false]]"
    parseRules file = .ok [ship, one] ∧
      ∃ g ga gb, generate .default [ship, one] = .ok g ∧
        g.phase1[0]? = some ga ∧ g.phase1[1]? = some gb ∧
        ∃ q ∈ ga.substitutions, ∃ p ∈ gb.substitutions,
          p.pattern.toList <:+: q.output.toList := by
  intro ship one file
  have hfile : parseRules file = .ok [ship, one] := by decide +kernel
  have h := generate_of_expandable .default (show ∀ r ∈ [ship, one], r.Expandable by decide)
  obtain ⟨ga, gb, hga, hgb, hmatches⟩ :=
    token_matched_iff_number _ _ _ h 0 1 ship one rfl rfl rfl rfl
  let leaf : Leaf := .literal (Boundaries.default.wrap ship "ship") false "dinghy"
  have hleaf : leaf.writingToken ∈ ga.substitutions := by
    rw [phase1_of_generate h rfl, Option.some.injEq] at hga
    rw [← hga]
    exact List.mem_map_of_mem List.mem_cons_self
  have hone : AllDigits "1".toList := by
    intro c hc
    obtain rfl : c = '1' := by simpa using hc
    rfl
  have htoken : "1".toList <:+: leaf.token.toList := by decide +kernel
  obtain ⟨p, hp, hmatch⟩ :=
    (hmatches _ hleaf).1.mpr ⟨("1", "one"), List.mem_cons_self, hone, htoken⟩
  exact ⟨hfile, _, ga, gb, h, hga, hgb, _, hleaf, p, hp, hmatch⟩

end WordSwap
