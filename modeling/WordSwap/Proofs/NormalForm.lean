import WordSwap.Proofs.FirstFaults
import WordSwap.Proofs.PassByPass

/-! The form in which the first three passes leave a rule. No single pass leads there, but each of
them leaves a rule in this form as it is. -/

namespace WordSwap

namespace Rule

def words (r : Rule) : List String := r.inputs ++ r.outputs ++ r.inputPlurals ++ r.outputPlurals

structure Atomic (q : Rule) : Prop where
  input : ∃ word, q.inputs = [word]
  output : ∃ word, q.outputs = [word]
  inputPlurals : q.inputPlurals = []
  outputPlurals : q.outputPlurals = []
  oneWay : q.bidirectional = false

structure AtomOf (q r : Rule) : Prop extends q.Atomic where
  inputs_subset : q.inputs ⊆ r.words
  outputs_subset : q.outputs ⊆ r.words
  wholeWord : q.wholeWord = r.wholeWord
  caseMode : q.caseMode = r.caseMode
  tokenRouting : q.tokenRouting = r.tokenRouting

lemma words_of_mem_swaps {r : Rule} (h : r.Expandable) {swap : String × String}
    (hswap : swap ∈ r.swaps) : swap.1 ∈ r.words ∧ swap.2 ∈ r.words := by
  have hhead {words : List String} (hne : words ≠ []) : words.headD "" ∈ words := by
    obtain ⟨word, later, rfl⟩ := List.exists_cons_of_ne_nil hne
    exact List.mem_cons_self
  have hbetween {inputs outputs : List String} (hi : inputs ≠ []) (ho : outputs ≠ [])
      (h : swap ∈ r.swapsBetween inputs outputs) :
      swap.1 ∈ inputs ++ outputs ∧ swap.2 ∈ inputs ++ outputs := by
    rcases mem_swapsBetween h with ⟨h1, h2⟩ | ⟨h1, h2⟩
    · exact ⟨List.mem_append_left _ h1, List.mem_append_right _ (h2 ▸ hhead ho)⟩
    · exact ⟨List.mem_append_right _ h1, List.mem_append_left _ (h2 ▸ hhead hi)⟩
  rw [words, List.append_assoc]
  rcases mem_swaps.mp hswap with hswap | ⟨⟨hip, hop⟩, hswap⟩
  · exact (hbetween h.1 h.2.1 hswap).imp (List.mem_append_left _) (List.mem_append_left _)
  · exact (hbetween hip hop hswap).imp (List.mem_append_right _) (List.mem_append_right _)

lemma atomOf_atom {r : Rule} (h : r.Expandable) {swap : String × String} (hswap : swap ∈ r.swaps) :
    (r.atom swap).AtomOf r := by
  obtain ⟨h1, h2⟩ := words_of_mem_swaps h hswap
  exact {
    input := ⟨_, rfl⟩
    output := ⟨_, rfl⟩
    inputPlurals := rfl
    outputPlurals := rfl
    oneWay := rfl
    inputs_subset := List.cons_subset.mpr ⟨h1, List.nil_subset _⟩
    outputs_subset := List.cons_subset.mpr ⟨h2, List.nil_subset _⟩
    wholeWord := rfl
    caseMode := rfl
    tokenRouting := rfl }

lemma numberForms_of_no_plurals {q : Rule} (hi : q.inputPlurals = []) (ho : q.outputPlurals = []) :
    q.numberForms = [q] := by
  cases q
  cases hi
  cases ho
  rfl

lemma no_plurals_of_mem_numberForms {q r : Rule} (h : q ∈ r.numberForms) :
    q.inputPlurals = [] ∧ q.outputPlurals = [] := by
  rw [numberForms_eq, mem_cons_ite] at h
  rcases h with rfl | ⟨-, rfl⟩ <;> exact ⟨rfl, rfl⟩

lemma oneWays_of_oneWay {q : Rule} {output : String} (ho : q.outputs = [output])
    (hb : q.bidirectional = false) : q.oneWays = [q] := by
  cases q
  cases ho
  cases hb
  rfl

lemma perSpelling_of_input {q : Rule} {input : String} (hi : q.inputs = [input]) :
    q.perSpelling = [q] := by
  cases q
  cases hi
  rfl

lemma directions_of_mem_oneWays {q r : Rule} (h : r.directionFault? = none) (hq : q ∈ r.oneWays) :
    q.directionFault? = none ∧ q.oneWays = [q] := by
  have hkept : r.inputPlurals = [] ∧ r.outputPlurals = [] ∧ r.inputs ≠ [] ∧ r.outputs ≠ [] := by
    simp only [directionFault?] at h
    grind
  obtain ⟨hip, hop, hi, ho⟩ := hkept
  -- Each way has the inputs of one side, and both sides have a spelling.
  rw [oneWays, mem_cons_ite] at hq
  rcases hq with rfl | ⟨-, rfl⟩
  · exact ⟨by simp [directionFault?, forward, hip, hop, hi], oneWays_of_oneWay rfl rfl⟩
  · exact ⟨by simp [directionFault?, backward, hip, hop, ho], oneWays_of_oneWay rfl rfl⟩

lemma spellings_of_mem_perSpelling {q r : Rule} (h : r.spellingFault? = none)
    (hq : q ∈ r.perSpelling) : q.spellingFault? = none ∧ q.perSpelling = [q] := by
  obtain ⟨input, -, rfl⟩ := List.mem_map.mp hq
  exact ⟨h, perSpelling_of_input rfl⟩

namespace Atomic

variable {q : Rule}

lemma numberForms (h : q.Atomic) : q.numberForms = [q] :=
  numberForms_of_no_plurals h.inputPlurals h.outputPlurals

lemma directions (h : q.Atomic) : q.directionFault? = none ∧ q.oneWays = [q] := by
  obtain ⟨input, hi⟩ := h.input
  obtain ⟨output, ho⟩ := h.output
  refine ⟨?_, oneWays_of_oneWay ho h.oneWay⟩
  simp [directionFault?, h.inputPlurals, h.outputPlurals, hi, ho, h.oneWay]

lemma spellings (h : q.Atomic) : q.spellingFault? = none ∧ q.perSpelling = [q] := by
  obtain ⟨input, hi⟩ := h.input
  refine ⟨?_, perSpelling_of_input hi⟩
  simp [spellingFault?, h.inputPlurals, h.outputPlurals, h.oneWay]

lemma caseFault? (h : q.Atomic) : q.caseFault? = none := by
  obtain ⟨input, hi⟩ := h.input
  obtain ⟨output, ho⟩ := h.output
  simp [Rule.caseFault?, hi, ho, h.oneWay]

end Atomic

end Rule

lemma flatMap_eq_self {α : Type} {g : α → List α} {xs : List α} (h : ∀ x ∈ xs, g x = [x]) :
    xs.flatMap g = xs := by
  rw [List.flatMap_congr h, List.flatMap_singleton']

lemma okUnless_eq_self {fault? : Rule → Option Breach} {g : Rule → List Rule} {rules : List Rule}
    (h : ∀ r ∈ rules, fault? r = none ∧ g r = [r]) :
    okUnless (rules.findSome? fault?) (rules.flatMap g) = .ok rules := by
  rw [okUnless_eq_ok_iff, List.findSome?_eq_none_iff]
  exact ⟨fun r hr => (h r hr).1, flatMap_eq_self fun r hr => (h r hr).2⟩

lemma okUnless_idempotent {fault? : Rule → Option Breach} {g : Rule → List Rule}
    (hkept : ∀ q r, fault? r = none → q ∈ g r → fault? q = none ∧ g q = [q])
    {rules results : List Rule}
    (h : okUnless (rules.findSome? fault?) (rules.flatMap g) = .ok results) :
    okUnless (results.findSome? fault?) (results.flatMap g) = .ok results := by
  rw [okUnless_eq_ok_iff, List.findSome?_eq_none_iff] at h
  obtain ⟨hfault, rfl⟩ := h
  apply okUnless_eq_self
  intro q hq
  obtain ⟨r, hr, hq⟩ := List.mem_flatMap.mp hq
  exact hkept q r (hfault r hr) hq

theorem expandPlurals_idempotent (rules : List Rule) :
    expandPlurals (expandPlurals rules) = expandPlurals rules := by
  apply flatMap_eq_self
  intro q hq
  obtain ⟨r, -, hq⟩ := List.mem_flatMap.mp hq
  obtain ⟨hip, hop⟩ := Rule.no_plurals_of_mem_numberForms hq
  exact Rule.numberForms_of_no_plurals hip hop

theorem expandDirections_idempotent {rules oneWays : List Rule}
    (h : expandDirections rules = .ok oneWays) : expandDirections oneWays = .ok oneWays := by
  rw [expandDirections_eq] at h ⊢
  exact okUnless_idempotent (fun _ _ => Rule.directions_of_mem_oneWays) h

theorem expandInputs_idempotent {rules perInput : List Rule}
    (h : expandInputs rules = .ok perInput) : expandInputs perInput = .ok perInput := by
  rw [expandInputs_eq] at h ⊢
  exact okUnless_idempotent (fun _ _ => Rule.spellings_of_mem_perSpelling) h

lemma expandDirections_forms (r : Rule) :
    expandDirections (expandPlurals [r]) =
      okUnless (if r.Expandable then none else some r.refusal) r.oneWayForms := by
  by_cases h : r.Expandable
  · rw [if_pos h, expandDirections_eq_ok h, okUnless]
  · rw [if_neg h, expandDirections_eq_error h, okUnless]

lemma atoms_of_passes {rules oneWays atoms : List Rule}
    (hd : expandDirections (expandPlurals rules) = .ok oneWays)
    (hi : expandInputs oneWays = .ok atoms) :
    (∀ r ∈ rules, r.Expandable) ∧ atoms = rules.flatMap fun r => r.swaps.map r.atom := by
  rw [expandDirections_expandPlurals, expandEach_okUnless expandDirections_forms,
    okUnless_eq_ok_iff, List.findSome?_eq_none_iff] at hd
  obtain ⟨hfault, rfl⟩ := hd
  rw [expandInputs_flatMap, Except.ok.injEq] at hi
  refine ⟨fun r hr => ?_, hi.symm⟩
  by_contra hn
  simpa [hn] using hfault r hr

/-- The first three passes together bring every rule into its atoms, which each of them leaves as
they are; and each of them leaves as it is what it has been over. -/
theorem passes_normalise :
    (∀ rules oneWays atoms : List Rule, expandDirections (expandPlurals rules) = .ok oneWays →
      expandInputs oneWays = .ok atoms →
        (∃ blocks : List (List Rule), atoms = blocks.flatten ∧
          List.Forall₂ (fun r block => r.atoms = .ok block ∧ ∀ q ∈ block, q.AtomOf r)
            rules blocks) ∧
        expandPlurals atoms = atoms ∧ expandDirections atoms = .ok atoms ∧
        expandInputs atoms = .ok atoms ∧
        ∀ b, ∃ leaves, expandCapitalization b atoms = .ok leaves) ∧
    (∀ rules : List Rule, expandPlurals (expandPlurals rules) = expandPlurals rules) ∧
    (∀ rules oneWays : List Rule, expandDirections rules = .ok oneWays →
      expandDirections oneWays = .ok oneWays) ∧
    ∀ rules perInput : List Rule, expandInputs rules = .ok perInput →
      expandInputs perInput = .ok perInput := by
  refine ⟨?_, expandPlurals_idempotent, fun _ _ => expandDirections_idempotent,
    fun _ _ => expandInputs_idempotent⟩
  intro rules oneWays atoms hd hi
  obtain ⟨hx, rfl⟩ := atoms_of_passes hd hi
  have hof (r : Rule) (hr : r ∈ rules) : ∀ q ∈ r.swaps.map r.atom, q.AtomOf r := by
    intro q hq
    obtain ⟨swap, hswap, rfl⟩ := List.mem_map.mp hq
    exact Rule.atomOf_atom (hx r hr) hswap
  have hatomic : ∀ q ∈ rules.flatMap fun r => r.swaps.map r.atom, q.Atomic := by
    intro q hq
    obtain ⟨r, hr, hq⟩ := List.mem_flatMap.mp hq
    exact (hof r hr q hq).toAtomic
  refine ⟨⟨rules.map fun r => r.swaps.map r.atom, List.flatMap_def, ?_⟩, ?_, ?_, ?_, ?_⟩
  · rw [List.forall₂_map_right_iff, List.forall₂_same]
    exact fun r hr => ⟨Rule.atoms_eq_ok (hx r hr), hof r hr⟩
  · exact flatMap_eq_self fun q hq => (hatomic q hq).numberForms
  · rw [expandDirections_eq]
    exact okUnless_eq_self fun q hq => (hatomic q hq).directions
  · rw [expandInputs_eq]
    exact okUnless_eq_self fun q hq => (hatomic q hq).spellings
  · intro b
    simp only [expandCapitalization_eq, okUnless_eq_ok_iff, List.findSome?_eq_none_iff]
    exact ⟨_, fun q hq => (hatomic q hq).caseFault?, rfl⟩

theorem passes_normalise_units :
    let league := (Rule.ofSpellings ["kilometre", "kilometer"] ["league"]).bothWays.insideWords
    let pope := (Rule.ofSpellings ["pope"] ["Satan", "Satans"]).withInputPlurals []
    ∃ oneWays atoms, expandDirections (expandPlurals [league, pope]) = .ok oneWays ∧
      expandInputs oneWays = .ok atoms ∧ atoms.length = 7 ∧
      (∃ blocks : List (List Rule), atoms = blocks.flatten ∧
        List.Forall₂ (fun r block => r.atoms = .ok block ∧ ∀ q ∈ block, q.AtomOf r)
          [league, pope] blocks) ∧
      expandPlurals atoms = atoms ∧ expandDirections atoms = .ok atoms ∧
      expandInputs atoms = .ok atoms ∧ expandDirections oneWays = .ok oneWays := by
  intro league pope
  have hd : expandDirections (expandPlurals [league, pope]) =
      .ok ([league, pope].flatMap Rule.oneWayForms) := by decide
  have hi := expandInputs_flatMap [league, pope]
  obtain ⟨hblocks, hplurals, hdirections, hinputs, -⟩ := passes_normalise.1 _ _ _ hd hi
  exact ⟨_, _, hd, hi, by decide, hblocks, hplurals, hdirections, hinputs,
    passes_normalise.2.2.1 _ _ hd⟩

end WordSwap
