import WordSwap.Expansion.Atoms
import WordSwap.Expansion.CaseForms
import WordSwap.Generation
import WordSwap.Proofs.Passes

/-! What a rule declares, said at once instead of pass by pass. The passes arrive at exactly these
leaves, in this order, and all other rules are refused by the second pass. -/

namespace WordSwap

lemma mem_cons_ite {α : Type} {c : Prop} [Decidable c] {a x y : α} :
    a ∈ x :: (if c then [y] else []) ↔ a = x ∨ c ∧ a = y := by
  by_cases h : c <;> simp [h]

def towards (inputs outputs : List String) : List (String × String) :=
  inputs.map fun input => (input, outputs.headD "")

def CaseMode.forms : CaseMode → List ((String → String) × Bool)
  | .ignore => [(id, false)]
  | .matchExact => [(id, true)]
  | .preserve => [(Casing.upper, true), (Casing.title, true), (Casing.lower, false)]

namespace Rule

def swapsBetween (r : Rule) (inputs outputs : List String) : List (String × String) :=
  towards inputs outputs ++ if r.bidirectional then towards outputs inputs else []

/-- The texts a rule swaps, with what it swaps them for: first the singular, then the plural, and
each of them forward before backward. -/
def swaps (r : Rule) : List (String × String) :=
  r.swapsBetween r.inputs r.outputs ++
    if r.inputPlurals ≠ [] ∧ r.outputPlurals ≠ [] then
      r.swapsBetween r.inputPlurals r.outputPlurals
    else []

def swapLeaves (b : Boundaries) (r : Rule) (swap : String × String) : List Leaf :=
  r.caseMode.forms.map fun (form, caseSensitive) =>
    let text := form swap.1
    let pattern := if r.wholeWord then b.leading ++ text ++ b.trailing else text
    ⟨pattern, .regexp, form swap.2, .text, caseSensitive⟩

def declared (b : Boundaries) (r : Rule) : List Leaf := r.swaps.flatMap (r.swapLeaves b)

def Expandable (r : Rule) : Prop :=
  r.inputs ≠ [] ∧ r.outputs ≠ [] ∧ (r.bidirectional = true → r.tokenRouting = true)

instance : DecidablePred Expandable := fun r =>
  inferInstanceAs (Decidable (r.inputs ≠ [] ∧ r.outputs ≠ [] ∧ _))

def refusal (r : Rule) : Breach :=
  if r.inputs = [] ∨ r.outputs = [] then .noInputs else .tokensRequired

def respelled (r : Rule) (inputs outputs : List String) : Rule :=
  { r with
    inputs := inputs
    outputs := outputs
    inputPlurals := []
    outputPlurals := [] }

def atom (r : Rule) (swap : String × String) : Rule :=
  { r.respelled [swap.1] [swap.2] with bidirectional := false }

def oneWays (r : Rule) : List Rule :=
  r.forward (r.outputs.headD "") :: if r.bidirectional then [r.backward (r.inputs.headD "")] else []

def oneWayForms (r : Rule) : List Rule := r.numberForms.flatMap oneWays

def perSpelling (r : Rule) : List Rule := r.inputs.map fun input => { r with inputs := [input] }

lemma numberForms_eq (r : Rule) :
    r.numberForms = r.respelled r.inputs r.outputs ::
      if r.inputPlurals ≠ [] ∧ r.outputPlurals ≠ [] then
        [r.respelled r.inputPlurals r.outputPlurals]
      else [] := by
  simp only [numberForms, hasPlurals, Bool.and_eq_true, Bool.not_eq_true',
    List.isEmpty_eq_false_iff]
  split <;> rfl

lemma directions_respelled (r : Rule) {inputs outputs : List String} (hi : inputs ≠ [])
    (ho : outputs ≠ []) (ht : r.bidirectional = true → r.tokenRouting = true) :
    (r.respelled inputs outputs).directions = .ok (r.respelled inputs outputs).oneWays := by
  obtain ⟨input, inputs, rfl⟩ := List.exists_cons_of_ne_nil hi
  obtain ⟨output, outputs, rfl⟩ := List.exists_cons_of_ne_nil ho
  cases hb : r.bidirectional with
  | false => simp [directions, oneWays, respelled, hb]
  | true => simp [directions, oneWays, respelled, hb, ht hb]

lemma directions_refused {r : Rule} (h : ¬ r.Expandable) :
    (r.respelled r.inputs r.outputs).directions = .error r.refusal := by
  cases hi : r.inputs with
  | nil => simp [directions, refusal, respelled, hi]
  | cons input inputs =>
    cases ho : r.outputs with
    | nil => simp [directions, refusal, respelled, hi, ho]
    | cons output outputs =>
      have hbt : r.bidirectional = true ∧ r.tokenRouting = false := by
        simpa [Expandable, hi, ho] using h
      simp [directions, refusal, respelled, hi, ho, hbt]

lemma mem_swapsBetween {r : Rule} {inputs outputs : List String} {swap : String × String}
    (h : swap ∈ r.swapsBetween inputs outputs) :
    (swap.1 ∈ inputs ∧ swap.2 = outputs.headD "") ∨
      (swap.1 ∈ outputs ∧ swap.2 = inputs.headD "") := by
  rw [swapsBetween, List.mem_append] at h
  rcases h with h | h
  · obtain ⟨word, hword, rfl⟩ := List.mem_map.mp h
    exact .inl ⟨hword, rfl⟩
  · split at h
    · obtain ⟨word, hword, rfl⟩ := List.mem_map.mp h
      exact .inr ⟨hword, rfl⟩
    · cases h

lemma mem_swaps {r : Rule} {swap : String × String} :
    swap ∈ r.swaps ↔
      swap ∈ r.swapsBetween r.inputs r.outputs ∨
        (r.inputPlurals ≠ [] ∧ r.outputPlurals ≠ []) ∧
          swap ∈ r.swapsBetween r.inputPlurals r.outputPlurals := by
  rw [swaps, List.mem_append]
  split
  next hp => simp only [hp, ne_eq, not_false_eq_true, and_self, true_and]
  next hp => simp only [hp, List.not_mem_nil, false_and]

lemma oneWays_perSpelling (r : Rule) (inputs outputs : List String) :
    (r.respelled inputs outputs).oneWays.flatMap perSpelling =
      (r.swapsBetween inputs outputs).map r.atom := by
  cases hb : r.bidirectional <;>
    simp [oneWays, perSpelling, swapsBetween, towards, respelled, atom, forward, backward, hb,
      Function.comp_def]

lemma oneWayForms_perSpelling (r : Rule) :
    r.oneWayForms.flatMap perSpelling = r.swaps.map r.atom := by
  rw [oneWayForms, numberForms_eq, swaps, List.flatMap_cons, List.flatMap_append,
    oneWays_perSpelling, List.map_append]
  split
  · simp only [List.flatMap_cons, List.flatMap_nil, List.append_nil, oneWays_perSpelling]
  · rfl

lemma spellings_oneWayForm {r q : Rule} (h : q ∈ r.oneWayForms) :
    q.spellings = .ok q.perSpelling := by
  obtain ⟨form, hf, hq⟩ := List.mem_flatMap.mp h
  rw [numberForms_eq, mem_cons_ite] at hf
  have hform : form.inputPlurals = [] ∧ form.outputPlurals = [] := by
    rcases hf with rfl | ⟨-, rfl⟩ <;> exact ⟨rfl, rfl⟩
  rw [oneWays, mem_cons_ite] at hq
  rcases hq with rfl | ⟨-, rfl⟩ <;> simp [spellings, perSpelling, forward, backward, hform]

lemma leaves_atom (b : Boundaries) (r : Rule) (swap : String × String) :
    (r.atom swap).leaves b = .ok (r.swapLeaves b swap) := by
  cases hm : r.caseMode <;>
    simp [leaves, caseForms, swapLeaves, CaseMode.forms, atom, respelled, Boundaries.wrap,
      Leaf.literal, hm]

end Rule

theorem expandDirections_eq_ok {r : Rule} (h : r.Expandable) :
    expandDirections (expandPlurals [r]) = .ok r.oneWayForms := by
  obtain ⟨hi, ho, ht⟩ := h
  rw [expandPlurals, List.flatMap_singleton]
  apply expandEach_eq_ok
  intro form hf
  rw [Rule.numberForms_eq, mem_cons_ite] at hf
  rcases hf with rfl | ⟨⟨hip, hop⟩, rfl⟩
  · exact r.directions_respelled hi ho ht
  · exact r.directions_respelled hip hop ht

theorem expandDirections_eq_error {r : Rule} (h : ¬ r.Expandable) :
    expandDirections (expandPlurals [r]) = .error r.refusal := by
  rw [expandPlurals, List.flatMap_singleton, Rule.numberForms_eq]
  exact expandEach_eq_error (g := Rule.oneWays) [] _ nofun (Rule.directions_refused h)

theorem expandInputs_oneWayForms (r : Rule) :
    expandInputs r.oneWayForms = .ok (r.swaps.map r.atom) := by
  rw [← Rule.oneWayForms_perSpelling]
  exact expandEach_eq_ok fun _ hq => Rule.spellings_oneWayForm hq

theorem expandCapitalization_atoms (b : Boundaries) (r : Rule) :
    expandCapitalization b (r.swaps.map r.atom) = .ok (r.declared b) := by
  rw [expandCapitalization, expandEach_map]
  exact expandEach_eq_ok fun swap _ => r.leaves_atom b swap

namespace Rule

def expansion (b : Boundaries) (r : Rule) : Expanded :=
  ⟨r.name, r.swaps.length, route r.tokenRouting (r.declared b)⟩

lemma atoms_eq_ok {r : Rule} (h : r.Expandable) : r.atoms = .ok (r.swaps.map r.atom) := by
  simp only [atoms, expandDirections_eq_ok h, expandInputs_oneWayForms]

theorem expand_eq_ok (b : Boundaries) {r : Rule} (h : r.Expandable) :
    r.expand b = .ok (r.expansion b) := by
  simp only [expand, atoms_eq_ok h, expandCapitalization_atoms, expansion, List.length_map]

theorem expand_eq_error (b : Boundaries) {r : Rule} (h : ¬ r.Expandable) :
    r.expand b = .error (r.refusal.malformed.inRule r.name) := by
  have ha : r.atoms = .error r.refusal := by simp only [atoms, expandDirections_eq_error h]
  simp only [expand, ha]

end Rule

end WordSwap
