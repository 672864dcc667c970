import WordSwap.Proofs.Declared

/-! What the passes do on their own, with any rules at all. -/

namespace WordSwap

namespace Rule

def directionFault? (r : Rule) : Option Breach :=
  if r.inputPlurals ≠ [] ∨ r.outputPlurals ≠ [] then some .pluralsUnresolved
  else if r.inputs = [] ∨ r.outputs = [] then some .noInputs
  else if r.bidirectional = true ∧ r.tokenRouting = false then some .tokensRequired
  else none

def spellingFault? (r : Rule) : Option Breach :=
  if r.bidirectional = true ∨ r.inputPlurals ≠ [] ∨ r.outputPlurals ≠ [] then some .notOneWay
  else none

def caseFault? (r : Rule) : Option Breach :=
  if r.inputs.length = 1 ∧ r.outputs.length = 1 ∧ r.bidirectional = false then none
  else some .notAtomic

def formLeaves (b : Boundaries) (r : Rule) : List Leaf :=
  r.caseForms b (r.inputs.headD "") (r.outputs.headD "")

lemma directions_eq (r : Rule) : r.directions = okUnless r.directionFault? r.oneWays := by
  cases hip : r.inputPlurals with
  | cons => simp [directions, directionFault?, okUnless, hip]
  | nil =>
    cases hop : r.outputPlurals with
    | cons => simp [directions, directionFault?, okUnless, hop]
    | nil =>
      cases hi : r.inputs with
      | nil => simp [directions, directionFault?, okUnless, hip, hop, hi]
      | cons input inputs =>
        cases ho : r.outputs with
        | nil => simp [directions, directionFault?, okUnless, hip, hop, hi, ho]
        | cons output outputs =>
          cases hb : r.bidirectional <;> cases ht : r.tokenRouting <;>
            simp [directions, directionFault?, okUnless, oneWays, hip, hop, hi, ho, hb, ht]

lemma spellings_eq (r : Rule) : r.spellings = okUnless r.spellingFault? r.perSpelling := by
  cases hb : r.bidirectional <;> cases hip : r.inputPlurals <;> cases hop : r.outputPlurals <;>
    simp [spellings, spellingFault?, okUnless, perSpelling, hb, hip, hop]

lemma leaves_eq (b : Boundaries) (r : Rule) :
    r.leaves b = okUnless r.caseFault? (r.formLeaves b) := by
  rw [leaves]
  split
  next input output hi ho hb => simp [caseFault?, okUnless, formLeaves, hi, ho, hb]
  next h =>
    have hfault : r.caseFault? = some .notAtomic := by
      rw [caseFault?, if_neg]
      rintro ⟨hi, ho, hb⟩
      obtain ⟨input, hi⟩ := List.length_eq_one_iff.mp hi
      obtain ⟨output, ho⟩ := List.length_eq_one_iff.mp ho
      exact h input output hi ho hb
    rw [hfault, okUnless]

lemma length_oneWays (r : Rule) :
    r.oneWays.length = 1 + if r.bidirectional then 1 else 0 := by
  cases hb : r.bidirectional <;> simp [oneWays, hb]

lemma length_formLeaves (b : Boundaries) (r : Rule) :
    (r.formLeaves b).length = if r.caseMode = .preserve then 3 else 1 := by
  cases hm : r.caseMode <;> simp [formLeaves, caseForms, hm]

end Rule

/-- A pass fails exactly if one of its rules has a fault, and then with the fault of the first such
rule. Otherwise it makes of each rule so many results, and of two lists what it makes of each. -/
structure FirstFault {β : Type} (pass : List Rule → Except Breach (List β))
    (fault? : Rule → Option Breach) (size : Rule → Nat) : Prop where
  fails_iff (rules : List Rule) :
    (∃ breach, pass rules = .error breach) ↔ ∃ r ∈ rules, fault? r ≠ none
  error_iff (rules : List Rule) (breach : Breach) :
    pass rules = .error breach ↔
      ∃ before r after, rules = before ++ r :: after ∧ (∀ q ∈ before, fault? q = none) ∧
        fault? r = some breach
  length_eq (rules : List Rule) (results : List β) :
    pass rules = .ok results → results.length = rules.foldr (fun r n => size r + n) 0
  append_iff (rules later : List Rule) (results : List β) :
    pass (rules ++ later) = .ok results ↔
      ∃ here rest, pass rules = .ok here ∧ pass later = .ok rest ∧ results = here ++ rest

lemma firstFault_okUnless {β : Type} {pass : List Rule → Except Breach (List β)}
    {fault? : Rule → Option Breach} {size : Rule → Nat} {g : Rule → List β}
    (hpass : ∀ rules, pass rules = okUnless (rules.findSome? fault?) (rules.flatMap g))
    (hsize : ∀ r, (g r).length = size r) : FirstFault pass fault? size where
  fails_iff rules := by
    simp only [hpass, okUnless_eq_error_iff, ← Option.ne_none_iff_exists', ne_eq,
      List.findSome?_eq_none_iff, Classical.not_forall, exists_prop]
  error_iff rules breach := by
    rw [hpass, okUnless_eq_error_iff, List.findSome?_eq_some_iff]
    simp only [and_comm (a := fault? _ = some breach)]
  length_eq rules results h := by
    rw [hpass, okUnless_eq_ok_iff] at h
    obtain ⟨-, rfl⟩ := h
    induction rules with
    | nil => rfl
    | cons r rules ih => rw [List.flatMap_cons, List.length_append, List.foldr_cons, hsize, ih]
  append_iff rules later results := by
    simp only [hpass, okUnless_eq_ok_iff, List.findSome?_append, Option.or_eq_none_iff,
      List.flatMap_append]
    constructor
    · rintro ⟨⟨hrules, hlater⟩, rfl⟩
      exact ⟨_, _, ⟨hrules, rfl⟩, ⟨hlater, rfl⟩, rfl⟩
    · rintro ⟨_, _, ⟨hrules, rfl⟩, ⟨hlater, rfl⟩, rfl⟩
      exact ⟨⟨hrules, hlater⟩, rfl⟩

lemma expandDirections_eq (rules : List Rule) :
    expandDirections rules =
      okUnless (rules.findSome? Rule.directionFault?) (rules.flatMap Rule.oneWays) :=
  expandEach_okUnless Rule.directions_eq rules

lemma expandInputs_eq (rules : List Rule) :
    expandInputs rules =
      okUnless (rules.findSome? Rule.spellingFault?) (rules.flatMap Rule.perSpelling) :=
  expandEach_okUnless Rule.spellings_eq rules

lemma expandCapitalization_eq (b : Boundaries) (rules : List Rule) :
    expandCapitalization b rules =
      okUnless (rules.findSome? Rule.caseFault?) (rules.flatMap (Rule.formLeaves b)) :=
  expandEach_okUnless (Rule.leaves_eq b) rules

/-- Each of the passes that can refuse a rule refuses the first one that it has to. -/
theorem passes_first_fault (b : Boundaries) :
    FirstFault expandDirections Rule.directionFault?
      (fun r => 1 + if r.bidirectional then 1 else 0) ∧
    FirstFault expandInputs Rule.spellingFault? (fun r => r.inputs.length) ∧
    FirstFault (expandCapitalization b) Rule.caseFault?
      (fun r => if r.caseMode = .preserve then 3 else 1) :=
  ⟨firstFault_okUnless expandDirections_eq Rule.length_oneWays,
    firstFault_okUnless expandInputs_eq fun _ => List.length_map _,
    firstFault_okUnless (expandCapitalization_eq b) (Rule.length_formLeaves b)⟩

-- The second rule breaks all three conditions on directions, the third only one of them.
example :
    let league := (Rule.ofPair "mile" "league").withoutPlurals.bothWays
    let broken : Rule := ⟨["ship"], [], ["ships"], [], true, .ignore, false, true⟩
    expandDirections [league, broken, league.withoutTokens] = .error .pluralsUnresolved := by
  decide

end WordSwap
