import WordSwap.Proofs.NormalForm

/-! Rules built up by edits, in whatever order and number. -/

namespace WordSwap

namespace Rule

namespace Edit

def inputPlurals? : Edit → Option (List String)
  | .withoutPlurals => some []
  | .inputPlurals words => some words
  | _ => none

def outputPlurals? : Edit → Option (List String)
  | .withoutPlurals => some []
  | .outputPlurals words => some words
  | _ => none

end Edit

def lastWritten {α : Type} (write? : Edit → Option α) (start : α) (edits : List Edit) : α :=
  (edits.filterMap write?).getLastD start

lemma lastWritten_cons {α : Type} (write? : Edit → Option α) (start : α) (e : Edit)
    (edits : List Edit) :
    lastWritten write? start (e :: edits) = lastWritten write? ((write? e).getD start) edits := by
  cases h : write? e with
  | none => rw [lastWritten, List.filterMap_cons_none h, lastWritten, Option.getD_none]
  | some written =>
    rw [lastWritten, List.filterMap_cons_some h, List.getLastD_cons, lastWritten, Option.getD_some]

lemma editAll_part {α : Type} {part : Rule → α} {write? : Edit → Option α}
    (hedit : ∀ r e, part (edit r e) = (write? e).getD (part r)) (r : Rule) (edits : List Edit) :
    part (r.editAll edits) = lastWritten write? (part r) edits := by
  induction edits generalizing r with
  | nil => rfl
  | cons e edits ih =>
    rw [lastWritten_cons, ← hedit]
    exact ih (r.edit e)

lemma editAll_once {P : Rule → Prop} {once : Edit} (hedit : ∀ r e, P (edit r e) ↔ P r ∨ e = once)
    (r : Rule) (edits : List Edit) : P (r.editAll edits) ↔ P r ∨ once ∈ edits := by
  induction edits generalizing r with
  | nil => simp [editAll]
  | cons e edits ih =>
    rw [editAll, List.foldl_cons, ← editAll, ih, hedit, List.mem_cons, or_assoc]
    rw [eq_comm (a := once)]

section

variable (r : Rule) (edits : List Edit)

lemma inputPlurals_editAll :
    (r.editAll edits).inputPlurals = lastWritten Edit.inputPlurals? r.inputPlurals edits := by
  apply editAll_part
  intro r e
  cases e <;> rfl

lemma outputPlurals_editAll :
    (r.editAll edits).outputPlurals = lastWritten Edit.outputPlurals? r.outputPlurals edits := by
  apply editAll_part
  intro r e
  cases e <;> rfl

lemma spellings_editAll :
    (r.editAll edits).inputs = r.inputs ∧ (r.editAll edits).outputs = r.outputs := by
  induction edits generalizing r with
  | nil => exact ⟨rfl, rfl⟩
  | cons e edits ih => cases e <;> exact ih _

lemma bidirectional_editAll :
    (r.editAll edits).bidirectional = true ↔ r.bidirectional = true ∨ .bothWays ∈ edits := by
  apply editAll_once (P := (·.bidirectional = true))
  intro r e
  cases e <;> simp [edit, bothWays, withoutPlurals, withInputPlurals, withOutputPlurals,
    withCaseMode, withoutTokens, insideWords]

lemma tokenRouting_editAll :
    (r.editAll edits).tokenRouting = false ↔ r.tokenRouting = false ∨ .withoutTokens ∈ edits := by
  apply editAll_once (P := (·.tokenRouting = false))
  intro r e
  cases e <;> simp [edit, bothWays, withoutPlurals, withInputPlurals, withOutputPlurals,
    withCaseMode, withoutTokens, insideWords]

lemma editAll_withoutPlurals :
    r.editAll (edits ++ [.withoutPlurals]) = (r.editAll edits).withoutPlurals := by
  rw [editAll, List.foldl_append]
  rfl

end

lemma swaps_respelled (r : Rule) (inputs outputs : List String) :
    (r.respelled inputs outputs).swaps = r.swapsBetween inputs outputs := by
  rw [swaps, if_neg (by simp [respelled]), List.append_nil]
  rfl

lemma declared_respelled (b : Boundaries) (r : Rule) (inputs outputs : List String) :
    (r.respelled inputs outputs).declared b =
      (r.swapsBetween inputs outputs).flatMap (r.swapLeaves b) := by
  rw [declared, swaps_respelled]
  rfl

lemma declared_eq_numberForms (b : Boundaries) (r : Rule) :
    r.declared b = r.numberForms.flatMap (Rule.declared b) := by
  rw [numberForms_eq, List.flatMap_cons, declared_respelled, declared, swaps, List.flatMap_append]
  split
  · rw [List.flatMap_singleton, declared_respelled]
  · rfl

end Rule

section

variable {s : Settings} {r : Rule} {g : Generated}

lemma phase1_leaves_of_generate (h : generate s [r] = .ok g) :
    g.phase1.flatMap (·.substitutions) =
      (route r.tokenRouting (r.declared s.boundaries)).phase1 := by
  rw [eq_ofExpanded h, phase1_ofExpanded_substitutions]
  exact List.flatMap_singleton _ _

lemma phase2_leaves_of_generate (h : generate s [r] = .ok g) :
    g.phase2.flatMap (·.substitutions) =
      (route r.tokenRouting (r.declared s.boundaries)).phase2 := by
  rw [eq_ofExpanded h, phase2_ofExpanded_substitutions]
  exact List.flatMap_singleton _ _

end

lemma generate_congr (s : Settings) {q r : Rule} (hforms : q.numberForms = r.numberForms)
    (hname : q.name = r.name) (htokens : q.tokenRouting = r.tokenRouting) :
    generate s [q] = generate s [r] := by
  have hexpand : q.expand s.boundaries = r.expand s.boundaries := by
    simp only [Rule.expand, Rule.atoms, expandPlurals, List.flatMap_singleton, hforms, hname,
      htokens]
  simp only [generate, run, hexpand]

lemma generate_without_plurals (s : Settings) {r : Rule} (h : r.hasPlurals = false) :
    generate s [r] = generate s [r.withoutPlurals] := by
  have hforms : r.numberForms = [r.singular] := by simp [Rule.numberForms, h]
  have hsingular : r.singular.numberForms = [r.singular] :=
    Rule.numberForms_of_no_plurals rfl rfl
  exact generate_congr s (hforms.trans hsingular.symm) rfl rfl

lemma generate_with_plurals {s : Settings} {r : Rule} {g : Generated}
    (hg : generate s [r] = .ok g) (hi : r.inputPlurals ≠ []) (ho : r.outputPlurals ≠ []) :
    ∃ singulars plurals,
      generate s [r.withoutPlurals] = .ok singulars ∧ generate s [r.plural] = .ok plurals ∧
      plurals.phase1.flatMap (·.substitutions) ≠ [] ∧
      g.phase1.flatMap (·.substitutions) =
        singulars.phase1.flatMap (·.substitutions) ++
          plurals.phase1.flatMap (·.substitutions) ∧
      g.phase2.flatMap (·.substitutions) =
        singulars.phase2.flatMap (·.substitutions) ++
          plurals.phase2.flatMap (·.substitutions) := by
  have hx : r.Expandable := expandable_of_generate hg r List.mem_cons_self
  obtain ⟨singulars, hs⟩ := (generate_singleton_iff s r.withoutPlurals).mpr hx
  obtain ⟨plurals, hp⟩ := (generate_singleton_iff s r.plural).mpr ⟨hi, ho, hx.2.2⟩
  have hforms : r.numberForms = [r.withoutPlurals, r.plural] := by
    rw [Rule.numberForms_eq, if_pos ⟨hi, ho⟩]
    rfl
  have hdeclared : r.declared s.boundaries =
      r.withoutPlurals.declared s.boundaries ++ r.plural.declared s.boundaries := by
    rw [Rule.declared_eq_numberForms, hforms, List.flatMap_cons, List.flatMap_singleton]
  have hroute := route_append r.tokenRouting (r.withoutPlurals.declared s.boundaries)
    (r.plural.declared s.boundaries)
  refine ⟨singulars, plurals, hs, hp, ?_, ?_, ?_⟩
  · have hne := Rule.declared_ne_nil s.boundaries (r := r.plural) hi
    rw [phase1_leaves_of_generate hp]
    cases ht : r.plural.tokenRouting <;> simp [route, hne]
  · rw [phase1_leaves_of_generate hg, phase1_leaves_of_generate hs, phase1_leaves_of_generate hp,
      hdeclared, hroute]
    rfl
  · rw [phase2_leaves_of_generate hg, phase2_leaves_of_generate hs, phase2_leaves_of_generate hp,
      hdeclared, hroute]
    rfl

namespace Rule

lemma expandable_editAll (inputs outputs : List String) (edits : List Edit) :
    ((ofSpellings inputs outputs).editAll edits).Expandable ↔
      inputs ≠ [] ∧ outputs ≠ [] ∧ ¬ (.bothWays ∈ edits ∧ .withoutTokens ∈ edits) := by
  obtain ⟨hi, ho⟩ := spellings_editAll (ofSpellings inputs outputs) edits
  rw [Expandable, hi, ho, bidirectional_editAll, ← Bool.not_eq_false (editAll _ edits).tokenRouting,
    tokenRouting_editAll]
  simp [ofSpellings]

/-- A rule keeps its spellings through all edits. Of its plurals those written last count, and only
if both sides have some. -/
theorem generate_edited (s : Settings) (inputs outputs : List String) (edits : List Edit) :
    let r := (ofSpellings inputs outputs).editAll edits
    let bare := (ofSpellings inputs outputs).editAll (edits ++ [.withoutPlurals])
    let inputPlurals := lastWritten Edit.inputPlurals? (inputs.map defaultPlural) edits
    let outputPlurals := lastWritten Edit.outputPlurals? (outputs.map defaultPlural) edits
    let plural : Rule := { bare with inputs := inputPlurals, outputs := outputPlurals }
    r.inputs = inputs ∧ r.outputs = outputs ∧ r.name = (ofSpellings inputs outputs).name ∧
    ((∃ g, generate s [r] = .ok g) ↔
      inputs ≠ [] ∧ outputs ≠ [] ∧ ¬ (.bothWays ∈ edits ∧ .withoutTokens ∈ edits)) ∧
    expandPlurals [r] =
      (if inputPlurals ≠ [] ∧ outputPlurals ≠ [] then [bare, plural] else [bare]) ∧
    (∀ g, generate s [r] = .ok g → inputPlurals ≠ [] → outputPlurals ≠ [] →
      ∃ singulars plurals,
        generate s [bare] = .ok singulars ∧ generate s [plural] = .ok plurals ∧
        plurals.phase1.flatMap (·.substitutions) ≠ [] ∧
        g.phase1.flatMap (·.substitutions) =
          singulars.phase1.flatMap (·.substitutions) ++
            plurals.phase1.flatMap (·.substitutions) ∧
        g.phase2.flatMap (·.substitutions) =
          singulars.phase2.flatMap (·.substitutions) ++
            plurals.phase2.flatMap (·.substitutions)) ∧
    (inputPlurals = [] ∨ outputPlurals = [] → generate s [r] = generate s [bare]) := by
  intro r bare inputPlurals outputPlurals plural
  obtain ⟨hi, ho⟩ : r.inputs = inputs ∧ r.outputs = outputs := spellings_editAll _ edits
  have hip : r.inputPlurals = inputPlurals := inputPlurals_editAll _ edits
  have hop : r.outputPlurals = outputPlurals := outputPlurals_editAll _ edits
  have hbare : bare = r.withoutPlurals := editAll_withoutPlurals _ edits
  have hplural : plural = r.plural := by
    simp only [plural, hbare, Rule.plural, hip, hop]
    rfl
  -- How the rule was edited matters no more, only what it has become.
  clear_value inputPlurals outputPlurals plural bare
  subst hip hop hbare hplural
  refine ⟨hi, ho, ?_, ?_, ?_, ?_, ?_⟩
  · rw [name, name, firstInput?, canonicalOutput?, hi, ho]
    rfl
  · rw [generate_singleton_iff]
    exact expandable_editAll inputs outputs edits
  · rw [expandPlurals, List.flatMap_singleton, numberForms_eq]
    split <;> rfl
  · exact fun g hg hip hop => generate_with_plurals hg hip hop
  · intro hnone
    apply generate_without_plurals
    rw [hasPlurals]
    rcases hnone with h | h <;> simp [h]

theorem generate_edited_feet :
    let edits : List Edit :=
      [.inputPlurals ["foots"], .withoutPlurals, .outputPlurals ["hands"], .bothWays,
        .inputPlurals ["feet"]]
    let half : List Edit := [.outputPlurals ["hands"], .withoutPlurals, .inputPlurals ["feet"]]
    let foot := ofSpellings ["foot"] ["hand"]
    let feet : Rule := ⟨["feet"], ["hands"], [], [], true, .preserve, true, true⟩
    (∃ g singulars plurals, generate .default [foot.editAll edits] = .ok g ∧
      generate .default [foot.bothWays.withoutPlurals] = .ok singulars ∧
      generate .default [feet] = .ok plurals ∧
      g.phase1.flatMap (·.substitutions) =
        singulars.phase1.flatMap (·.substitutions) ++ plurals.phase1.flatMap (·.substitutions)) ∧
    lastWritten Edit.outputPlurals? ["hands"] half = [] ∧
    generate .default [foot.editAll half] = generate .default [foot.withoutPlurals] := by
  intro edits half foot feet
  obtain ⟨-, -, -, hok, -, hplurals, -⟩ := generate_edited .default ["foot"] ["hand"] edits
  obtain ⟨g, hg⟩ := hok.mpr (by decide)
  obtain ⟨singulars, plurals, hs, hp, -, hleaves, -⟩ := hplurals g hg (by decide) (by decide)
  obtain ⟨-, -, -, -, -, -, hnone⟩ := generate_edited .default ["foot"] ["hand"] half
  exact ⟨⟨g, singulars, plurals, hg, hs, hp, hleaves⟩, by decide, hnone (.inr (by decide))⟩

end Rule

end WordSwap
