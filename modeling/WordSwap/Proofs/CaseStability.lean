import Mathlib.Data.Nat.Bitwise
import WordSwap.Expansion.CaseForms
import WordSwap.Proofs.CaseMappings

/-! Case forms of texts that are case forms already. Neither mapping has an entry for a character
that it gives itself, so a form taken twice is the form taken once. -/

namespace WordSwap

namespace Casing

/-- Numbers as the bits of one number, so that long lists of them are compared in one step. -/
def bits : List Nat → Nat
  | [] => 0
  | n :: ns => 1 <<< n ||| bits ns

lemma testBit_bits {ns : List Nat} {n : Nat} : (bits ns).testBit n = true ↔ n ∈ ns := by
  induction ns with
  | nil => simp [bits]
  | cons m ns ih =>
    rw [bits, Nat.testBit_or, Bool.or_eq_true, ih, Nat.one_shiftLeft, Nat.testBit_two_pow,
      decide_eq_true_eq, List.mem_cons, @eq_comm _ m]

lemma bits_append (ms ns : List Nat) : bits (ms ++ ns) = bits ms ||| bits ns := by
  induction ms with
  | nil => rw [List.nil_append, bits, Nat.zero_or]
  | cons m ms ih => rw [List.cons_append, bits, bits, ih, Nat.or_assoc]

lemma bits_flatMap_append {α : Type} (f : α → List Nat) (xs : List α) (ns : List Nat) :
    bits (xs.flatMap f ++ ns) = xs.foldr (fun x m => bits (f x) ||| m) (bits ns) := by
  induction xs with
  | nil => rfl
  | cons x xs ih => rw [List.flatMap_cons, List.append_assoc, bits_append, ih, List.foldr_cons]

lemma not_mem_of_bits {ms ns : List Nat} (h : bits ms &&& bits ns = 0) {n : Nat} (hn : n ∈ ns) :
    n ∉ ms := by
  intro hm
  have hboth : (bits ms &&& bits ns).testBit n = true := by
    rw [Nat.testBit_and, testBit_bits.mpr hm, testBit_bits.mpr hn, Bool.and_self]
  rw [h, Nat.zero_testBit] at hboth
  cases hboth

namespace Table

variable {t : Table}

def keyBits (t : Table) : Nat :=
  t.stretches.foldr (fun s m => bits s.codes ||| m) (bits (t.expansions.map Prod.fst))

def imageBits (t : Table) : Nat :=
  t.stretches.foldr (fun s m => bits (s.codes.map fun n => (Char.ofNat (s.map n)).toNat) ||| m)
    (bits (t.expansions.flatMap fun e => e.2.map fun n => (Char.ofNat n).toNat))

def Settled (t : Table) : Prop := ∀ d ∈ t.images, d.toNat ∉ t.keys

lemma keyBits_eq (t : Table) : t.keyBits = bits t.keys := (bits_flatMap_append _ _ _).symm

lemma imageBits_eq (t : Table) : t.imageBits = bits (t.images.map Char.toNat) := by
  rw [images, List.map_append, List.map_flatMap, bits_flatMap_append, imageBits]
  simp only [List.map_flatMap, List.map_map, Function.comp_def]

lemma settled_of_bits (h : t.keyBits &&& t.imageBits = 0) : t.Settled := by
  rw [keyBits_eq, imageBits_eq] at h
  exact fun _ hd => not_mem_of_bits h (List.mem_map_of_mem hd)

end Table

lemma uppercase_settled : uppercase.Settled := Table.settled_of_bits (by decide +kernel)

lemma lowercase_settled : lowercase.Settled := Table.settled_of_bits (by decide +kernel)

lemma Table.Settled.map_eq {t : Table} (ht : t.Settled) {c d : Char} (h : d ∈ t.map c) :
    t.map d = [d] := by
  rcases mem_images_or_map_eq h with himage | hself
  · exact map_of_not_mem_keys (ht d himage)
  · obtain rfl : d = c := by simpa [hself] using h
    exact hself

lemma uppercase_map_ne_nil (c : Char) : uppercase.map c ≠ [] := by
  have hexpansions : ∀ e ∈ uppercase.expansions, e.2 ≠ [] := by decide
  rw [Table.map]
  split
  next => simp
  next =>
    split
    next codes hcodes =>
      obtain ⟨before, after, heq, -⟩ := List.lookup_eq_some_iff.mp hcodes
      simpa using hexpansions (c.toNat, codes) (by simp [heq])
    next => simp

lemma map_of_mem_upperChars {cs : List Char} {d : Char} (h : d ∈ upperChars cs) :
    uppercase.map d = [d] := by
  obtain ⟨c, -, hc⟩ := List.mem_flatMap.mp h
  exact uppercase_settled.map_eq hc

lemma upperChars_map (c : Char) : upperChars (uppercase.map c) = uppercase.map c :=
  upperChars_eq_self fun _ => uppercase_settled.map_eq

lemma upperChars_titleChars (cs : List Char) : upperChars (titleChars cs) = upperChars cs := by
  cases cs with
  | nil => rfl
  | cons c cs =>
    calc upperChars (uppercase.map c ++ cs)
      _ = upperChars (uppercase.map c) ++ upperChars cs := List.flatMap_append
      _ = uppercase.map c ++ upperChars cs := by rw [upperChars_map]
      _ = upperChars (c :: cs) := rfl

lemma titleChars_titleChars (cs : List Char) : titleChars (titleChars cs) = titleChars cs := by
  cases cs with
  | nil => rfl
  | cons c cs =>
    -- The first character of the title form is one that the first character was mapped to.
    apply titleChars_eq_self
    intro d hd
    rw [titleChars, List.head?_append_of_ne_nil _ (uppercase_map_ne_nil c)] at hd
    exact uppercase_settled.map_eq (List.mem_of_mem_head? hd)

lemma capital_sigma_mem_keys : 'Σ'.toNat ∈ lowercase.keys :=
  not_imp_comm.mp Table.map_of_not_mem_keys (by decide : lowercase.map 'Σ' ≠ ['Σ'])

lemma lowercase_map_sigma : lowercase.map 'σ' = ['σ'] := by decide

lemma lowercase_map_final_sigma : lowercase.map 'ς' = ['ς'] := by decide

lemma lowered_of_mem_lowerChar {before after : List Char} {c d : Char}
    (h : d ∈ lowerChar before c after) : d ≠ 'Σ' ∧ lowercase.map d = [d] := by
  rw [lowerChar] at h
  split at h
  next =>
    split at h
    · obtain rfl := List.mem_singleton.mp h
      exact ⟨by decide, lowercase_map_final_sigma⟩
    · obtain rfl := List.mem_singleton.mp h
      exact ⟨by decide, lowercase_map_sigma⟩
  next hc =>
    refine ⟨?_, lowercase_settled.map_eq h⟩
    rintro rfl
    rcases Table.mem_images_or_map_eq h with himage | hself
    · exact lowercase_settled _ himage capital_sigma_mem_keys
    · rw [hself, List.mem_singleton] at h
      exact hc h.symm

lemma lowered_of_mem_lowerFrom {before cs : List Char} {d : Char} (h : d ∈ lowerFrom before cs) :
    d ≠ 'Σ' ∧ lowercase.map d = [d] := by
  induction cs generalizing before with
  | nil => cases h
  | cons c cs ih =>
    rw [lowerFrom, List.mem_append] at h
    rcases h with h | h
    · exact lowered_of_mem_lowerChar h
    · exact ih h

lemma upper_upper (s : String) : upper (upper s) = upper s := by
  rw [upper, upper, String.toList_ofList, upperChars_eq_self fun _ => map_of_mem_upperChars]

lemma title_title (s : String) : title (title s) = title s := by
  rw [title, title, String.toList_ofList, titleChars_titleChars]

lemma upper_title (s : String) : upper (title s) = upper s := by
  rw [upper, title, String.toList_ofList, upperChars_titleChars, upper]

lemma title_upper (s : String) : title (upper s) = upper s := by
  rw [title, upper, String.toList_ofList,
    titleChars_eq_self fun _ hd => map_of_mem_upperChars (List.mem_of_mem_head? hd)]

lemma lower_lower (s : String) : lower (lower s) = lower s := by
  rw [lower, lower, String.toList_ofList, lowerChars, lowerChars,
    lowerFrom_eq_self [] fun _ => lowered_of_mem_lowerFrom]

end Casing

namespace Rule

def recased (form : String → String) (r : Rule) : Rule :=
  { r with inputs := r.inputs.map form, outputs := r.outputs.map form }

def formLeaf (b : Boundaries) (r : Rule) (form : String → String) (caseSensitive : Bool)
    (input output : String) : Leaf :=
  .literal (b.wrap r (form input)) caseSensitive (form output)

variable {r : Rule} {input output : String}

lemma formLeaf_comp (b : Boundaries) (r : Rule) {form before both : String → String}
    (h : ∀ s, form (before s) = both s) (caseSensitive : Bool) (input output : String) :
    r.formLeaf b form caseSensitive (before input) (before output) =
      r.formLeaf b both caseSensitive input output := by
  rw [formLeaf, formLeaf, h, h]

lemma expandCapitalization_atomic (b : Boundaries) (hi : r.inputs = [input])
    (ho : r.outputs = [output]) (hw : r.bidirectional = false) (hm : r.caseMode = .preserve) :
    expandCapitalization b [r] =
      .ok [r.formLeaf b Casing.upper true input output, r.formLeaf b Casing.title true input output,
        r.formLeaf b Casing.lower false input output] := by
  simp [expandCapitalization, expandEach, leaves, caseForms, formLeaf, hi, ho, hw, hm]

lemma expandCapitalization_recased (b : Boundaries) (form : String → String)
    (hi : r.inputs = [input]) (ho : r.outputs = [output]) (hw : r.bidirectional = false)
    (hm : r.caseMode = .preserve) :
    expandCapitalization b [r.recased form] =
      .ok [r.formLeaf b Casing.upper true (form input) (form output),
        r.formLeaf b Casing.title true (form input) (form output),
        r.formLeaf b Casing.lower false (form input) (form output)] := by
  have hinputs : (r.recased form).inputs = [form input] := by simp [recased, hi]
  have houtputs : (r.recased form).outputs = [form output] := by simp [recased, ho]
  exact expandCapitalization_atomic b hinputs houtputs hw hm

end Rule

/-- Writing a rule in one of its case forms keeps the leaf of that form and, for the title form,
the leaf in capitals as well. Written in capitals, the rule has one leaf for both. -/
theorem case_forms_stable (b : Boundaries) (r : Rule) (input output : String)
    (hi : r.inputs = [input]) (ho : r.outputs = [output]) (hw : r.bidirectional = false)
    (hm : r.caseMode = .preserve) :
    (∃ capitals initial small : Leaf,
      expandCapitalization b [r] = .ok [capitals, initial, small] ∧
      (∃ l, expandCapitalization b [r.recased Casing.upper] = .ok [capitals, capitals, l]) ∧
      (∃ l, expandCapitalization b [r.recased Casing.title] = .ok [capitals, initial, l]) ∧
      (∃ k l, expandCapitalization b [r.recased Casing.lower] = .ok [k, l, small])) ∧
    (∀ s, Casing.upper (Casing.upper s) = Casing.upper s) ∧
    (∀ s, Casing.title (Casing.title s) = Casing.title s) ∧
    (∀ s, Casing.upper (Casing.title s) = Casing.upper s) ∧
    (∀ s, Casing.title (Casing.upper s) = Casing.upper s) ∧
    (∀ s, Casing.lower (Casing.lower s) = Casing.lower s) := by
  have hupper := Rule.expandCapitalization_recased b Casing.upper hi ho hw hm
  have htitle := Rule.expandCapitalization_recased b Casing.title hi ho hw hm
  have hlower := Rule.expandCapitalization_recased b Casing.lower hi ho hw hm
  rw [r.formLeaf_comp b Casing.upper_upper, r.formLeaf_comp b Casing.title_upper] at hupper
  rw [r.formLeaf_comp b Casing.upper_title, r.formLeaf_comp b Casing.title_title] at htitle
  rw [r.formLeaf_comp b Casing.lower_lower] at hlower
  exact ⟨⟨_, _, _, Rule.expandCapitalization_atomic b hi ho hw hm, ⟨_, hupper⟩, ⟨_, htitle⟩,
    ⟨_, _, hlower⟩⟩, Casing.upper_upper, Casing.title_title, Casing.upper_title,
    Casing.title_upper, Casing.lower_lower⟩

theorem case_forms_stable_sharp :
    let street := (Rule.ofPair "straße" "ὈΔΌΣ").insideWords
    ∃ capitals initial small : Leaf,
      expandCapitalization .default [street] = .ok [capitals, initial, small] ∧
      (capitals.pattern, capitals.output) = ("STRASSE", "ὈΔΌΣ") ∧
      (initial.pattern, initial.output) = ("Straße", "ὈΔΌΣ") ∧
      (small.pattern, small.output) = ("straße", "ὀδός") ∧
      (∃ l, expandCapitalization .default [street.recased Casing.upper] =
        .ok [capitals, capitals, l]) ∧
      (∃ l, expandCapitalization .default [street.recased Casing.title] =
        .ok [capitals, initial, l]) ∧
      (∃ k l, expandCapitalization .default [street.recased Casing.lower] = .ok [k, l, small]) := by
  intro street
  obtain ⟨⟨capitals, initial, small, hstreet, hforms⟩, -⟩ :=
    case_forms_stable .default street _ _ rfl rfl rfl rfl
  have hleaves : expandCapitalization .default [street] =
      .ok [.literal "STRASSE" true "ὈΔΌΣ", .literal "Straße" true "ὈΔΌΣ",
        .literal "straße" false "ὀδός"] := by decide +kernel
  obtain ⟨rfl, rfl, rfl⟩ : capitals = .literal "STRASSE" true "ὈΔΌΣ" ∧
      initial = .literal "Straße" true "ὈΔΌΣ" ∧ small = .literal "straße" false "ὀδός" := by
    simpa [hleaves, eq_comm] using hstreet
  exact ⟨_, _, _, hleaves, rfl, rfl, rfl, hforms⟩

-- The sharp s has no capital of its own, so small letters are not what they were before capitals.
example : Casing.lower (Casing.upper "ß") ≠ Casing.lower "ß" := by decide_cbv

end WordSwap
