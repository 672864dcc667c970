import Mathlib.Data.List.Basic
import WordSwap.Casing.Basic

namespace WordSwap.Casing

def Stretch.codes (s : Stretch) : List Nat :=
  List.range' s.first ((s.last - s.first) / s.step + 1) s.step

lemma Stretch.mem_codes {s : Stretch} {n : Nat} (h : s.covers n = true) : n ∈ s.codes := by
  simp only [covers, Bool.and_eq_true, decide_eq_true_eq, beq_iff_eq] at h
  obtain ⟨⟨hfirst, hlast⟩, hstep⟩ := h
  have hsteps := Nat.div_add_mod (n - s.first) s.step
  rw [codes, List.mem_range']
  refine ⟨(n - s.first) / s.step, ?_, by omega⟩
  exact Nat.lt_succ_of_le (Nat.div_le_div_right (by omega))

namespace Table

variable {t : Table} {c d : Char}

def keys (t : Table) : List Nat :=
  t.stretches.flatMap Stretch.codes ++ t.expansions.map Prod.fst

def images (t : Table) : List Char :=
  t.stretches.flatMap (fun s => s.codes.map fun n => Char.ofNat (s.map n)) ++
    t.expansions.flatMap fun e => e.2.map Char.ofNat

lemma map_of_not_covered (hstretches : ∀ s ∈ t.stretches, s.covers c.toNat = false)
    (hexpansions : ∀ e ∈ t.expansions, c.toNat ≠ e.1) : t.map c = [c] := by
  have hstretch : t.stretches.find? (fun s => s.covers c.toNat) = none := by
    rw [List.find?_eq_none]
    intro s hs
    rw [hstretches s hs]
    exact Bool.false_ne_true
  have hexpansion : t.expansions.lookup c.toNat = none := by
    rw [List.lookup_eq_none_iff]
    intro e he
    rw [bne_iff_ne]
    exact hexpansions e he
  simp only [map, hstretch, hexpansion]

lemma map_of_not_mem_keys (h : c.toNat ∉ t.keys) : t.map c = [c] := by
  rw [keys, List.mem_append, not_or] at h
  obtain ⟨hstretches, hexpansions⟩ := h
  apply map_of_not_covered
  · intro s hs
    rw [Bool.eq_false_iff]
    intro hcovers
    exact hstretches (List.mem_flatMap.mpr ⟨s, hs, Stretch.mem_codes hcovers⟩)
  · intro e he heq
    exact hexpansions (List.mem_map.mpr ⟨e, he, heq.symm⟩)

lemma mem_images_or_map_eq (h : d ∈ t.map c) : d ∈ t.images ∨ t.map c = [c] := by
  rw [map] at h ⊢
  rw [images, List.mem_append]
  split at h
  next s hs =>
    obtain rfl := List.mem_singleton.mp h
    have hcode : c.toNat ∈ s.codes := Stretch.mem_codes (by simpa using List.find?_some hs)
    exact .inl (.inl (List.mem_flatMap.mpr
      ⟨s, List.mem_of_find?_eq_some hs, List.mem_map.mpr ⟨_, hcode, rfl⟩⟩))
  next hs =>
    split at h
    next codes hcodes =>
      obtain ⟨before, after, hexpansions, -⟩ := List.lookup_eq_some_iff.mp hcodes
      exact .inl (.inr (List.mem_flatMap.mpr ⟨(c.toNat, codes), by simp [hexpansions], h⟩))
    next => exact .inr rfl

end Table

lemma upperChars_eq_self {cs : List Char} (h : ∀ c ∈ cs, uppercase.map c = [c]) :
    upperChars cs = cs := by
  rw [upperChars, List.flatMap_congr h, List.flatMap_singleton']

lemma titleChars_eq_self {cs : List Char} (h : ∀ c ∈ cs.head?, uppercase.map c = [c]) :
    titleChars cs = cs := by
  cases cs with
  | nil => rfl
  | cons c cs => rw [titleChars, h c rfl, List.singleton_append]

lemma lowerFrom_eq_self (before : List Char) {cs : List Char}
    (h : ∀ c ∈ cs, c ≠ 'Σ' ∧ lowercase.map c = [c]) : lowerFrom before cs = cs := by
  induction cs generalizing before with
  | nil => rfl
  | cons c cs ih =>
    obtain ⟨hsigma, hmap⟩ := h c List.mem_cons_self
    have hrest := ih (c :: before) fun d hd => h d (List.mem_cons_of_mem c hd)
    rw [lowerFrom, lowerChar, if_neg hsigma, hmap, hrest, List.singleton_append]

end WordSwap.Casing
