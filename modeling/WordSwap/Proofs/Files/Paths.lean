import Mathlib.Data.List.Infix
import Mathlib.Data.List.TakeWhile
import WordSwap.Files.Place

namespace WordSwap.Files.Path

lemma pieces_ne_nil (path : List Char) : pieces path ≠ [] := by
  cases path with
  | nil => exact List.cons_ne_nil _ _
  | cons c rest =>
    rw [pieces]
    split
    · exact List.cons_ne_nil _ _
    · split <;> exact List.cons_ne_nil _ _

lemma pieces_slash (rest : List Char) : pieces ('/' :: rest) = [] :: pieces rest := by
  rw [pieces, if_pos rfl]

lemma pieces_cons {c : Char} (hc : c ≠ '/') {rest p : List Char} {ps : List Name}
    (h : pieces rest = p :: ps) : pieces (c :: rest) = (c :: p) :: ps := by
  rw [pieces, if_neg hc, h]

lemma pieces_no_slash {p : Name} (h : '/' ∉ p) : pieces p = [p] := by
  induction p with
  | nil => rfl
  | cons c p ih =>
    rw [List.mem_cons, not_or] at h
    exact pieces_cons (Ne.symm h.1) (ih h.2)

lemma pieces_append {p : Name} (h : '/' ∉ p) (rest : List Char) :
    pieces (p ++ '/' :: rest) = p :: pieces rest := by
  induction p with
  | nil => exact pieces_slash rest
  | cons c p ih =>
    rw [List.mem_cons, not_or] at h
    exact pieces_cons (Ne.symm h.1) (ih h.2)

lemma slash_not_mem (path : List Char) : ∀ p ∈ pieces path, '/' ∉ p := by
  induction path with
  | nil => simp [pieces]
  | cons c rest ih =>
    by_cases hc : c = '/'
    · rw [hc, pieces_slash]
      exact List.forall_mem_cons.mpr ⟨List.not_mem_nil, ih⟩
    · obtain ⟨p, ps, hps⟩ := List.exists_cons_of_ne_nil (pieces_ne_nil rest)
      rw [hps, List.forall_mem_cons] at ih
      rw [pieces_cons hc hps]
      have hp : '/' ∉ c :: p := List.not_mem_cons_of_ne_of_not_mem (Ne.symm hc) ih.1
      exact List.forall_mem_cons.mpr ⟨hp, ih.2⟩

lemma ofPieces_cons (p : Name) {ps : List Name} (h : ps ≠ []) :
    ofPieces (p :: ps) = p ++ '/' :: ofPieces ps := by
  cases ps with
  | nil => exact absurd rfl h
  | cons q ps => rfl

lemma ofPieces_eq_nil_iff {p : Name} {ps : List Name} :
    ofPieces (p :: ps) = [] ↔ p = [] ∧ ps = [] := by
  cases ps <;> simp [ofPieces]

lemma ofPieces_pieces (path : List Char) : ofPieces (pieces path) = path := by
  induction path with
  | nil => rfl
  | cons c rest ih =>
    by_cases hc : c = '/'
    · rw [hc, pieces_slash, ofPieces_cons _ (pieces_ne_nil rest), ih]
      rfl
    · obtain ⟨p, ps, hps⟩ := List.exists_cons_of_ne_nil (pieces_ne_nil rest)
      rw [pieces_cons hc hps]
      rw [hps] at ih
      cases ps with
      | nil => rw [← ih]; rfl
      | cons q ps => rw [← ih]; rfl

lemma pieces_ofPieces {ps : List Name} (hne : ps ≠ []) (h : ∀ p ∈ ps, '/' ∉ p) :
    pieces (ofPieces ps) = ps := by
  induction ps with
  | nil => exact absurd rfl hne
  | cons p ps ih =>
    obtain ⟨hp, hps⟩ := List.forall_mem_cons.mp h
    by_cases hnil : ps = []
    · rw [hnil]
      exact pieces_no_slash hp
    · rw [ofPieces_cons p hnil, pieces_append hp, ih hnil hps]

lemma ofPieces_start {ps : List Name} (hne : ps ≠ []) (qs : List Name) :
    ofPieces ps <+: ofPieces (ps ++ qs) := by
  induction ps with
  | nil => exact absurd rfl hne
  | cons p ps ih =>
    by_cases hnil : ps = []
    · rw [hnil]
      cases qs with
      | nil => exact List.prefix_refl _
      | cons q qs => exact List.prefix_append p _
    · rw [List.cons_append, ofPieces_cons p hnil, ofPieces_cons p (by simp [hnil])]
      exact (List.prefix_append_right_inj p).mpr ((List.prefix_cons_inj '/').mpr (ih hnil))

def Allowed (path : List Char) : Prop := '\x00' ∉ path ∧ path ≠ [] ∧ byteLength path < 4096

instance : DecidablePred Allowed := fun _ => inferInstanceAs (Decidable (_ ∧ _ ∧ _))

lemma byteLength_append (cs ds : List Char) :
    byteLength (cs ++ ds) = byteLength cs + byteLength ds := by
  induction cs with
  | nil => simp [byteLength]
  | cons c cs ih =>
    simp only [byteLength, List.cons_append, List.foldr_cons] at ih ⊢
    rw [ih, Nat.add_assoc]

lemma Allowed.beginning {p path : List Char} (h : Allowed path) (hstart : p <+: path)
    (hne : p ≠ []) : Allowed p := by
  obtain ⟨rest, rfl⟩ := hstart
  obtain ⟨hnul, -, hlong⟩ := h
  rw [byteLength_append] at hlong
  exact ⟨fun hmem => hnul (List.mem_append_left rest hmem), hne, by omega⟩

def origin (here : List Name) (path : List Char) : List Name :=
  if path.head? = some '/' then [] else here

lemma origin_eq (here : List Name) {path : List Char} {first : Name} {later : List Name}
    (hne : path ≠ []) (h : pieces path = first :: later) :
    origin here path = if first = [] then [] else here := by
  obtain ⟨c, rest, rfl⟩ := List.exists_cons_of_ne_nil hne
  rw [origin, List.head?_cons]
  by_cases hc : c = '/'
  · rw [hc, pieces_slash] at h
    obtain ⟨rfl, -⟩ := List.cons.inj h
    rw [hc, if_pos rfl, if_pos rfl]
  · obtain ⟨p, ps, hps⟩ := List.exists_cons_of_ne_nil (pieces_ne_nil rest)
    rw [pieces_cons hc hps] at h
    obtain ⟨rfl, -⟩ := List.cons.inj h
    rw [if_neg (by simpa using hc), if_neg (List.cons_ne_nil c p)]

namespace Course

def pieces (c : Course) : List Name := c.first :: c.later.reverse

lemma pieces_ne_nil (c : Course) : c.pieces ≠ [] := List.cons_ne_nil _ _

def IsRoot (c : Course) : Prop := c.first = [] ∧ c.trimmed.later = []

lemma pieces_trimmed (c : Course) :
    ∃ idle, c.pieces = c.trimmed.pieces ++ idle ∧ ∀ p ∈ idle, isIdle p := by
  refine ⟨(c.later.takeWhile isIdle).reverse, ?_, ?_⟩
  · rw [pieces, pieces, trimmed, List.cons_append, ← List.reverse_append,
      List.takeWhile_append_dropWhile]
  · intro p hp
    exact List.mem_takeWhile_imp (List.mem_reverse.mp hp)

lemma trimmed_path_root {c : Course} (h : c.IsRoot) : c.trimmed.path = ['/'] := by
  have hfirst : c.trimmed.first = [] := h.1
  simp [path, hfirst, h.2]

lemma trimmed_path {c : Course} (h : ¬ c.IsRoot) : c.trimmed.path = ofPieces c.trimmed.pieces := by
  have hempty : (c.trimmed.first.isEmpty && c.trimmed.later.isEmpty) = false := by
    rw [Bool.and_eq_false_iff, List.isEmpty_eq_false_iff, List.isEmpty_eq_false_iff]
    exact not_and_or.mp h
  rw [path, hempty]
  rfl

lemma trimmed_path_start {c : Course} (h : ¬ c.IsRoot) : c.trimmed.path <+: ofPieces c.pieces := by
  obtain ⟨idle, hpieces, -⟩ := c.pieces_trimmed
  rw [trimmed_path h, hpieces]
  exact ofPieces_start c.trimmed.pieces_ne_nil idle

lemma trimmed_path_ne_nil (c : Course) : c.trimmed.path ≠ [] := by
  by_cases h : c.IsRoot
  · rw [trimmed_path_root h]
    exact List.cons_ne_nil _ _
  · rw [trimmed_path h, pieces, Ne, ofPieces_eq_nil_iff, List.reverse_eq_nil_iff]
    exact h

lemma pieces_trimmed_path {c : Course} (hroot : ¬ c.IsRoot) (h : ∀ p ∈ c.pieces, '/' ∉ p) :
    Path.pieces c.trimmed.path = c.trimmed.pieces := by
  obtain ⟨idle, hpieces, -⟩ := c.pieces_trimmed
  rw [trimmed_path hroot, pieces_ofPieces (c.trimmed.pieces_ne_nil)]
  intro p hp
  exact h p (hpieces ▸ List.mem_append_left idle hp)

lemma origin_trimmed (here : List Name) {c : Course} (h : ∀ p ∈ c.pieces, '/' ∉ p) :
    origin here c.trimmed.path = if c.first = [] then [] else here := by
  by_cases hroot : c.IsRoot
  · rw [trimmed_path_root hroot, if_pos hroot.1]
    rfl
  · exact origin_eq here c.trimmed_path_ne_nil (pieces_trimmed_path hroot h)

lemma outward_root {c : Course} (h : c.IsRoot) : c.outward = [] := by
  rw [outward, h.1, h.2, outwardFrom]
  rfl

lemma outward_not_root {c : Course} (h : ¬ c.IsRoot) :
    ∃ around, c.outward = c.trimmed :: around := by
  rw [outward]
  cases hlater : c.trimmed.later with
  | nil =>
    have hfirst : c.first.isEmpty = false := by
      rw [List.isEmpty_eq_false_iff]
      exact fun hfirst => h ⟨hfirst, hlater⟩
    rw [outwardFrom, hfirst]
    exact ⟨[], by rw [← hlater]; rfl⟩
  | cons p before =>
    rw [outwardFrom, ← hlater]
    exact ⟨_, rfl⟩

end Course

lemma course_eq {path : List Char} {first : Name} {later : List Name}
    (h : Path.pieces path = first :: later) : course path = ⟨first, later.reverse⟩ := by
  rw [course, h]

lemma pieces_course (path : List Char) : (course path).pieces = pieces path := by
  obtain ⟨first, later, h⟩ := List.exists_cons_of_ne_nil (pieces_ne_nil path)
  rw [course_eq h, Course.pieces, List.reverse_reverse, h]

lemma directory_single {path : List Char} {name : Name} (h : pieces path = [name]) :
    directory path = ['.'] := by
  rw [directory, parent?, course_eq h]
  by_cases hname : name.isEmpty <;> simp [Course.trimmed, hname]

lemma directory_around {path : List Char} {first last : Name} {mid : List Name}
    (h : pieces path = first :: (mid ++ [last])) (hlast : ¬ isIdle last) :
    directory path = (Course.trimmed ⟨first, mid.reverse⟩).path := by
  have hcourse : (course path).trimmed = ⟨first, last :: mid.reverse⟩ := by
    rw [course_eq h, Course.trimmed, List.reverse_append]
    simp [hlast]
  obtain ⟨c, p, hp⟩ := List.exists_cons_of_ne_nil (Course.trimmed_path_ne_nil ⟨first, mid.reverse⟩)
  simp only [directory, parent?, hcourse, hp]

end WordSwap.Files.Path
