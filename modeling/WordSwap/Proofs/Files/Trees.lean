import Mathlib.Data.List.Infix
import WordSwap.Files.Tree

/-! What a tree shows: at any names a file with its content, a directory, or nothing. -/

namespace WordSwap.Files

def Entry.content? : Entry → Option (List UInt8)
  | .file content => some content
  | .directory _ => none

lemma Entry.find?_append (e : Entry) (names later : List Name) :
    e.find? (names ++ later) = (e.find? names).bind fun found => found.find? later := by
  induction names generalizing e with
  | nil => rfl
  | cons n names ih =>
    cases e with
    | file content => rfl
    | directory inside =>
      simp only [List.cons_append, Entry.find?]
      cases inside.get? n with
      | none => rfl
      | some e => exact ih e

def Location.names (l : Location) : List Name := l.directory ++ [l.name]

lemma Location.names_inj {l l' : Location} : l.names = l'.names ↔ l = l' := by
  cases l
  cases l'
  simp [names, List.append_singleton_inj]

namespace Tree

@[elab_as_elim]
lemma entry_induction {P : Tree → Prop} (empty : P .empty)
    (add : ∀ n e t, P t → P (Tree.add n e t)) (t : Tree) : P t := by
  induction t with
  | empty => exact empty
  | file n content others ih => exact add n (.file content) others ih
  | directory n inside others _ ih => exact add n (.directory inside) others ih

section

variable {name : Name} {e : Entry} {t : Tree}

lemma put_add (n : Name) (e' : Entry) (t : Tree) :
    (add n e' t).put name e = if n = name then t.add name e else add n e' (t.put name e) := by
  cases e' <;> rfl

lemma drop_add (n : Name) (e' : Entry) (t : Tree) :
    (add n e' t).drop name = if n = name then t.drop name else add n e' (t.drop name) := by
  cases e' <;> rfl

lemma put_put (e' : Entry) (t : Tree) : (t.put name e').put name e = t.put name e := by
  induction t using entry_induction with
  | empty =>
    change (add name e' .empty).put name e = _
    rw [put_add, if_pos rfl]
    rfl
  | add n e'' t ih =>
    by_cases hn : n = name
    · rw [put_add, put_add, if_pos hn, if_pos hn, put_add, if_pos rfl]
    · rw [put_add, put_add, if_neg hn, if_neg hn, put_add, if_neg hn, ih]

lemma put_of_get? (h : t.get? name = some e) : t.put name e = t := by
  induction t using entry_induction with
  | empty => cases h
  | add n e' t ih =>
    rw [get?_add] at h
    by_cases hn : n = name
    · rw [if_pos hn] at h
      rw [put_add, if_pos hn, hn, Option.some.inj h]
    · rw [if_neg hn] at h
      rw [put_add, if_neg hn, ih h]

lemma drop_put (h : t.get? name = none) : (t.put name e).drop name = t := by
  induction t using entry_induction with
  | empty =>
    change (add name e .empty).drop name = _
    rw [drop_add, if_pos rfl]
    rfl
  | add n e' t ih =>
    rw [get?_add] at h
    by_cases hn : n = name
    · rw [if_pos hn] at h
      cases h
    · rw [if_neg hn] at h
      rw [put_add, if_neg hn, drop_add, if_neg hn, ih h]

end

section

variable {t inside : Tree} {dir names : List Name} {f g : Tree → Tree}

lemma find?_cons (t : Tree) (n : Name) (names : List Name) :
    t.find? (n :: names) = (t.get? n).bind fun e => e.find? names := by
  simp only [find?, Entry.find?]
  cases t.get? n <;> rfl

lemma directory?_eq_some_iff :
    t.directory? dir = some inside ↔ t.find? dir = some (.directory inside) := by
  rw [directory?]
  split <;> simp_all

lemma directory?_cons {n : Name} (h : t.get? n = some (.directory inside)) (names : List Name) :
    t.directory? (n :: names) = inside.directory? names := by
  simp only [directory?, find?_cons, h]
  rfl

lemma exists_of_directory?_cons {n : Name} (h : t.directory? (n :: names) = some inside) :
    ∃ below, t.get? n = some (.directory below) ∧ below.directory? names = some inside := by
  have hfind := directory?_eq_some_iff.mp h
  rw [find?_cons] at hfind
  obtain ⟨e, hn, he⟩ := Option.bind_eq_some_iff.mp hfind
  cases e with
  | file content => cases names <;> cases he
  | directory below => exact ⟨below, hn, directory?_eq_some_iff.mpr he⟩

lemma find?_child (t : Tree) (dir : List Name) (n : Name) :
    t.find? (dir ++ [n]) = (t.directory? dir).bind fun inside => inside.get? n := by
  rw [find?, Entry.find?_append, directory?, ← find?]
  cases t.find? dir with
  | none => rfl
  | some e =>
    cases e with
    | file content => rfl
    | directory inside =>
      simp only [Option.bind_some, Entry.find?]
      cases inside.get? n <;> rfl

lemma modify_cons {n : Name} (h : t.get? n = some (.directory inside)) (names : List Name) :
    modify f (n :: names) t = t.put n (.directory (modify f names inside)) := by
  simp only [modify, h]

lemma modify_cons_of_not {n : Name} (h : ∀ inside, t.get? n ≠ some (.directory inside))
    (names : List Name) : modify f (n :: names) t = t := by
  rw [modify]
  split
  next inside hn => exact absurd hn (h inside)
  next => rfl

lemma modify_id (dir : List Name) (t : Tree) : modify id dir t = t := by
  induction dir generalizing t with
  | nil => rfl
  | cons n dir ih =>
    by_cases h : ∃ inside, t.get? n = some (.directory inside)
    · obtain ⟨inside, h⟩ := h
      rw [modify_cons h, ih, put_of_get? h]
    · exact modify_cons_of_not (not_exists.mp h) dir

lemma modify_congr (h : ∀ inside, t.directory? dir = some inside → f inside = g inside) :
    modify f dir t = modify g dir t := by
  induction dir generalizing t with
  | nil => exact h t rfl
  | cons n dir ih =>
    by_cases hn : ∃ inside, t.get? n = some (.directory inside)
    · obtain ⟨inside, hn⟩ := hn
      rw [modify_cons hn, modify_cons hn]
      rw [ih fun below hbelow => h below (by rw [directory?_cons hn, hbelow])]
    · rw [modify_cons_of_not (not_exists.mp hn), modify_cons_of_not (not_exists.mp hn)]

lemma modify_modify (f g : Tree → Tree) (dir : List Name) (t : Tree) :
    modify f dir (modify g dir t) = modify (f ∘ g) dir t := by
  induction dir generalizing t with
  | nil => rfl
  | cons n dir ih =>
    by_cases h : ∃ inside, t.get? n = some (.directory inside)
    · obtain ⟨inside, h⟩ := h
      have hput : (t.put n (.directory (modify g dir inside))).get? n =
          some (.directory (modify g dir inside)) := by rw [get?_put, if_pos rfl]
      rw [modify_cons h, modify_cons hput, put_put, ih, modify_cons h]
    · simp only [modify_cons_of_not (not_exists.mp h)]

lemma modify_of_directory?_eq_none (h : t.directory? dir = none) : modify f dir t = t := by
  rw [modify_congr (g := id), modify_id]
  intro inside hinside
  rw [h] at hinside
  cases hinside

lemma find?_modify (h : t.directory? dir = some inside) (names : List Name) :
    (modify f dir t).find? (dir ++ names) = (f inside).find? names := by
  induction dir generalizing t with
  | nil =>
    obtain rfl : t = inside := by simpa [directory?, find?, Entry.find?] using h
    rfl
  | cons n dir ih =>
    obtain ⟨below, hn, hbelow⟩ := exists_of_directory?_cons h
    rw [modify_cons hn, List.cons_append, find?_cons, get?_put, if_pos rfl]
    exact ih hbelow

end

section

variable {t : Tree} {l : Location} {e : Entry} {names : List Name}

def look (t : Tree) (names : List Name) : Option (Option (List UInt8)) :=
  (t.find? names).map Entry.content?

def file? (t : Tree) (names : List Name) : Option (List UInt8) := (t.look names).join

def IsDirectory (t : Tree) (names : List Name) : Prop := t.look names = some none

lemma isDirectory_iff : t.IsDirectory names ↔ ∃ inside, t.directory? names = some inside := by
  simp only [directory?_eq_some_iff]
  rw [IsDirectory, look, Option.map_eq_some_iff]
  constructor
  · rintro ⟨e, he, hcontent⟩
    cases e with
    | file content => cases hcontent
    | directory inside => exact ⟨inside, he⟩
  · rintro ⟨inside, hinside⟩
    exact ⟨.directory inside, hinside, rfl⟩

lemma directory?_of_not (h : ¬ t.IsDirectory names) : t.directory? names = none := by
  rw [Option.eq_none_iff_forall_ne_some]
  exact fun inside hinside => h (isDirectory_iff.mpr ⟨inside, hinside⟩)

lemma file?_eq_some_iff {content : List UInt8} :
    t.file? names = some content ↔ t.look names = some (some content) := by
  rw [file?, Option.join_eq_some_iff]

lemma look_child (t : Tree) (dir : List Name) (n : Name) :
    t.look (dir ++ [n]) =
      (t.directory? dir).bind fun inside => (inside.get? n).map Entry.content? := by
  rw [look, find?_child]
  cases t.directory? dir <;> rfl

lemma look_below (h : ¬ t.IsDirectory names) (n : Name) (later : List Name) :
    t.look (names ++ n :: later) = none := by
  rw [look, find?, Entry.find?_append, ← find?]
  cases hfind : t.find? names with
  | none => rfl
  | some found =>
    cases found with
    | file content => rfl
    | directory inside =>
      exact absurd (isDirectory_iff.mpr ⟨inside, directory?_eq_some_iff.mpr hfind⟩) h

lemma look_insert_elsewhere (h : ¬ l.names <+: names) :
    (t.insert l e).look names = t.look names := by
  obtain ⟨dir, name⟩ := l
  simp only [insert, Location.names] at h ⊢
  induction dir generalizing t names with
  | nil =>
    cases names with
    | nil => rfl
    | cons n names =>
      have hn : name ≠ n := by
        rintro rfl
        exact h (List.prefix_append [name] names)
      simp only [modify, look, find?_cons, get?_put, if_neg hn]
  | cons d dir ih =>
    by_cases hd : ∃ inside, t.get? d = some (.directory inside)
    · obtain ⟨inside, hd⟩ := hd
      rw [modify_cons hd]
      cases names with
      | nil => rfl
      | cons n names =>
        simp only [look, find?_cons, get?_put]
        split
        next hn =>
          subst hn
          rw [hd]
          refine ih (t := inside) ?_
          rintro hbelow
          exact h ((List.prefix_cons_inj d).mpr hbelow)
        next => rfl
    · rw [modify_cons_of_not (not_exists.mp hd)]

lemma insert_of_not (h : ¬ t.IsDirectory l.directory) : t.insert l e = t :=
  modify_of_directory?_eq_none (directory?_of_not h)

lemma look_insert (hdir : t.IsDirectory l.directory) (hl : ¬ t.IsDirectory l.names)
    (he : ∀ n later, e.find? (n :: later) = none) (names : List Name) :
    (t.insert l e).look names = if names = l.names then some e.content? else t.look names := by
  obtain ⟨inside, hdir⟩ := isDirectory_iff.mp hdir
  by_cases hbelow : l.names <+: names
  · obtain ⟨later, rfl⟩ := hbelow
    have hfind : (t.insert l e).find? (l.names ++ later) = e.find? later := by
      rw [insert, Location.names, List.append_assoc, find?_modify hdir, List.singleton_append,
        find?_cons, get?_put, if_pos rfl]
      rfl
    cases later with
    | nil => rw [look, hfind, List.append_nil, if_pos rfl]; rfl
    | cons n later =>
      -- Nothing was below before, as there was no directory, and nothing is now.
      rw [look, hfind, he, look_below hl, if_neg (by simp)]
      rfl
  · have hne : names ≠ l.names := by
      rintro rfl
      exact hbelow (List.prefix_refl _)
    rw [look_insert_elsewhere hbelow, if_neg hne]

lemma look_insert_file (hdir : t.IsDirectory l.directory) (hl : ¬ t.IsDirectory l.names)
    (content : List UInt8) (names : List Name) :
    (t.insert l (.file content)).look names =
      if names = l.names then some (some content) else t.look names :=
  look_insert hdir hl (fun _ _ => rfl) names

lemma isDirectory_insert_file (hl : ¬ t.IsDirectory l.names) (content : List UInt8)
    (names : List Name) : (t.insert l (.file content)).IsDirectory names ↔ t.IsDirectory names := by
  by_cases hdir : t.IsDirectory l.directory
  · rw [IsDirectory, IsDirectory, look_insert_file hdir hl]
    split
    next h =>
      subst h
      exact iff_of_false (by simp) hl
    next => rfl
  · rw [insert_of_not hdir]

lemma insert_insert (e' : Entry) : (t.insert l e').insert l e = t.insert l e := by
  rw [insert, insert, modify_modify]
  apply modify_congr
  exact fun inside _ => put_put e' inside

lemma erase_insert (h : t.look l.names = none) : (t.insert l e).erase l = t := by
  rw [insert, erase, modify_modify]
  rw [modify_congr (g := id), modify_id]
  intro inside hinside
  rw [Location.names, look_child, hinside, Option.bind_some, Option.map_eq_none_iff] at h
  exact drop_put h

end

def Grown (t u : Tree) : Prop :=
  ∀ names, u.look names = t.look names ∨ (t.look names = none ∧ u.IsDirectory names)

namespace Grown

variable {t u v : Tree}

lemma refl (t : Tree) : Grown t t := fun _ => .inl rfl

lemma trans (h : Grown t u) (h' : Grown u v) : Grown t v := by
  intro names
  rcases h' names with huv | ⟨hu, hv⟩
  · rw [IsDirectory, huv]
    exact h names
  · rcases h names with htu | ⟨-, hu'⟩
    · exact .inr ⟨htu ▸ hu, hv⟩
    · rw [IsDirectory, hu] at hu'
      cases hu'

lemma file? (h : Grown t u) (names : List Name) : u.file? names = t.file? names := by
  rcases h names with htu | ⟨ht, hu⟩
  · rw [Tree.file?, htu, Tree.file?]
  · rw [Tree.file?, hu, Tree.file?, ht]
    rfl

lemma look (h : Grown t u) {names : List Name} {seen : Option (List UInt8)}
    (hseen : t.look names = some seen) : u.look names = some seen := by
  rcases h names with htu | ⟨ht, -⟩
  · exact htu.trans hseen
  · rw [ht] at hseen
    cases hseen

lemma isDirectory (h : Grown t u) {names : List Name} (hdir : t.IsDirectory names) :
    u.IsDirectory names := h.look hdir

lemma insert_directory {l : Location} (h : t.look l.names = none) :
    Grown t (t.insert l (.directory .empty)) := by
  intro names
  by_cases hdir : t.IsDirectory l.directory
  · have hl : ¬ t.IsDirectory l.names := by simp [IsDirectory, h]
    rw [IsDirectory, look_insert hdir hl fun _ _ => rfl]
    split
    next hnames =>
      subst hnames
      exact .inr ⟨h, rfl⟩
    next => exact .inl rfl
  · rw [insert_of_not hdir]
    exact .inl rfl

end Grown

end Tree

end WordSwap.Files
