import WordSwap.Proofs.Files.Paths
import WordSwap.Proofs.Files.Trees

/-! Where paths lead. A walk can be followed on names alone, and it goes the same way through every
tree that has the same directories. -/

namespace WordSwap.Files

namespace Tree

def spot (t : Tree) (names : List Name) : Spot := Spot.enterAll ⟨t, []⟩ names

end Tree

namespace Spot

lemma names_enter (s : Spot) (n : Name) (inside : Tree) :
    (s.enter n inside).names = s.names ++ [n] := by
  simp [names, enter]

lemma names_enterAll (s : Spot) (names : List Name) :
    (s.enterAll names).names = s.names ++ names := by
  induction names generalizing s with
  | nil => simp [enterAll]
  | cons n names ih =>
    rw [enterAll]
    split <;> rw [ih, names_enter, List.append_assoc, List.singleton_append]

lemma inside_enterAll (s : Spot) (names : List Name) :
    (s.enterAll names).inside = (s.inside.directory? names).getD .empty := by
  induction names generalizing s with
  | nil => rfl
  | cons n names ih =>
    rw [enterAll]
    split
    next inside hn => rw [ih, Tree.directory?_cons hn]; rfl
    next hn =>
      have hnone : s.inside.directory? (n :: names) = none := by
        rw [Option.eq_none_iff_forall_ne_some]
        intro inside h
        obtain ⟨below, hbelow, -⟩ := Tree.exists_of_directory?_cons h
        exact hn below hbelow
      rw [ih, hnone]
      cases names <;> rfl

lemma enterAll_append (s : Spot) (names later : List Name) :
    s.enterAll (names ++ later) = (s.enterAll names).enterAll later := by
  induction names generalizing s with
  | nil => rfl
  | cons n names ih =>
    rw [List.cons_append, enterAll, enterAll]
    split <;> exact ih _

end Spot

namespace Tree

variable {t u : Tree} {dir dir' : List Name}

@[simp] lemma names_spot (t : Tree) (names : List Name) : (t.spot names).names = names := by
  rw [spot, Spot.names_enterAll]
  rfl

lemma get?_spot (t : Tree) (dir : List Name) (n : Name) :
    (t.spot dir).inside.get? n = t.find? (dir ++ [n]) := by
  rw [spot, Spot.inside_enterAll, find?_child]
  change ((t.directory? dir).getD .empty).get? n = _
  cases t.directory? dir <;> rfl

lemma enter_spot {inside : Tree} {n : Name}
    (h : (t.spot dir).inside.get? n = some (.directory inside)) :
    (t.spot dir).enter n inside = t.spot (dir ++ [n]) := by
  rw [spot] at h
  rw [spot, spot, Spot.enterAll_append, Spot.enterAll, h]
  rfl

lemma leave_spot (t : Tree) (dir : List Name) : (t.spot dir).leave = t.spot dir.dropLast := by
  rcases List.eq_nil_or_concat dir with rfl | ⟨dir, n, rfl⟩
  · rfl
  · rw [List.concat_eq_append, List.dropLast_concat, spot, spot, Spot.enterAll_append]
    rw [Spot.enterAll]
    split <;> rfl

instance (t : Tree) (names : List Name) : Decidable (t.IsDirectory names) :=
  inferInstanceAs (Decidable (_ = _))

def follow (t : Tree) : List Name → List Name → Option (List Name)
  | dir, [] => some dir
  | dir, p :: ps =>
    if Path.isIdle p then t.follow dir ps
    else if p = ['.', '.'] then t.follow dir.dropLast ps
    else if 255 < byteLength p ∨ ¬ t.IsDirectory (dir ++ [p]) then none
    else t.follow (dir ++ [p]) ps

lemma isDirectory_spot {n : Name} :
    t.IsDirectory (dir ++ [n]) ↔
      ∃ inside, (t.spot dir).inside.get? n = some (.directory inside) := by
  simp only [isDirectory_iff, directory?_eq_some_iff, get?_spot]

lemma walk_spot_iff {ps : List Name} {s : Spot} :
    (t.spot dir).walk ps = .ok s ↔ ∃ dir', t.follow dir ps = some dir' ∧ s = t.spot dir' := by
  induction ps generalizing dir with
  | nil => simp [Spot.walk, follow, eq_comm]
  | cons p ps ih =>
    rw [Spot.walk, follow]
    by_cases hidle : Path.isIdle p
    · rw [if_pos hidle, if_pos hidle, ih]
    · by_cases hup : p = ['.', '.']
      · rw [if_neg hidle, if_pos hup, if_neg hidle, if_pos hup, leave_spot, ih]
      · rw [if_neg hidle, if_neg hup, if_neg hidle, if_neg hup]
        by_cases hlong : 255 < byteLength p
        · rw [if_pos hlong, if_pos (.inl hlong)]
          simp
        · rw [if_neg hlong]
          by_cases hdir : t.IsDirectory (dir ++ [p])
          · obtain ⟨inside, hinside⟩ := isDirectory_spot.mp hdir
            rw [if_neg (not_or.mpr ⟨hlong, not_not.mpr hdir⟩)]
            simp only [hinside, enter_spot hinside, ih]
          · rw [if_pos (.inr hdir)]
            split
            next => simp
            next => simp
            next inside hinside => exact absurd (isDirectory_spot.mpr ⟨inside, hinside⟩) hdir

lemma follow_append (t : Tree) (dir ps qs : List Name) :
    t.follow dir (ps ++ qs) = (t.follow dir ps).bind fun dir' => t.follow dir' qs := by
  induction ps generalizing dir with
  | nil => rfl
  | cons p ps ih =>
    simp only [List.cons_append, follow, ih]
    split
    · rfl
    · split
      · rfl
      · split <;> rfl

lemma follow_idle {ps : List Name} (h : ∀ p ∈ ps, Path.isIdle p) : t.follow dir ps = some dir := by
  induction ps with
  | nil => rfl
  | cons p ps ih =>
    rw [follow, if_pos (h p List.mem_cons_self)]
    exact ih fun q hq => h q (List.mem_cons_of_mem p hq)

lemma follow_mono (h : ∀ names, t.IsDirectory names → u.IsDirectory names) {ps : List Name}
    (hfollow : t.follow dir ps = some dir') : u.follow dir ps = some dir' := by
  induction ps generalizing dir with
  | nil => exact hfollow
  | cons p ps ih =>
    rw [follow] at hfollow ⊢
    by_cases hidle : Path.isIdle p
    · rw [if_pos hidle] at hfollow ⊢
      exact ih hfollow
    · by_cases hup : p = ['.', '.']
      · rw [if_neg hidle, if_pos hup] at hfollow ⊢
        exact ih hfollow
      · rw [if_neg hidle, if_neg hup] at hfollow ⊢
        by_cases hblocked : 255 < byteLength p ∨ ¬ t.IsDirectory (dir ++ [p])
        · rw [if_pos hblocked] at hfollow
          cases hfollow
        · rw [if_neg hblocked] at hfollow
          obtain ⟨hlong, hdir⟩ := not_or.mp hblocked
          rw [if_neg (not_or.mpr ⟨hlong, not_not.mpr (h _ (not_not.mp hdir))⟩)]
          exact ih hfollow

section

variable {here : List Name} {path : List Char} {l : Location}

lemma start_eq (t : Tree) (here : List Name) (path : List Char) :
    t.start here path = t.spot (Path.origin here path) := by
  rw [start, Path.origin]
  split <;> rfl

lemma checkedPieces_eq_ok_iff {ps : List Name} :
    checkedPieces path = .ok ps ↔ Path.Allowed path ∧ Path.pieces path = ps := by
  rw [checkedPieces, Path.Allowed]
  split
  next h => simp [h]
  next hnul =>
    split
    next h => simp_all
    next hempty =>
      split
      next h => simp; omega
      next hlong => simp_all

def Leads (t : Tree) (here : List Name) (path : List Char) (dir : List Name) : Prop :=
  Path.Allowed path ∧ t.follow (Path.origin here path) (Path.pieces path) = some dir

lemma directoryAt_eq_ok_iff {s : Spot} :
    t.directoryAt here path = .ok s ↔ ∃ dir, t.Leads here path dir ∧ s = t.spot dir := by
  rw [directoryAt]
  split
  next fault h =>
    refine iff_of_false (by simp) ?_
    rintro ⟨dir, ⟨hallowed, -⟩, -⟩
    rw [checkedPieces_eq_ok_iff.mpr ⟨hallowed, rfl⟩] at h
    cases h
  next ps h =>
    obtain ⟨hallowed, rfl⟩ := checkedPieces_eq_ok_iff.mp h
    rw [start_eq, walk_spot_iff]
    simp only [Leads, hallowed, true_and]

lemma exists_of_dropWhile {ps before : List Name} {last : Name}
    (h : ps.dropWhile List.isEmpty = last :: before) :
    ∃ slashes, ps = slashes ++ last :: before ∧ last ≠ [] ∧
      (ps.head? ≠ some [] → slashes = []) := by
  induction ps with
  | nil => cases h
  | cons p ps ih =>
    cases p with
    | nil =>
      obtain ⟨slashes, rfl, hlast, -⟩ := ih h
      exact ⟨[] :: slashes, rfl, hlast, fun hhead => absurd rfl hhead⟩
    | cons c p =>
      obtain ⟨rfl, rfl⟩ := List.cons.inj h
      exact ⟨[], rfl, List.cons_ne_nil c p, fun _ => rfl⟩

def EntryName (p : Name) : Prop := p ≠ [] ∧ p ≠ ['.'] ∧ p ≠ ['.', '.'] ∧ byteLength p ≤ 255

lemma placeAt_ok {s : Spot} {name : Name} {slash : Bool}
    (h : t.placeAt here path = .ok ⟨s, some name, slash⟩) :
    ∃ dir before slashes, Path.Allowed path ∧ Path.pieces path = before ++ name :: slashes ∧
      EntryName name ∧ t.follow (Path.origin here path) before = some dir ∧ s = t.spot dir ∧
      (slash = false → slashes = []) := by
  rw [placeAt] at h
  split at h
  next => cases h
  next ps hps =>
    obtain ⟨hallowed, rfl⟩ := checkedPieces_eq_ok_iff.mp hps
    split at h
    next => cases h
    next last before hlast =>
      split at h
      next => split at h <;> cases h
      next hdots =>
        split at h
        next => cases h
        next s' hwalk =>
          split at h
          next => cases h
          next hlong =>
            cases h
            rw [start_eq] at hwalk
            obtain ⟨dir, hfollow, rfl⟩ := walk_spot_iff.mp hwalk
            obtain ⟨slashes, hpieces, hne, hslashes⟩ := exists_of_dropWhile hlast
            obtain ⟨hdot, hup⟩ := not_or.mp hdots
            refine ⟨dir, before.reverse, slashes.reverse, hallowed, ?_,
              ⟨hne, hdot, hup, Nat.not_lt.mp hlong⟩, hfollow, rfl, ?_⟩
            · rw [← List.reverse_inj, hpieces]
              simp
            · intro hslash
              rw [List.head?_reverse] at hslashes
              rw [hslashes (of_decide_eq_false hslash), List.reverse_nil]

def Names (t : Tree) (here : List Name) (path : List Char) (l : Location) : Prop :=
  ∃ s, t.placeAt here path = .ok ⟨s, some l.name, false⟩ ∧ s.names = l.directory

lemma names_iff :
    t.Names here path l ↔ Path.Allowed path ∧ ∃ before, Path.pieces path = before ++ [l.name] ∧
      EntryName l.name ∧ t.follow (Path.origin here path) before = some l.directory := by
  constructor
  · rintro ⟨s, hplace, hs⟩
    obtain ⟨dir, before, slashes, hallowed, hpieces, hname, hfollow, rfl, hslash⟩ :=
      placeAt_ok hplace
    obtain rfl := hslash rfl
    rw [names_spot] at hs
    exact ⟨hallowed, before, hpieces, hname, hs ▸ hfollow⟩
  · rintro ⟨hallowed, before, hpieces, ⟨hne, hdot, hup, hlong⟩, hfollow⟩
    refine ⟨t.spot l.directory, ?_, names_spot t _⟩
    have hwalk := walk_spot_iff.mpr ⟨_, hfollow, rfl⟩
    rw [placeAt, checkedPieces_eq_ok_iff.mpr ⟨hallowed, hpieces⟩]
    simp [hne, hdot, hup, start_eq, hwalk, Nat.not_lt.mpr hlong]

lemma Names.placeAt (h : t.Names here path l) :
    t.placeAt here path = .ok ⟨t.spot l.directory, some l.name, false⟩ := by
  obtain ⟨s, hplace, hs⟩ := h
  obtain ⟨dir, -, -, -, -, -, -, rfl, -⟩ := placeAt_ok hplace
  rw [names_spot] at hs
  rw [hplace, hs]

lemma follow_cons_entry {p : Name} {ps : List Name} (hp : p ≠ []) (hdot : p ≠ ['.'])
    (hup : p ≠ ['.', '.']) (h : t.follow dir (p :: ps) = some dir') :
    byteLength p ≤ 255 ∧ t.IsDirectory (dir ++ [p]) := by
  have hidle : ¬ Path.isIdle p := by simp [Path.isIdle, hp, hdot]
  rw [follow, if_neg hidle, if_neg hup] at h
  by_cases hblocked : 255 < byteLength p ∨ ¬ t.IsDirectory (dir ++ [p])
  · rw [if_pos hblocked] at h
    cases h
  · obtain ⟨hlong, hdir⟩ := not_or.mp hblocked
    exact ⟨Nat.not_lt.mp hlong, not_not.mp hdir⟩

lemma Leads.placeAt (h : t.Leads here path dir) :
    (∃ s slash, t.placeAt here path = .ok ⟨s, none, slash⟩) ∨
      ∃ around n slash, t.placeAt here path = .ok ⟨t.spot around, some n, slash⟩ ∧
        t.IsDirectory (around ++ [n]) := by
  obtain ⟨hallowed, hfollow⟩ := h
  have hchecked := checkedPieces_eq_ok_iff.mpr ⟨hallowed, rfl⟩
  cases hlast : (Path.pieces path).reverse.dropWhile List.isEmpty with
  | nil =>
    simp only [Tree.placeAt, hchecked, hlast]
    exact .inl ⟨_, _, rfl⟩
  | cons last before =>
    by_cases hdots : last = ['.'] ∨ last = ['.', '.']
    · have hwalk := walk_spot_iff.mpr ⟨dir, hfollow, rfl⟩
      simp only [Tree.placeAt, hchecked, hlast, if_pos hdots, start_eq, hwalk]
      exact .inl ⟨_, _, rfl⟩
    · obtain ⟨slashes, hpieces, hne, -⟩ := exists_of_dropWhile hlast
      obtain ⟨hdot, hup⟩ := not_or.mp hdots
      have hsplit : Path.pieces path = before.reverse ++ last :: slashes.reverse := by
        rw [← List.reverse_inj, hpieces]
        simp
      rw [hsplit, follow_append] at hfollow
      obtain ⟨around, haround, hfollow⟩ := Option.bind_eq_some_iff.mp hfollow
      obtain ⟨hlong, hdir⟩ := follow_cons_entry hne hdot hup hfollow
      have hwalk := walk_spot_iff.mpr ⟨around, haround, rfl⟩
      simp only [Tree.placeAt, hchecked, hlast, if_neg hdots, start_eq, hwalk,
        if_neg (Nat.not_lt.mpr hlong)]
      exact .inr ⟨around, last, _, rfl, hdir⟩

lemma Names.last_piece (h : t.Names here path l) :
    (Path.pieces path).getLast? = some l.name := by
  obtain ⟨-, before, hpieces, -⟩ := names_iff.mp h
  rw [hpieces, List.getLast?_concat]

lemma Names.mono (h : ∀ names, t.IsDirectory names → u.IsDirectory names)
    (hnames : t.Names here path l) : u.Names here path l := by
  obtain ⟨hallowed, before, hpieces, hname, hfollow⟩ := names_iff.mp hnames
  exact names_iff.mpr ⟨hallowed, before, hpieces, hname, follow_mono h hfollow⟩

lemma Leads.mono (h : ∀ names, t.IsDirectory names → u.IsDirectory names)
    (hleads : t.Leads here path dir) : u.Leads here path dir :=
  ⟨hleads.1, follow_mono h hleads.2⟩

lemma follow_trimmed (t : Tree) (dir : List Name) {c : Path.Course}
    (h : ∀ p ∈ c.pieces, '/' ∉ p) :
    t.follow dir (Path.pieces c.trimmed.path) = t.follow dir c.pieces := by
  obtain ⟨idle, hpieces, hidle⟩ := c.pieces_trimmed
  have htrimmed : t.follow dir c.pieces = t.follow dir c.trimmed.pieces := by
    rw [hpieces, follow_append]
    cases t.follow dir c.trimmed.pieces with
    | none => rfl
    | some dir' => exact follow_idle hidle
  rw [htrimmed]
  by_cases hroot : c.IsRoot
  · have hnil : c.trimmed.pieces = [[]] := by
      rw [Path.Course.pieces, hroot.2]
      exact congrArg (fun first => [first]) hroot.1
    rw [Path.Course.trimmed_path_root hroot, hnil]
    rfl
  · rw [Path.Course.pieces_trimmed_path hroot h]

lemma leads_trimmed {c : Path.Course} {later : List Name} (hallowed : Path.Allowed path)
    (hpieces : Path.pieces path = c.pieces ++ later)
    (hfollow : t.follow (Path.origin here path) c.pieces = some dir) :
    t.Leads here c.trimmed.path dir := by
  have hslash : ∀ p ∈ c.pieces, '/' ∉ p := by
    intro p hp
    apply Path.slash_not_mem path
    rw [hpieces]
    exact List.mem_append_left later hp
  constructor
  · by_cases hroot : c.IsRoot
    · rw [Path.Course.trimmed_path_root hroot]
      decide
    · apply hallowed.beginning _ c.trimmed_path_ne_nil
      rw [← Path.ofPieces_pieces path, hpieces]
      exact (Path.Course.trimmed_path_start hroot).trans
        (Path.ofPieces_start c.pieces_ne_nil later)
  · rw [Path.Course.origin_trimmed here hslash, follow_trimmed t _ hslash]
    rwa [Path.origin_eq here hallowed.2.1 hpieces] at hfollow

lemma Names.leads_directory (h : t.Names here path l) :
    t.Leads here (Path.directory path) l.directory := by
  obtain ⟨hallowed, before, hpieces, ⟨hne, hdot, -⟩, hfollow⟩ := names_iff.mp h
  cases before with
  | nil =>
    rw [Path.directory_single hpieces]
    refine ⟨by decide, ?_⟩
    rwa [Path.origin_eq here hallowed.2.1 hpieces, if_neg hne] at hfollow
  | cons first mid =>
    have hidle : ¬ Path.isIdle l.name := by simp [Path.isIdle, hne, hdot]
    have hmid : (Path.Course.mk first mid.reverse).pieces = first :: mid := by
      rw [Path.Course.pieces, List.reverse_reverse]
    rw [← hmid] at hpieces hfollow
    rw [Path.directory_around (hmid ▸ hpieces) hidle]
    exact leads_trimmed hallowed hpieces hfollow

lemma Leads.outward (h : t.Leads here path dir) :
    (Path.course path).outward = [] ∨
      ∃ c around, (Path.course path).outward = c :: around ∧ t.Leads here c.path dir := by
  by_cases hroot : (Path.course path).IsRoot
  · exact .inl (Path.Course.outward_root hroot)
  · obtain ⟨around, haround⟩ := Path.Course.outward_not_root hroot
    have hpieces : Path.pieces path = (Path.course path).pieces ++ [] := by
      rw [List.append_nil, Path.pieces_course]
    exact .inr ⟨_, around, haround,
      leads_trimmed h.1 hpieces (by rw [Path.pieces_course, h.2])⟩

end

end Tree

end WordSwap.Files
