import WordSwap.Proofs.Files.Hosts

/-! The directories that are created for a path are those on the way along it. -/

namespace WordSwap.Files

namespace Path

variable {path : List Char} {c : Course}

lemma Course.mem_outwardFrom {first : Name} {later : List Name}
    (h : c ∈ Course.outwardFrom first later) :
    c.first = first ∧ c.later <:+ later ∧ (c.first ≠ [] ∨ c.later ≠ []) := by
  fun_induction Course.outwardFrom first later with
  | case1 => cases h
  | case2 hfirst =>
    obtain rfl := List.mem_singleton.mp h
    exact ⟨rfl, List.suffix_refl _, .inl (by simpa using hfirst)⟩
  | case3 p before ih =>
    rcases List.mem_cons.mp h with rfl | h
    · exact ⟨rfl, List.suffix_refl _, .inr (List.cons_ne_nil p before)⟩
    · obtain ⟨hfirst, hlater, hne⟩ := ih h
      refine ⟨hfirst, ?_, hne⟩
      exact (hlater.trans (List.dropWhile_suffix isIdle)).trans (List.suffix_cons p before)

lemma Course.pieces_of_mem_outward {d : Course} (h : c ∈ d.outward) :
    c.first = d.first ∧ c.pieces <+: d.pieces ∧ (c.first ≠ [] ∨ c.later ≠ []) := by
  obtain ⟨hfirst, hlater, hne⟩ := Course.mem_outwardFrom h
  refine ⟨hfirst, ?_, hne⟩
  have hall : c.later <:+ d.later := hlater.trans (List.dropWhile_suffix isIdle)
  rw [Course.pieces, Course.pieces, hfirst, List.prefix_cons_inj, List.reverse_prefix]
  exact hall

lemma pieces_path_of_mem_outward (h : c ∈ (course path).outward) : pieces c.path = c.pieces := by
  obtain ⟨-, hpieces, hne⟩ := Course.pieces_of_mem_outward h
  have hpath : c.path = ofPieces c.pieces := by
    rw [Course.path, if_neg]
    · rfl
    · simpa [Classical.or_iff_not_imp_left] using hne
  rw [hpath, pieces_ofPieces c.pieces_ne_nil]
  intro p hp
  rw [pieces_course] at hpieces
  exact slash_not_mem path p (hpieces.subset hp)

lemma origin_of_mem_outward (here : List Name) (h : c ∈ (course path).outward) :
    origin here c.path = origin here path := by
  have hne : path ≠ [] := by
    rintro rfl
    rw [Course.outward_root ⟨rfl, rfl⟩] at h
    cases h
  have hpath : c.path ≠ [] := by
    rintro hnil
    have hpieces := pieces_path_of_mem_outward h
    obtain ⟨-, -, hfirst⟩ := Course.pieces_of_mem_outward h
    rw [hnil, Course.pieces] at hpieces
    obtain ⟨hnil, hlater⟩ := List.cons.inj hpieces
    rcases hfirst with hfirst | hlater'
    · exact hfirst hnil.symm
    · exact hlater' (List.reverse_eq_nil_iff.mp hlater.symm)
  rw [origin_eq here hpath (pieces_path_of_mem_outward h),
    origin_eq here hne (pieces_course path).symm, (Course.pieces_of_mem_outward h).1]

end Path

namespace Tree

variable {t u v : Tree} {here names : List Name} {path : List Char}

def OnTheWay (t : Tree) (here : List Name) (path : List Char) (names : List Name) : Prop :=
  ∃ before, before <+: Path.pieces path ∧
    t.follow (Path.origin here path) before = some names

lemma OnTheWay.mono (h : ∀ names, t.IsDirectory names → u.IsDirectory names)
    (hway : t.OnTheWay here path names) : u.OnTheWay here path names := by
  obtain ⟨before, hbefore, hfollow⟩ := hway
  exact ⟨before, hbefore, follow_mono h hfollow⟩

lemma OnTheWay.outward {c : Path.Course} (hc : c ∈ (Path.course path).outward)
    (h : t.OnTheWay here c.path names) : t.OnTheWay here path names := by
  obtain ⟨before, hbefore, hfollow⟩ := h
  obtain ⟨-, hpieces, -⟩ := Path.Course.pieces_of_mem_outward hc
  rw [Path.pieces_course, ← Path.pieces_path_of_mem_outward hc] at hpieces
  rw [Path.origin_of_mem_outward here hc] at hfollow
  exact ⟨before, hbefore.trans hpieces, hfollow⟩

def GrownAlong (here : List Name) (path : List Char) (t u : Tree) : Prop :=
  ∀ names, u.look names = t.look names ∨
    (t.look names = none ∧ u.IsDirectory names ∧ u.OnTheWay here path names)

namespace GrownAlong

lemma grown (h : GrownAlong here path t u) : Grown t u := by
  intro names
  rcases h names with htu | ⟨ht, hu, -⟩
  · exact .inl htu
  · exact .inr ⟨ht, hu⟩

lemma refl (t : Tree) : GrownAlong here path t t := fun _ => .inl rfl

lemma trans (h : GrownAlong here path t u) (h' : GrownAlong here path u v) :
    GrownAlong here path t v := by
  intro names
  rcases h' names with huv | ⟨hu, hv, hway⟩
  · rw [IsDirectory, huv]
    rcases h names with htu | ⟨ht, hu, hway⟩
    · exact .inl htu
    · exact .inr ⟨ht, hu, hway.mono fun _ => h'.grown.isDirectory⟩
  · rcases h names with htu | ⟨-, hu', -⟩
    · exact .inr ⟨htu ▸ hu, hv, hway⟩
    · rw [IsDirectory, hu] at hu'
      cases hu'

lemma directory (h : GrownAlong here path t u) (hu : u.IsDirectory names) :
    t.IsDirectory names ∨ u.OnTheWay here path names := by
  rcases h names with htu | ⟨-, -, hway⟩
  · exact .inl (htu.symm.trans hu)
  · exact .inr hway

end GrownAlong

lemma follow_entry {dir : List Name} {p : Name} (hp : EntryName p)
    (hdir : t.IsDirectory (dir ++ [p])) : t.follow dir [p] = some (dir ++ [p]) := by
  obtain ⟨hne, hdot, hup, hlong⟩ := hp
  have hidle : ¬ Path.isIdle p := by simp [Path.isIdle, hne, hdot]
  have hblocked : ¬ (255 < byteLength p ∨ ¬ t.IsDirectory (dir ++ [p])) := by simp [hdir, hlong]
  rw [follow, if_neg hidle, if_neg hup, if_neg hblocked, follow]

lemma createDirectory_along (h : t.createDirectory here path = .ok u) :
    GrownAlong here path t u := by
  obtain ⟨l, before, hfree, hbefore, hname, hfollow, rfl⟩ := exists_of_createDirectory h
  by_cases hdir : t.IsDirectory l.directory
  · have hl : ¬ t.IsDirectory l.names := by simp [IsDirectory, hfree]
    have hlook := look_insert (e := .directory .empty) hdir hl fun _ _ => rfl
    intro names
    rw [hlook]
    split
    next hnames =>
      subst hnames
      have hnew : (t.insert l (.directory .empty)).IsDirectory l.names :=
        (hlook l.names).trans (if_pos rfl)
      refine .inr ⟨hfree, hnew, before ++ [l.name], hbefore, ?_⟩
      have hgrown := Grown.insert_directory hfree
      rw [follow_append, follow_mono (fun _ => hgrown.isDirectory) hfollow, Option.bind_some]
      exact follow_entry hname hnew
    next => exact .inl rfl
  · rw [insert_of_not hdir]
    exact .refl t

end Tree

namespace Host

variable {h : Host} {path : List Char}

structure GrowsAlong (path : List Char) (h k : Host) : Prop where
  here : k.here = h.here
  tree : Tree.GrownAlong h.here path h.tree k.tree

lemma GrowsAlong.refl (h : Host) : GrowsAlong path h h := ⟨rfl, .refl h.tree⟩

lemma GrowsAlong.trans {k j : Host} (hk : GrowsAlong path h k) (hj : GrowsAlong path k j) :
    GrowsAlong path h j :=
  ⟨hj.here.trans hk.here, hk.tree.trans (hk.here ▸ hj.tree)⟩

lemma createDirectory_growsAlong {c : Path.Course} (hc : c ∈ (Path.course path).outward)
    (h : Host) : GrowsAlong path h (Access.createDirectory (m := OnHost) c.path h).2 := by
  rcases createDirectory_cases c.path h with ⟨fault, hcall⟩ | ⟨u, hu, hcall⟩
  · rw [hcall]
    exact ⟨rfl, .refl h.tree⟩
  · rw [hcall]
    refine ⟨rfl, fun names => ?_⟩
    rcases Tree.createDirectory_along hu names with hsame | ⟨hnone, hdir, hway⟩
    · exact .inl hsame
    · exact .inr ⟨hnone, hdir, hway.outward hc⟩

lemma createDirectories_growsAlong (path : List Char) (h : Host) :
    GrowsAlong path h (createDirectories (m := OnHost) (Path.course path).outward h).2 :=
  createDirectories_keeps .refl .trans (fun _ hc => createDirectory_growsAlong hc) h

end Host

end WordSwap.Files
