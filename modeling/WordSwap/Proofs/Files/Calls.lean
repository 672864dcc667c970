import WordSwap.Files.Host
import WordSwap.Proofs.Files.Places

namespace WordSwap.Files.Tree

variable {t u : Tree} {here dir : List Name} {path : List Char} {l temporary : Location}
  {content : List UInt8}

lemma look_spot (t : Tree) (dir : List Name) (n : Name) :
    t.look (dir ++ [n]) = ((t.spot dir).inside.get? n).map Entry.content? := by
  rw [look, get?_spot]

lemma get?_of_look {n : Name} (h : t.look (dir ++ [n]) = some (some content)) :
    (t.spot dir).inside.get? n = some (.file content) := by
  rw [look_spot, Option.map_eq_some_iff] at h
  obtain ⟨e, he, hcontent⟩ := h
  cases e with
  | file c =>
    obtain rfl : c = content := Option.some.inj hcontent
    exact he
  | directory inside => cases hcontent

lemma readFile_eq_ok_iff :
    t.readFile here path = .ok content ↔
      ∃ l, t.Names here path l ∧ t.look l.names = some (some content) := by
  rw [readFile]
  constructor
  · intro h
    split at h
    next => cases h
    next => cases h
    next s name slash hplace =>
      split at h
      next => cases h
      next => cases h
      next c hget =>
        split at h
        next => cases h
        next hslash =>
          obtain rfl : c = content := Except.ok.inj h
          obtain ⟨dir, -, -, -, -, -, -, rfl, -⟩ := placeAt_ok hplace
          obtain rfl : slash = false := eq_false_of_ne_true hslash
          refine ⟨⟨dir, name⟩, ⟨_, hplace, names_spot t dir⟩, ?_⟩
          rw [Location.names, look_spot, hget]
          rfl
  · rintro ⟨l, hnames, hlook⟩
    simp only [hnames.placeAt, get?_of_look hlook]
    rfl

structure Writable (t : Tree) (here : List Name) (path : List Char) (l : Location) : Prop where
  names : t.Names here path l
  directory : t.IsDirectory l.directory
  free : ¬ t.IsDirectory l.names

lemma Writable.insert (h : t.Writable here path l) (content : List UInt8) :
    (t.insert l (.file content)).Writable here path l := by
  have hdirs := isDirectory_insert_file h.free content
  exact ⟨h.names.mono fun names => (hdirs names).mpr, (hdirs _).mpr h.directory,
    mt (hdirs _).mp h.free⟩

lemma Writable.readFile_insert (h : t.Writable here path l) (content : List UInt8) :
    (t.insert l (.file content)).readFile here path = .ok content := by
  refine readFile_eq_ok_iff.mpr ⟨l, (h.insert content).names, ?_⟩
  rw [look_insert_file h.directory h.free, if_pos rfl]

lemma isDirectory_of_leads (h : t.Leads here path dir) : t.isDirectory here path = true := by
  rw [isDirectory, directoryAt_eq_ok_iff.mpr ⟨dir, h, rfl⟩]

lemma exists_of_createDirectory (h : t.createDirectory here path = .ok u) :
    ∃ l before, t.look l.names = none ∧ before ++ [l.name] <+: Path.pieces path ∧
      EntryName l.name ∧ t.follow (Path.origin here path) before = some l.directory ∧
      u = t.insert l (.directory .empty) := by
  rw [createDirectory] at h
  split at h
  next => cases h
  next => cases h
  next s name slash hplace =>
    obtain ⟨dir, before, slashes, -, hpieces, hname, hfollow, rfl, -⟩ := placeAt_ok hplace
    split at h
    next => cases h
    next hget =>
      rw [names_spot] at h
      refine ⟨⟨dir, name⟩, before, ?_, ⟨slashes, ?_⟩, hname, hfollow, (Except.ok.inj h).symm⟩
      · rw [Location.names, look_spot, hget]
        rfl
      · rw [hpieces, List.append_assoc, List.singleton_append]

lemma createDirectory_of_leads (h : t.Leads here path dir) :
    t.createDirectory here path = .error .exists := by
  rw [createDirectory]
  rcases h.placeAt with ⟨s, slash, hplace⟩ | ⟨around, n, slash, hplace, hdir⟩
  · rw [hplace]
  · obtain ⟨inside, hinside⟩ := isDirectory_spot.mp hdir
    simp only [hplace, hinside]

lemma createTemporary_of_leads (h : t.Leads here path dir) :
    ∃ temporary, t.createTemporary here path = .ok (temporary, t.insert temporary (.file [])) ∧
      temporary.directory = dir ∧ t.look temporary.names = none := by
  rw [createTemporary, directoryAt_eq_ok_iff.mpr ⟨dir, h, rfl⟩]
  refine ⟨_, rfl, names_spot t dir, ?_⟩
  rw [Location.names, names_spot, look_spot, get?_freshName]
  rfl

lemma leads_of_createTemporary {r : Location × Tree} (h : t.createTemporary here path = .ok r) :
    ∃ dir, t.Leads here path dir := by
  rw [createTemporary] at h
  split at h
  next => cases h
  next s hs =>
    obtain ⟨dir, hleads, -⟩ := directoryAt_eq_ok_iff.mp hs
    exact ⟨dir, hleads⟩

lemma renameTemporary_of_names (hnames : t.Names here path l) (hl : ¬ t.IsDirectory l.names)
    (htemp : t.look temporary.names = some (some content)) :
    t.renameTemporary here temporary path =
      .ok ((t.erase temporary).insert l (.file content)) := by
  have hfind : t.find? (temporary.directory ++ [temporary.name]) = some (.file content) := by
    rw [← get?_spot, get?_of_look htemp]
  simp only [renameTemporary, hnames.placeAt, hfind, names_spot]
  cases hget : (t.spot l.directory).inside.get? l.name with
  | none => rfl
  | some e =>
    cases e with
    | file old => rfl
    | directory inside => exact absurd (isDirectory_spot.mpr ⟨inside, hget⟩) hl

lemma names_of_renameTemporary (h : t.renameTemporary here temporary path = .ok u) :
    ∃ l content, t.Names here path l ∧ ¬ t.IsDirectory l.names ∧
      t.look temporary.names = some (some content) := by
  rw [renameTemporary] at h
  split at h
  next => cases h
  next => cases h
  next => cases h
  next s name slash hplace =>
    obtain ⟨dir, -, -, -, -, -, -, rfl, -⟩ := placeAt_ok hplace
    split at h
    next => cases h
    next hslash =>
      split at h
      next => cases h
      next content htemp hdir =>
        obtain rfl : slash = false := eq_false_of_ne_true hslash
        refine ⟨⟨dir, name⟩, content, ⟨_, hplace, names_spot t dir⟩, ?_, ?_⟩
        · intro hl
          obtain ⟨inside, hinside⟩ := isDirectory_spot.mp hl
          exact hdir inside hinside
        · rw [look, Location.names, htemp]
          rfl
      next => cases h

lemma renameTemporary_eq_ok_iff (hfresh : t.look temporary.names = none)
    (hleads : t.Leads here (Path.directory path) temporary.directory) :
    (t.insert temporary (.file content)).renameTemporary here temporary path = .ok u ↔
      ∃ l, t.Writable here path l ∧ u = t.insert l (.file content) := by
  have htemp : ¬ t.IsDirectory temporary.names := by simp [IsDirectory, hfresh]
  have hdirs := isDirectory_insert_file htemp content
  have hlook (hdir : t.IsDirectory temporary.directory) :
      (t.insert temporary (.file content)).look temporary.names = some (some content) := by
    rw [look_insert_file hdir htemp, if_pos rfl]
  -- The path names an entry of the directory that its directory part leads to.
  have hsame {l : Location} (hnames : t.Names here path l) :
      l.directory = temporary.directory := by
    have hboth := hnames.leads_directory.2
    rw [hleads.2] at hboth
    exact (Option.some.inj hboth).symm
  have hrename {l : Location} (hwritable : t.Writable here path l) :
      (t.insert temporary (.file content)).renameTemporary here temporary path =
        .ok (t.insert l (.file content)) := by
    have hdir : t.IsDirectory temporary.directory := hsame hwritable.names ▸ hwritable.directory
    rw [renameTemporary_of_names (hwritable.names.mono fun names => (hdirs names).mpr)
      (mt (hdirs _).mp hwritable.free) (hlook hdir), erase_insert hfresh]
  constructor
  · intro h
    obtain ⟨l, c, hnames, hfree, hc⟩ := names_of_renameTemporary h
    have hdir : t.IsDirectory temporary.directory := by
      by_contra hdir
      rw [insert_of_not hdir, hfresh] at hc
      cases hc
    have hnames : t.Names here path l := hnames.mono fun names => (hdirs names).mp
    have hwritable : t.Writable here path l :=
      ⟨hnames, hsame hnames ▸ hdir, mt (hdirs _).mpr hfree⟩
    rw [hrename hwritable] at h
    exact ⟨l, hwritable, (Except.ok.inj h).symm⟩
  · rintro ⟨l, hwritable, rfl⟩
    exact hrename hwritable

end WordSwap.Files.Tree
