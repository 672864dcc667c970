import WordSwap.Proofs.Files.Hosts
import WordSwap.Proofs.Files.Ways
import WordSwap.Session.Storage

/-! Writing a file in one step. Until the temporary file takes its path no file changes, and
whatever fails on the way leaves at most new directories behind. -/

namespace WordSwap

open Files

section

variable {path : String} {content : List UInt8} {h : Host} {t : Tree} {temporary : Location}

lemma fillAndRename_cases (path : String) (content : List UInt8)
    (htree : h.tree = t.insert temporary (.file [])) (hfresh : t.look temporary.names = none)
    (hleads : t.Leads h.here (Path.directory path.toList) temporary.directory) :
    (∃ fault k c, fillAndRename (m := OnHost) path content temporary h = (.error fault, k) ∧
        k.here = h.here ∧ k.tree = t.insert temporary (.file c)) ∨
      ∃ k l, fillAndRename (m := OnHost) path content temporary h = (.ok (), k) ∧
        k.here = h.here ∧ t.Writable h.here path.toList l ∧
        k.tree = t.insert l (.file content) := by
  rw [fillAndRename, Host.run_bind]
  rcases Host.writeTemporary_cases temporary content h with ⟨fault, hcall⟩ | hcall
  · rw [hcall]
    exact .inl ⟨_, _, [], rfl, rfl, htree⟩
  · rw [htree, Tree.insert_insert] at hcall
    simp only [hcall, Host.run_bind]
    rcases Host.renameTemporary_cases temporary path.toList
      (h.after (t.insert temporary (.file content))) with ⟨fault, hrename⟩ | ⟨u, hu, hrename⟩
    · rw [hrename]
      exact .inl ⟨_, _, content, rfl, rfl, rfl⟩
    · obtain ⟨l, hwritable, rfl⟩ := (Tree.renameTemporary_eq_ok_iff hfresh hleads).mp hu
      rw [hrename]
      exact .inr ⟨_, l, rfl, rfl, hwritable, rfl⟩

lemma fillAndRename_of_writable {l : Location} (content : List UInt8) (hw : h.Willing)
    (htree : h.tree = t.insert temporary (.file [])) (hfresh : t.look temporary.names = none)
    (hleads : t.Leads h.here (Path.directory path.toList) temporary.directory)
    (hwritable : t.Writable h.here path.toList l) :
    ∃ k : Host, fillAndRename (m := OnHost) path content temporary h = (.ok (), k) ∧
      k.tree = t.insert l (.file content) := by
  have hwrite : Access.writeTemporary (m := OnHost) temporary content h =
      (.ok (), h.after (h.tree.insert temporary (.file content))) := Host.call_ok hw rfl
  rw [htree, Tree.insert_insert] at hwrite
  have hrename : (t.insert temporary (.file content)).renameTemporary h.here temporary
      path.toList = .ok (t.insert l (.file content)) :=
    (Tree.renameTemporary_eq_ok_iff hfresh hleads).mpr ⟨l, hwritable, rfl⟩
  have hcall : Access.renameTemporary (m := OnHost) temporary path.toList
      (h.after (t.insert temporary (.file content))) =
        (.ok (), (h.after (t.insert temporary (.file content))).after
          (t.insert l (.file content))) :=
    Host.call_ok (hw.after _) (congrArg (Except.map ((), ·)) hrename)
  simp only [fillAndRename, Host.run_bind, hwrite, hcall]
  exact ⟨_, rfl, rfl⟩

def withDirectories (path : String) (h : Host) : Host :=
  (createDirectories (m := OnHost) (Path.course (Path.directory path.toList)).outward h).2

lemma writeFile_steps (path : String) (content : List UInt8) (h : Host) :
    (∃ fault k, writeFile (m := OnHost) path content h = (.error fault, k) ∧
        k.here = (withDirectories path h).here ∧ k.tree = (withDirectories path h).tree) ∨
      ∃ k l, writeFile (m := OnHost) path content h = (.ok (), k) ∧
        k.here = (withDirectories path h).here ∧
        (withDirectories path h).tree.Writable (withDirectories path h).here path.toList l ∧
        k.tree = (withDirectories path h).tree.insert l (.file content) := by
  simp only [writeFile, withDirectories, Host.run_bind]
  rcases createDirectories (m := OnHost) (Path.course (Path.directory path.toList)).outward h with
    ⟨fault | _, k⟩
  · exact .inl ⟨_, k, rfl, rfl, rfl⟩
  · rcases Host.createTemporary_cases (Path.directory path.toList) k with
      ⟨fault, hcall⟩ | ⟨temporary, hleads, hfresh, hcall⟩
    · simp only [Host.run_bind, hcall]
      exact .inl ⟨_, _, rfl, rfl, rfl⟩
    · simp only [Host.run_bind, hcall]
      rcases fillAndRename_cases (h := k.after (k.tree.insert temporary (.file []))) path content
        rfl hfresh hleads with
        ⟨fault, j, c, hfill, hhere, htree⟩ | ⟨j, l, hfill, hhere, hwritable, htree⟩
      · simp only [hfill, Host.run_bind]
        refine .inl ⟨_, _, rfl, hhere, ?_⟩
        change j.tree.erase temporary = k.tree
        rw [htree, Tree.erase_insert hfresh]
      · simp only [hfill]
        exact .inr ⟨j, l, rfl, hhere, hwritable, htree⟩

lemma writeFile_cases (path : String) (content : List UInt8) (h : Host) :
    (∃ fault k, writeFile (m := OnHost) path content h = (.error fault, k) ∧ h.Grows k) ∨
      ∃ k t l, writeFile (m := OnHost) path content h = (.ok (), k) ∧ k.here = h.here ∧
        h.tree.Grown t ∧ t.Writable h.here path.toList l ∧
        k.tree = t.insert l (.file content) := by
  have hgrows : h.Grows (withDirectories path h) := Host.createDirectories_grows _ h
  rcases writeFile_steps path content h with
    ⟨fault, k, hwrite, hhere, htree⟩ | ⟨k, l, hwrite, hhere, hwritable, htree⟩
  · exact .inl ⟨fault, k, hwrite, hhere.trans hgrows.here, htree ▸ hgrows.tree⟩
  · rw [hgrows.here] at hhere hwritable
    exact .inr ⟨k, _, l, hwrite, hhere, hgrows.tree, hwritable, htree⟩

lemma writeFile_of_writable {l : Location} (content : List UInt8) (hw : h.Willing)
    (hwritable : h.tree.Writable h.here path.toList l) :
    ∃ k : Host, writeFile (m := OnHost) path content h = (.ok (), k) ∧
      k.tree = h.tree.insert l (.file content) := by
  have hleads := hwritable.names.leads_directory
  obtain ⟨k, hdirs, htree, hhere, hk⟩ := Host.createDirectories_of_leads hw hleads
  rw [← htree, ← hhere] at hleads hwritable
  obtain ⟨temporary, htemporary, hdir, hfresh⟩ := Tree.createTemporary_of_leads hleads
  rw [← hdir] at hleads
  have hcreate : Access.createTemporary (m := OnHost) (Path.directory path.toList) k =
      (.ok temporary, k.after (k.tree.insert temporary (.file []))) :=
    Host.call_ok hk htemporary
  obtain ⟨j, hfill, hj⟩ := fillAndRename_of_writable content
    (hk.after (k.tree.insert temporary (.file []))) rfl hfresh hleads hwritable
  simp only [writeFile, Host.run_bind, hdirs, hcreate, hfill]
  exact ⟨j, rfl, htree ▸ hj⟩

end

open Files

/-- Writing a document changes the file that the path names, or no file, and does not fail where
nothing is in the way. -/
theorem writeDocument_atomic (path : String) (d : Document) (h : Host) :
    ∃ result k, writeDocument (m := OnHost) path d h = (result, k) ∧
      (∀ fault, result = .error fault → ∀ names, k.tree.file? names = h.tree.file? names) ∧
      (result = .ok () → ∃ l, k.tree.Names h.here path.toList l ∧
        k.tree.file? l.names = some (Text.utf8 d.text) ∧
        ∀ names ≠ l.names, k.tree.file? names = h.tree.file? names) ∧
      (h.Willing → (∃ l, h.tree.Writable h.here path.toList l) → result = .ok ()) ∧
      (∀ names, h.tree.IsDirectory names → k.tree.IsDirectory names) ∧
      ∀ names, k.tree.IsDirectory names → h.tree.IsDirectory names ∨
        k.tree.OnTheWay h.here (Path.directory path.toList) names := by
  have hgrows : h.GrowsAlong (Path.directory path.toList) (withDirectories path h) :=
    Host.createDirectories_growsAlong _ h
  have hgrown := hgrows.tree.grown
  rcases writeFile_steps path (Text.utf8 d.text) h with
    ⟨fault, k, hwrite, -, htree⟩ | ⟨k, l, hwrite, -, hwritable, htree⟩
  · refine ⟨.error fault, k, hwrite, ?_, nofun, ?_, ?_, ?_⟩
    · intro _ _ names
      rw [htree, hgrown.file?]
    · rintro hw ⟨l, hwritable⟩
      -- With a place to write and no call refused, the write cannot have failed.
      obtain ⟨_, hwritten, -⟩ := writeFile_of_writable (Text.utf8 d.text) hw hwritable
      cases hwritten.symm.trans hwrite
    · rw [htree]
      exact fun names => hgrown.isDirectory
    · rw [htree]
      exact fun names => hgrows.tree.directory
  · rw [hgrows.here] at hwritable
    have hlook := Tree.look_insert_file hwritable.directory hwritable.free (Text.utf8 d.text)
    have hdirs (names : List Name) :
        k.tree.IsDirectory names ↔ (withDirectories path h).tree.IsDirectory names := by
      rw [htree]
      exact Tree.isDirectory_insert_file hwritable.free _ names
    refine ⟨.ok (), k, hwrite, nofun, fun _ => ⟨l, ?_, ?_, ?_⟩, fun _ _ => rfl, ?_, ?_⟩
    · exact hwritable.names.mono fun names => (hdirs names).mpr
    · rw [Tree.file?_eq_some_iff, htree, hlook, if_pos rfl]
    · intro names hne
      rw [Tree.file?, htree, hlook, if_neg hne]
      exact hgrown.file? names
    · exact fun names hdir => (hdirs names).mpr (hgrown.isDirectory hdir)
    · intro names hdir
      refine (hgrows.tree.directory ((hdirs names).mp hdir)).imp_right fun hway => ?_
      exact hway.mono fun names => (hdirs names).mpr

-- The last of four calls is refused: the new directory stays, and the temporary file does not.
example :
    (writeDocument (m := OnHost) "out/doc.json" ⟨[]⟩
      ⟨.empty, [], [none, none, none, some .busy]⟩).2.tree =
        .directory "out".toList .empty .empty := by
  decide +kernel

end WordSwap
