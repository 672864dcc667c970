import WordSwap.Proofs.Generation
import WordSwap.Proofs.Reports
import WordSwap.Proofs.Writing
import WordSwap.Session.Run

namespace WordSwap

open Files

namespace Session

def startingRules (h : Host) : Option String → Except LoadFault (List Rule)
  | none => .ok Catalogue.rules
  | some path =>
    match h.refusals.head?.join with
    | some fault => .error (.unreadable path fault)
    | none =>
      match h.tree.readFile h.here path.toList with
      | .error fault => .error (.unreadable path fault)
      | .ok content => rulesOfBytes path content

lemma run_rulesFrom (source : Option String) (h : Host) :
    ∃ k : Host, rulesFrom (m := OnHost) source h = (startingRules h source, k) ∧
      k.tree = h.tree ∧ k.here = h.here ∧ (h.Willing → k.Willing) := by
  cases source with
  | none => exact ⟨h, rfl, rfl, rfl, id⟩
  | some path =>
    refine ⟨h.after h.tree, ?_, rfl, rfl, fun hw => hw.after h.tree⟩
    rw [rulesFrom, loadRules, Host.run_bind, Host.run_readFile, startingRules]
    cases h.refusals.head?.join with
    | some fault => rfl
    | none => cases h.tree.readFile h.here path.toList <;> rfl

lemma startingRules_again {source : Option String} {rules : List Rule} {h k : Host} {t : Tree}
    {l : Location} {content : List UInt8} (hrules : startingRules h source = .ok rules)
    (hgrown : h.tree.Grown t) (hdir : t.IsDirectory l.directory) (hfree : ¬ t.IsDirectory l.names)
    (htree : k.tree = t.insert l (.file content)) (hhere : k.here = h.here) (hk : k.Willing)
    (hother : ∀ path, source = some path → ¬ k.tree.Names h.here path.toList l) :
    startingRules k source = .ok rules := by
  cases source with
  | none => exact hrules
  | some path =>
    rw [startingRules] at hrules ⊢
    split at hrules
    next => cases hrules
    next =>
      split at hrules
      next => cases hrules
      next stored hread =>
        obtain ⟨l', hnames, hlook⟩ := Tree.readFile_eq_ok_iff.mp hread
        have hdirs (names : List Name) (hdir : h.tree.IsDirectory names) :
            k.tree.IsDirectory names := by
          rw [htree]
          exact (Tree.isDirectory_insert_file hfree content names).mpr (hgrown.isDirectory hdir)
        have hnames : k.tree.Names k.here path.toList l' := hhere ▸ hnames.mono hdirs
        have hne : l' ≠ l := by
          rintro rfl
          exact hother path rfl (hhere ▸ hnames)
        have hlook : k.tree.look l'.names = some (some stored) := by
          rw [htree, Tree.look_insert_file hdir hfree, if_neg (mt Location.names_inj.mp hne)]
          exact hgrown.look hlook
        have hread := Tree.readFile_eq_ok_iff.mpr ⟨l', hnames, hlook⟩
        simp only [Host.not_refused hk, hread]
        exact hrules

def runLog (source : Option String) (rules : List Rule) : List LogLine :=
  [sourceLine source, countLine rules.length] ++
    expansionLines (run Settings.default.boundaries rules) Settings.default.traits

def writtenReport (output : String) (print : Bool) (source : Option String) (rules : List Rule)
    (g : Generated) : Report :=
  ⟨0, runLog source rules ++ [writtenLine g.document output],
    if print then g.document.text ++ "\n" else "", ""⟩

lemma generate_run (source : Option String) (h : Host) :
    ∃ k : Host, k.tree = h.tree ∧ k.here = h.here ∧ (h.Willing → k.Willing) ∧
      ∀ output print, generate (m := OnHost) source output print h =
        match startingRules h source with
        | .error fault => (.failed [sourceLine source] fault.chain, k)
        | .ok rules =>
          match WordSwap.generate .default rules with
          | .error malformed => (.failed (runLog source rules) (malformedChain malformed), k)
          | .ok g =>
            match writeFile (m := OnHost) output (Text.utf8 g.document.text) k with
            | (.error fault, j) => (.failed (runLog source rules) fault.chain, j)
            | (.ok (), j) => (writtenReport output print source rules g, j) := by
  obtain ⟨k, hload, htree, hhere, hk⟩ := run_rulesFrom source h
  refine ⟨k, htree, hhere, hk, fun output print => ?_⟩
  rw [generate, Host.run_bind, hload]
  cases startingRules h source with
  | error fault => rfl
  | ok rules =>
    simp only [WordSwap.generate]
    cases (run Settings.default.boundaries rules).result Settings.default.traits with
    | error malformed => rfl
    | ok g =>
      simp only [Host.run_bind, writeDocument]
      cases writeFile (m := OnHost) output (Text.utf8 g.document.text) k with
      | mk written j => cases written <;> rfl

section

variable {source : Option String} {h : Host} (output : String) (print : Bool)

lemma generate_not_loaded {fault : LoadFault} (hrules : startingRules h source = .error fault) :
    ∃ k : Host, generate (m := OnHost) source output print h =
        (.failed [sourceLine source] fault.chain, k) ∧ k.tree = h.tree := by
  obtain ⟨k, htree, -, -, hrun⟩ := generate_run source h
  exact ⟨k, by rw [hrun, hrules], htree⟩

lemma generate_malformed {rules : List Rule} {m : Malformed}
    (hrules : startingRules h source = .ok rules)
    (hm : WordSwap.generate .default rules = .error m) :
    ∃ k : Host, generate (m := OnHost) source output print h =
        (.failed (runLog source rules) (malformedChain m), k) ∧ k.tree = h.tree := by
  obtain ⟨k, htree, -, -, hrun⟩ := generate_run source h
  exact ⟨k, by simp only [hrun, hrules, hm], htree⟩

lemma generate_writes {rules : List Rule} {g : Generated}
    (hrules : startingRules h source = .ok rules)
    (hg : WordSwap.generate .default rules = .ok g) :
    ∃ k : Host, k.tree = h.tree ∧ k.here = h.here ∧ (h.Willing → k.Willing) ∧
      generate (m := OnHost) source output print h =
        match writeFile (m := OnHost) output (Text.utf8 g.document.text) k with
        | (.error fault, j) => (.failed (runLog source rules) fault.chain, j)
        | (.ok (), j) => (writtenReport output print source rules g, j) := by
  obtain ⟨k, htree, hhere, hk, hrun⟩ := generate_run source h
  exact ⟨k, htree, hhere, hk, by simp only [hrun, hrules, hg]⟩

lemma generate_again {rules : List Rule} {g : Generated} {k : Host} {t : Tree} {l : Location}
    (hrules : startingRules h source = .ok rules)
    (hg : WordSwap.generate .default rules = .ok g)
    (hgrown : h.tree.Grown t) (hwritable : t.Writable h.here output.toList l)
    (htree : k.tree = t.insert l (.file (Text.utf8 g.document.text))) (hhere : k.here = h.here)
    (hk : k.Willing) (hother : ∀ path, source = some path → ¬ k.tree.Names h.here path.toList l) :
    ∃ last : Host, generate (m := OnHost) source output print k =
        (writtenReport output print source rules g, last) ∧ last.tree = k.tree := by
  have hagain := startingRules_again hrules hgrown hwritable.directory hwritable.free htree hhere
    hk hother
  obtain ⟨j, hj, hjhere, hjwilling, hrun⟩ := generate_writes output print hagain hg
  have hjwritable : j.tree.Writable j.here output.toList l := by
    rw [hj, htree, hjhere, hhere]
    exact hwritable.insert _
  obtain ⟨last, hwrite, hlast⟩ :=
    writeFile_of_writable (Text.utf8 g.document.text) (hjwilling hk) hjwritable
  rw [hwrite] at hrun
  refine ⟨last, hrun, ?_⟩
  rw [hlast, hj, htree, Tree.insert_insert]

end

/-- A run whose rules cannot be loaded or expanded says so and changes nothing. Otherwise the
document is written as a whole or no file changes, and a run that has written it gives the same
again unless it reads its own output. -/
theorem generate_all_or_nothing (source : Option String) (output : String) (print : Bool)
    (h : Host) :
    ∃ report k, generate (m := OnHost) source output print h = (report, k) ∧
      (∀ fault, startingRules h source = .error fault →
        (∃ log, report = ⟨1, log, "", Report.errorText fault.chain⟩) ∧
          report.Explains fault.chain ∧ k.tree = h.tree) ∧
      (∀ rules m, startingRules h source = .ok rules →
        WordSwap.generate .default rules = .error m →
        (∃ log, report = ⟨1, log, "", Report.errorText (malformedChain m)⟩) ∧
          report.Explains (malformedChain m) ∧ k.tree = h.tree) ∧
      ∀ rules g, startingRules h source = .ok rules →
        WordSwap.generate .default rules = .ok g →
        (∀ l, h.Willing → h.tree.Writable h.here output.toList l → report.exitCode = 0) ∧
        (((∃ log, ∃ fault : WriteFault, report = ⟨1, log, "", Report.errorText fault.chain⟩ ∧
            report.Explains fault.chain) ∧
            ∀ names, k.tree.file? names = h.tree.file? names) ∨
          ((∃ log, report = ⟨0, log, if print then g.document.text ++ "\n" else "", ""⟩) ∧
            ∃ l, k.tree.Names h.here output.toList l ∧
              k.tree.file? l.names = some (Text.utf8 g.document.text) ∧
              (∀ names ≠ l.names, k.tree.file? names = h.tree.file? names) ∧
              ((∀ path, source = some path → ¬ k.tree.Names h.here path.toList l) →
                ∀ again : Host, again.tree = k.tree → again.here = h.here → again.Willing →
                  ∃ last : Host,
                    generate (m := OnHost) source output print again = (report, last) ∧
                      last.tree = k.tree))) := by
  cases hrules : startingRules h source with
  | error fault =>
    obtain ⟨k, hrun, htree⟩ := generate_not_loaded output print hrules
    refine ⟨_, k, hrun, ?_, nofun, nofun⟩
    rintro _ ⟨⟩
    exact ⟨⟨_, rfl⟩, Report.explains_failed _ fault.chain_ne_nil, htree⟩
  | ok rules =>
    cases hg : WordSwap.generate .default rules with
    | error m =>
      obtain ⟨k, hrun, htree⟩ := generate_malformed output print hrules hg
      refine ⟨_, k, hrun, nofun, ?_, ?_⟩
      · rintro _ n ⟨⟩ hn
        obtain rfl : m = n := Except.error.inj (hg.symm.trans hn)
        exact ⟨⟨_, rfl⟩, Report.explains_failed _ (List.cons_ne_nil _ _), htree⟩
      · rintro _ g ⟨⟩ hn
        cases hg.symm.trans hn
    | ok g =>
      obtain ⟨j, hj, hhere, hwilling, hrun⟩ := generate_writes output print hrules hg
      rcases writeFile_cases output (Text.utf8 g.document.text) j with
        ⟨fault, k, hwrite, hgrows⟩ | ⟨k, t, l, hwrite, hkhere, hgrown, hwritable, htree⟩
      · rw [hwrite] at hrun
        refine ⟨_, k, hrun, nofun, ?_, ?_⟩
        · rintro _ n ⟨⟩ hn
          cases hg.symm.trans hn
        · rintro _ _ ⟨⟩ -
          have hexplains := Report.explains_failed (runLog source rules) fault.chain_ne_nil
          refine ⟨?_, .inl ⟨⟨_, fault, rfl, hexplains⟩, fun names => ?_⟩⟩
          swap
          · rw [hgrows.tree.file?, hj]
          -- With a place to write and no call refused, the write cannot have failed.
          intro l hh hwritable
          rw [← hj, ← hhere] at hwritable
          obtain ⟨_, hwritten, -⟩ := writeFile_of_writable _ (hwilling hh) hwritable
          cases hwritten.symm.trans hwrite
      · rw [hwrite] at hrun
        rw [hj] at hgrown
        rw [hhere] at hwritable
        refine ⟨_, k, hrun, nofun, ?_, ?_⟩
        · rintro _ n ⟨⟩ hn
          cases hg.symm.trans hn
        · rintro _ g' ⟨⟩ hg'
          obtain rfl : g = g' := Except.ok.inj (hg.symm.trans hg')
          have hlook := Tree.look_insert_file hwritable.directory hwritable.free
            (Text.utf8 g.document.text)
          have hnames : k.tree.Names h.here output.toList l := htree ▸ (hwritable.insert _).names
          refine ⟨fun _ _ _ => rfl, .inr ⟨⟨_, rfl⟩, l, hnames, ?_, ?_, ?_⟩⟩
          · rw [Tree.file?_eq_some_iff, htree, hlook, if_pos rfl]
          · intro names hne
            rw [Tree.file?, htree, hlook, if_neg hne]
            exact hgrown.file? names
          · intro hother again htree' hhere' hagain
            rw [← htree'] at hother ⊢
            exact generate_again output print hrules hg hgrown hwritable (htree'.trans htree)
              hhere' hagain hother

theorem generate_all_or_nothing_twice :
    let rule : Rule := ⟨["a"], ["b"], [], [], true, .preserve, false, false⟩
    let file := Text.utf8 "[[[\"a\"], [\"b\"], [], [], true, \"preserve\", false]]"
    let h : Host := ⟨.file "rules.json".toList file .empty, [], []⟩
    let doc := "out/doc.json"
    startingRules h (some "rules.json") = .ok [rule] ∧
      ∃ report k g, WordSwap.generate .default [rule] = .ok g ∧
        generate (m := OnHost) (some "rules.json") doc true h = (report, k) ∧
        report.exitCode = 0 ∧ report.output = g.document.text ++ "\n" ∧
        (∃ l, k.tree.Names [] doc.toList l ∧
          k.tree.file? l.names = some (Text.utf8 g.document.text)) ∧
        k.tree.file? ["rules.json".toList] = some file ∧
        ∃ last : Host,
          generate (m := OnHost) (some "rules.json") doc true ⟨k.tree, [], []⟩ = (report, last) ∧
            last.tree = k.tree := by
  intro rule file h doc
  have hrules : startingRules h (some "rules.json") = .ok [rule] := by decide +kernel
  have hg := generate_of_expandable .default (show ∀ r ∈ [rule], r.Expandable by decide)
  have hexit : (generate (m := OnHost) (some "rules.json") doc true h).1.exitCode = 0 := by
    decide +kernel
  obtain ⟨report, k, hrun, -, -, hok⟩ := generate_all_or_nothing (some "rules.json") doc true h
  rw [hrun] at hexit
  refine ⟨hrules, report, k, _, hg, hrun, hexit, ?_⟩
  rcases (hok _ _ hrules hg).2 with ⟨⟨_, _, rfl, -⟩, -⟩ | ⟨⟨_, rfl⟩, l, hl, hfile, hother, hagain⟩
  · cases hexit
  · have hdoc : (Path.pieces doc.toList).getLast? = some "doc.json".toList := by decide
    have hlast : some "doc.json".toList = some l.name := hdoc.symm.trans hl.last_piece
    have hne : ["rules.json".toList] ≠ l.names := by
      intro hnames
      have hname : l.names.getLast? = some l.name := List.getLast?_concat
      rw [← hnames, ← hlast] at hname
      exact absurd hname (by decide)
    refine ⟨rfl, ⟨l, hl, hfile⟩, ?_, ?_⟩
    · rw [hother _ hne]
      decide +kernel
    · apply hagain
      · rintro _ ⟨⟩ hl'
        have hname := hl'.last_piece
        rw [← hlast] at hname
        exact absurd hname (by decide)
      · rfl
      · rfl
      · exact List.forall_mem_nil _

end Session

end WordSwap
