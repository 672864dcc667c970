import WordSwap.Proofs.Analysis
import WordSwap.Proofs.Arguments

/-! A verbose run is a quiet one whose log is not filtered, and a run prints only when the document
is in its file already. -/

namespace WordSwap

open Files

lemma done_run (b : Boundaries) (rules : List Rule) :
    (run b rules).done = (rules.takeWhile fun r => r.Expandable).map (Rule.expansion b) := by
  induction rules with
  | nil => rfl
  | cons r rest ih =>
    by_cases h : r.Expandable
    · simp only [run, r.expand_eq_ok b h, List.takeWhile_cons, h, decide_true, if_true, ih,
        List.map_cons]
    · simp only [run, r.expand_eq_error b h, List.takeWhile_cons, h, decide_false,
        Bool.false_eq_true, if_false, List.map_nil]

def Command.source : Command → Option String
  | .generate source _ _ _ => source
  | .analyze source _ => source

namespace Session

def debugLines (log : List LogLine) : List LogLine := log.filter (·.level = .debug)

def ruleLines (rules : List Rule) : List LogLine :=
  (rules.takeWhile fun r => r.Expandable).map fun r => .debug r.line

lemma debugLines_append (before after : List LogLine) :
    debugLines (before ++ after) = debugLines before ++ debugLines after :=
  List.filter_append ..

lemma debugLines_sourceLine (source : Option String) (log : List LogLine) :
    debugLines (sourceLine source :: log) = debugLines log := by
  cases source <;> rfl

lemma debugLines_expansionLines (rules : List Rule) (t : GroupTraits) :
    debugLines (expansionLines (run Settings.default.boundaries rules) t) = ruleLines rules := by
  have hdone : (run Settings.default.boundaries rules).done.map
      (fun e => LogLine.debug e.tally.line) = ruleLines rules := by
    rw [done_run, List.map_map]
    exact List.map_congr_left fun r _ => congrArg LogLine.debug (r.line_expansion _)
  have hdebug : debugLines (ruleLines rules) = ruleLines rules := by
    refine List.filter_eq_self.mpr fun l hl => ?_
    obtain ⟨r, -, rfl⟩ := List.mem_map.mp hl
    rfl
  rw [expansionLines, debugLines_append, hdone, hdebug]
  -- Whatever the run says at its end is not a debug line.
  cases (run Settings.default.boundaries rules).result t <;> exact List.append_nil _

lemma debugLines_runLog (source : Option String) (rules : List Rule) :
    debugLines (runLog source rules) = ruleLines rules := by
  rw [runLog, List.cons_append, debugLines_sourceLine, debugLines_append,
    debugLines_expansionLines]
  rfl

lemma debugLines_analysisLog (source : Option String) (rules : List Rule) :
    debugLines (analysisLog source rules) = ruleLines rules := by
  rw [analysisLog, debugLines_sourceLine, debugLines_expansionLines]

/-- A run with all that it logs, before a part of it is shown. -/
def unfiltered : Command → OnHost Report
  | .generate source output print _ => generate source output print
  | .analyze source _ => analyze source

lemma perform_eq (c : Command) (h : Host) :
    perform (m := OnHost) c h =
      ((unfiltered c h).1.shownAt c.verbose, (unfiltered c h).2) := by
  cases c <;> rfl

lemma perform_quiet {c : Command} (hquiet : c.verbose = false) (h : Host) :
    perform (m := OnHost) c h =
      ({ (unfiltered c h).1 with log := (unfiltered c h).1.log.filter (·.level ≠ .debug) },
        (unfiltered c h).2) := by
  have hlevel (l : LogLine) : (false || l.level == .info) = decide (l.level ≠ .debug) := by
    cases l.level <;> rfl
  simp only [perform_eq, hquiet, Report.shownAt, hlevel]

lemma perform_loud (c : Command) (h : Host) :
    perform (m := OnHost) c.loud h = ((unfiltered c h).1, (unfiltered c h).2) := by
  have hverbose : c.loud.verbose = true := by cases c <;> rfl
  have hsame : unfiltered c.loud = unfiltered c := by cases c <;> rfl
  simp only [perform_eq, hverbose, hsame, Report.shownAt, Bool.true_or, List.filter_true]

def loggedRules (h : Host) (source : Option String) : List LogLine :=
  match startingRules h source with
  | .error _ => []
  | .ok rules => ruleLines rules

lemma debugLines_generate (source : Option String) (output : String) (print : Bool) (h : Host) :
    debugLines (generate (m := OnHost) source output print h).1.log = loggedRules h source := by
  obtain ⟨k, -, -, -, hrun⟩ := generate_run source h
  rw [hrun, loggedRules]
  cases startingRules h source with
  | error fault => exact debugLines_sourceLine source []
  | ok rules =>
    dsimp only
    cases WordSwap.generate .default rules with
    | error malformed => exact debugLines_runLog source rules
    | ok g =>
      dsimp only
      rcases writeFile (m := OnHost) output (Text.utf8 g.document.text) k with ⟨fault | _, j⟩
      · exact debugLines_runLog source rules
      · simp only [writtenReport, debugLines_append, debugLines_runLog]
        exact List.append_nil _

lemma debugLines_analyze (source : Option String) (h : Host) :
    debugLines (analyze (m := OnHost) source h).1.log = loggedRules h source := by
  obtain ⟨k, -, hrun⟩ := analyze_run source h
  rw [hrun, loggedRules]
  cases startingRules h source with
  | error fault => exact debugLines_sourceLine source []
  | ok rules =>
    dsimp only
    cases WordSwap.generate .default rules <;> exact debugLines_analysisLog source rules

lemma debugLines_unfiltered (c : Command) (h : Host) :
    debugLines (unfiltered c h).1.log = loggedRules h c.source := by
  cases c with
  | generate source output print verbose => exact debugLines_generate source output print h
  | analyze source verbose => exact debugLines_analyze source h

lemma generate_written (source : Option String) (output : String) (h : Host) :
    (∃ log chain k, ∀ print, generate (m := OnHost) source output print h =
        (.failed log chain, k)) ∨
      ∃ log text k, k.tree.readFile k.here output.toList = .ok (Text.utf8 text) ∧
        ∀ print, generate (m := OnHost) source output print h =
          (⟨0, log, if print then text ++ "\n" else "", ""⟩, k) := by
  obtain ⟨j, -, -, -, hrun⟩ := generate_run source h
  replace hrun := hrun output
  cases hrules : startingRules h source with
  | error fault =>
    simp only [hrules] at hrun
    exact .inl ⟨_, _, j, hrun⟩
  | ok rules =>
    cases hg : WordSwap.generate .default rules with
    | error malformed =>
      simp only [hrules, hg] at hrun
      exact .inl ⟨_, _, j, hrun⟩
    | ok g =>
      rcases writeFile_cases output (Text.utf8 g.document.text) j with
        ⟨fault, k, hwrite, -⟩ | ⟨k, t, l, hwrite, hhere, -, hwritable, htree⟩
      · simp only [hrules, hg, hwrite] at hrun
        exact .inl ⟨_, _, k, hrun⟩
      · simp only [hrules, hg, hwrite] at hrun
        have hread : k.tree.readFile k.here output.toList = .ok (Text.utf8 g.document.text) := by
          rw [htree, hhere]
          exact hwritable.readFile_insert _
        exact .inr ⟨_, _, k, hread, hrun⟩

/-- Neither switch disturbs a run, wherever it is put among the arguments: a verbose run only logs
more, and a run that prints only prints what its output file holds. -/
theorem perform_undisturbed (h : Host) {front back : List String} {c : Command}
    (hfront : Command.Complete front) (hc : Command.parse (front ++ back) = some c) :
    (c.verbose = false → ∀ flag, flag = "-v" ∨ flag = "--verbose" →
      Command.parse (front ++ flag :: back) = some c.loud ∧
      ∃ quiet full k, perform (m := OnHost) c h = (quiet, k) ∧
        perform (m := OnHost) c.loud h = (full, k) ∧
        full.exitCode = quiet.exitCode ∧ full.errors = quiet.errors ∧
        full.output = quiet.output ∧ full.log.filter (·.level ≠ .debug) = quiet.log ∧
        (∀ fault, startingRules h c.source = .error fault → debugLines full.log = []) ∧
        ∀ rules, startingRules h c.source = .ok rules → debugLines full.log = ruleLines rules) ∧
    ∀ source output verbose, c = .generate source output false verbose →
      Command.parse (front ++ "--print" :: back) = some (.generate source output true verbose) ∧
      ∃ plain printing k, perform (m := OnHost) c h = (plain, k) ∧
        perform (m := OnHost) (.generate source output true verbose) h = (printing, k) ∧
        printing.exitCode = plain.exitCode ∧ printing.errors = plain.errors ∧
        printing.log = plain.log ∧ plain.output = "" ∧
        ((printing.exitCode = 0 ∧
            ∃ text, k.tree.readFile k.here output.toList = .ok (Text.utf8 text) ∧
              printing.output = text ++ "\n") ∨
          printing.exitCode ≠ 0 ∧ printing.output = "") := by
  constructor
  · intro hquiet flag hflag
    have hlog := debugLines_unfiltered c h
    refine ⟨Command.parse_loud hflag hfront hc hquiet, _, _, _, perform_quiet hquiet h,
      perform_loud c h, rfl, rfl, rfl, rfl, ?_, ?_⟩
    · intro fault hrules
      rw [hlog, loggedRules, hrules]
    · intro rules hrules
      rw [hlog, loggedRules, hrules]
  · rintro source output verbose rfl
    refine ⟨Command.parse_printing hfront hc, ?_⟩
    simp only [perform_eq, unfiltered]
    rcases generate_written source output h with
      ⟨log, chain, k, hrun⟩ | ⟨log, text, k, hread, hrun⟩
    · simp only [hrun]
      exact ⟨_, _, k, rfl, rfl, rfl, rfl, rfl, rfl, .inr ⟨Nat.one_ne_zero, rfl⟩⟩
    · simp only [hrun]
      exact ⟨_, _, k, rfl, rfl, rfl, rfl, rfl, rfl, .inl ⟨rfl, text, hread, rfl⟩⟩

theorem perform_undisturbed_once :
    let file := Text.utf8 "[[[\"a\"], [\"b\"], [], [], true, \"preserve\", false]]"
    let h : Host := ⟨.file "rules.json".toList file .empty, [], []⟩
    let quietly : Command := .generate (some "rules.json") "out/doc.json" false false
    let front := ["generate", "-r", "rules.json"]
    let back := ["-o", "out/doc.json"]
    Command.Complete front ∧ Command.parse (front ++ back) = some quietly ∧
      Command.parse (front ++ "-v" :: back) = some quietly.loud ∧
      Command.parse (front ++ "--print" :: back) =
        some (.generate (some "rules.json") "out/doc.json" true false) ∧
      ∃ quiet full printing k, perform (m := OnHost) quietly h = (quiet, k) ∧
        perform (m := OnHost) quietly.loud h = (full, k) ∧
        perform (m := OnHost) (.generate (some "rules.json") "out/doc.json" true false) h =
          (printing, k) ∧
        quiet.exitCode = 0 ∧ full.log.filter (·.level ≠ .debug) = quiet.log ∧
        debugLines full.log =
          [.debug "a -> b: 1 atomic rules, 3 phase 1 leaves, 0 phase 2 leaves"] ∧
        ∃ text, k.tree.readFile k.here "out/doc.json".toList = .ok (Text.utf8 text) ∧
          printing.output = text ++ "\n" := by
  intro file h quietly front back
  let rule : Rule := ⟨["a"], ["b"], [], [], true, .preserve, false, false⟩
  have hrules : startingRules h (some "rules.json") = .ok [rule] := by decide +kernel
  have hfront : Command.Complete front := ⟨by decide, by decide, by decide +kernel⟩
  have hc : Command.parse (front ++ back) = some quietly := by decide +kernel
  have hexit : (perform (m := OnHost) quietly h).1.exitCode = 0 := by decide +kernel
  obtain ⟨hverbose, hprint⟩ := perform_undisturbed h hfront hc
  obtain ⟨hloud, quiet, full, k, hquiet, hfull, -, -, -, hlog, -, hdebug⟩ :=
    hverbose rfl "-v" (.inl rfl)
  obtain ⟨hprinting, plain, printing, j, hplain, hprinted, hcode, -, -, -, hout⟩ :=
    hprint _ _ _ rfl
  obtain ⟨rfl, rfl⟩ := Prod.mk.inj (hquiet.symm.trans hplain)
  rw [hquiet] at hexit
  refine ⟨hfront, hc, hloud, hprinting, quiet, full, printing, k, hquiet, hfull, hprinted, hexit,
    hlog, ?_, ?_⟩
  · rw [hdebug [rule] hrules]
    decide +kernel
  · rcases hout with ⟨-, htext⟩ | ⟨hne, -⟩
    · exact htext
    · exact absurd (hcode.trans hexit) hne

end Session

end WordSwap
