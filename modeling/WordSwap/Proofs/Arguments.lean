import Mathlib.Tactic.Common
import WordSwap.Session.Command

/-! Switches among the arguments of the program. One that is not given yet can be put in wherever an
argument is complete. -/

namespace WordSwap.Command

def Fresh (given new : Given) : Prop := ∀ p ∈ new, given.lookup p.1 = none

section

variable {given new later : Given} {s t : Switch} {v : String}

lemma fresh_nil : Fresh given [] := List.forall_mem_nil _

lemma fresh_singleton : Fresh given [(s, v)] ↔ given.lookup s = none := List.forall_mem_singleton

lemma fresh_append : Fresh given (new ++ later) ↔ Fresh given new ∧ Fresh given later :=
  List.forall_mem_append

lemma append_fresh : Fresh (given ++ new) later ↔ Fresh given later ∧ Fresh new later := by
  simp only [Fresh, List.lookup_append, Option.or_eq_none_iff, forall_and]

lemma give_eq_some_iff {g : Given} :
    give given s v = some g ↔ given.lookup s = none ∧ g = given ++ [(s, v)] := by
  rw [give]
  cases h : given.lookup s <;> simp [eq_comm]

end

/-- A reading adds the same switches to whatever is given before. -/
def Adding (read : Given → Option Step) : Prop :=
  ∀ given step, read given = some step →
    ∃ new, step.given = given ++ new ∧ Fresh given new ∧
      ∀ more, Fresh more new → read more = some ⟨more ++ new, step.pending⟩

lemma adding_none : Adding fun _ => none := nofun

lemma adding_step (pending : Option Switch) : Adding fun given => some ⟨given, pending⟩ := by
  rintro given _ ⟨⟩
  refine ⟨[], (List.append_nil _).symm, fresh_nil, fun more _ => ?_⟩
  rw [List.append_nil]

lemma adding_give (s : Switch) (v : String) : Adding fun given => (give given s v).map .done := by
  intro given step h
  obtain ⟨g, hg, rfl⟩ := Option.map_eq_some_iff.mp h
  obtain ⟨hs, rfl⟩ := give_eq_some_iff.mp hg
  refine ⟨[(s, v)], rfl, fresh_singleton.mpr hs, fun more hmore => ?_⟩
  simp only [give_eq_some_iff.mpr ⟨fresh_singleton.mp hmore, rfl⟩, Option.map_some, Step.done]

lemma adding_giveValue (s : Switch) (value : List Char) :
    Adding fun given => (giveValue given s value).map .done := by
  simp only [giveValue]
  split
  · exact adding_none
  · exact adding_give s _

lemma Adding.bind {read : Given → Option Step} (hread : Adding read) (next : Step → Option Step)
    (hnext : ∀ pending, Adding fun given => next ⟨given, pending⟩) :
    Adding fun given => (read given).bind next := by
  intro given last h
  obtain ⟨step, hstep, hlast⟩ := Option.bind_eq_some_iff.mp h
  obtain ⟨new, hnew, hfresh, hsame⟩ := hread given step hstep
  obtain ⟨later, hlater, hfresh', hsame'⟩ := hnext step.pending step.given last hlast
  rw [hnew] at hlater hfresh'
  obtain ⟨hgiven, hbehind⟩ := append_fresh.mp hfresh'
  refine ⟨new ++ later, by rw [hlater, List.append_assoc], fresh_append.mpr ⟨hfresh, hgiven⟩, ?_⟩
  intro more hmore
  obtain ⟨hmore, hmore'⟩ := fresh_append.mp hmore
  simp only [hsame more hmore, Option.bind_some,
    hsame' (more ++ new) (append_fresh.mpr ⟨hmore', hbehind⟩), List.append_assoc]

variable (switches : List Switch)

lemma adding_letters (cs : List Char) : Adding fun given => letters switches given cs := by
  induction cs with
  | nil => exact adding_step none
  | cons c rest ih =>
    simp only [letters]
    cases switches.find? fun s => s.short? == some c with
    | none => exact adding_none
    | some switch =>
      dsimp only
      split
      · split
        · exact adding_step (some switch)
        · exact adding_giveValue switch _
        · exact adding_giveValue switch _
      · have hthen := (adding_give switch "").bind
          (fun step => letters switches step.given rest) fun _ => ih
        simp only [Option.bind_map] at hthen
        exact hthen

lemma adding_word (cs : List Char) : Adding fun given => word switches given cs := by
  simp only [word]
  cases switches.find? fun s => s.long == cs.takeWhile (· != '=') with
  | none => exact adding_none
  | some switch =>
    dsimp only
    split
    · exact adding_step (some switch)
    · exact adding_giveValue switch _
    · exact adding_give switch ""
    · exact adding_none

lemma adding_argument (cs : List Char) : Adding fun given => argument switches given cs := by
  simp only [argument]
  split
  · exact adding_word switches _
  · exact adding_letters switches _
  · exact adding_none

def switchesBehind (rest : List (List Char)) (step : Step) : Option Given :=
  match step.pending, rest with
  | none, rest => switchesFrom switches step.given rest
  | some _, [] => none
  | some switch, value :: rest =>
    if isValue value then
      (giveValue step.given switch value).bind fun given => switchesFrom switches given rest
    else none

lemma switchesFrom_cons (given : Given) {first : List Char} (hdash : first ≠ ['-', '-'])
    (rest : List (List Char)) :
    switchesFrom switches given (first :: rest) =
      (argument switches given first).bind (switchesBehind switches rest) := by
  rw [switchesFrom.eq_def]
  simp only [if_neg hdash]
  rcases argument switches given first with _ | ⟨given, _ | switch⟩
  · rfl
  · rfl
  · cases rest with
    | nil => rfl
    | cons value rest =>
      simp only [Option.bind_some, switchesBehind]
      split
      · cases giveValue given switch value <;> rfl
      · rfl

lemma adding_switchesFrom : ∀ args : List (List Char),
    Adding fun given => (switchesFrom switches given args).map .done
  | [] => adding_step none
  | first :: rest => by
    by_cases hdash : first = ['-', '-']
    · simp only [switchesFrom, if_pos hdash]
      cases rest with
      | nil => exact adding_step none
      | cons _ _ => exact adding_none
    · simp only [switchesFrom_cons switches _ hdash, Option.map_bind]
      apply (adding_argument switches first).bind _
      -- A switch that waits for its value takes the next argument with it.
      rintro (_ | switch)
      · exact adding_switchesFrom rest
      · cases rest with
        | nil => exact adding_none
        | cons value rest =>
          simp only [Function.comp_apply, switchesBehind]
          split
          · have hthen := (adding_giveValue switch value).bind
              (fun step => (switchesFrom switches step.given rest).map .done)
              fun _ => adding_switchesFrom rest
            simp only [Option.bind_map] at hthen
            simp only [Option.map_bind]
            exact hthen
          · exact adding_none

lemma switchesFrom_adds {args : List (List Char)} {given g : Given}
    (h : switchesFrom switches given args = some g) :
    ∃ new, g = given ++ new ∧ Fresh given new ∧
      ∀ more, Fresh more new → switchesFrom switches more args = some (more ++ new) := by
  obtain ⟨new, hnew, hfresh, hsame⟩ :=
    adding_switchesFrom switches args given (.done g) (by simp only [h, Option.map_some])
  refine ⟨new, hnew, hfresh, fun more hmore => ?_⟩
  obtain ⟨g, hg, hstep⟩ := Option.map_eq_some_iff.mp (hsame more hmore)
  rw [hg, Option.some.injEq]
  exact congrArg Step.given hstep

lemma switchesFrom_append {given g : Given} : ∀ {front : List (List Char)},
    switchesFrom switches given front = some g → ['-', '-'] ∉ front →
      ∀ back, switchesFrom switches given (front ++ back) = switchesFrom switches g back
  | [], h, _, back => by
    cases h
    rfl
  | first :: rest, h, hdash, back => by
    obtain ⟨hfirst, hrest⟩ := List.ne_and_not_mem_of_not_mem_cons hdash
    rw [switchesFrom_cons switches given hfirst.symm] at h
    rw [List.cons_append, switchesFrom_cons switches given hfirst.symm]
    obtain ⟨⟨given, _ | switch⟩, hstep, h⟩ := Option.bind_eq_some_iff.mp h
    · rw [hstep]
      exact switchesFrom_append h hrest back
    · rw [hstep]
      cases rest with
      | nil => cases h
      | cons value rest =>
        simp only [switchesBehind] at h
        split at h
        next hvalue =>
          obtain ⟨given, hgive, h⟩ := Option.bind_eq_some_iff.mp h
          simp only [List.cons_append, Option.bind_some, switchesBehind, if_pos hvalue, hgive]
          exact switchesFrom_append h (List.not_mem_of_not_mem_cons hrest) back
        next => cases h

lemma switchesFrom_insert {given g all : Given} {s : Switch} {flag : List Char}
    {front back : List (List Char)} (hdash : flag ≠ ['-', '-'])
    (hflag : ∀ given, argument switches given flag = (give given s "").map .done)
    (hfront : switchesFrom switches given front = some g) (hopen : ['-', '-'] ∉ front)
    (hall : switchesFrom switches given (front ++ back) = some all) (hs : all.lookup s = none) :
    ∃ new, all = g ++ new ∧
      switchesFrom switches given (front ++ flag :: back) = some (g ++ (s, "") :: new) := by
  rw [switchesFrom_append switches hfront hopen] at hall ⊢
  obtain ⟨new, rfl, hfresh, hsame⟩ := switchesFrom_adds switches hall
  rw [List.lookup_append, Option.or_eq_none_iff] at hs
  obtain ⟨hg, hnew⟩ := hs
  -- The later switches stay new, for the one put in before them is not among them.
  have hadded : Fresh [(s, "")] new := by
    intro p hp
    have hne : s ≠ p.1 := by simpa using List.lookup_eq_none_iff.mp hnew p hp
    rw [List.lookup_cons, beq_false_of_ne hne.symm, List.lookup_nil]
  have hbehind := hsame (g ++ [(s, "")]) (append_fresh.mpr ⟨hfresh, hadded⟩)
  refine ⟨new, rfl, ?_⟩
  rw [switchesFrom_cons switches g hdash, hflag, give_eq_some_iff.mpr ⟨hg, rfl⟩]
  exact hbehind.trans (by rw [List.append_assoc, List.singleton_append])

structure Spells (flag : String) (s : Switch) : Prop where
  not_dashes : flag.toList ≠ ['-', '-']
  argument_eq (given : Given) : argument switches given flag.toList = (give given s "").map .done

lemma spells_short {s : Switch} {c : Char} (hc : c ≠ '-') (hplain : s.takesValue = false)
    (hfind : switches.find? (fun s => s.short? == some c) = some s) :
    Spells switches (String.ofList ['-', c]) s where
  not_dashes := by simpa using hc
  argument_eq given := by
    rw [String.toList_ofList, argument]
    · simp only [letters, hfind, hplain]
      cases give given s "" <;> rfl
    · exact hc

lemma spells_long {s : Switch} (hplain : s.takesValue = false)
    (hfind : switches.find? (fun t => t.long == s.long) = some s) :
    Spells switches (String.ofList ('-' :: '-' :: s.long)) s where
  not_dashes := by
    rw [String.toList_ofList]
    cases s <;> decide
  argument_eq given := by
    have htake : s.long.takeWhile (· != '=') = s.long := by cases s <;> rfl
    have hdrop : s.long.dropWhile (· != '=') = [] := by cases s <;> rfl
    rw [String.toList_ofList, argument, word]
    simp only [htake, hdrop, hfind, hplain]

variable {switches}

lemma strings_insert {flag : String} {s : Switch} {all : Given} {front back : List String}
    (hflag : Spells switches flag s)
    (hfront : (switchesFrom switches [] (front.map String.toList)).isSome) (hopen : "--" ∉ front)
    (hall : switchesFrom switches [] ((front ++ back).map String.toList) = some all)
    (hs : all.lookup s = none) :
    ∃ more, switchesFrom switches [] ((front ++ flag :: back).map String.toList) = some more ∧
      (more.lookup s).isSome ∧ ∀ t ≠ s, more.lookup t = all.lookup t := by
  obtain ⟨g, hfront⟩ := Option.isSome_iff_exists.mp hfront
  have hopen' : ['-', '-'] ∉ front.map String.toList := by
    intro hmem
    obtain ⟨word, hword, hdashes⟩ := List.mem_map.mp hmem
    obtain rfl : word = "--" := String.toList_inj.mp hdashes
    exact hopen hword
  rw [List.map_append] at hall ⊢
  obtain ⟨new, rfl, hmore⟩ := switchesFrom_insert switches hflag.not_dashes hflag.argument_eq
    hfront hopen' hall hs
  refine ⟨_, hmore, ?_, fun t ht => ?_⟩
  · simp [List.lookup_append]
  · rw [List.lookup_append, List.lookup_append, List.lookup_cons, beq_false_of_ne ht]

/-- Arguments behind which a switch can stand: the subcommand, and switches that have their values.
-/
structure Complete (front : List String) : Prop where
  begun : front ≠ []
  unended : "--" ∉ front
  parsed : (parse front).isSome

def loud : Command → Command
  | .generate rules output print _ => .generate rules output print true
  | .analyze rules _ => .analyze rules true

lemma parse_generate (rest : List String) :
    parse ("generate" :: rest) =
      (switchesFrom [.rules, .output, .print, .verbose] [] (rest.map String.toList)).map
        ofGenerate := by
  simp [parse]

lemma parse_analyze (rest : List String) :
    parse ("analyze" :: rest) =
      (switchesFrom [.rules, .verbose] [] (rest.map String.toList)).map ofAnalyze := by
  simp [parse]

lemma Complete.cases {front : List String} (h : Complete front) :
    (∃ rest, front = "generate" :: rest) ∨ ∃ rest, front = "analyze" :: rest := by
  obtain ⟨first, rest, rfl⟩ := List.exists_cons_of_ne_nil h.begun
  have hfirst : first ≠ "--" := by
    rintro rfl
    exact h.unended List.mem_cons_self
  have hparsed := h.parsed
  by_cases hg : first = "generate"
  · exact .inl ⟨rest, by rw [hg]⟩
  · by_cases ha : first = "analyze"
    · exact .inr ⟨rest, by rw [ha]⟩
    · simp [parse, hfirst, hg, ha] at hparsed

lemma parse_insert {sub flag : String} {s : Switch} {rest back : List String}
    {switches : List Switch} {make : Given → Command} {c : Command}
    (hsub : ∀ rest, parse (sub :: rest) =
      (switchesFrom switches [] (rest.map String.toList)).map make)
    (hflag : Spells switches flag s) (hfront : Complete (sub :: rest))
    (hc : parse (sub :: rest ++ back) = some c) :
    ∃ all, c = make all ∧ (all.lookup s = none →
      ∃ more, parse (sub :: rest ++ flag :: back) = some (make more) ∧
        (more.lookup s).isSome ∧ ∀ t ≠ s, more.lookup t = all.lookup t) := by
  have hopen : "--" ∉ rest := List.not_mem_of_not_mem_cons hfront.unended
  have hparsed := hfront.parsed
  rw [hsub, Option.isSome_map] at hparsed
  rw [List.cons_append, hsub] at hc ⊢
  obtain ⟨all, hall, rfl⟩ := Option.map_eq_some_iff.mp hc
  refine ⟨all, rfl, fun hs => ?_⟩
  obtain ⟨more, hmore, hadded, hothers⟩ := strings_insert hflag hparsed hopen hall hs
  exact ⟨more, by rw [hmore, Option.map_some], hadded, hothers⟩

lemma spells_verbose_generate {flag : String} (hflag : flag = "-v" ∨ flag = "--verbose") :
    Spells [.rules, .output, .print, .verbose] flag .verbose := by
  rcases hflag with rfl | rfl
  · exact spells_short _ (by decide) rfl rfl
  · exact spells_long (s := .verbose) _ rfl rfl

lemma spells_verbose_analyze {flag : String} (hflag : flag = "-v" ∨ flag = "--verbose") :
    Spells [.rules, .verbose] flag .verbose := by
  rcases hflag with rfl | rfl
  · exact spells_short _ (by decide) rfl rfl
  · exact spells_long (s := .verbose) _ rfl rfl

lemma parse_loud {front back : List String} {flag : String} {c : Command}
    (hflag : flag = "-v" ∨ flag = "--verbose") (hfront : Complete front)
    (hc : parse (front ++ back) = some c) (hquiet : c.verbose = false) :
    parse (front ++ flag :: back) = some c.loud := by
  obtain ⟨rest, rfl⟩ | ⟨rest, rfl⟩ := hfront.cases
  · obtain ⟨all, rfl, hinsert⟩ :=
      parse_insert parse_generate (spells_verbose_generate hflag) hfront hc
    obtain ⟨more, hmore, hadded, hothers⟩ :=
      hinsert (by simpa [ofGenerate, verbose] using hquiet)
    rw [hmore, ofGenerate, hadded, hothers _ (by decide), hothers _ (by decide),
      hothers _ (by decide)]
    rfl
  · obtain ⟨all, rfl, hinsert⟩ :=
      parse_insert parse_analyze (spells_verbose_analyze hflag) hfront hc
    obtain ⟨more, hmore, hadded, hothers⟩ :=
      hinsert (by simpa [ofAnalyze, verbose] using hquiet)
    rw [hmore, ofAnalyze, hadded, hothers _ (by decide)]
    rfl

lemma parse_printing {front back : List String} {source : Option String} {output : String}
    {verbose : Bool} (hfront : Complete front)
    (hc : parse (front ++ back) = some (.generate source output false verbose)) :
    parse (front ++ "--print" :: back) = some (.generate source output true verbose) := by
  obtain ⟨rest, rfl⟩ | ⟨rest, rfl⟩ := hfront.cases
  · have hspells : Spells [.rules, .output, .print, .verbose] "--print" .print :=
      spells_long (s := .print) _ rfl rfl
    obtain ⟨all, hall, hinsert⟩ := parse_insert parse_generate hspells hfront hc
    rw [ofGenerate, Command.generate.injEq] at hall
    obtain ⟨hrules, houtput, hprint, hverbose⟩ := hall
    obtain ⟨more, hmore, hadded, hothers⟩ := hinsert (by simpa using hprint)
    rw [hmore, ofGenerate, hadded, hothers _ (by decide), hothers _ (by decide),
      hothers _ (by decide), ← hrules, ← houtput, ← hverbose]
  · rw [List.cons_append, parse_analyze] at hc
    obtain ⟨all, -, hcommand⟩ := Option.map_eq_some_iff.mp hc
    cases hcommand

end WordSwap.Command
