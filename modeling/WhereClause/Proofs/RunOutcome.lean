import WhereClause.Proofs.EmptyFilter
import WhereClause.Proofs.Safety
import WhereClause.Proofs.SettingsLookup

/-!
# What a run comes to

A run that prints conditions goes through stages: it loads the settings, reads the document or the
expression, and renders.  A script that calls the program relies on two things.  Either the whole
text is printed, or nothing is and the first stage that failed is told; and settings that are not in
force, or a dialect that is asked for, never hide a failure of an earlier stage.

Main definitions:

* `Asked`: the nodes that the arguments ask for, or why there are none;
* `Ends`: how the stages of a run end;
* `Outcome.Reports`: what is printed then, and with which exit code;
* `Explained`: what an explanation prints, and how it ends.

Main results:

* `Shorthand.not_kelvinFree_of_insideChar`: what a failure without a message comes from;
* `ends_iff`: how the stages end is what is computed;
* `run_reports`: **what a run reports, for all arguments that are accepted**;
* `run_explain`: what an explanation comes to, which is not all or nothing;
* `exists_explained_some`: it fails for the reason for which printing the conditions fails.
-/

set_option autoImplicit false

namespace WhereClause

/-! ### Failures inside a character -/

/-- Only with a Kelvin sign in the wrong place does a keyword end inside a character. -/
theorem Shorthand.not_kelvinFree_of_insideChar {s : Text}
    (h : Shorthand.parse s = .error .insideChar) : ¬ KelvinFree s := by
  intro hs
  have hblank : Text.trim s ≠ [] := by
    intro hblank
    rw [parse_eq_ok.2 (.inl ⟨hblank, rfl⟩)] at h
    cases h
  have hfree : KelvinFree (Text.trim s) :=
    hs.mono ((isPrefix_trimEnd _).isInfix.trans (List.dropWhile_suffix isBlank).isInfix)
  have hstays : (sequence (term maxDepth) (Text.trim s)).Stays True True (Text.trim s) :=
    careful_sequence (careful_term maxDepth) (Text.trim s) hfree
  rw [parse_of_trim_ne_nil hblank] at h
  cases hread : sequence (term maxDepth) (Text.trim s) with
  | done drafts rest =>
      rw [hread] at h
      dsimp only at h
      split at h
      · cases hbuild : Draft.buildAll drafts <;> rw [hbuild] at h <;> cases h
      · cases h
  | unmatched expected rest =>
      rw [hread] at h
      cases h
  | tooDeep rest =>
      rw [hread] at h
      cases h
  | insideChar =>
      rw [hread] at hstays
      exact hstays

namespace CommandLine

variable {here there : Surroundings} {args : List Text} {a : Arguments}

/-! ### Arguments -/

/-- The arguments take the dialect of the environment where they name none themselves, and then it
has to name one. -/
theorem withEnvironment_eq_ok {given : Arguments} {environment : Option Text}
    (h : given.withEnvironment environment = .ok a) :
    a = { given with dialect := given.dialect <|> environment.bind Dialect.ofName? } ∧
      (given.dialect = none → environment.isSome → a.dialect.isSome) := by
  obtain ⟨expression, file, dialect, format, config, verbose, command⟩ := given
  cases dialect with
  | some d =>
      cases h
      exact ⟨rfl, by simp⟩
  | none =>
      cases environment with
      | none =>
          cases h
          exact ⟨rfl, by simp⟩
      | some name =>
          simp only [Arguments.withEnvironment, Arguments.set] at h
          cases hname : Dialect.ofName? name with
          | none =>
              rw [hname] at h
              cases h
          | some d =>
              rw [hname] at h
              cases h
              simp [hname]

theorem exists_of_ofList {environment : Option Text}
    (h : Arguments.ofList environment args = .ok a) :
    ∃ given, Arguments.addAll {} args = .ok given ∧
      a = { given with dialect := given.dialect <|> environment.bind Dialect.ofName? } ∧
      (given.dialect = none → environment.isSome → a.dialect.isSome) := by
  obtain ⟨given, hgiven, h⟩ := bind_eq_ok.1 h
  obtain ⟨completed, hcompleted, h⟩ := bind_eq_ok.1 h
  refine ⟨given, hgiven, ?_⟩
  split at h
  · cases h
  · cases h
    exact withEnvironment_eq_ok hcompleted

/-! ### Stages -/

/-- The nodes that the arguments ask for, or why there are none. -/
inductive Asked (here : Surroundings) (a : Arguments) : Except Failure (List Node) → Prop
  | unreadable {path reason : Text} (hfile : a.file = some path)
      (hstate : here.files path = .missing reason ∨ here.files path = .unreadable reason) :
      Asked here a (.error (.unreadableDocument path reason))
  | refused {path content : Text} {e : LoadError} (hfile : a.file = some path)
      (hstate : here.files path = .file content) (hload : Document.load content = .error e) :
      Asked here a (.error (.document e))
  | loaded {path content : Text} {nodes : List Node} (hfile : a.file = some path)
      (hstate : here.files path = .file content) (hload : Document.load content = .ok nodes) :
      Asked here a (.ok nodes)
  | rejected {s : Text} {e : Shorthand.ParseError} (hfile : a.file = none)
      (hexpression : a.expression = some s) (hparse : Shorthand.parse s = .error e) :
      Asked here a (.error (.expression e))
  | parsed {s : Text} {nodes : List Node} (hfile : a.file = none)
      (hexpression : a.expression = some s) (hparse : Shorthand.parse s = .ok nodes) :
      Asked here a (.ok nodes)

/-- How a run that prints conditions as SQL ends: with the failure of the first stage that fails, or
with the text. -/
inductive Ends (here : Surroundings) (a : Arguments) : Except Failure Text → Prop
  | unsettled {failure : Failure} (hsettled : here.Settled a.config (.error failure)) :
      Ends here a (.error failure)
  | unread {settings : Settings} {failure : Failure}
      (hsettled : here.Settled a.config (.ok settings)) (hasked : Asked here a (.error failure)) :
      Ends here a (.error failure)
  | unrendered {settings : Settings} {nodes : List Node} {e : RenderError}
      (hsettled : here.Settled a.config (.ok settings)) (hasked : Asked here a (.ok nodes))
      (hrender : Node.joinAll (a.dialect.getD settings.dialect).escaper nodes = .error e) :
      Ends here a (.error (.render e))
  | rendered {settings : Settings} {nodes : List Node} {sql : Text}
      (hsettled : here.Settled a.config (.ok settings)) (hasked : Asked here a (.ok nodes))
      (hrender : Node.joinAll (a.dialect.getD settings.dialect).escaper nodes = .ok sql) :
      Ends here a (.ok (line (if nodes = [] then "(no condition)" else sql)))

/-- The outcome is the text that a run ends with, or nothing but its failure. -/
inductive Outcome.Reports (o : Outcome) : Except Failure Text → Prop
  | text {text : Text} (hexit : o.exitCode = 0) (houtput : o.output = text)
      (herror : o.error = none) : o.Reports (.ok text)
  | failure {failure : Failure} (hexit : o.exitCode = failure.exitCode) (houtput : o.output = [])
      (herror : o.error = failure.report) : o.Reports (.error failure)

theorem nodesOf_eq_some {result : Except Failure (List Node)} :
    nodesOf here a = some result ↔ Asked here a result := by
  constructor
  · intro h
    unfold nodesOf at h
    split at h
    · rename_i path hfile
      cases h
      unfold loadNodes
      split
      · rename_i reason hstate
        exact .unreadable hfile (.inl hstate)
      · rename_i reason hstate
        exact .unreadable hfile (.inr hstate)
      · rename_i content hstate
        cases hload : Document.load content with
        | error e => exact .refused hfile hstate hload
        | ok nodes => exact .loaded hfile hstate hload
    · rename_i s hfile hexpression
      cases h
      unfold parseNodes
      cases hparse : Shorthand.parse s with
      | error e => exact .rejected hfile hexpression hparse
      | ok nodes => exact .parsed hfile hexpression hparse
    · cases h
  · intro h
    cases h with
    | unreadable hfile hstate =>
        rw [nodesOf, hfile]
        rcases hstate with hstate | hstate
        · simp only [loadNodes, hstate]
        · simp only [loadNodes, hstate]
    | refused hfile hstate hload =>
        rw [nodesOf, hfile]
        simp only [loadNodes, hstate, hload]
        rfl
    | loaded hfile hstate hload =>
        rw [nodesOf, hfile]
        simp only [loadNodes, hstate, hload]
        rfl
    | rejected hfile hexpression hparse =>
        rw [nodesOf, hfile, hexpression]
        simp only [parseNodes, hparse]
        rfl
    | parsed hfile hexpression hparse =>
        rw [nodesOf, hfile, hexpression]
        simp only [parseNodes, hparse]
        rfl

theorem printNodes_sql {d : Dialect} {nodes : List Node} {sql : Text}
    (h : Node.joinAll d.escaper nodes = .ok sql) :
    printNodes d .sql nodes = .ok (line (if nodes = [] then "(no condition)" else sql)) := by
  have hempty : sql = [] ↔ nodes = [] := by
    rw [← Node.joinAll_eq_nil d.escaper, h, Except.ok.injEq]
  simp only [printNodes, h, Except.mapError, ok_bind, hempty]
  rfl

theorem printNodes_sql_error {d : Dialect} {nodes : List Node} {e : RenderError}
    (h : Node.joinAll d.escaper nodes = .error e) :
    printNodes d .sql nodes = .error (.render e) := by
  simp only [printNodes, h]
  rfl

theorem Asked.unique {result other : Except Failure (List Node)} (h : Asked here a result)
    (hother : Asked here a other) : result = other := by
  have hresult := nodesOf_eq_some.2 h
  rw [nodesOf_eq_some.2 hother] at hresult
  exact (Option.some.inj hresult).symm

/-- How the stages end is what is computed. -/
theorem ends_iff {nodes : Except Failure (List Node)} (hnodes : nodesOf here a = some nodes)
    {result : Except Failure Text} :
    Ends here a result ↔ (do
      let settings ← loadSettings here a.config
      nodes >>= printNodes (a.dialect.getD settings.dialect) .sql) = result := by
  have hasked := nodesOf_eq_some.1 hnodes
  constructor
  · intro h
    cases h with
    | unsettled hsettled =>
        rw [loadSettings_eq_iff.2 hsettled]
        rfl
    | unread hsettled hother =>
        rw [loadSettings_eq_iff.2 hsettled, hasked.unique hother]
        rfl
    | unrendered hsettled hother hrender =>
        rw [loadSettings_eq_iff.2 hsettled, hasked.unique hother]
        exact printNodes_sql_error hrender
    | rendered hsettled hother hrender =>
        rw [loadSettings_eq_iff.2 hsettled, hasked.unique hother]
        exact printNodes_sql hrender
  · rintro rfl
    cases hload : loadSettings here a.config with
    | error failure => exact .unsettled (loadSettings_eq_iff.1 hload)
    | ok settings =>
        have hsettled := loadSettings_eq_iff.1 hload
        cases nodes with
        | error failure => exact .unread hsettled hasked
        | ok nodes =>
            rw [ok_bind, ok_bind]
            cases hrender : Node.joinAll (a.dialect.getD settings.dialect).escaper nodes with
            | error e =>
                rw [printNodes_sql_error hrender]
                exact .unrendered hsettled hasked hrender
            | ok sql =>
                rw [printNodes_sql hrender]
                exact .rendered hsettled hasked hrender

/-! ### Whole runs -/

theorem reports_outcomeOf (result : Except Failure Text) (report : Text) :
    ({ outcomeOf result with report := report } : Outcome).Reports result := by
  cases result with
  | ok text => exact .text rfl rfl rfl
  | error failure => exact .failure rfl rfl rfl

theorem run_unsettled {failure : Failure} (haccepted : Arguments.ofList here.dialect args = .ok a)
    (h : here.Settled a.config (.error failure)) :
    run here args = .ofFailure [] (some failure) := by
  rw [run, haccepted]
  dsimp only
  rw [loadSettings_eq_iff.2 h]

theorem run_settled {settings : Settings} (haccepted : Arguments.ofList here.dialect args = .ok a)
    (h : here.Settled a.config (.ok settings)) : run here args = perform here a settings := by
  rw [run, haccepted]
  dsimp only
  rw [loadSettings_eq_iff.2 h]

/-- What a run that prints conditions as SQL reports is how its stages end. -/
theorem exists_ends (haccepted : Arguments.ofList here.dialect args = .ok a)
    (hcommand : a.command = none) (hasks : a.file.isSome ∨ a.expression.isSome)
    (hformat : a.format.getD .sql = .sql) :
    ∃ result, Ends here a result ∧ (∀ other, Ends here a other → other = result) ∧
      (run here args).Reports result := by
  obtain ⟨nodes, hnodes⟩ : ∃ nodes, nodesOf here a = some nodes := by
    unfold nodesOf
    split
    · exact ⟨_, rfl⟩
    · exact ⟨_, rfl⟩
    · rename_i hfile hexpression
      simp [hfile, hexpression] at hasks
  refine ⟨_, (ends_iff hnodes).2 rfl, fun other hother => ((ends_iff hnodes).1 hother).symm, ?_⟩
  cases hload : loadSettings here a.config with
  | error failure =>
      rw [run_unsettled haccepted (loadSettings_eq_iff.1 hload)]
      exact .failure rfl rfl rfl
  | ok settings =>
      rw [run_settled haccepted (loadSettings_eq_iff.1 hload), perform, hcommand]
      dsimp only
      rw [hnodes, hformat]
      exact reports_outcomeOf _ _

theorem isTold_of_parse {s : Text} {e : Shorthand.ParseError} (h : Shorthand.parse s = .error e) :
    ((Failure.expression e).exitCode = 1 ∧ (Failure.expression e).message.isSome) ∨
      Failure.expression e = .expression .insideChar ∧ ¬ Shorthand.KelvinFree s := by
  cases e with
  | malformed position fault => exact .inl ⟨rfl, rfl⟩
  | invalid e => exact .inl ⟨rfl, rfl⟩
  | insideChar => exact .inr ⟨rfl, Shorthand.not_kelvinFree_of_insideChar h⟩

theorem isTold_render (e : RenderError) :
    (Failure.render e).exitCode = 1 ∧ (Failure.render e).message.isSome := by
  cases e with
  | escape e => exact ⟨rfl, rfl⟩
  | operandMismatch operand op => exact ⟨rfl, rfl⟩

/-- Every failure is told, with the exit code 1, but one inside a character. -/
theorem Asked.isTold {failure : Failure} (h : Asked here a (.error failure)) :
    (failure.exitCode = 1 ∧ failure.message.isSome) ∨ failure = .expression .insideChar ∧
      ∃ s, a.expression = some s ∧ ¬ Shorthand.KelvinFree s := by
  cases h with
  | unreadable hfile hstate => exact .inl ⟨rfl, rfl⟩
  | refused hfile hstate hload => exact .inl ⟨rfl, rfl⟩
  | rejected hfile hexpression hparse =>
      exact (isTold_of_parse hparse).imp_right fun h => ⟨h.1, _, hexpression, h.2⟩

theorem Ends.isTold {failure : Failure} (h : Ends here a (.error failure)) :
    (failure.exitCode = 1 ∧ failure.message.isSome) ∨ failure = .expression .insideChar ∧
      ∃ s, a.expression = some s ∧ ¬ Shorthand.KelvinFree s := by
  cases h with
  | unsettled hsettled => exact .inl hsettled.isTold
  | unread hsettled hasked => exact hasked.isTold
  | unrendered hsettled hasked hrender => exact .inl (isTold_render _)

/-- The text for no conditions is printed for no conditions only. -/
theorem Ends.eq_notice {nodes : List Node} {text : Text} (hasked : Asked here a (.ok nodes))
    (h : Ends here a (.ok text)) : text = line "(no condition)" ↔ nodes = [] := by
  cases h with
  | @rendered settings others sql hsettled hothers hrender =>
      obtain rfl := Except.ok.inj (hothers.unique hasked)
      split
      · rename_i hempty
        exact ⟨fun _ => hempty, fun _ => rfl⟩
      · rename_i hsome
        refine ⟨fun heq => ?_, fun hempty => absurd hempty hsome⟩
        rw [List.append_left_injective _ heq] at hrender
        exact absurd hrender (Node.joinAll_ne_notice _ _)

theorem run_congr (haccepted : Arguments.ofList here.dialect args = .ok a)
    (h : here.SameButLosers there a.config a.file) : run there args = run here args := by
  have hnodes : nodesOf there a = nodesOf here a := by
    cases hfile : a.file with
    | none =>
        rw [nodesOf, nodesOf, hfile]
        cases a.expression <;> rfl
    | some path => simp only [nodesOf, hfile, loadNodes, h.document path hfile]
  have hperform : perform there a = perform here a := by
    funext settings
    simp only [perform, hnodes]
  have haccepted' : Arguments.ofList there.dialect args = .ok a := h.dialect ▸ haccepted
  cases hload : loadSettings here a.config with
  | error failure =>
      have hsettled := loadSettings_eq_iff.1 hload
      rw [run_unsettled haccepted' (h.settled hsettled), run_unsettled haccepted hsettled]
  | ok settings =>
      have hsettled := loadSettings_eq_iff.1 hload
      rw [run_settled haccepted' (h.settled hsettled), run_settled haccepted hsettled, hperform]

/-- For all arguments that are accepted: the dialect is the one they name, else that of the
environment; a failure to load the settings is all that is told, whatever was asked for; conditions
that are asked for as SQL are printed in full, or the first failure is reported; a failure is told,
with the exit code 1, but for a Kelvin sign in the wrong place; the text for no conditions is
printed for none only; and settings files that lose change nothing. -/
theorem run_reports (haccepted : Arguments.ofList here.dialect args = .ok a) :
    (∃ given, Arguments.addAll {} args = .ok given ∧
      a = { given with dialect := given.dialect <|> here.dialect.bind Dialect.ofName? } ∧
      (given.dialect = none → here.dialect.isSome → a.dialect.isSome)) ∧
    (∀ failure, here.Settled a.config (.error failure) →
      ∃ message, failure.message = some message ∧
        run here args = { exitCode := 1, output := [], error := some ("Error: " ++ message) }) ∧
    (a.command = none → a.file.isSome ∨ a.expression.isSome → a.format.getD .sql = .sql →
      ∃ result, Ends here a result ∧ (∀ other, Ends here a other → other = result) ∧
        (run here args).Reports result) ∧
    (∀ failure, Ends here a (.error failure) →
      (failure.exitCode = 1 ∧ failure.message.isSome) ∨ failure = .expression .insideChar ∧
        ∃ s, a.expression = some s ∧ ¬ Shorthand.KelvinFree s) ∧
    (∀ nodes text, Asked here a (.ok nodes) → Ends here a (.ok text) →
      (text = line "(no condition)" ↔ nodes = [])) ∧
    ∀ there : Surroundings, here.SameButLosers there a.config a.file →
      run there args = run here args := by
  refine ⟨exists_of_ofList haccepted, fun failure hsettled => ?_, exists_ends haccepted,
    fun _ h => h.isTold, fun _ _ hasked h => h.eq_notice hasked, fun _ h => run_congr haccepted h⟩
  obtain ⟨hexit, hmessage⟩ := hsettled.isTold
  obtain ⟨message, hmessage⟩ := Option.isSome_iff_exists.1 hmessage
  refine ⟨message, hmessage, ?_⟩
  rw [run_unsettled haccepted hsettled, Outcome.ofFailure, hexit, Failure.report, hmessage]
  rfl

set_option maxRecDepth 4000 in
/-- A settings file that wins over one that cannot be read; a named one that is not there, behind a
dialect and in front of a command; and an expression that stands for nothing. -/
theorem run_reports_lookup :
    let found (user : FileState) (path : Text) : FileState :=
      if path = localSettings then .file "dialect = \"mysql\""
      else if path = userSettings "/home" then user
      else .missing "No such file"
    let here : Surroundings := ⟨found (.unreadable "denied"), some "/home", none⟩
    let there : Surroundings := ⟨found (.file "dialect = 1"), some "/home", none⟩
    (run here ["a = 1".toList]).Reports (.ok "\x60a\x60 = 1\n") ∧
      run there ["a = 1".toList] = run here ["a = 1".toList] ∧
      run here ["-dpg".toList, "-cx".toList, "operators".toList] =
        { exitCode := 1, output := []
          error := some "Error: Configuration error: config file not found: x" } ∧
      (run here [" ".toList]).Reports (.ok "(no condition)\n") := by
  intro found here there
  have hpresent : (here.files localSettings).Present := by
    rintro reason ⟨⟩
  have hwins : here.Wins none localSettings :=
    ⟨[], [userSettings "/home"], rfl, hpresent, by simp⟩
  have htoml : Settings.ofToml? "dialect = \"mysql\"" = some ⟨.mysql, true⟩ := by decide +kernel
  have hsettled : here.Settled none (.ok ⟨.mysql, true⟩) := .taken hwins (.settings htoml)
  have hparse : Shorthand.parse "a = 1" =
      .ok [.condition .and ⟨"a", [⟨"a", none⟩], .equal, .scalar (.int 1)⟩] := by cbv
  have hfilter : Arguments.ofList here.dialect ["a = 1".toList] =
      .ok { expression := some "a = 1" } := rfl
  have hblank : Arguments.ofList here.dialect [" ".toList] = .ok { expression := some " " } := rfl
  have hcommand : Arguments.ofList here.dialect ["-dpg".toList, "-cx".toList, "operators".toList] =
      .ok { dialect := some .postgres, config := some "x", command := some .operators } := rfl
  obtain ⟨-, -, hends, -, -, hcongr⟩ := run_reports hfilter
  obtain ⟨-, -, hends', -⟩ := run_reports hblank
  obtain ⟨-, hunsettled, -⟩ := run_reports hcommand
  refine ⟨?_, hcongr there ⟨rfl, rfl, fun path => ?_, ?_, by simp⟩,
    ?_, ?_⟩
  · obtain ⟨result, -, hunique, hreports⟩ := hends rfl (by simp) rfl
    rw [← hunique _ (.rendered hsettled (.parsed rfl rfl hparse) rfl)] at hreports
    exact hreports
  · simp only [here, there, found, FileState.Present]
    split_ifs <;> simp
  · rintro path ⟨before, after, hpaths, -, hbefore⟩
    cases before with
    | nil =>
        obtain ⟨rfl, -⟩ := List.cons_eq_cons.1 hpaths
        rfl
    | cons other before =>
        obtain ⟨rfl, -⟩ := List.cons_eq_cons.1 hpaths
        exact absurd hpresent (hbefore _ List.mem_cons_self)
  · obtain ⟨message, hmessage, hrun⟩ := hunsettled _ (.missing rfl fun h => h _ rfl)
    obtain rfl := Option.some.inj hmessage
    exact hrun
  · obtain ⟨result, -, hunique, hreports⟩ := hends' rfl (by simp) rfl
    rw [← hunique _ (.rendered hsettled (.parsed rfl rfl rfl) rfl)] at hreports
    exact hreports

set_option maxRecDepth 4000 in
/-- Conditions are asked for as SQL, and the run ends neither with them nor as one that failed. -/
theorem not_run_reports :
    let here : Surroundings := ⟨fun _ => .missing "No such file", none, none⟩
    let args : List Text := [['a', ' ', 'l', 'i', '\u212a', 'e', ' ', 'x']]
    (∃ a, Arguments.ofList here.dialect args = .ok a ∧ a.command = none ∧
      a.expression.isSome ∧ a.format.getD .sql = .sql) ∧
      (run here args).exitCode ≠ 0 ∧ (run here args).exitCode ≠ 1 := by
  intro here args
  have haccepted : Arguments.ofList here.dialect args =
      .ok { expression := some ['a', ' ', 'l', 'i', '\u212a', 'e', ' ', 'x'] } := rfl
  have hparse : Shorthand.parse ['a', ' ', 'l', 'i', '\u212a', 'e', ' ', 'x'] =
      .error .insideChar := by cbv
  have hsettled : here.Settled none (.ok {}) := .defaults rfl fun _ _ h => h _ rfl
  obtain ⟨result, -, hunique, hreports⟩ := exists_ends haccepted rfl (by simp) rfl
  rw [← hunique _ (.unread hsettled (.rejected rfl rfl hparse))] at hreports
  cases hreports with
  | failure hexit houtput herror =>
      refine ⟨⟨_, haccepted, rfl, rfl, rfl⟩, ?_⟩
      rw [hexit]
      decide

/-! ### Explanations -/

/-- What an explanation of the expression `s` prints, and the failure that it ends with, if it ends
with one.  Unlike conditions alone, an explanation is printed as far as it gets. -/
inductive Explained (here : Surroundings) (a : Arguments) (s : Text) :
    Text → Option Failure → Prop
  | unsettled {failure : Failure} (hsettled : here.Settled a.config (.error failure)) :
      Explained here a s [] (some failure)
  | rejected {settings : Settings} {e : Shorthand.ParseError}
      (hsettled : here.Settled a.config (.ok settings)) (hparse : Shorthand.parse s = .error e) :
      Explained here a s (explanationHead s) (some (.expression e))
  | unrendered {settings : Settings} {nodes : List Node} {e : RenderError}
      (hsettled : here.Settled a.config (.ok settings)) (hparse : Shorthand.parse s = .ok nodes)
      (hrender : Node.joinAll (a.dialect.getD settings.dialect).escaper nodes = .error e) :
      Explained here a s
        (explanationHead s ++ explanationBody (a.dialect.getD settings.dialect) nodes)
        (some (.render e))
  | rendered {settings : Settings} {nodes : List Node} {sql : Text}
      (hsettled : here.Settled a.config (.ok settings)) (hparse : Shorthand.parse s = .ok nodes)
      (hrender : Node.joinAll (a.dialect.getD settings.dialect).escaper nodes = .ok sql) :
      Explained here a s
        (explanationHead s ++ explanationBody (a.dialect.getD settings.dialect) nodes ++
          line ("  " ++ sql)) none

variable {s : Text}

/-- An explanation is printed as far as the stages of the run get, in the dialect of the run. -/
theorem run_explain (haccepted : Arguments.ofList here.dialect args = .ok a)
    (hcommand : a.command = some (.explain s)) :
    ∃ output failure?, Explained here a s output failure? ∧
      run here args = .ofFailure output failure? := by
  cases hload : loadSettings here a.config with
  | error failure =>
      have hsettled := loadSettings_eq_iff.1 hload
      exact ⟨_, _, .unsettled hsettled, run_unsettled haccepted hsettled⟩
  | ok settings =>
      have hsettled := loadSettings_eq_iff.1 hload
      rw [run_settled haccepted hsettled, perform, hcommand]
      simp only [explain, parseNodes]
      cases hparse : Shorthand.parse s with
      | error e => exact ⟨_, _, .rejected hsettled hparse, rfl⟩
      | ok nodes =>
          simp only [Except.mapError]
          cases hrender : Node.joinAll (a.dialect.getD settings.dialect).escaper nodes with
          | error e => exact ⟨_, _, .unrendered hsettled hparse hrender, rfl⟩
          | ok sql => exact ⟨_, _, .rendered hsettled hparse hrender, rfl⟩

/-- An explanation fails for the reason for which printing the conditions fails. -/
theorem exists_explained_some {failure : Failure} :
    (∃ output, Explained here a s output (some failure)) ↔
      Ends here { a with expression := some s, file := none } (.error failure) := by
  constructor
  · rintro ⟨output, h⟩
    cases h with
    | unsettled hsettled => exact .unsettled hsettled
    | rejected hsettled hparse => exact .unread hsettled (.rejected rfl rfl hparse)
    | unrendered hsettled hparse hrender =>
        exact .unrendered hsettled (.parsed rfl rfl hparse) hrender
  · intro h
    cases h with
    | unsettled hsettled => exact ⟨_, .unsettled hsettled⟩
    | unread hsettled hasked =>
        cases hasked with
        | unreadable hfile hstate => cases hfile
        | refused hfile hstate hload => cases hfile
        | rejected hfile hexpression hparse =>
            cases hexpression
            exact ⟨_, .rejected hsettled hparse⟩
    | unrendered hsettled hasked hrender =>
        cases hasked with
        | loaded hfile hstate hload => cases hfile
        | parsed hfile hexpression hparse =>
            cases hexpression
            exact ⟨_, .unrendered hsettled hparse hrender⟩

/-- An explanation that does not fail ends with the text that printing the conditions ends with,
save that there is no word for no conditions. -/
theorem explained_none {output : Text} (h : Explained here a s output none) :
    ∃ settings nodes text, here.Settled a.config (.ok settings) ∧ Shorthand.parse s = .ok nodes ∧
      Ends here { a with expression := some s, file := none } (.ok text) ∧
      output = explanationHead s ++ explanationBody (a.dialect.getD settings.dialect) nodes ++
        "  " ++ if nodes = [] then ['\n'] else text := by
  cases h with
  | @rendered settings nodes sql hsettled hparse hrender =>
      refine ⟨settings, nodes, _, hsettled, hparse,
        .rendered hsettled (.parsed rfl rfl hparse) hrender, ?_⟩
      have hempty : nodes = [] → sql = [] := by
        rintro rfl
        exact (Except.ok.inj hrender).symm
      split
      · rename_i hnodes
        rw [hempty hnodes]
        simp [line]
      · simp [line]

end CommandLine

end WhereClause
