import WhereClause.CommandLine.Run

/-!
# Which settings are in force

Settings may stand in several files, and somebody who is surprised by them has to be able to say
which file they come from.  They come from one file only: the first that is there, whether or not it
turns out to be of use.  A file that comes later is no refuge from one that cannot be read, and what
stands in it changes nothing.

Main definitions:

* `Surroundings.Wins`: the file that is taken, out of `Surroundings.settingsPaths`;
* `Surroundings.Settled`: the settings in force, or why there are none;
* `Surroundings.SameButLosers`: surroundings that differ in files that are not read.

Main results:

* `loadSettings_eq_iff`: the settings in force are those that are loaded;
* `Surroundings.SameButLosers.settled`: they do not depend on the files that are not taken.
-/

set_option autoImplicit false

namespace WhereClause.CommandLine

/-- Something is there, be it readable or not. -/
def FileState.Present (state : FileState) : Prop :=
  ∀ reason, state ≠ .missing reason

/-- What settings there are in what stands at a path. -/
inductive FileState.Holds : FileState → Except Failure Settings → Prop
  | unreadable (reason : Text) : Holds (.unreadable reason) (.error (.unreadableSettings reason))
  | bad {content : Text} (h : Settings.ofToml? content = none) :
      Holds (.file content) (.error .badSettings)
  | settings {content : Text} {settings : Settings} (h : Settings.ofToml? content = some settings) :
      Holds (.file content) (.ok settings)

theorem FileState.Holds.present {state : FileState} {result : Except Failure Settings}
    (h : state.Holds result) : state.Present := by
  rintro reason rfl
  cases h

theorem settingsAt?_eq_none {state : FileState} : settingsAt? state = none ↔ ¬ state.Present := by
  unfold FileState.Present
  cases state with
  | missing reason => simp [settingsAt?]
  | unreadable reason => simp [settingsAt?]
  | file content =>
      rw [settingsAt?]
      cases Settings.ofToml? content <;> simp

theorem settingsAt?_eq_some {state : FileState} {result : Except Failure Settings} :
    settingsAt? state = some result ↔ state.Holds result := by
  constructor
  · intro h
    cases state with
    | missing reason => cases h
    | unreadable reason =>
        cases h
        exact .unreadable reason
    | file content =>
        rw [settingsAt?] at h
        cases htoml : Settings.ofToml? content with
        | none =>
            rw [htoml] at h
            cases h
            exact .bad htoml
        | some settings =>
            rw [htoml] at h
            cases h
            exact .settings htoml
  · rintro (⟨reason⟩ | hbad | hsettings)
    · rfl
    · rw [settingsAt?, hbad]
    · rw [settingsAt?, hsettings]

namespace Surroundings

variable (here : Surroundings)

/-- The paths at which settings are looked for, the first to be taken in front. -/
def settingsPaths : (named : Option Text) → List Text
  | some path => [path]
  | none => localSettings :: (here.userDirectory.map userSettings).toList

/-- The file at the path is the first of those that are there. -/
def Wins (named : Option Text) (path : Text) : Prop :=
  ∃ before after, here.settingsPaths named = before ++ path :: after ∧
    (here.files path).Present ∧ ∀ other ∈ before, ¬ (here.files other).Present

/-- The settings in force, or why there are none. -/
inductive Settled (named : Option Text) : Except Failure Settings → Prop
  | taken {path : Text} {result : Except Failure Settings} (hwins : here.Wins named path)
      (hholds : (here.files path).Holds result) : Settled named result
  | missing {path : Text} (hnamed : named = some path) (hmissing : ¬ (here.files path).Present) :
      Settled named (.error (.noSettings path))
  | defaults (hnamed : named = none)
      (hmissing : ∀ path ∈ here.settingsPaths none, ¬ (here.files path).Present) :
      Settled named (.ok {})

end Surroundings

variable {here there : Surroundings} {named document : Option Text}

/-! ### The lookup -/

/-- What is loaded where no file is there. -/
def settingsOfNone : (named : Option Text) → Except Failure Settings
  | some path => .error (.noSettings path)
  | none => .ok {}

theorem loadSettings_eq (here : Surroundings) (named : Option Text) :
    loadSettings here named = ((here.settingsPaths named).findSome? fun path =>
      settingsAt? (here.files path)).getD (settingsOfNone named) := by
  cases named with
  | some path => simp [loadSettings, Surroundings.settingsPaths, settingsOfNone]
  | none =>
      rw [loadSettings, Surroundings.settingsPaths, List.findSome?_cons]
      cases settingsAt? (here.files localSettings) with
      | some result => rfl
      | none => cases here.userDirectory <;> simp [settingsOfNone]

theorem findSome?_settingsAt?_eq_none {paths : List Text} :
    paths.findSome? (fun path => settingsAt? (here.files path)) = none ↔
      ∀ path ∈ paths, ¬ (here.files path).Present := by
  rw [List.findSome?_eq_none_iff]
  exact forall₂_congr fun path _ => settingsAt?_eq_none

theorem findSome?_settingsAt?_eq_some {result : Except Failure Settings} :
    (here.settingsPaths named).findSome? (fun path => settingsAt? (here.files path)) = some result ↔
      ∃ path, here.Wins named path ∧ (here.files path).Holds result := by
  rw [List.findSome?_eq_some_iff]
  constructor
  · rintro ⟨before, path, after, hpaths, hresult, hbefore⟩
    have hholds := settingsAt?_eq_some.1 hresult
    exact ⟨path, ⟨before, after, hpaths, hholds.present,
      fun other hother => settingsAt?_eq_none.1 (hbefore other hother)⟩, hholds⟩
  · rintro ⟨path, ⟨before, after, hpaths, -, hbefore⟩, hholds⟩
    exact ⟨before, path, after, hpaths, settingsAt?_eq_some.2 hholds,
      fun other hother => settingsAt?_eq_none.2 (hbefore other hother)⟩

/-- The settings in force are those that are loaded. -/
theorem loadSettings_eq_iff {result : Except Failure Settings} :
    loadSettings here named = result ↔ here.Settled named result := by
  rw [loadSettings_eq]
  constructor
  · rintro rfl
    cases hfirst : (here.settingsPaths named).findSome? fun path =>
        settingsAt? (here.files path) with
    | some result =>
        obtain ⟨path, hwins, hholds⟩ := findSome?_settingsAt?_eq_some.1 hfirst
        exact .taken hwins hholds
    | none =>
        have hmissing := findSome?_settingsAt?_eq_none.1 hfirst
        cases named with
        | some path => exact .missing rfl (hmissing path List.mem_cons_self)
        | none => exact .defaults rfl hmissing
  · intro h
    cases h with
    | taken hwins hholds =>
        rw [findSome?_settingsAt?_eq_some.2 ⟨_, hwins, hholds⟩]
        rfl
    | missing hnamed hmissing =>
        subst hnamed
        rw [findSome?_settingsAt?_eq_none.2 (by simpa [Surroundings.settingsPaths] using hmissing)]
        rfl
    | defaults hnamed hmissing =>
        subst hnamed
        rw [findSome?_settingsAt?_eq_none.2 hmissing]
        rfl

namespace Surroundings

/-- A failure to load settings is no accident of the program. -/
theorem Settled.isTold {failure : Failure} (h : here.Settled named (.error failure)) :
    failure.exitCode = 1 ∧ failure.message.isSome := by
  cases h with
  | taken hwins hholds =>
      generalize here.files _ = state at hholds
      cases hholds with
      | unreadable reason => exact ⟨rfl, rfl⟩
      | bad h => exact ⟨rfl, rfl⟩
  | missing hnamed hmissing => exact ⟨rfl, rfl⟩

/-! ### Files that lose -/

/-- The second surroundings are the first with other contents in files that are there and are
neither the settings file that is taken nor the document. -/
structure SameButLosers (here there : Surroundings) (named document : Option Text) : Prop where
  dialect : there.dialect = here.dialect
  userDirectory : there.userDirectory = here.userDirectory
  present : ∀ path, (there.files path).Present ↔ (here.files path).Present
  winner : ∀ path, here.Wins named path → there.files path = here.files path
  document : ∀ path, document = some path → there.files path = here.files path

namespace SameButLosers

theorem settingsPaths (h : SameButLosers here there named document) :
    there.settingsPaths named = here.settingsPaths named := by
  cases named with
  | some path => rfl
  | none => rw [Surroundings.settingsPaths, Surroundings.settingsPaths, h.userDirectory]

theorem wins (h : SameButLosers here there named document) {path : Text}
    (hwins : here.Wins named path) : there.Wins named path := by
  obtain ⟨before, after, hpaths, hpresent, hbefore⟩ := hwins
  exact ⟨before, after, h.settingsPaths.trans hpaths, (h.present path).2 hpresent,
    fun other hother => mt (h.present other).1 (hbefore other hother)⟩

/-- The settings in force do not depend on the files that lose. -/
theorem settled (h : SameButLosers here there named document) {result : Except Failure Settings}
    (hsettled : here.Settled named result) : there.Settled named result := by
  cases hsettled with
  | taken hwins hholds =>
      refine .taken (h.wins hwins) ?_
      rw [h.winner _ hwins]
      exact hholds
  | missing hnamed hmissing => exact .missing hnamed (mt (h.present _).1 hmissing)
  | defaults hnamed hmissing =>
      subst hnamed
      refine .defaults rfl fun path hpath => ?_
      rw [h.settingsPaths] at hpath
      exact mt (h.present path).1 (hmissing path hpath)

end SameButLosers

end Surroundings

end WhereClause.CommandLine
