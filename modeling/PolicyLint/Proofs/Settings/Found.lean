/-
# The settings file of a run

A settings file loads if it is a text that describes settings. The one that is named on the command
line must load; without one named the nearest counts, if it loads.

* `Settings.load_eq_ok_iff` : which settings files load;
* `Settings.Found` : the settings file of a run;
* `Settings.find_eq_ok_iff` : it is the one that is found.
-/
import PolicyLint.Settings.File

namespace PolicyLint.Settings

/-- The settings file of a run. One that is named must be a text that describes settings. Otherwise
it is the nearest one, unless there is none or it does not describe settings. -/
inductive Found (w : Workspace) (start : String) : Option String → Option (String × Settings) → Prop
  | named {path text : String} {s : Settings} (reads : w.read path = .ok text)
      (parses : parse? path text = some s) : Found w start (some path) (some (path, s))
  | nearest {path text : String} {s : Settings} (isNearest : discover w start = some path)
      (reads : w.read path = .ok text) (parses : parse? path text = some s) :
      Found w start none (some (path, s))
  | missing (isMissing : discover w start = none) : Found w start none none
  | skipped {path : String} (isNearest : discover w start = some path)
      (fails : ∀ text, w.read path = .ok text → parse? path text = none) : Found w start none none

variable {w : Workspace} {path start : String}

/-- A settings file loads if it is a text that describes settings. -/
theorem load_eq_ok_iff {s : Settings} :
    load w path = .ok s ↔ ∃ text, w.read path = .ok text ∧ parse? path text = some s := by
  rw [load]
  cases w.read path with
  | error e => simp
  | ok text =>
      dsimp only
      cases hparse : parse? path text <;> simp [hparse]

/-- A settings file does not load if it is no text, or one that does not describe settings. -/
theorem toOption_load_eq_none_iff :
    (load w path).toOption = none ↔ ∀ text, w.read path = .ok text → parse? path text = none := by
  rw [load]
  cases w.read path with
  | error e => simp [Except.toOption]
  | ok text =>
      dsimp only
      cases hparse : parse? path text <;> simp [Except.toOption, hparse]

/-- **The settings file of a run is the one that is found.** -/
theorem find_eq_ok_iff {named : Option String} {file : Option (String × Settings)} :
    find w named start = .ok file ↔ Found w start named file := by
  constructor
  · intro h
    cases named with
    | some path =>
        rw [find] at h
        cases hload : load w path with
        | error e =>
            rw [hload] at h
            cases h
        | ok s =>
            rw [hload] at h
            cases h
            obtain ⟨text, hread, hparse⟩ := load_eq_ok_iff.mp hload
            exact .named hread hparse
    | none =>
        rw [find] at h
        cases h
        cases hnearest : discover w start with
        | none => exact .missing hnearest
        | some path =>
            rw [Option.bind_some]
            cases hload : load w path with
            | error e =>
                refine .skipped hnearest (toOption_load_eq_none_iff.mp ?_)
                rw [hload]
                rfl
            | ok s =>
                obtain ⟨text, hread, hparse⟩ := load_eq_ok_iff.mp hload
                exact .nearest hnearest hread hparse
  · intro h
    cases h with
    | named reads parses =>
        rw [find, load_eq_ok_iff.mpr ⟨_, reads, parses⟩]
        rfl
    | nearest isNearest reads parses =>
        rw [find, isNearest, Option.bind_some, load_eq_ok_iff.mpr ⟨_, reads, parses⟩]
        rfl
    | missing isMissing =>
        rw [find, isMissing]
        rfl
    | skipped isNearest fails =>
        rw [find, isNearest, Option.bind_some, toOption_load_eq_none_iff.mpr fails]
        rfl

/-- There is one settings file. -/
theorem Found.unique {named : Option String} {file other : Option (String × Settings)}
    (h : Found w start named file) (h' : Found w start named other) : file = other := by
  have heq := (find_eq_ok_iff.mpr h).symm.trans (find_eq_ok_iff.mpr h')
  cases heq
  rfl

end PolicyLint.Settings
