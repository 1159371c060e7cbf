/-
# The exit status

The program ends with status zero exactly if nothing keeps it from linting and nothing that it finds
is fatal: the settings file that it was told to use loads, so does the policy, every input is there,
every target holds a text, and no warning is fatal. In every other case it ends with status one;
without inputs it prints its usage and ends with status 255, whatever the files hold.

* `Policy.Loads` : the policy of a run;
* `Scan.Passes` : whether nothing about an input is fatal;
* `Program.EndsWell` : whether nothing about a run is fatal;
* `Program.code_eq_zero_iff` : the exit status.
-/
import PolicyLint.Proofs.Run.Files
import PolicyLint.Proofs.Settings.Found
import PolicyLint.Program

namespace PolicyLint

/-! ## Policies -/

/-- The policy of a run, if a path is given: the text there is a document, and its requirements
become rules. -/
inductive Policy.Loads (w : Workspace) (engine : Pattern.Engine) :
    Option String → Option Policy → Prop
  | none : Loads w engine none none
  | some {path text : String} {document : PolicyDocument} {policy : Policy}
      (reads : w.read path = .ok text) (parses : PolicyDocument.parse? path text = some document)
      (compiles : ofRequirements document.requirements engine = .ok policy) :
      Loads w engine (some path) (some policy)

/-- **A policy loads if it is read, parsed and compiled.** -/
theorem Policy.load_eq_ok_iff {w : Workspace} {engine : Pattern.Engine} {path : Option String}
    {policy : Option Policy} : load w path engine = .ok policy ↔ Loads w engine path policy := by
  constructor
  · intro h
    cases path with
    | none =>
        cases h
        exact .none
    | some path =>
        rw [load] at h
        cases hread : w.read path with
        | error e =>
            rw [hread] at h
            cases h
        | ok text =>
            rw [hread] at h
            dsimp only at h
            rw [parse] at h
            cases hparse : PolicyDocument.parse? path text with
            | none =>
                rw [hparse] at h
                cases h
            | some document =>
                rw [hparse] at h
                dsimp only at h
                cases hcompile : ofRequirements document.requirements engine with
                | error e =>
                    rw [hcompile] at h
                    cases h
                | ok policy =>
                    rw [hcompile] at h
                    cases h
                    exact .some hread hparse hcompile
  · rintro (_ | ⟨hread, hparse, hcompile⟩)
    · rfl
    · rw [load, hread]
      dsimp only
      rw [parse, hparse]
      dsimp only
      rw [hcompile]
      rfl

/-! ## Inputs -/

/-- Whether nothing about an input is fatal: it is there, each of its targets holds a text, and no
warning is fatal. -/
structure Scan.Passes (w : Workspace) (c : Config) (input : String) : Prop where
  isThere : w.pathExists (c.resolve input) = true
  isText : ∀ file ∈ targetsOf w c (c.resolve input), w.find file ≠ .ok (.file none)
  isHarmless : ∀ ws, Scan.input w c input = .ok ws → ∀ v ∈ ws, v.fatal = false

/-- An input passes if it is scanned without fatal warnings. -/
theorem Scan.passes_iff {w : Workspace} {c : Config} {input : String} :
    Passes w c input ↔ ∃ ws, Scan.input w c input = .ok ws ∧ ∀ v ∈ ws, v.fatal = false := by
  constructor
  · rintro ⟨hthere, htext, hharmless⟩
    obtain ⟨ws, hws⟩ := exists_scan_eq_ok_iff.mpr ⟨hthere, htext⟩
    exact ⟨ws, hws, hharmless ws hws⟩
  · rintro ⟨ws, hws, hharmless⟩
    obtain ⟨hthere, htext⟩ := exists_scan_eq_ok_iff.mp ⟨ws, hws⟩
    refine ⟨hthere, htext, ?_⟩
    intro vs hvs
    rw [hws] at hvs
    cases hvs
    exact hharmless

/-! ## Runs -/

namespace Program

/-- Whether nothing about a run with the given settings is fatal: its policy loads and every input
passes. -/
def EndsWell (w : Workspace) (e : Effective) (inputs : List String)
    (engine : Pattern.Engine := Pattern.engine) : Prop :=
  ∃ policy, Policy.Loads w engine e.policy policy ∧
    ∀ input ∈ inputs, Scan.Passes w ⟨Root.normalize e.root, policy, e.dependencies⟩ input

/-- An outcome has status zero if it is not fatal. -/
theorem exitCode_eq_zero_iff (o : Outcome) : o.exitCode = 0 ↔ o.fatal = false := by
  rw [Outcome.exitCode]
  cases o.fatal <;> simp

/-- The status of a run is zero or one. -/
theorem exitCode_run_le_one (r : RunResult) : r.exitCode = 0 ∨ r.exitCode = 1 := by
  rw [RunResult.exitCode]
  cases r.result with
  | error e => exact .inr rfl
  | ok o =>
      dsimp only
      rw [Outcome.exitCode]
      cases o.fatal
      · exact .inl rfl
      · exact .inr rfl

/-- **A run over files has status zero if nothing about it is fatal.** -/
theorem exitCode_run_eq_zero_iff (w : Workspace) (choices : Nat → Nat) (e : Effective)
    (reporter : Reporter) (inputs : List String) (engine : Pattern.Engine) :
    (Run.run w (.ofFiles w choices) (runOptions e) reporter inputs engine).exitCode = 0 ↔
      EndsWell w e inputs engine := by
  cases hload : Policy.load w e.policy engine with
  | error error =>
      rw [Run.run_of_load_error _ w (runOptions e) reporter inputs error hload]
      constructor
      · intro h
        cases h
      · rintro ⟨policy, hpolicy, -⟩
        rw [Policy.load_eq_ok_iff.mpr hpolicy] at hload
        cases hload
  | ok policy =>
      have hconfig : Run.configOf (runOptions e) policy =
          ⟨Root.normalize e.root, policy, e.dependencies⟩ := rfl
      rw [Run.run_of_load_ok _ w (runOptions e) reporter inputs policy hload, hconfig]
      dsimp only [RunResult.exitCode]
      rw [Analyzer.trace_ofFiles, exitCode_eq_zero_iff, Scan.fatal_results_iff]
      constructor
      · intro h
        exact ⟨policy, Policy.load_eq_ok_iff.mp hload, fun input hi =>
          Scan.passes_iff.mpr (h input hi)⟩
      · -- the policy that loads is the one of the run
        rintro ⟨other, hother, h⟩ input hi
        rw [Policy.load_eq_ok_iff.mpr hother] at hload
        cases hload
        exact Scan.passes_iff.mp (h input hi)

/-! ## The program -/

variable {w : Workspace} {color : Bool} {words : List String} {a : Arguments}
  {engine : Pattern.Engine} {choices : Nat → Nat}

/-- Without inputs the program prints its usage to the second stream. -/
theorem start_of_no_inputs (h : Arguments.ofWords words = .ok a) (hnone : a.inputs = []) :
    start w color words engine choices =
      { code := 255, stderr := CommandLine.usage ++ "\n" } := by
  have hcode : systemCode ProgramError.noInputs.exitCode = 255 := by decide
  have hchecked : a.checkedInputs = .error .noInputs := by
    rw [Arguments.checkedInputs, hnone]
    rfl
  rw [start, h]
  dsimp only
  rw [hchecked]
  dsimp only
  rw [hcode]

/-- With inputs the program runs over them. -/
theorem start_of_inputs (h : Arguments.ofWords words = .ok a) (hsome : a.inputs ≠ []) :
    start w color words engine choices = run w color a a.inputs engine choices := by
  have hchecked : a.checkedInputs = .ok a.inputs := by
    rw [Arguments.checkedInputs, if_neg (fun hnone => hsome (List.isEmpty_iff.mp hnone))]
  rw [start, h]
  dsimp only
  rw [hchecked]

/-- The status of a run of the program is zero or one. -/
theorem code_run (inputs : List String) :
    (run w color a inputs engine choices).code = 0 ∨
      (run w color a inputs engine choices).code = 1 := by
  rw [run]
  cases Settings.find w a.config w.directoryPath with
  | error e => exact .inr rfl
  | ok file => exact exitCode_run_le_one _

/-- The status of a run of the program is zero if the settings file is found and nothing about the
run is fatal. -/
theorem code_run_eq_zero_iff (inputs : List String) :
    (run w color a inputs engine choices).code = 0 ↔
      ∃ file, Settings.Found w w.directoryPath a.config file ∧
        EndsWell w (Settings.resolve a.settings file) inputs engine := by
  rw [run]
  cases hfind : Settings.find w a.config w.directoryPath with
  | error e =>
      constructor
      · intro hzero
        cases hzero
      · rintro ⟨file, hfile, -⟩
        rw [Settings.find_eq_ok_iff.mpr hfile] at hfind
        cases hfind
  | ok file =>
      have hfound := Settings.find_eq_ok_iff.mp hfind
      refine (exitCode_run_eq_zero_iff w _ _ _ _ _).trans ⟨fun hwell => ⟨file, hfound, hwell⟩, ?_⟩
      rintro ⟨other, hother, hwell⟩
      rw [hfound.unique hother]
      exact hwell

/-- **The exit status of the program.** Without inputs it is 255, and nothing is printed to the
first stream. With inputs it is zero exactly if the settings file is found and nothing about the run
with these settings is fatal, else one. Where no settings file is named and the nearest is missing
or does not load, it is that of a run with the settings of the command line. The choices among
errors make no difference. -/
theorem code_eq_zero_iff (w : Workspace) (color : Bool) (words : List String) (a : Arguments)
    (engine : Pattern.Engine) (choices : Nat → Nat) (h : Arguments.ofWords words = .ok a) :
    let inputs := a.input ++ a.paths
    let finish := start w color words engine choices
    (inputs = [] → finish.code = 255 ∧ finish.stdout = "") ∧
    (inputs ≠ [] →
      (finish.code = 0 ∨ finish.code = 1) ∧
      (finish.code = 0 ↔ ∃ file, Settings.Found w w.directoryPath a.config file ∧
        EndsWell w (Settings.resolve a.settings file) inputs engine) ∧
      (Settings.Found w w.directoryPath a.config none →
        (finish.code = 0 ↔ EndsWell w (Settings.resolve a.settings none) inputs engine))) := by
  intro inputs finish
  constructor
  · intro hnone
    have hfinish : finish = _ := start_of_no_inputs h hnone
    rw [hfinish]
    exact ⟨rfl, rfl⟩
  · intro hsome
    have hfinish : finish = _ := start_of_inputs h hsome
    have hcode : (run w color a inputs engine choices).code = 0 ↔ _ := code_run_eq_zero_iff inputs
    rw [hfinish]
    refine ⟨code_run _, hcode, ?_⟩
    intro hfound
    refine hcode.trans ⟨?_, fun hwell => ⟨none, hfound, hwell⟩⟩
    rintro ⟨file, hfile, hwell⟩
    rw [hfound.unique hfile]
    exact hwell

/-- A script in a directory whose settings file does not describe settings. -/
def brokenSettings : Workspace :=
  ⟨.directory [("lintrun.toml", .file (some "=")), ("p.js", .file (some "x"))], []⟩

/-- Its settings file is the nearest, and is skipped. -/
theorem found_brokenSettings :
    Settings.Found brokenSettings brokenSettings.directoryPath none none := by
  have hnearest : Settings.discover brokenSettings brokenSettings.directoryPath =
      some "/lintrun.toml" := by decide +kernel
  have htext : brokenSettings.read "/lintrun.toml" = .ok "=" := by decide +kernel
  have hparse : Settings.parse? "/lintrun.toml" "=" = none := by decide +kernel
  refine .skipped hnearest ?_
  intro text hread
  rw [htext] at hread
  cases hread
  exact hparse

/-- The program passes over the settings file and ends well; without words it prints its usage. -/
theorem code_brokenSettings :
    (Arguments.ofWords ["p.js"] = .ok { paths := ["p.js"] } ∧
      Settings.Found brokenSettings brokenSettings.directoryPath none none ∧
      (start brokenSettings false ["p.js"]).code = 0 ∧
      EndsWell brokenSettings (Settings.resolve {} none) ["p.js"]) ∧
    Arguments.ofWords [] = .ok {} ∧
      (start brokenSettings false []).code = 255 ∧ (start brokenSettings false []).stdout = "" := by
  have hwords : Arguments.ofWords ["p.js"] = .ok { paths := ["p.js"] } := rfl
  have hcode : (start brokenSettings false ["p.js"]).code = 0 := by decide +kernel
  obtain ⟨-, hinputs⟩ :=
    code_eq_zero_iff brokenSettings false ["p.js"] _ Pattern.engine (fun _ => 0) hwords
  obtain ⟨-, -, hwell⟩ := hinputs (List.cons_ne_nil _ _)
  have hnone : Arguments.ofWords [] = .ok {} := rfl
  exact ⟨⟨hwords, found_brokenSettings, hcode, (hwell found_brokenSettings).mp hcode⟩, hnone,
    (code_eq_zero_iff brokenSettings false [] {} Pattern.engine (fun _ => 0) hnone).1 rfl⟩

end Program

end PolicyLint
