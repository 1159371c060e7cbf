/-
# The program

The program reads its command line, finds its settings, and runs over the inputs. Without inputs it
does nothing but print its usage.

* `ProgramError` : what ends the program early;
* `Arguments.checkedInputs` : the inputs, of which there must be one;
* `Program.start` : what the program prints, and its exit status.
-/
import PolicyLint.CommandLine.Parser
import PolicyLint.Settings.File
import PolicyLint.Run

namespace PolicyLint

/-- What ends the program early. -/
inductive ProgramError where
  | noInputs
  | settings (error : SettingsError)
  | io (reason : String)
deriving DecidableEq, Repr

/-- The wording of an error. -/
def ProgramError.message : ProgramError → String
  | .noInputs => "no inputs given"
  | .settings error => error.message
  | .io reason => reason

/-- The exit status for an error. -/
def ProgramError.exitCode : ProgramError → Int
  | .noInputs => -1
  | .settings _ => 1
  | .io _ => 1

/-- The inputs of a command line. -/
def Arguments.checkedInputs (a : Arguments) : Except ProgramError (List String) :=
  if a.inputs.isEmpty then .error .noInputs else .ok a.inputs

/-- What a program has printed in the end, and its exit status. -/
structure Finish where
  code : Nat
  stdout : String := ""
  stderr : String := ""
deriving DecidableEq, Repr

namespace Program

/-- An exit status as the system sees it. -/
def systemCode (code : Int) : Nat := (code % 256).toNat

/-- The end of a program whose command line is not run. -/
def stopped : CommandLine.Stop → Finish
  | .help isLong =>
      { code := 0, stdout := if isLong then CommandLine.help else CommandLine.usage }
  | .version => { code := 0, stdout := CommandLine.version ++ "\n" }
  | .unknownOption => failed "unknown option"
  | .missingValue => failed "an option has no value"
  | .repeatedOption => failed "an option is given twice"
  | .needlessValue => failed "an option takes no value"
where
  /-- The end of a program that does not understand its command line. -/
  failed (reason : String) : Finish :=
    { code := 2, stderr := "error: " ++ reason ++ "\n\n" ++ CommandLine.synopsis ++ "\n" }

/-- The note that no settings file was found. -/
def defaultsNote (color : Bool) : String :=
  notePrefix color ++ " No lintrun.toml found; using defaults.\n"

/-- The options of a run with the given settings. -/
def runOptions (e : Effective) : RunOptions := ⟨e.root, e.policy, e.dependencies⟩

/-- The reporter for the given settings. Only lines for people are colored. -/
def reporter (w : Workspace) (color : Bool) (e : Effective) : Reporter :=
  { style := ⟨e.output, color && e.output = .human, w.directoryPath⟩ }

/-- The program with some arguments and at least one input. -/
def run (w : Workspace) (color : Bool) (a : Arguments) (inputs : List String)
    (engine : Pattern.Engine := Pattern.engine) (choices : Nat → Nat := fun _ => 0) : Finish :=
  match Settings.find w a.config w.directoryPath with
  | .error e =>
      let e := ProgramError.settings e
      { code := systemCode e.exitCode
        stderr := errorPrefix color ++ " " ++ e.message ++ "\n" }
  | .ok file =>
      let note := if file.isNone then defaultsNote color else ""
      let e := Settings.resolve a.settings file
      let r := Run.run w (.ofFiles w choices) (runOptions e) (reporter w color e) inputs engine
      ⟨r.exitCode, r.reporter.out.text, note ++ r.reporter.err.text⟩

/-- The program with some words on its command line. -/
def start (w : Workspace) (color : Bool) (words : List String)
    (engine : Pattern.Engine := Pattern.engine) (choices : Nat → Nat := fun _ => 0) : Finish :=
  match Arguments.ofWords words with
  | .error stop => stopped stop
  | .ok a =>
      match a.checkedInputs with
      | .error e => { code := systemCode e.exitCode, stderr := CommandLine.usage ++ "\n" }
      | .ok inputs => run w color a inputs engine choices

end Program

end PolicyLint
