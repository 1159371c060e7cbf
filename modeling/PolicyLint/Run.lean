/-
# Runs

A run takes the inputs in their order, one at a time. Each is analyzed under the guard, what comes
of it is reported, and then the failures that have arrived meanwhile. After the last input all tasks
are let end, the last failures are reported, and the summary is printed. Without its policy a run
does not start.

* `Run.step` : one input;
* `Run.run` : a whole run, with the calls that it made;
* `RunResult.exitCode` : its exit status.
-/
import PolicyLint.Analyzer
import PolicyLint.Reporter

namespace PolicyLint

/-- A call of the analyzer: the input, the configuration, and the text printed before the call. -/
structure Call where
  input : String
  config : Config
  printed : String

/-- A run on its way: the reporter, the guard, the outcome so far, and the calls so far, oldest
first. -/
structure Run where
  reporter : Reporter
  guard : Guard := .empty
  outcome : Outcome := .empty
  calls : List Call := []

namespace Run

/-- The run after it has reported. -/
def reported (r : Run) (report : Reporter → Outcome → Reporter × Outcome) : Run :=
  let (reporter, outcome) := report r.reporter r.outcome
  { r with reporter, outcome }

/-- Reports what came of an input. -/
def settleInput (r : Run) (input : String) :
    Except Failure (Except InputError (List Warning)) → Run
  | .ok (.ok ws) => r.reported fun p o => p.reportAll ws o
  | .ok (.error e) => r.reported fun p o => p.inputFailed input e.message o
  | .error f => r.reported fun p o => p.guardFailed f o

/-- Reports the failures that wait to be drained. -/
def drainFailures (r : Run) : Run :=
  let (fs, guard) := r.guard.drain
  { r with guard }.reported fun p o => p.guardFailedAll fs o

/-- Analyzes one input and reports what comes of it. -/
def step (a : Analyzer) (c : Config) (r : Run) (input : String) : Run :=
  let script := a r.calls.length c input
  let (result, guard) := r.guard.supervise input script.perform
  let called : Run :=
    { reporter := r.reporter
      guard
      outcome := r.outcome.join .attempted
      calls := r.calls ++ [⟨input, c, r.reporter.out.text⟩] }
  (called.settleInput input result).drainFailures

/-- Lets all tasks end, reports their failures and prints the summary. -/
def finish (r : Run) : Run :=
  let (fs, guard) := r.guard.settle
  let r := { r with guard }.reported fun p o => p.guardFailedAll fs o
  { r with reporter := r.reporter.finish r.outcome }

/-- A run over some inputs with a configuration. -/
def all (a : Analyzer) (c : Config) (reporter : Reporter) (inputs : List String) : Run :=
  (inputs.foldl (step a c) { reporter }).finish

end Run

/-- What a run comes to: its outcome, or why it did not start; what was printed; and the calls. -/
structure RunResult where
  result : Except PolicyLoadError Outcome
  reporter : Reporter
  calls : List Call := []

/-- The exit status: that of the outcome, or one if the run did not start. -/
def RunResult.exitCode (r : RunResult) : Nat :=
  match r.result with
  | .ok o => o.exitCode
  | .error _ => 1

/-- A run over some inputs: its policy is loaded first, and without it no input is analyzed. -/
def Run.run (w : Workspace) (a : Analyzer) (o : RunOptions) (reporter : Reporter)
    (inputs : List String) (engine : Pattern.Engine := Pattern.engine) : RunResult :=
  match o.prepare w engine with
  | .error e => ⟨.error e, reporter.runFailed e.message, []⟩
  | .ok c =>
      let r := Run.all a c reporter inputs
      ⟨.ok r.outcome, r.reporter, r.calls⟩

end PolicyLint
