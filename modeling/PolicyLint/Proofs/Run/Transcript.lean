/-
# What a run prints, counts and calls

A run goes through its inputs one at a time, and its trace tells what comes of each. One step of a
run tells the reporter the warnings and faults of one attempt, counts them, and leaves nothing in
the inbox; so a whole run tells, counts and calls what the whole trace says.

* `Reporter.tell` : warnings to the first stream, faults to the second;
* `Run.step_eq`, `Run.finish_foldl_step` : one input, and all inputs;
* `Run.run_eq_trace` : the law of a whole run.
-/
import PolicyLint.Proofs.Run.Trace

namespace PolicyLint

/-! ## Telling -/

namespace Reporter

/-- Tells warnings to the first stream and faults to the second. -/
def tell (p : Reporter) (ws : List Warning) (xs : List Fault) : Reporter :=
  { p with
    out := p.out.lines (ws.map p.style.warningLine)
    err := p.err.lines (xs.map fun x => p.style.errorLine x.text) }

theorem tell_nil (p : Reporter) : p.tell [] [] = p := rfl

/-- What is told in two parts is told as a whole. -/
theorem tell_tell (p : Reporter) (ws vs : List Warning) (xs ys : List Fault) :
    (p.tell ws xs).tell vs ys = p.tell (ws ++ vs) (xs ++ ys) := by
  simp only [tell, List.map_append, Writer.lines_append]

/-- At the end the first stream takes the summary and is flushed. -/
theorem out_finish (p : Reporter) (o : Outcome) :
    (p.finish o).out = (p.out.line (p.style.summaryLine o)).flush.2 := rfl

/-- The second one is flushed exactly if the first one could be. -/
theorem err_finish (p : Reporter) (o : Outcome) :
    (p.finish o).err = if p.out.broken then p.err else p.err.flush.2 := by
  have hflush : ((p.out.line (p.style.summaryLine o)).flush).1 = !p.out.broken := by
    rw [Writer.flush, Writer.broken_line]
    cases p.out.broken <;> rfl
  rw [finish]
  dsimp only
  rw [hflush]
  cases p.out.broken <;> rfl

/-- Flushed or not, it has taken the same text. -/
theorem text_err_finish (p : Reporter) (o : Outcome) : (p.finish o).err.text = p.err.text := by
  rw [err_finish]
  split
  · rfl
  · exact Writer.text_flush _

/-- The first stream gets a line for each warning, and then the summary. -/
theorem text_out_tell (st : Style) (ws : List Warning) (xs : List Fault) (o : Outcome) :
    ((Reporter.tell { style := st } ws xs).finish o).out.text =
      Text.ofLines (ws.map st.warningLine ++ [st.summaryLine o]) := by
  rw [out_finish, Writer.text_flush]
  show ((Writer.lines {} (ws.map st.warningLine)).lines [st.summaryLine o]).text = _
  rw [← Writer.lines_append, Writer.text_lines_empty]

/-- Reporting warnings tells them and counts them. -/
theorem reportAll_eq (p : Reporter) (ws : List Warning) (o : Outcome) :
    p.reportAll ws o = (p.tell ws [], o.join (.tally 0 ws [])) := by
  induction ws generalizing p o with
  | nil => rw [tell_nil, Outcome.tally_nil, Outcome.join_empty]; rfl
  | cons w ws ih =>
      show (p.report w o).1.reportAll ws (p.report w o).2 = _
      have hreport : p.report w o = (p.tell [w] [], o.join (.tally 0 [w] [])) := by
        rw [← Outcome.ofWarning_eq_tally]
        rfl
      rw [hreport, ih, tell_tell, Outcome.join_join_tally]
      rfl

/-- Reporting failures of the guard tells them and counts them. -/
theorem guardFailedAll_eq (p : Reporter) (fs : List Failure) (o : Outcome) :
    p.guardFailedAll fs o =
      (p.tell [] (fs.map .failure), o.join (.tally 0 [] (fs.map .failure))) := by
  induction fs generalizing p o with
  | nil => rw [List.map_nil, tell_nil, Outcome.tally_nil, Outcome.join_empty]; rfl
  | cons f fs ih =>
      show (p.tell [] [.failure f]).guardFailedAll fs (o.join (.tally 0 [] [.failure f])) = _
      rw [ih, tell_tell, Outcome.join_join_tally]
      rfl

end Reporter

/-! ## One input -/

namespace Run

variable (a : Analyzer) (c : Config)

/-- What a run has told and counted after it has reported what an input came to. -/
theorem settleInput_eq (r : Run) (input : String) (e : Ending) (g : Guard) :
    let script : Script := ⟨[], e⟩
    r.settleInput input (g.supervise input script.perform).1 =
      { r with
        reporter := r.reporter.tell e.found (e.faults input)
        outcome := r.outcome.join (.tally 0 e.found (e.faults input)) } := by
  cases e with
  | warnings ws =>
      simp only [Guard.supervise, Script.perform, Ending.result, settleInput, reported,
        Reporter.reportAll_eq, Ending.found, Ending.faults]
  | rejected e => rfl
  | panicked p => rfl

/-- What a run has told and counted after it has drained the guard. -/
theorem drainFailures_eq (r : Run) (ts : List Task) (fs : List Failure)
    (h : r.guard = ⟨ts, fs, true⟩) :
    r.drainFailures =
      { r with
        reporter := r.reporter.tell [] (fs.map .failure)
        guard := ⟨ts, [], true⟩
        outcome := r.outcome.join (.tally 0 [] (fs.map .failure)) } := by
  simp only [drainFailures, h, Guard.drain, reported, Reporter.guardFailedAll_eq]

/-- **One step of a run.** From an empty inbox, a step calls the analyzer once, tells and counts the
warnings and faults of the attempt, and leaves an empty inbox. -/
theorem step_eq (r : Run) (ts : List Task) (h : r.guard = ⟨ts, [], true⟩) (input : String) :
    let script := a r.calls.length c input
    let sent := Action.sendsAll ts script.actions
    let x : Attempt := ⟨input, script.ending, sent.1⟩
    r.step a c input =
      { reporter := r.reporter.tell x.ending.found x.faults
        guard := ⟨sent.2, [], true⟩
        outcome := r.outcome.join (.tally 1 x.ending.found x.faults)
        calls := r.calls ++ [⟨input, c, r.reporter.out.text⟩] } := by
  obtain ⟨reporter, guard, outcome, calls⟩ := r
  subst h
  simp only [step]
  generalize a calls.length c input = script
  obtain ⟨actions, ending⟩ := script
  -- how the call ends decides its result only, and what it does decides the guard only
  have hsupervise : (Guard.mk ts [] true).supervise input (Script.mk actions ending).perform =
      (((Guard.mk ts [] true).supervise input (Script.mk [] ending).perform).1,
        ⟨(Action.sendsAll ts actions).2, (Action.sendsAll ts actions).1, true⟩) := by
    simp only [Guard.supervise, Script.perform, Action.foldl_perform_eq]
    cases ending <;> rfl
  rw [hsupervise]
  simp only []
  rw [settleInput_eq, drainFailures_eq _ _ _ rfl]
  simp only [Reporter.tell_tell, Outcome.join_join_tally, List.append_nil, Attempt.faults]
  rw [Outcome.join_assoc, show Outcome.attempted = .tally 1 [] [] from rfl, Outcome.join_tally]
  rfl

/-! ## All inputs -/

/-- The calls of a run that makes the given attempts from a reporter on. Each call finds printed
what the attempts before it have found. -/
def callsFrom (c : Config) : Reporter → List Attempt → List Call
  | _, [] => []
  | p, x :: xs => ⟨x.input, c, p.out.text⟩ :: callsFrom c (p.tell x.ending.found x.faults) xs

theorem getElem?_callsFrom (p : Reporter) (xs : List Attempt) (i : Nat) :
    (callsFrom c p xs)[i]? = xs[i]?.map fun x =>
      ⟨x.input, c, (p.out.lines
        (((xs.take i).flatMap fun y => y.ending.found).map p.style.warningLine)).text⟩ := by
  induction xs generalizing p i with
  | nil => rfl
  | cons x xs ih =>
      cases i with
      | zero => rfl
      | succ i =>
          rw [callsFrom, List.getElem?_cons_succ, List.getElem?_cons_succ, ih, List.take_succ_cons,
            List.flatMap_cons, List.map_append, Writer.lines_append]
          rfl

/-- **All steps of a run and its end.** By induction over the inputs: each step leaves an empty
inbox, so the next one finds nothing but what its own call sends, and the end settles the rest. -/
theorem finish_foldl_step (inputs : List String) (r : Run) (ts : List Task)
    (h : r.guard = ⟨ts, [], true⟩) :
    let t := a.traceFrom c r.calls.length ts inputs
    (inputs.foldl (step a c) r).finish =
      { reporter := (r.reporter.tell t.warnings t.faults).finish (r.outcome.join t.outcome)
        guard := .empty
        outcome := r.outcome.join t.outcome
        calls := r.calls ++ callsFrom c r.reporter t.attempts } := by
  induction inputs generalizing r ts with
  | nil =>
      simp only [List.foldl_nil, finish, h, Guard.settle_eq, reported, Reporter.guardFailedAll_eq,
        Analyzer.traceFrom, Trace.outcome, Trace.warnings, Trace.faults, List.flatMap_nil,
        List.nil_append, List.length_nil, callsFrom, List.append_nil]
  | cons input inputs ih =>
      rw [List.foldl_cons, step_eq a c r ts h input]
      simp only [Analyzer.traceFrom]
      generalize Action.sendsAll ts (a r.calls.length c input).actions = sent
      rw [ih _ sent.2 rfl]
      simp only [List.length_append, List.length_cons, List.length_nil, Nat.zero_add]
      generalize a.traceFrom c (r.calls.length + 1) sent.2 inputs = t
      rw [Reporter.tell_tell, Trace.warnings_cons, Trace.faults_cons, Trace.outcome_cons,
        ← Outcome.join_assoc, callsFrom, List.append_assoc]
      rfl

/-! ## Whole runs -/

variable (w : Workspace) (o : RunOptions) (reporter : Reporter) (inputs : List String)
  {engine : Pattern.Engine}

/-- The configuration of a run with the given policy. -/
def configOf (policy : Option Policy) : Config := ⟨Root.normalize o.root, policy, o.dependencies⟩

/-- Without its policy a run tells why, and does nothing else. -/
theorem run_of_load_error (e : PolicyLoadError) (h : Policy.load w o.policy engine = .error e) :
    run w a o reporter inputs engine = ⟨.error e, reporter.runFailed e.message, []⟩ := by
  rw [run, RunOptions.prepare, h]
  rfl

/-- With its policy a run does what its trace says. -/
theorem run_of_load_ok (policy : Option Policy) (h : Policy.load w o.policy engine = .ok policy) :
    let t := a.trace (configOf o policy) inputs
    run w a o reporter inputs engine =
      ⟨.ok t.outcome, (reporter.tell t.warnings t.faults).finish t.outcome,
        callsFrom (configOf o policy) reporter t.attempts⟩ := by
  rw [run, RunOptions.prepare, h]
  simp only [Except.map, all]
  rw [finish_foldl_step a _ inputs { reporter } [] rfl]
  simp only [List.nil_append, List.length_nil]
  rw [Outcome.empty_join]
  rfl

/-- How a trace follows from the calls of the analyzer: there is one attempt for each input, in its
place, and it ends as the call with that number ends; what the first attempts have received is what
has been sent by the end of their calls; and all that is sent is received at last. -/
structure Follows (c : Config) (t : Trace) : Prop where
  attempts : ∀ i, (t.attempts[i]?.map fun x => (x.input, x.ending)) =
    inputs[i]?.map fun input => (input, (a i c input).ending)
  arrived : ∀ i, ((t.attempts.take i).flatMap fun x => x.arrived) =
    (Action.sendsAll [] (a.actionsFrom c 0 (inputs.take i))).1
  late : (t.attempts.flatMap fun x => x.arrived) ++ t.late =
    (Action.sendsAll [] (a.actionsFrom c 0 inputs ++ [.pump])).1

/-- How a run shows its trace on two plain streams: there is one call for each input, in its place
and with the configuration of the run, which finds printed the warnings of the inputs before it; the
first stream gets all warnings and the summary, the second one all faults; and the outcome counts
them. -/
structure Shows (c : Config) (st : Style) (t : Trace) (r : RunResult) : Prop where
  calls : ∀ i, r.calls[i]? = inputs[i]?.map fun input =>
    Call.mk input c (Text.ofLines
      (((t.attempts.take i).flatMap fun x => x.ending.found).map st.warningLine))
  out : r.reporter.out.text =
    Text.ofLines (t.warnings.map st.warningLine ++ [st.summaryLine t.outcome])
  err : r.reporter.err.text = Text.ofLines (t.faults.map fun x => "error: " ++ x.text)
  result : r.result = .ok t.outcome
  exitCode : r.exitCode = t.outcome.exitCode
  outcome : t.outcome =
    { fatal := decide (0 < t.outcome.failedInputs + t.outcome.fatalWarnings +
        t.outcome.guardFailures)
      inputs := inputs.length
      failedInputs := t.attempts.countP fun x => x.ending.isRejected
      warnings := t.warnings.length
      fatalWarnings := t.warnings.countP fun w => w.fatal
      guardFailures := t.attempts.countP (fun x => x.ending.isPanic) +
        (t.attempts.flatMap fun x => x.arrived).length + t.late.length }

theorem follows_trace (c : Config) : Follows a inputs c (a.trace c inputs) where
  attempts := by
    have h := a.getElem?_attempts_traceFrom c 0 [] inputs
    simpa only [Nat.zero_add, Analyzer.trace] using h
  arrived := a.arrived_take_traceFrom c 0 [] inputs
  late := a.arrived_traceFrom c 0 [] inputs

/-- In a style without colors an error is its text after a plain prefix. -/
theorem errorLine_of_plain (st : Style) (h : st.color = false) (message : String) :
    st.errorLine message = "error: " ++ message := by
  rw [Style.errorLine, h]
  rfl

/-- A run with a policy shows its trace. -/
theorem shows_trace (st : Style) (h : st.color = false) (policy : Option Policy)
    (hload : Policy.load w o.policy = .ok policy) :
    Shows inputs (configOf o policy) st (a.trace (configOf o policy) inputs)
      (run w a o { style := st } inputs) := by
  have hrun := run_of_load_ok a w o { style := st } inputs policy hload
  have htrace := follows_trace a inputs (configOf o policy)
  have hlength : (a.trace (configOf o policy) inputs).attempts.length = inputs.length :=
    a.length_attempts_traceFrom _ 0 [] inputs
  generalize a.trace (configOf o policy) inputs = t at hrun htrace hlength ⊢
  rw [hrun]
  refine ⟨?_, ?_, ?_, rfl, rfl, ?_⟩
  · intro i
    have hinput : inputs[i]? = t.attempts[i]?.map fun x => x.input := by
      have := congrArg (Option.map Prod.fst) (htrace.attempts i)
      rw [Option.map_map, Option.map_map] at this
      exact (this.trans Option.map_id').symm
    dsimp only
    rw [getElem?_callsFrom, hinput, Option.map_map]
    congr 1
    funext x
    dsimp only [Function.comp]
    rw [Writer.text_lines_empty]
  · exact Reporter.text_out_tell st t.warnings t.faults t.outcome
  · dsimp only
    rw [Reporter.text_err_finish]
    show (Writer.lines {} (t.faults.map fun x => st.errorLine x.text)).text = _
    rw [Writer.text_lines_empty]
    congr 2
    funext x
    exact errorLine_of_plain st h x.text
  · rw [← hlength]
    exact t.outcome_eq

/-- **The law of a run** on two plain streams. Without its policy a run makes no call, prints
nothing, tells one error, and fails with it. With its policy it makes one call for each input, in
order and with one configuration, and shows the trace of these calls: the warnings input by input
and then the summary; the errors input by input, that of the call before the failures that have
arrived since, and then all that still arrive; and the counts of all that. -/
theorem run_eq_trace (mode : OutputMode) (directory : String) :
    let st : Style := { mode, color := false, workingDirectory := directory }
    let r := run w a o { style := st } inputs
    match Policy.load w o.policy with
    | .error e =>
        r.calls = [] ∧ r.reporter.out.text = "" ∧
          r.reporter.err.text = "error: " ++ e.message ++ "\n" ∧
          r.result = .error e ∧ r.exitCode = 1
    | .ok policy =>
        let c : Config := ⟨Root.normalize o.root, policy, o.dependencies⟩
        Follows a inputs c (a.trace c inputs) ∧ Shows inputs c st (a.trace c inputs) r := by
  intro st r
  cases hload : Policy.load w o.policy with
  | error e =>
      have hr : r = _ := run_of_load_error a w o { style := st } inputs e hload
      rw [hr]
      refine ⟨rfl, rfl, ?_, rfl, rfl⟩
      show (Writer.lines {} [st.errorLine e.message]).text = _
      rw [Writer.text_lines_empty, Text.ofLines, Text.ofLines, errorLine_of_plain st rfl,
        String.append_empty]
  | ok policy => exact ⟨follows_trace a inputs _, shows_trace a w o inputs st rfl policy hload⟩

end Run

end PolicyLint
