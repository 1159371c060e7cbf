/-
# Runs do not depend on turns and pumps

However many turns background tasks give up, and wherever pumps stand, a run prints every failure of
detached work once: the failures that are printed are those that can be counted by looking at the
scripts of the calls. So runs whose scripts differ only in turns and pumps come to the same outcome.

* `Analyzer.failures_traceFrom_perm` : the failures of a trace are those of its scripts;
* `Trace.outcome_congr` : what the outcome of a trace depends on;
* `Run.failures_perm_and_schedule_irrelevant` : the law for whole runs.
-/
import PolicyLint.Proofs.Run.Transcript

namespace PolicyLint

/-! ## Failures of a trace -/

namespace Analyzer

variable (a b : Analyzer) (c : Config)

/-- The failures that come of the calls for some inputs, the first of which has the given number. -/
def failuresFrom (n : Nat) (inputs : List String) : List Failure :=
  (inputs.zipIdx n).flatMap fun p => (a p.2 c p.1).failures p.1

/-- **The failures of a trace** are those of the tasks that wait at its start and those that come of
its calls. By induction over the inputs: what a call sends and leaves to be sent is what was to be
sent before it and what comes of it. -/
theorem failures_traceFrom_perm (n : Nat) (ts : List Task) (inputs : List String) :
    (a.traceFrom c n ts inputs).failures.Perm
      (Task.allFailuresOf ts ++ a.failuresFrom c n inputs) := by
  induction inputs generalizing n ts with
  | nil =>
      show (Task.arrivals ts).Perm (Task.allFailuresOf ts ++ [])
      rw [List.append_nil]
      exact Task.arrivals_perm ts
  | cons input inputs ih =>
      -- what a call sends and leaves is as much as it finds and as comes of its actions
      have hsent := Action.sendsAll_perm (a n c input).actions ts
      simp only [traceFrom, Trace.failures_cons]
      generalize Action.sendsAll ts (a n c input).actions = sent at hsent ⊢
      have hrest : (a.traceFrom c (n + 1) sent.2 inputs).failures.Perm
          (Task.allFailuresOf sent.2 ++ a.failuresFrom c (n + 1) inputs) := ih (n + 1) sent.2
      rw [failuresFrom, List.zipIdx_cons, List.flatMap_cons, ← failuresFrom, Script.failures]
      generalize (a n c input).ending.panicFailures input = panics
      generalize (a n c input).actions.flatMap Action.failures = acted at hsent ⊢
      refine (hrest.append_left _).trans ?_
      have hregroup : (panics ++ ((sent.1 ++ Task.allFailuresOf sent.2) ++
            a.failuresFrom c (n + 1) inputs)).Perm
          (panics ++ ((Task.allFailuresOf ts ++ acted) ++ a.failuresFrom c (n + 1) inputs)) :=
        (hsent.append_right _).append_left _
      simp only [List.append_assoc] at hregroup ⊢
      exact hregroup.trans (List.perm_append_comm_assoc _ _ _)

/-- The number of failures that come of the calls for some inputs. -/
theorem length_failuresFrom (n : Nat) (inputs : List String) :
    (a.failuresFrom c n inputs).length =
      ((inputs.zipIdx n).map fun p => (a p.2 c p.1).failureCount).sum := by
  rw [failuresFrom, List.length_flatMap]
  congr 1
  exact List.map_congr_left fun p _ => Script.length_failures p.1 (a p.2 c p.1)

/-- Two analyzers agree on some inputs up to turns and pumps: their scripts for these inputs differ
at most in the turns that tasks give up and in where pumps stand. -/
def AgreesUnscheduled (inputs : List String) : Prop :=
  ∀ i input, inputs[i]? = some input → (b i c input).unscheduled = (a i c input).unscheduled

variable {a b c} {inputs : List String}

/-- Turns and pumps change no failure. -/
theorem AgreesUnscheduled.failuresFrom (h : AgreesUnscheduled a b c inputs) :
    b.failuresFrom c 0 inputs = a.failuresFrom c 0 inputs := by
  rw [Analyzer.failuresFrom, Analyzer.failuresFrom, List.flatMap, List.flatMap]
  congr 1
  apply List.map_congr_left
  rintro ⟨input, i⟩ hmem
  have hi : inputs[i]? = some input := List.mk_mem_zipIdx_iff_getElem?.mp hmem
  rw [← Script.failures_unscheduled, h i input hi, Script.failures_unscheduled]

/-- Nor do they change how a call ends. -/
theorem AgreesUnscheduled.endings (h : AgreesUnscheduled a b c inputs) :
    ((b.trace c inputs).attempts.map fun x => (x.input, x.ending)) =
      (a.trace c inputs).attempts.map fun x => (x.input, x.ending) := by
  apply List.ext_getElem?
  intro i
  rw [List.getElem?_map, List.getElem?_map, (Run.follows_trace b inputs c).attempts i,
    (Run.follows_trace a inputs c).attempts i]
  cases hi : inputs[i]? with
  | none => rfl
  | some input =>
      have hending : (b i c input).unscheduled.ending = (a i c input).unscheduled.ending :=
        congrArg Script.ending (h i input hi)
      exact congrArg (fun e => some (input, e)) hending

end Analyzer

/-- **What an outcome depends on**: the inputs with the endings of their calls, and the number of
failures that reach the guard. -/
theorem Trace.outcome_congr {t u : Trace}
    (hendings : (t.attempts.map fun x => (x.input, x.ending)) =
      u.attempts.map fun x => (x.input, x.ending))
    (hfailures : t.failures.length = u.failures.length) : t.outcome = u.outcome := by
  have hlength : t.attempts.length = u.attempts.length := by
    simpa only [List.length_map] using congrArg List.length hendings
  have hwarnings : t.warnings = u.warnings := by
    have := congrArg (fun l => l.flatMap fun p : String × Ending => p.2.found) hendings
    rw [warnings, warnings]
    simpa only [List.flatMap_map] using this
  have hrejected : t.faults.countP Fault.isRejection = u.faults.countP Fault.isRejection := by
    have := congrArg (fun l => l.countP fun p : String × Ending => p.2.isRejected) hendings
    rw [countP_isRejection_faults, countP_isRejection_faults]
    simpa only [List.countP_map, Function.comp_def] using this
  have hguard : (t.faults.filterMap Fault.failure?).length =
      (u.faults.filterMap Fault.failure?).length := by
    rw [filterMap_failure?_faults, filterMap_failure?_faults, hfailures]
  -- whether an outcome is fatal is not counted but follows from the counters
  have hfatal : t.outcome.fatal = u.outcome.fatal := by
    rw [outcome, outcome, Outcome.fatal_tally, Outcome.fatal_tally, decide_eq_decide]
    simp only [Outcome.tally, hwarnings, hrejected, hguard]
  have htally : ∀ v : Trace, v.outcome =
      { fatal := v.outcome.fatal
        inputs := v.attempts.length
        failedInputs := v.faults.countP Fault.isRejection
        warnings := v.warnings.length
        fatalWarnings := v.warnings.countP (·.fatal)
        guardFailures := (v.faults.filterMap Fault.failure?).length } := fun v => rfl
  rw [htally t, htally u, hfatal, hlength, hrejected, hwarnings, hguard]

/-! ## Whole runs -/

namespace Run

/-- **No failure of detached work is lost or counted twice.** When the policy loads, a run prints
the faults of its trace to a second stream that takes text, and the failures among them are, in some
order, those that come of the scripts of its calls; the counter of failures is the count over these
scripts. So another analyzer whose scripts differ only in turns and pumps makes a run with the same
result, the same exit status, and the same failures in some order. -/
theorem failures_perm_and_schedule_irrelevant (a : Analyzer) (w : Workspace) (o : RunOptions)
    (reporter : Reporter) (inputs : List String) (policy : Option Policy)
    (hload : Policy.load w o.policy = .ok policy) :
    let c : Config := ⟨Root.normalize o.root, policy, o.dependencies⟩
    let printed (b : Analyzer) := (b.trace c inputs).faults
    let errors (b : Analyzer) := reporter.err.text ++
      Text.ofLines ((printed b).map fun x => reporter.style.errorLine x.text)
    let r (b : Analyzer) := run w b o reporter inputs
    ((reporter.err.broken = false → (r a).reporter.err.text = errors a) ∧
      ((printed a).filterMap Fault.failure?).Perm
        (inputs.zipIdx.flatMap fun p => (a p.2 c p.1).failures p.1) ∧
      (r a).result.map (fun outcome => outcome.guardFailures) =
        .ok ((inputs.zipIdx.map fun p => (a p.2 c p.1).failureCount).sum)) ∧
    ∀ b : Analyzer, a.AgreesUnscheduled b c inputs →
      (r b).result = (r a).result ∧ (r b).exitCode = (r a).exitCode ∧
      (reporter.err.broken = false → (r b).reporter.err.text = errors b) ∧
      ((printed b).filterMap Fault.failure?).Perm ((printed a).filterMap Fault.failure?) := by
  intro c printed errors r
  have hrun : ∀ b : Analyzer, r b = _ := fun b => run_of_load_ok b w o reporter inputs policy hload
  have hperm : ∀ b : Analyzer,
      ((printed b).filterMap Fault.failure?).Perm (b.failuresFrom c 0 inputs) := by
    intro b
    rw [Trace.filterMap_failure?_faults]
    exact b.failures_traceFrom_perm c 0 [] inputs
  have herrors : ∀ b : Analyzer,
      reporter.err.broken = false → (r b).reporter.err.text = errors b := by
    intro b herr
    rw [hrun b]
    dsimp only
    rw [Reporter.text_err_finish]
    exact Writer.text_lines _ herr _
  refine ⟨⟨herrors a, hperm a, ?_⟩, ?_⟩
  · rw [hrun a]
    show Except.ok _ = Except.ok _
    rw [← Analyzer.length_failuresFrom, ← (hperm a).length_eq]
    rfl
  · intro b hagrees
    have hfailures : ((printed b).filterMap Fault.failure?).Perm
        ((printed a).filterMap Fault.failure?) := by
      refine (hperm b).trans ?_
      rw [hagrees.failuresFrom]
      exact (hperm a).symm
    have houtcome : (b.trace c inputs).outcome = (a.trace c inputs).outcome := by
      apply Trace.outcome_congr hagrees.endings
      rw [← Trace.filterMap_failure?_faults, ← Trace.filterMap_failure?_faults]
      exact hfailures.length_eq
    have hresult : (r b).result = (r a).result := by
      rw [hrun a, hrun b]
      exact congrArg Except.ok houtcome
    refine ⟨hresult, ?_, herrors b, hfailures⟩
    rw [RunResult.exitCode, hresult]
    rfl

/-- The law at work: a late task that reports, starts another one that fails, and panics; then a
report and a panic of the call itself. These are five failures, with turns and without. -/
theorem failures_perm_of_late_task :
    let w : Workspace := ⟨.empty, []⟩
    let late (yields : Nat) : Task := .mk "late" yields [⟨"late", "first"⟩]
      [.mk "deep" yields [] [] (.error "lost")] (.panic .other)
    let a : Analyzer := fun i _ _ =>
      if i = 0 then ⟨[.spawn (late 3)], .warnings []⟩
      else ⟨[.report ⟨"x", "second"⟩], .panicked (.text "boom")⟩
    let b : Analyzer := fun i _ _ =>
      if i = 0 then ⟨[.pump, .spawn (late 0), .pump], .warnings []⟩
      else ⟨[.report ⟨"x", "second"⟩, .pump], .panicked (.text "boom")⟩
    let r (x : Analyzer) := run w x {} {} ["p", "q"]
    Policy.load w none = .ok none ∧
      (∀ c, a.AgreesUnscheduled b c ["p", "q"]) ∧
      (r a).result.map (fun outcome => outcome.guardFailures) = .ok 5 ∧
      (r b).result = (r a).result ∧ (r b).exitCode = (r a).exitCode := by
  intro w late a b r
  have hagrees : ∀ c, a.AgreesUnscheduled b c ["p", "q"] := by
    intro c i input hi
    rcases i with _ | i
    · rfl
    · rfl
  obtain ⟨⟨-, -, hcount⟩, hsame⟩ :=
    failures_perm_and_schedule_irrelevant a w {} {} ["p", "q"] none rfl
  obtain ⟨hresult, hexit, -, -⟩ := hsame b (hagrees _)
  exact ⟨rfl, hagrees, hcount, hresult, hexit⟩

end Run

end PolicyLint
