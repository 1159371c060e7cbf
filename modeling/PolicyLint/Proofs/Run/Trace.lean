/-
# The trace of a run

The trace of a run tells what comes of each input in its turn: how its call ends, and which failures
arrive while it lasts. It is told without a guard, a reporter or an outcome, and a run prints,
counts and calls exactly what its trace says.

* `Fault`, `Attempt`, `Trace` : what is told of a run, and `Analyzer.trace`, which tells it;
* `Analyzer.arrived_take_traceFrom`, `Analyzer.arrived_traceFrom` : when failures arrive;
* `Outcome.tally` : the counters of a run, counted from warnings and faults.
-/
import PolicyLint.Proofs.Guard.Census
import PolicyLint.Run

namespace PolicyLint

/-! ## Lines of a stream -/

/-- The text of some lines, each with its line feed. -/
def Text.ofLines : List String → String
  | [] => ""
  | l :: ls => l ++ "\n" ++ ofLines ls

/-- Lines in two parts. -/
theorem Text.ofLines_append (ls ms : List String) :
    Text.ofLines (ls ++ ms) = Text.ofLines ls ++ Text.ofLines ms := by
  induction ls with
  | nil => rw [List.nil_append, ofLines, String.empty_append]
  | cons l ls ih => simp only [List.cons_append, ofLines, ih, String.append_assoc]

namespace Writer

variable (w : Writer)

/-- Flushing passes text on and neither adds nor loses any. -/
theorem text_flush : w.flush.2.text = w.text := by
  rw [flush]
  split
  · rfl
  · exact String.append_empty

/-- A stream that is not broken takes each line. -/
theorem text_line (h : w.broken = false) (l : String) : (w.line l).text = w.text ++ (l ++ "\n") := by
  have htaken : Writer.text { w with held := w.held ++ (l ++ "\n") } = w.text ++ (l ++ "\n") :=
    String.append_assoc.symm
  rw [line, write, if_neg (Bool.eq_false_iff.mp h)]
  dsimp only
  split
  · exact htaken
  · rw [text_flush, htaken]

/-- A broken stream stays as it is. -/
theorem line_of_broken (h : w.broken = true) (l : String) : w.line l = w := by
  rw [line, write, if_pos h]

/-- A flush breaks no stream and mends none. -/
theorem broken_flush : w.flush.2.broken = w.broken := by
  rw [flush]
  split <;> rfl

/-- Nor does a line. -/
theorem broken_line (l : String) : (w.line l).broken = w.broken := by
  cases h : w.broken with
  | true => rw [line_of_broken w h, h]
  | false =>
      rw [line, write, if_neg (Bool.eq_false_iff.mp h)]
      dsimp only
      split
      · exact h
      · rw [broken_flush]
        exact h

/-- Writes lines one after the other. -/
def lines (w : Writer) (ls : List String) : Writer := ls.foldl line w

theorem lines_append (ls ms : List String) : w.lines (ls ++ ms) = (w.lines ls).lines ms :=
  List.foldl_append

/-- Lines break no stream and mend none. -/
theorem broken_lines (ls : List String) : (w.lines ls).broken = w.broken := by
  induction ls generalizing w with
  | nil => rfl
  | cons l ls ih => exact (ih (w.line l)).trans (w.broken_line l)

/-- A stream that is not broken takes the text of all lines. -/
theorem text_lines (h : w.broken = false) (ls : List String) :
    (w.lines ls).text = w.text ++ Text.ofLines ls := by
  induction ls generalizing w with
  | nil => exact String.append_empty.symm
  | cons l ls ih =>
      show ((w.line l).lines ls).text = _
      rw [ih _ ((w.broken_line l).trans h), text_line w h, Text.ofLines, String.append_assoc]

theorem text_lines_empty (ls : List String) : (lines {} ls).text = Text.ofLines ls := by
  rw [text_lines _ rfl]
  exact String.empty_append

end Writer

/-! ## Faults -/

/-- What the second stream is told: an input is rejected, or a failure reaches the guard. -/
inductive Fault where
  | rejection (input : String) (e : InputError)
  | failure (f : Failure)

namespace Fault

/-- A fault as a text. -/
def text : Fault → String
  | .rejection input e => input ++ ": " ++ e.message
  | .failure f => "unhandled failure in " ++ f.origin ++ ": " ++ f.message

/-- The failure that reached the guard, if that is the fault. -/
def failure? : Fault → Option Failure
  | .rejection _ _ => none
  | .failure f => some f

/-- Whether an input is rejected. -/
def isRejection : Fault → Bool
  | .rejection _ _ => true
  | .failure _ => false

end Fault

/-- The fault that an ending is, if it is one. -/
def Ending.faults (input : String) : Ending → List Fault
  | .warnings _ => []
  | .rejected e => [.rejection input e]
  | .panicked p => [.failure (p.failure input)]

/-- Whether an ending rejects the input. -/
def Ending.isRejected : Ending → Bool
  | .rejected _ => true
  | _ => false

/-- The warnings that a call ends with. -/
def Ending.found : Ending → List Warning
  | .warnings ws => ws
  | _ => []

/-! ## Traces -/

/-- What comes of one input: how its call ends, and the failures that arrive while it lasts. -/
structure Attempt where
  input : String
  ending : Ending
  arrived : List Failure

/-- The faults of an attempt: first that of the call itself, then what has arrived. -/
def Attempt.faults (x : Attempt) : List Fault :=
  x.ending.faults x.input ++ x.arrived.map .failure

/-- What comes of a run: an attempt for each input, and the failures that arrive after the last. -/
structure Trace where
  attempts : List Attempt
  late : List Failure

namespace Trace

/-- All warnings of a run, in the order of the inputs. -/
def warnings (t : Trace) : List Warning := t.attempts.flatMap fun x => x.ending.found

/-- All faults of a run, in the order of the inputs. -/
def faults (t : Trace) : List Fault := t.attempts.flatMap Attempt.faults ++ t.late.map .failure

/-- All failures that reach the guard in a run, in the order of the inputs. -/
def failures (t : Trace) : List Failure :=
  (t.attempts.flatMap fun x => x.ending.panicFailures x.input ++ x.arrived) ++ t.late

/-- The number of failures that reach the guard: the panics, and what arrives. -/
theorem length_failures (t : Trace) :
    t.failures.length = t.attempts.countP (fun x => x.ending.isPanic) +
      (t.attempts.flatMap fun x => x.arrived).length + t.late.length := by
  obtain ⟨attempts, late⟩ := t
  rw [failures, List.length_append]
  dsimp only
  congr 1
  induction attempts with
  | nil => rfl
  | cons x xs ih =>
      have hx : (x.ending.panicFailures x.input).length = if x.ending.isPanic then 1 else 0 := by
        cases x.ending <;> rfl
      rw [List.flatMap_cons, List.length_append, List.length_append, hx, ih, List.countP_cons,
        List.flatMap_cons, List.length_append]
      omega

end Trace

/-- The failures among the faults of an attempt. -/
theorem Attempt.filterMap_failure?_faults (x : Attempt) :
    x.faults.filterMap Fault.failure? = x.ending.panicFailures x.input ++ x.arrived := by
  have harrived : (x.arrived.map Fault.failure).filterMap Fault.failure? = x.arrived := by
    rw [List.filterMap_map]
    exact List.filterMap_some
  rw [faults, List.filterMap_append, harrived]
  cases x.ending <;> rfl

/-- An attempt is rejected at most once. -/
theorem Attempt.countP_isRejection_faults (x : Attempt) :
    x.faults.countP Fault.isRejection = if x.ending.isRejected then 1 else 0 := by
  have harrived : (x.arrived.map Fault.failure).countP Fault.isRejection = 0 := by
    rw [List.countP_map]
    exact List.countP_eq_zero.mpr fun f _ => Bool.false_ne_true
  rw [faults, List.countP_append, harrived]
  cases x.ending <;> rfl

/-- The trace of a run that has made so many calls when the given tasks wait. -/
def Analyzer.traceFrom (a : Analyzer) (c : Config) : Nat → List Task → List String → Trace
  | _, ts, [] => ⟨[], Task.arrivals ts⟩
  | n, ts, input :: inputs =>
      let script := a n c input
      let (arrived, ts) := Action.sendsAll ts script.actions
      let rest := traceFrom a c (n + 1) ts inputs
      ⟨⟨input, script.ending, arrived⟩ :: rest.attempts, rest.late⟩

/-- The trace of a whole run. -/
def Analyzer.trace (a : Analyzer) (c : Config) (inputs : List String) : Trace :=
  a.traceFrom c 0 [] inputs

/-- Each input is attempted once, in its place, and its call is the one with that number. -/
theorem Analyzer.getElem?_attempts_traceFrom (a : Analyzer) (c : Config) (n : Nat)
    (ts : List Task) (inputs : List String) (i : Nat) :
    ((a.traceFrom c n ts inputs).attempts[i]?.map fun x => (x.input, x.ending)) =
      inputs[i]?.map fun input => (input, (a (n + i) c input).ending) := by
  induction inputs generalizing n ts i with
  | nil => rfl
  | cons input inputs ih =>
      cases i with
      | zero => rfl
      | succ i =>
          have hn : n + (i + 1) = n + 1 + i := by omega
          simp only [traceFrom, List.getElem?_cons_succ, hn]
          exact ih (n + 1) _ i

theorem Analyzer.length_attempts_traceFrom (a : Analyzer) (c : Config) (n : Nat) (ts : List Task)
    (inputs : List String) : (a.traceFrom c n ts inputs).attempts.length = inputs.length := by
  induction inputs generalizing n ts with
  | nil => rfl
  | cons input inputs ih => exact congrArg (· + 1) (ih (n + 1) _)

/-- All actions of the calls for some inputs, the first of which has the given number. -/
def Analyzer.actionsFrom (a : Analyzer) (c : Config) (n : Nat) (inputs : List String) :
    List Action :=
  (inputs.zipIdx n).flatMap fun p => (a p.2 c p.1).actions

theorem Analyzer.actionsFrom_cons (a : Analyzer) (c : Config) (n : Nat) (input : String)
    (inputs : List String) :
    a.actionsFrom c n (input :: inputs) =
      (a n c input).actions ++ a.actionsFrom c (n + 1) inputs := by
  rw [actionsFrom, List.zipIdx_cons, List.flatMap_cons]
  rfl

/-- **What has arrived.** The failures of the first attempts are those that have arrived by the end
of their calls; so those of the next attempt have arrived later, and no sooner. -/
theorem Analyzer.arrived_take_traceFrom (a : Analyzer) (c : Config) (n : Nat) (ts : List Task)
    (inputs : List String) (i : Nat) :
    (((a.traceFrom c n ts inputs).attempts.take i).flatMap fun x => x.arrived) =
      (Action.sendsAll ts (a.actionsFrom c n (inputs.take i))).1 := by
  induction inputs generalizing n ts i with
  | nil => rw [List.take_nil]; rw [traceFrom, List.take_nil]; rfl
  | cons input inputs ih =>
      cases i with
      | zero => rfl
      | succ i =>
          simp only [traceFrom, List.take_succ_cons, List.flatMap_cons]
          rw [ih, actionsFrom_cons, Action.sendsAll_append]

/-- All failures arrive at last: those of the attempts and the late ones are what all calls send
when a pump ends them. -/
theorem Analyzer.arrived_traceFrom (a : Analyzer) (c : Config) (n : Nat) (ts : List Task)
    (inputs : List String) :
    (((a.traceFrom c n ts inputs).attempts.flatMap fun x => x.arrived) ++
        (a.traceFrom c n ts inputs).late) =
      (Action.sendsAll ts (a.actionsFrom c n inputs ++ [.pump])).1 := by
  induction inputs generalizing n ts with
  | nil =>
      show Task.arrivals ts = Task.arrivals ts ++ []
      rw [List.append_nil]
  | cons input inputs ih =>
      simp only [traceFrom, List.flatMap_cons, List.append_assoc]
      rw [ih, actionsFrom_cons, List.append_assoc,
        Action.sendsAll_append ts (a n c input).actions]

/-! ## Counting -/

/-- The outcome of so many inputs with the given warnings and faults. -/
def Outcome.tally (inputs : Nat) (ws : List Warning) (xs : List Fault) : Outcome where
  fatal := ws.any (·.fatal) || !xs.isEmpty
  inputs
  failedInputs := xs.countP Fault.isRejection
  warnings := ws.length
  fatalWarnings := ws.countP (·.fatal)
  guardFailures := (xs.filterMap Fault.failure?).length

namespace Outcome

/-- What is counted apart joins to what is counted together. -/
theorem join_tally (n m : Nat) (ws vs : List Warning) (xs ys : List Fault) :
    (tally n ws xs).join (tally m vs ys) = tally (n + m) (ws ++ vs) (xs ++ ys) := by
  have hfatal : ((ws.any (·.fatal) || !xs.isEmpty) || (vs.any (·.fatal) || !ys.isEmpty)) =
      ((ws ++ vs).any (·.fatal) || !(xs ++ ys).isEmpty) := by
    rw [List.any_append]
    cases xs <;> cases ws.any (·.fatal) <;> cases vs.any (·.fatal) <;> rfl
  simp only [join, tally, hfatal, List.countP_append, List.length_append, List.filterMap_append]

theorem tally_nil : tally 0 [] [] = empty := rfl

/-- Each fault is either a rejection or a failure. -/
theorem length_faults (xs : List Fault) :
    xs.length = xs.countP Fault.isRejection + (xs.filterMap Fault.failure?).length := by
  induction xs with
  | nil => rfl
  | cons x xs ih =>
      cases x with
      | rejection input e =>
          rw [List.length_cons, ih, List.countP_cons_of_pos rfl, List.filterMap_cons_none rfl]
          omega
      | failure f =>
          have hf : (Fault.failure f).failure? = some f := rfl
          rw [List.length_cons, ih, List.countP_cons_of_neg Bool.false_ne_true,
            List.filterMap_cons_some hf, List.length_cons]
          omega

/-- An outcome is fatal exactly when it counts something fatal. -/
theorem fatal_tally (n : Nat) (ws : List Warning) (xs : List Fault) :
    (tally n ws xs).fatal = decide (0 < (tally n ws xs).failedInputs +
      (tally n ws xs).fatalWarnings + (tally n ws xs).guardFailures) := by
  have hws : ws.any (·.fatal) = decide (0 < ws.countP (·.fatal)) := by
    rw [Bool.eq_iff_iff, decide_eq_true_eq, List.countP_pos_iff, List.any_eq_true]
  have hxs : (!xs.isEmpty) = decide (0 < xs.length) := by cases xs <;> rfl
  show (ws.any (·.fatal) || !xs.isEmpty) = _
  rw [hws, hxs, length_faults, ← Bool.decide_or, decide_eq_decide]
  simp only [tally]
  omega

theorem ofWarning_eq_tally (w : Warning) : ofWarning w = tally 0 [w] [] := by
  obtain ⟨filename, position, message, fatal⟩ := w
  cases fatal <;> rfl

/-- Joining to what was joined before. -/
theorem join_join_tally (o : Outcome) (n m : Nat) (ws vs : List Warning) (xs ys : List Fault) :
    (o.join (tally n ws xs)).join (tally m vs ys) =
      o.join (tally (n + m) (ws ++ vs) (xs ++ ys)) := by
  rw [join_assoc, join_tally]

end Outcome

namespace Trace

/-- The outcome that a trace comes to. -/
def outcome (t : Trace) : Outcome := .tally t.attempts.length t.warnings t.faults

variable (x : Attempt) (xs : List Attempt) (late : List Failure)

theorem warnings_cons :
    (Trace.mk (x :: xs) late).warnings = x.ending.found ++ (Trace.mk xs late).warnings :=
  List.flatMap_cons

theorem faults_cons :
    (Trace.mk (x :: xs) late).faults = x.faults ++ (Trace.mk xs late).faults := by
  rw [faults, List.flatMap_cons, List.append_assoc]
  rfl

theorem failures_cons :
    (Trace.mk (x :: xs) late).failures =
      x.ending.panicFailures x.input ++ x.arrived ++ (Trace.mk xs late).failures := by
  rw [failures, List.flatMap_cons, List.append_assoc]
  rfl

/-- The outcome of a trace is that of its first attempt joined to that of the rest. -/
theorem outcome_cons :
    (Trace.mk (x :: xs) late).outcome =
      (Outcome.tally 1 x.ending.found x.faults).join (Trace.mk xs late).outcome := by
  rw [outcome, outcome, warnings_cons, faults_cons, Outcome.join_tally, Nat.add_comm 1]
  rfl

/-- The failures among the faults of a trace. -/
theorem filterMap_failure?_faults (t : Trace) :
    t.faults.filterMap Fault.failure? = t.failures := by
  obtain ⟨attempts, late⟩ := t
  induction attempts with
  | nil =>
      show (late.map Fault.failure).filterMap Fault.failure? = late
      rw [List.filterMap_map]
      exact List.filterMap_some
  | cons x xs ih =>
      rw [faults_cons, List.filterMap_append, Attempt.filterMap_failure?_faults, ih,
        failures_cons]

/-- The number of rejections among the faults of a trace. -/
theorem countP_isRejection_faults (t : Trace) :
    t.faults.countP Fault.isRejection = t.attempts.countP fun x => x.ending.isRejected := by
  obtain ⟨attempts, late⟩ := t
  induction attempts with
  | nil =>
      show (late.map Fault.failure).countP Fault.isRejection = 0
      rw [List.countP_map]
      exact List.countP_eq_zero.mpr fun f _ => Bool.false_ne_true
  | cons x xs ih =>
      rw [faults_cons, List.countP_append, Attempt.countP_isRejection_faults, ih,
        List.countP_cons, Nat.add_comm]

/-- The counters of the outcome of a trace. -/
theorem outcome_eq (t : Trace) :
    t.outcome =
      { fatal := decide (0 < t.outcome.failedInputs + t.outcome.fatalWarnings +
          t.outcome.guardFailures)
        inputs := t.attempts.length
        failedInputs := t.attempts.countP fun x => x.ending.isRejected
        warnings := t.warnings.length
        fatalWarnings := t.warnings.countP fun w => w.fatal
        guardFailures := t.attempts.countP (fun x => x.ending.isPanic) +
          (t.attempts.flatMap fun x => x.arrived).length + t.late.length } := by
  rw [← length_failures, ← filterMap_failure?_faults, ← countP_isRejection_faults]
  have hfatal := Outcome.fatal_tally t.attempts.length t.warnings t.faults
  rw [← outcome] at hfatal
  rw [← hfatal]
  rfl

end Trace

end PolicyLint
