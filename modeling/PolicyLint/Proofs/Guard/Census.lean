/-
# Counting failures without running

What a script sends can be counted by looking at it: its reports, and for every task that it starts,
directly or through other tasks, the reports of that task and the failure of its end. Turns and
pumps decide when a failure arrives, never whether it does.

* `Task.family` : a task with all tasks below it;
* `Script.failures`, `Script.failureCount` : the failures of a script and their number;
* `Task.arrivals_perm`, `Action.sendsAll_perm` : what is sent is what is counted;
* `Script.unscheduled` : a script without its turns and pumps, which sends as much.
-/
import Mathlib.Algebra.Ring.Nat
import PolicyLint.Proofs.Guard.Arrivals

namespace PolicyLint

/-! ## Tasks -/

namespace Task

mutual

/-- A task, and all tasks that are started below it. -/
def family : Task → List Task
  | .mk origin yields reports tasks ending =>
      .mk origin yields reports tasks ending :: familyOf tasks

/-- Some tasks, and all tasks that are started below them. -/
def familyOf : List Task → List Task
  | [] => []
  | t :: ts => t.family ++ familyOf ts

end

/-- The number of failures that a task sends itself: one for each report, and one for an end in an
error or a panic. -/
def failureCount : Task → Nat
  | .mk _ _ reports _ ending => reports.length + if ending = .ok then 0 else 1

theorem length_failures (t : Task) : t.failures.length = t.failureCount := by
  obtain ⟨origin, yields, reports, tasks, ending⟩ := t
  rw [failures, failureCount, List.length_append]
  cases ending <;> rfl

mutual

/-- All failures of a task are those of the tasks of its family. -/
theorem allFailures_eq (t : Task) : t.allFailures = t.family.flatMap failures := by
  obtain ⟨origin, yields, reports, tasks, ending⟩ := t
  rw [allFailures, family, List.flatMap_cons, allFailuresOf_eq tasks, failures]

/-- All failures of some tasks are those of the tasks of their families. -/
theorem allFailuresOf_eq (ts : List Task) : allFailuresOf ts = (familyOf ts).flatMap failures := by
  cases ts with
  | nil => rfl
  | cons t ts =>
      rw [allFailuresOf, familyOf, List.flatMap_append, allFailures_eq t, allFailuresOf_eq ts]

end

/-- The failures of a family, counted task by task. -/
theorem length_allFailures (t : Task) :
    t.allFailures.length = (t.family.map failureCount).sum := by
  rw [allFailures_eq, List.length_flatMap]
  congr 1
  exact List.map_congr_left fun u _ => length_failures u

theorem allFailuresOf_append (ts us : List Task) :
    allFailuresOf (ts ++ us) = allFailuresOf ts ++ allFailuresOf us := by
  induction ts with
  | nil => rfl
  | cons t ts ih => rw [List.cons_append, allFailuresOf, ih, allFailuresOf, List.append_assoc]

/-- **A queue sends all failures of its tasks**, each once, in some order. -/
theorem arrivals_perm (ts : List Task) : (arrivals ts).Perm (allFailuresOf ts) := by
  induction ts using arrivals.induct with
  | case1 =>
      rw [arrivals_nil]
      exact .refl _
  | case2 origin yields reports tasks ending rest ih =>
      -- the task only moves behind the others
      rw [arrivals, allFailuresOf, allFailures]
      rw [allFailuresOf_append] at ih
      refine ih.trans (List.perm_append_comm.trans ?_)
      rw [allFailuresOf, allFailures, allFailuresOf, List.append_nil]
  | case3 origin reports tasks ending rest ih =>
      rw [arrivals, allFailuresOf, allFailures,
        List.append_assoc (reports ++ ending.failures origin)]
      rw [allFailuresOf_append] at ih
      -- its own failures come first, and those of the tasks it starts behind the others
      exact (ih.trans List.perm_append_comm).append_left _

/-! ## Tasks without turns -/

mutual

/-- A task that gives no turn up, and no task below it does. -/
def prompt : Task → Task
  | .mk origin _ reports tasks ending => .mk origin 0 reports (promptOf tasks) ending

/-- Some tasks, none of which gives a turn up. -/
def promptOf : List Task → List Task
  | [] => []
  | t :: ts => t.prompt :: promptOf ts

end

mutual

/-- Giving no turn up changes no failure. -/
theorem allFailures_prompt (t : Task) : t.prompt.allFailures = t.allFailures := by
  obtain ⟨origin, yields, reports, tasks, ending⟩ := t
  rw [prompt, allFailures, allFailuresOf_promptOf tasks, ← allFailures]

theorem allFailuresOf_promptOf (ts : List Task) :
    allFailuresOf (promptOf ts) = allFailuresOf ts := by
  cases ts with
  | nil => rfl
  | cons t ts =>
      rw [promptOf, allFailuresOf, allFailuresOf, allFailures_prompt t, allFailuresOf_promptOf ts]

end

end Task

/-! ## Actions and scripts -/

namespace Action

/-- The failures that come of an action sooner or later. -/
def failures : Action → List Failure
  | .pump => []
  | .report f => [f]
  | .spawn t => t.allFailures

/-- The number of failures that come of an action: one for a report, and for a task those of its
family. -/
def failureCount : Action → Nat
  | .pump => 0
  | .report _ => 1
  | .spawn t => (t.family.map Task.failureCount).sum

theorem length_failures (a : Action) : a.failures.length = a.failureCount := by
  cases a with
  | pump => rfl
  | report f => rfl
  | spawn t => exact t.length_allFailures

/-- An action that is no pump, with its task made prompt. -/
def unscheduled? : Action → Option Action
  | .pump => none
  | .report f => some (.report f)
  | .spawn t => some (.spawn t.prompt)

/-- What an action sends, with all that its queue is still to send, is what the queue was to send
before it and what comes of the action. -/
theorem sends_perm (a : Action) (ts : List Task) :
    ((a.sends ts).1 ++ Task.allFailuresOf (a.sends ts).2).Perm
      (Task.allFailuresOf ts ++ a.failures) := by
  cases a with
  | pump =>
      rw [sends, failures, Task.allFailuresOf]
      exact (Task.arrivals_perm ts).append_right []
  | report f => exact List.perm_append_comm
  | spawn t =>
      rw [sends, failures, Task.allFailuresOf_append, Task.allFailuresOf, Task.allFailuresOf,
        List.append_nil, List.nil_append]

/-- What actions send, with all that is still to be sent after them, is what was to be sent before
them and what comes of them. -/
theorem sendsAll_perm (as : List Action) (ts : List Task) :
    ((sendsAll ts as).1 ++ Task.allFailuresOf (sendsAll ts as).2).Perm
      (Task.allFailuresOf ts ++ as.flatMap failures) := by
  induction as generalizing ts with
  | nil =>
      rw [sendsAll, List.flatMap_nil, List.nil_append, List.append_nil]
  | cons a as ih =>
      simp only [sendsAll, List.flatMap_cons]
      rw [List.append_assoc]
      refine ((ih (a.sends ts).2).append_left _).trans ?_
      rw [← List.append_assoc, ← List.append_assoc]
      exact (a.sends_perm ts).append_right _

end Action

/-- The failure that a call itself becomes, when it panics. -/
def Ending.panicFailures (input : String) : Ending → List Failure
  | .panicked p => [p.failure input]
  | _ => []

/-- Whether a call panics. -/
def Ending.isPanic : Ending → Bool
  | .panicked _ => true
  | _ => false

namespace Script

/-- The failures that come of a call of the analyzer for an input. -/
def failures (input : String) (s : Script) : List Failure :=
  s.ending.panicFailures input ++ s.actions.flatMap Action.failures

/-- The number of failures that come of a call: one if it panics, one for each report, and for each
task started by it or by another such task one for each of its reports and one for an end in an
error or a panic. -/
def failureCount (s : Script) : Nat :=
  (if s.ending.isPanic then 1 else 0) + (s.actions.map Action.failureCount).sum

theorem length_failures (input : String) (s : Script) :
    (s.failures input).length = s.failureCount := by
  rw [failures, failureCount, List.length_append, List.length_flatMap]
  congr 1
  · cases s.ending <;> rfl
  · congr 1
    exact List.map_congr_left fun a _ => a.length_failures

/-- A script without its pumps, and with all its tasks made prompt. Two scripts that agree in this
differ only in the turns that their tasks give up and in where their pumps stand. -/
def unscheduled (s : Script) : Script := ⟨s.actions.filterMap Action.unscheduled?, s.ending⟩

/-- The failures of a script do not depend on its turns and pumps. -/
theorem failures_unscheduled (input : String) (s : Script) :
    s.unscheduled.failures input = s.failures input := by
  rw [failures, failures]
  congr 1
  show (s.actions.filterMap Action.unscheduled?).flatMap Action.failures = _
  induction s.actions with
  | nil => rfl
  | cons a as ih =>
      cases a with
      | pump =>
          rw [List.flatMap_cons, Action.failures, List.nil_append, ← ih]
          rfl
      | report f =>
          rw [List.flatMap_cons, ← ih]
          rfl
      | spawn t =>
          rw [List.flatMap_cons, ← ih, Action.failures, ← t.allFailures_prompt]
          rfl

end Script

end PolicyLint
