/-
# Background tasks

A task waits some turns, sends its reports, starts its own tasks and ends. Tasks nest, and the work
of a task counts the turns that it and all tasks below it take.
-/
import PolicyLint.Failure

namespace PolicyLint

/-- How a background task ends. -/
inductive TaskEnd where
  | ok
  | error (message : String)
  | panic (payload : Panic)
deriving DecidableEq, Repr

/-- The failure recorded for the end of a task, if it did not end well. -/
def TaskEnd.failures (origin : String) : TaskEnd → List Failure
  | .ok => []
  | .error message => [⟨origin, message⟩]
  | .panic payload => [payload.failure origin]

/-- A background task: it gives up `yields` turns, then reports, starts `tasks`, and ends. -/
inductive Task where
  | mk (origin : String) (yields : Nat) (reports : List Failure) (tasks : List Task)
      (ending : TaskEnd)

namespace Task

/-- The failures that a task sends itself, in their order. -/
def failures : Task → List Failure
  | .mk origin _ reports _ ending => reports ++ ending.failures origin

mutual

/-- The number of turns that a task and all tasks below it take. -/
def work : Task → Nat
  | .mk _ yields _ tasks _ => yields + 1 + workOf tasks

/-- The number of turns that some tasks and all tasks below them take. -/
def workOf : List Task → Nat
  | [] => 0
  | t :: ts => t.work + workOf ts

end

mutual

/-- All failures of a task and of the tasks below it, parents before children. -/
def allFailures : Task → List Failure
  | .mk origin _ reports tasks ending =>
      reports ++ ending.failures origin ++ allFailuresOf tasks

/-- All failures of some tasks and of the tasks below them. -/
def allFailuresOf : List Task → List Failure
  | [] => []
  | t :: ts => t.allFailures ++ allFailuresOf ts

end

/-- The work of an append is the sum of the works. -/
theorem workOf_append (ts us : List Task) : workOf (ts ++ us) = workOf ts + workOf us := by
  induction ts with
  | nil => simp [workOf]
  | cons t ts ih => simp [workOf, ih, Nat.add_assoc]

end Task

end PolicyLint
