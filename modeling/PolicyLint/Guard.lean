/-
# The guard

The guard supervises calls and background tasks and collects the failures nobody else handled. Its
tasks take turns, the one that has waited longest first, and only while the main line waits.
Failures wait in the inbox, in the order of their arrival, until they are drained.

* `Guard.send`, `Guard.spawn` : what a supervised call may do;
* `Guard.pump` : the turns of all tasks, until none is left;
* `Guard.drain`, `Guard.settle` : taking the failures out;
* `Guard.supervise` : a call whose panic becomes a failure.
-/
import PolicyLint.Task

namespace PolicyLint

/-- The tasks that wait for a turn and the failures that wait to be drained, oldest first. A closed
guard loses the failures sent to it. -/
structure Guard where
  tasks : List Task := []
  inbox : List Failure := []
  isOpen : Bool := true

namespace Guard

/-- A guard with no task and no failure. -/
def empty : Guard := {}

/-- Puts failures into the inbox. -/
def sendAll (g : Guard) (fs : List Failure) : Guard :=
  if g.isOpen then { g with inbox := g.inbox ++ fs } else g

/-- Puts a failure into the inbox. -/
def send (g : Guard) (f : Failure) : Guard := g.sendAll [f]

/-- Adds a task at the end of the queue. -/
def spawn (g : Guard) (t : Task) : Guard := { g with tasks := g.tasks ++ [t] }

/-- One turn: the first task gives the turn up and queues again, or does all it has to do. -/
def turn (g : Guard) : Guard :=
  match g.tasks with
  | [] => g
  | .mk origin (yields + 1) reports tasks ending :: rest =>
      { g with tasks := rest ++ [.mk origin yields reports tasks ending] }
  | .mk origin 0 reports tasks ending :: rest =>
      { g with tasks := rest ++ tasks }.sendAll (reports ++ ending.failures origin)

/-- So many turns. -/
def turns : Nat → Guard → Guard
  | 0, g => g
  | n + 1, g => turns n g.turn

/-- The turns of all tasks, those started meanwhile included. -/
def pump (g : Guard) : Guard := turns (Task.workOf g.tasks) g

/-- Takes the failures out of the inbox. -/
def drain (g : Guard) : List Failure × Guard := (g.inbox, { g with inbox := [] })

/-- Lets all tasks end, then takes the failures out. -/
def settle (g : Guard) : List Failure × Guard := g.pump.drain

/-- The guard after its owner has let go of it: what is sent from now on is lost. -/
def close (g : Guard) : Guard := { g with inbox := [], isOpen := false }

/-- A call under supervision: its panic becomes a failure that names `origin`, and any other value
is passed through. -/
def supervise {α : Type} (origin : String) (call : Guard → Except Panic α × Guard) (g : Guard) :
    Except Failure α × Guard :=
  match call g with
  | (.ok a, g) => (.ok a, g)
  | (.error p, g) => (.error (p.failure origin), g)

/-! ## The queue empties -/

/-- A turn of a queue that is not empty takes one unit of work away. -/
theorem workOf_tasks_turn (g : Guard) (h : g.tasks ≠ []) :
    Task.workOf g.turn.tasks + 1 = Task.workOf g.tasks := by
  match hg : g.tasks with
  | [] => exact absurd hg h
  | .mk origin (yields + 1) reports tasks ending :: rest =>
      simp [turn, hg, Task.workOf_append, Task.workOf, Task.work]
      omega
  | .mk origin 0 reports tasks ending :: rest =>
      simp only [turn, hg, sendAll]
      split <;> simp [Task.workOf_append, Task.workOf, Task.work] <;> omega

/-- Every task has work to do. -/
theorem tasks_eq_nil_of_workOf (g : Guard) (h : Task.workOf g.tasks = 0) : g.tasks = [] := by
  match hg : g.tasks with
  | [] => rfl
  | .mk _ _ _ _ _ :: _ => simp [hg, Task.workOf, Task.work] at h

/-- After a pump no task is left. -/
theorem tasks_pump (g : Guard) : g.pump.tasks = [] := by
  suffices ∀ n (g : Guard), Task.workOf g.tasks = n → (turns n g).tasks = [] from this _ g rfl
  intro n
  induction n with
  | zero => exact fun g h => g.tasks_eq_nil_of_workOf h
  | succ n ih =>
      intro g h
      have hne : g.tasks ≠ [] := by
        intro hnil
        simp [hnil, Task.workOf] at h
      have := g.workOf_tasks_turn hne
      exact ih g.turn (by omega)

end Guard

end PolicyLint
