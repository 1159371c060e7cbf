/-
# The failures that tasks send

A queue of tasks sends its failures in one order, which its yields and the tasks started meanwhile
decide. No inbox and no drain has a part in it, so this order is what an inbox is held against.

* `Task.arrivals` : the failures that a queue sends until it is empty;
* `Action.sends`, `Action.sendsAll` : what actions send, and the queue that they leave;
* `Guard.pump_eq`, `Action.foldl_perform_eq` : a guard gets exactly these failures.
-/
import PolicyLint.Analyzer

namespace PolicyLint

/-! ## The order of arrival -/

namespace Task

/-- The failures that a queue of tasks sends until no task is left, in the order in which they
arrive: a task that has turns to give up queues again behind all others, and the tasks that a task
starts queue behind those that wait already. -/
def arrivals : List Task → List Failure
  | [] => []
  | .mk origin (yields + 1) reports tasks ending :: rest =>
      arrivals (rest ++ [.mk origin yields reports tasks ending])
  | .mk origin 0 reports tasks ending :: rest =>
      reports ++ ending.failures origin ++ arrivals (rest ++ tasks)
termination_by ts => workOf ts
decreasing_by
  all_goals simp only [workOf_append, workOf, work]
  all_goals omega

@[simp] theorem arrivals_nil : arrivals [] = [] := by
  rw [arrivals]

end Task

/-! ## A guard gets what its tasks send -/

namespace Guard

/-- The failures that a guard holds, and those that its tasks are still to send. -/
def forthcoming (g : Guard) : List Failure := g.inbox ++ Task.arrivals g.tasks

/-- A turn leaves an open guard open. -/
theorem isOpen_turn (g : Guard) : g.turn.isOpen = g.isOpen := by
  obtain ⟨tasks, inbox, isOpen⟩ := g
  rcases tasks with _ | ⟨⟨origin, _ | yields, reports, tasks, ending⟩, rest⟩
  · rfl
  · cases isOpen <;> rfl
  · rfl

/-- **A turn loses nothing.** What an open guard holds and is still to get stays the same. -/
theorem forthcoming_turn (g : Guard) (h : g.isOpen = true) :
    g.turn.forthcoming = g.forthcoming := by
  obtain ⟨tasks, inbox, isOpen⟩ := g
  subst h
  rcases tasks with _ | ⟨⟨origin, _ | yields, reports, tasks, ending⟩, rest⟩
  · rfl
  · -- the task runs to its end, and its failures move into the inbox
    simp only [forthcoming, turn, sendAll, if_true]
    rw [Task.arrivals, List.append_assoc]
  · -- the task gives its turn up, as the order of arrival has it
    simp only [forthcoming, turn]
    rw [← Task.arrivals]

/-- So many turns leave an open guard open, and lose nothing. -/
theorem forthcoming_turns (n : Nat) (g : Guard) (h : g.isOpen = true) :
    (turns n g).isOpen = true ∧ (turns n g).forthcoming = g.forthcoming := by
  induction n generalizing g with
  | zero => exact ⟨h, rfl⟩
  | succ n ih =>
      have hopen : g.turn.isOpen = true := by rw [isOpen_turn, h]
      rw [turns, ← forthcoming_turn g h]
      exact ih g.turn hopen

/-- **A pump** empties the queue of an open guard into its inbox, in the order of arrival. -/
theorem pump_eq (ts : List Task) (fs : List Failure) :
    (Guard.mk ts fs true).pump = ⟨[], fs ++ Task.arrivals ts, true⟩ := by
  have htasks : (Guard.mk ts fs true).pump.tasks = [] := tasks_pump _
  obtain ⟨hopen, hall⟩ : (Guard.mk ts fs true).pump.isOpen = true ∧
      (Guard.mk ts fs true).pump.forthcoming = fs ++ Task.arrivals ts :=
    forthcoming_turns _ _ rfl
  -- a guard without tasks is still to get nothing, so it holds all that was forthcoming
  generalize (Guard.mk ts fs true).pump = g at htasks hopen hall
  obtain ⟨tasks, inbox, isOpen⟩ := g
  subst htasks hopen
  rw [forthcoming, Task.arrivals_nil, List.append_nil] at hall
  rw [← hall]

/-- Settling an open guard gives what it holds and what its tasks send, and leaves it empty. -/
theorem settle_eq (ts : List Task) (fs : List Failure) :
    (Guard.mk ts fs true).settle = (fs ++ Task.arrivals ts, .empty) := by
  rw [settle, pump_eq]
  rfl

end Guard

/-! ## Actions -/

namespace Action

/-- What an action sends when the given tasks wait, and the tasks that wait after it. -/
def sends (ts : List Task) : Action → List Failure × List Task
  | .pump => (Task.arrivals ts, [])
  | .report f => ([f], ts)
  | .spawn t => ([], ts ++ [t])

/-- What some actions send one after the other, and the tasks that wait after them. -/
def sendsAll : List Task → List Action → List Failure × List Task
  | ts, [] => ([], ts)
  | ts, a :: as =>
      let (fs, ts) := a.sends ts
      let (gs, ts) := sendsAll ts as
      (fs ++ gs, ts)

/-- More actions send what they send to the queue that the actions before them leave. -/
theorem sendsAll_append (ts : List Task) (as bs : List Action) :
    sendsAll ts (as ++ bs) =
      ((sendsAll ts as).1 ++ (sendsAll (sendsAll ts as).2 bs).1,
        (sendsAll (sendsAll ts as).2 bs).2) := by
  induction as generalizing ts with
  | nil => rfl
  | cons a as ih =>
      simp only [List.cons_append, sendsAll, ih, List.append_assoc]

/-- An action puts what it sends into the inbox of an open guard. -/
theorem perform_eq (a : Action) (ts : List Task) (fs : List Failure) :
    a.perform ⟨ts, fs, true⟩ = ⟨(a.sends ts).2, fs ++ (a.sends ts).1, true⟩ := by
  cases a with
  | pump => exact Guard.pump_eq ts fs
  | report f => rfl
  | spawn t => simp [perform, Guard.spawn, sends]

/-- Actions put what they send into the inbox of an open guard, one after the other. -/
theorem foldl_perform_eq (as : List Action) (ts : List Task) (fs : List Failure) :
    as.foldl perform ⟨ts, fs, true⟩ =
      ⟨(sendsAll ts as).2, fs ++ (sendsAll ts as).1, true⟩ := by
  induction as generalizing ts fs with
  | nil => simp [sendsAll]
  | cons a as ih =>
      rw [List.foldl_cons, perform_eq, ih]
      simp only [sendsAll, List.append_assoc]

end Action

end PolicyLint
