/-
# Histories of a guard

A history is any sequence of operations on one open guard and its sink. What drains and settles have
delivered, followed by what still waits in the inbox, is at every moment the sequence of all
failures sent so far, in the order of their arrival.

* `Guard.Operation`, `Guard.Answer` : the operations, and what each of them answers;
* `Guard.Operation.sendsAll` : the failures that a history sends, told without an inbox;
* `Guard.delivered_append_inbox` : nothing is lost, doubled or moved.
-/
import PolicyLint.Proofs.Guard.Arrivals

namespace PolicyLint

namespace Guard

/-! ## Operations -/

/-- An operation on an open guard or its sink. A supervised call does some actions, and then returns
a value or panics. -/
inductive Operation (α : Type) where
  | act (a : Action)
  | drain
  | settle
  | supervise (origin : String) (actions : List Action) (result : Except Panic α)

/-- What an operation answers. -/
inductive Answer (α : Type) where
  | done
  | failures (fs : List Failure)
  | returned (result : Except Failure α)

/-- The failures that an answer takes out of the inbox. -/
def Answer.delivered {α : Type} : Answer α → List Failure
  | .failures fs => fs
  | _ => []

namespace Operation

variable {α : Type}

/-- An operation on a guard: its answer, and the guard afterwards. -/
def perform (g : Guard) : Operation α → Answer α × Guard
  | .act a => (.done, a.perform g)
  | .drain => (.failures g.drain.1, g.drain.2)
  | .settle => (.failures g.settle.1, g.settle.2)
  | .supervise origin actions result =>
      let (r, g) := g.supervise origin fun g => (result, actions.foldl Action.perform g)
      (.returned r, g)

/-- Operations one after the other: their answers, and the guard after the last of them. -/
def performAll : Guard → List (Operation α) → List (Answer α) × Guard
  | g, [] => ([], g)
  | g, op :: ops =>
      let (answer, g) := op.perform g
      let (answers, g) := performAll g ops
      (answer :: answers, g)

/-- What an operation sends when the given tasks wait, and the tasks that wait after it. How a
supervised call ends has no part in it. -/
def sends (ts : List Task) : Operation α → List Failure × List Task
  | .act a => a.sends ts
  | .drain => ([], ts)
  | .settle => (Task.arrivals ts, [])
  | .supervise _ actions _ => Action.sendsAll ts actions

/-- What operations send one after the other, and the tasks that wait after them. -/
def sendsAll : List Task → List (Operation α) → List Failure × List Task
  | ts, [] => ([], ts)
  | ts, op :: ops =>
      let (fs, ts) := op.sends ts
      let (gs, ts) := sendsAll ts ops
      (fs ++ gs, ts)

/-! ## One operation -/

/-- What an operation has to hold of its answer and of the guard after it, when the guard before it
was open: it stays open, its queue is the one told by what was sent, and what it delivers and leaves
is what was there and what was sent. -/
structure Conserves (ts : List Task) (fs : List Failure) (sent : List Failure × List Task)
    (delivered : List Failure) (after : Guard) : Prop where
  tasks : after.tasks = sent.2
  isOpen : after.isOpen = true
  inbox : delivered ++ after.inbox = fs ++ sent.1

/-- **Every operation conserves failures.** -/
theorem conserves_perform (op : Operation α) (ts : List Task) (fs : List Failure) :
    Conserves ts fs (op.sends ts) (op.perform ⟨ts, fs, true⟩).1.delivered
      (op.perform ⟨ts, fs, true⟩).2 := by
  cases op with
  | act a =>
      rw [perform, Action.perform_eq]
      exact ⟨rfl, rfl, rfl⟩
  | drain => exact ⟨rfl, rfl, rfl⟩
  | settle =>
      rw [perform, settle_eq]
      exact ⟨rfl, rfl, List.append_nil _⟩
  | supervise origin actions result =>
      simp only [perform, Guard.supervise, Action.foldl_perform_eq]
      cases result <;> exact ⟨rfl, rfl, rfl⟩

/-! ## Whole histories -/

/-- **Every history conserves failures.** -/
theorem conserves_performAll (ops : List (Operation α)) (ts : List Task) (fs : List Failure) :
    Conserves ts fs (sendsAll ts ops)
      ((performAll ⟨ts, fs, true⟩ ops).1.flatMap Answer.delivered)
      (performAll ⟨ts, fs, true⟩ ops).2 := by
  induction ops generalizing ts fs with
  | nil => exact ⟨rfl, rfl, (List.append_nil fs).symm⟩
  | cons op ops ih =>
      obtain ⟨htasks, hopen, hinbox⟩ := conserves_perform op ts fs
      simp only [performAll, sendsAll, List.flatMap_cons]
      generalize op.perform ⟨ts, fs, true⟩ = step at htasks hopen hinbox ⊢
      obtain ⟨answer, tasks, inbox, isOpen⟩ := step
      subst htasks hopen
      obtain ⟨htasks, hopen, hrest⟩ := ih (op.sends ts).2 inbox
      refine ⟨htasks, hopen, ?_⟩
      rw [List.append_assoc, hrest, ← List.append_assoc, hinbox, List.append_assoc]

end Operation

/-! ## The law of a history -/

/-- Settling an open guard leaves no task and no failure, and nothing for a drain or a settle right
after it. -/
theorem settle_empties (g : Guard) (h : g.isOpen = true) :
    g.settle.2.tasks = [] ∧ g.settle.2.inbox = [] ∧
      g.settle.2.drain.1 = [] ∧ g.settle.2.settle.1 = [] := by
  obtain ⟨tasks, inbox, isOpen⟩ := g
  subst h
  rw [settle_eq]
  refine ⟨rfl, rfl, rfl, ?_⟩
  show (Guard.mk [] [] true).settle.1 = []
  rw [settle_eq, Task.arrivals_nil, List.append_nil]

/-- Actions add what they send to the inbox of an open guard, and take nothing out of it. -/
theorem inbox_foldl_perform (g : Guard) (h : g.isOpen = true) (actions : List Action) :
    (actions.foldl Action.perform g).inbox = g.inbox ++ (Action.sendsAll g.tasks actions).1 ∧
      (actions.foldl Action.perform g).tasks = (Action.sendsAll g.tasks actions).2 := by
  obtain ⟨tasks, inbox, isOpen⟩ := g
  subst h
  rw [Action.foldl_perform_eq]
  exact ⟨rfl, rfl⟩

/-- **Conservation of failures.** After any history of an open guard, the failures delivered so far
followed by those in the inbox are the failures sent so far, in the order of their arrival. Settling
then leaves no task and no failure, so a drain or a settle right after it delivers nothing. A
supervised call that panics leaves the guard just as its actions alone would, and as the same call
without the panic would: only its caller hears of the panic, and a value passes unchanged. -/
theorem delivered_append_inbox {α : Type} (ops : List (Operation α)) :
    let answers := (Operation.performAll .empty ops).1
    let g := (Operation.performAll .empty ops).2
    (answers.flatMap Answer.delivered ++ g.inbox = (Operation.sendsAll [] ops).1 ∧
      g.tasks = (Operation.sendsAll [] ops).2) ∧
    (g.settle.2.tasks = [] ∧ g.settle.2.inbox = [] ∧
      g.settle.2.drain.1 = [] ∧ g.settle.2.settle.1 = []) ∧
    ∀ (origin : String) (actions : List Action),
      let acted := actions.foldl Action.perform g
      (acted.inbox = g.inbox ++ (Action.sendsAll g.tasks actions).1 ∧
        acted.tasks = (Action.sendsAll g.tasks actions).2) ∧
      (∀ p : Panic, (Operation.supervise origin actions (.error p : Except Panic α)).perform g =
        (.returned (.error ⟨origin, p.message⟩), acted)) ∧
      ∀ v : α, (Operation.supervise origin actions (.ok v)).perform g =
        (.returned (.ok v), acted) := by
  intro answers g
  have hg : Operation.Conserves [] [] (Operation.sendsAll [] ops)
      (answers.flatMap Answer.delivered) g := Operation.conserves_performAll ops [] []
  refine ⟨⟨hg.inbox, hg.tasks⟩, settle_empties g hg.isOpen, ?_⟩
  intro origin actions acted
  exact ⟨inbox_foldl_perform g hg.isOpen actions, fun p => rfl, fun v => rfl⟩

end Guard

end PolicyLint
