/-
# Waiting for tasks

A guard has a handle for every task that may not have ended. To settle, it takes all its handles and
waits for one after the other, again and again, until it has none. Tasks take turns only while it
waits, and they may take more turns than it waits for. A task that starts another one adds a handle
for it, and lets those go whose tasks have ended.

However the turns fall, the guard comes to an end: with no task left, after just the turns of its
queue, as a pump leaves it.

* `Settling`, `Settling.Step`, `Settling.Run` : waiting for handles;
* `Settling.wellFounded_step` : no guard waits forever;
* `Settling.Covers`, `Settling.Step.covers` : a task that waits has a handle;
* `Settling.exists_step` : a guard that still has a handle goes on;
* `Settling.Reached`, `Settling.Reached.settles` : guards on their way, and that they settle;
* `Guard.settle_ends` : how settling ends.
-/
import PolicyLint.Proofs.Guard.Turns

namespace PolicyLint

open PolicyLint.Task (Node advance forest forestOf nodesAt turnsOf workOf)

/-- A guard that settles: its tasks with their places, the handles that it has, and those that it
has taken and not waited for. A handle is the place of its task. -/
structure Settling where
  queue : List Node
  inbox : List Failure
  isOpen : Bool
  handles : List (List Nat)
  pending : List (List Nat)

namespace Settling

/-! ## Turns -/

/-- The guard without places and handles. -/
def guard (s : Settling) : Guard := ⟨s.queue.map (·.task), s.inbox, s.isOpen⟩

/-- A guard with some handles, before it takes them. -/
def start (g : Guard) (handles : List (List Nat)) : Settling :=
  ⟨nodesAt [] 0 g.tasks, g.inbox, g.isOpen, handles, []⟩

/-- The handles after some tasks have been started, one after the other: for each of them those of
ended tasks are let go and one is added. The task that starts them, if one does, has not ended. -/
def addHandles (running : Option (List Nat)) :
    List Node → List (List Nat) → List Node → List (List Nat)
  | _, handles, [] => handles
  | queue, handles, a :: as =>
      let kept := handles.filter fun p => some p = running ∨ p ∈ queue.map (·.place)
      addHandles running (queue ++ [a]) (kept ++ [a.place]) as

/-- The handles after a turn: only a task that ends has started others. -/
def handlesAfter : List Node → List (List Nat) → List (List Nat)
  | ⟨p, .mk _ 0 _ tasks _⟩ :: rest, handles => addHandles (some p) rest handles (nodesAt p 0 tasks)
  | _, handles => handles

/-- One turn. -/
def turn (s : Settling) : Settling :=
  { s with
    queue := advance s.queue
    inbox := s.guard.turn.inbox
    handles := handlesAfter s.queue s.handles }

/-- Starting a task, at its place, while no other one runs. -/
def spawn (s : Settling) (a : Node) : Settling :=
  { s with queue := s.queue ++ [a], handles := addHandles none s.queue s.handles [a] }

/-- What a guard that settles may do next, with the turn that it takes: a turn while it waits; going
on when the task that it waits for has ended; taking its handles when it waits for none. -/
inductive Step : Settling → List Node → Settling → Prop
  | turn {s : Settling} {a : Node} {rest : List Node} (hpending : s.pending ≠ [])
      (hqueue : s.queue = a :: rest) : Step s [a] s.turn
  | next {s : Settling} {p : List Nat} {ps : List (List Nat)} (hpending : s.pending = p :: ps)
      (hended : p ∉ s.queue.map (·.place)) : Step s [] { s with pending := ps }
  | take {s : Settling} (hpending : s.pending = []) (hhandles : s.handles ≠ []) :
      Step s [] { s with handles := [], pending := s.handles }

/-- What a guard that settles may do in some steps, with the turns that it takes. -/
inductive Run : Settling → List Node → Settling → Prop
  | refl (s : Settling) : Run s [] s
  | step {s s' s'' : Settling} {log log' : List Node} (h : Step s log s') (h' : Run s' log' s'') :
      Run s (log ++ log') s''

/-- Whether a guard has waited for all its handles. -/
def IsDone (s : Settling) : Prop := s.pending = [] ∧ s.handles = []

/-- Whether each task that waits for a turn has a handle. -/
def Covers (s : Settling) : Prop := ∀ a ∈ s.queue, a.place ∈ s.handles ∨ a.place ∈ s.pending

variable {s s' : Settling} {log : List Node}

theorem guard_start (g : Guard) (handles : List (List Nat)) : (start g handles).guard = g := by
  rw [guard, start, Task.map_task_nodesAt]

/-- A turn is a turn of the guard. -/
theorem guard_turn (s : Settling) : s.turn.guard = s.guard.turn := by
  have htasks := Task.map_task_advance s.queue (show s.guard.tasks = _ from rfl)
  have hopen : s.guard.turn.isOpen = s.isOpen := s.guard.isOpen_turn
  rw [guard, turn, ← htasks, ← hopen]

/-! ## Settling ends -/

/-- The work that is left, and the handles that are not yet waited for; those that are not taken
count twice. -/
def key (s : Settling) : Nat × Nat :=
  (workOf (s.queue.map (·.task)), 2 * s.handles.length + s.pending.length)

/-- Every step takes work away, or else handles. -/
theorem Step.key_lt (h : Step s log s') : Prod.Lex (· < ·) (· < ·) s'.key s.key := by
  cases h with
  | @turn a rest hpending hqueue =>
      have hwork := Task.workOf_advance a rest
      apply Prod.Lex.left
      rw [hqueue, ← hwork, Settling.turn, hqueue]
      exact Nat.lt_succ_self _
  | next hpending hended =>
      apply Prod.Lex.right
      rw [hpending, List.length_cons]
      exact Nat.lt_succ_self _
  | take hpending hhandles =>
      apply Prod.Lex.right
      have hlength := List.length_pos_iff.mpr hhandles
      rw [hpending, List.length_nil]
      show 2 * 0 + s.handles.length < 2 * s.handles.length + 0
      omega

/-- **No guard waits forever.** -/
theorem wellFounded_step : WellFounded fun s' s : Settling => ∃ log, Step s log s' :=
  Subrelation.wf (fun ⟨_, h⟩ => h.key_lt) (InvImage.wf key (Prod.lex Nat.lt_wfRel Nat.lt_wfRel).wf)

/-! ## Handles -/

/-- Starting tasks leaves no task that waits without a handle. -/
theorem mem_addHandles {running : Option (List Nat)} {queue : List Node}
    {handles pending : List (List Nat)} (as : List Node)
    (h : ∀ a ∈ queue, a.place ∈ handles ∨ a.place ∈ pending) :
    ∀ a ∈ queue ++ as, a.place ∈ addHandles running queue handles as ∨ a.place ∈ pending := by
  induction as generalizing queue handles with
  | nil =>
      rw [List.append_nil, addHandles]
      exact h
  | cons b as ih =>
      rw [List.append_cons, addHandles]
      apply ih
      intro a ha
      rcases List.mem_append.mp ha with hqueue | hb
      · refine (h a hqueue).imp_left fun hhandle => List.mem_append_left _ ?_
        exact List.mem_filter.mpr ⟨hhandle, decide_eq_true (.inr (List.mem_map_of_mem hqueue))⟩
      · rw [List.mem_singleton.mp hb]
        exact .inl (List.mem_append_right _ (List.mem_singleton.mpr rfl))

/-- A task that is started gets a handle, and no other task that waits loses its own. -/
theorem covers_spawn (h : s.Covers) (a : Node) : (s.spawn a).Covers := mem_addHandles [a] h

/-- A turn leaves no task that waits without a handle. -/
theorem covers_turn (h : s.Covers) : s.turn.Covers := by
  obtain ⟨queue, inbox, isOpen, handles, pending⟩ := s
  rcases queue with _ | ⟨⟨p, ⟨origin, _ | yields, reports, tasks, ending⟩⟩, rest⟩
  · exact h
  · exact mem_addHandles (nodesAt p 0 tasks) fun a ha => h a (List.mem_cons_of_mem _ ha)
  · intro a ha
    rcases List.mem_append.mp ha with ha | ha
    · exact h a (List.mem_cons_of_mem _ ha)
    · rw [List.mem_singleton.mp ha]
      exact h ⟨p, .mk origin (yields + 1) reports tasks ending⟩ List.mem_cons_self

/-- **No step leaves a task that waits without a handle.** -/
theorem Step.covers (h : Step s log s') (hs : s.Covers) : s'.Covers := by
  cases h with
  | turn => exact covers_turn hs
  | @next p ps hpending hended =>
      intro a ha
      refine (hs a ha).imp_right fun hmem => ?_
      rw [hpending] at hmem
      rcases List.mem_cons.mp hmem with rfl | hmem
      · exact absurd (List.mem_map_of_mem ha) hended
      · exact hmem
  | take hpending =>
      intro a ha
      refine .inr ((hs a ha).resolve_right fun hmem => ?_)
      rw [hpending] at hmem
      cases hmem

/-- A guard that has waited for all its handles has no task left. -/
theorem Covers.queue_eq_nil (h : s.Covers) (hdone : s.IsDone) : s.queue = [] := by
  rw [List.eq_nil_iff_forall_not_mem]
  intro a ha
  have hmem := h a ha
  rw [hdone.1, hdone.2] at hmem
  rcases hmem with hmem | hmem <;> cases hmem

/-- **A guard that still has a handle goes on.** -/
theorem exists_step (h : ¬ s.IsDone) : ∃ log s', Step s log s' := by
  rcases hpending : s.pending with _ | ⟨p, ps⟩
  · exact ⟨_, _, .take hpending fun hhandles => h ⟨hpending, hhandles⟩⟩
  · rcases hqueue : s.queue with _ | ⟨a, rest⟩
    · refine ⟨_, _, .next hpending ?_⟩
      rw [hqueue]
      exact List.not_mem_nil
    · exact ⟨_, _, .turn (by simp [hpending]) hqueue⟩

/-! ## Settling pumps -/

/-- A step takes the next turn of the queue, or none. -/
theorem Step.turnsOf_eq (h : Step s log s') : turnsOf s.queue = log ++ turnsOf s'.queue := by
  cases h with
  | turn hpending hqueue =>
      rw [Settling.turn, hqueue, turnsOf]
      rfl
  | next => rfl
  | take => rfl

/-- After a step a pump comes to the same. -/
theorem Step.pump_guard (h : Step s log s') : s'.guard.pump = s.guard.pump := by
  cases h with
  | turn => rw [guard_turn, Guard.pump_turn]
  | next => rfl
  | take => rfl

/-- **Whatever a guard does in some steps, a pump would still come to the same**, and the turns that
it takes are the first of its queue. -/
theorem Run.invariant (h : Run s log s') (hs : s.Covers) :
    s'.Covers ∧ turnsOf s.queue = log ++ turnsOf s'.queue ∧ s'.guard.pump = s.guard.pump := by
  induction h with
  | refl s => exact ⟨hs, rfl, rfl⟩
  | step h _ ih =>
      obtain ⟨hcovers, hturns, hpump⟩ := ih (h.covers hs)
      exact ⟨hcovers, by rw [h.turnsOf_eq, hturns, List.append_assoc], hpump.trans h.pump_guard⟩

/-- A guard that is done has taken all turns of its queue, and is as a pump leaves it. -/
theorem Run.of_isDone (h : Run s log s') (hs : s.Covers) (hdone : s'.IsDone) :
    log = turnsOf s.queue ∧ s'.guard = s.guard.pump := by
  obtain ⟨hcovers, hturns, hpump⟩ := h.invariant hs
  have hqueue := hcovers.queue_eq_nil hdone
  rw [hqueue, turnsOf, List.append_nil] at hturns
  have htasks : s'.guard.tasks = [] := by rw [guard, hqueue, List.map_nil]
  exact ⟨hturns.symm, by rw [← hpump, Guard.pump, Guard.turns_of_tasks_eq_nil _ htasks]⟩

/-- **What covers its tasks settles**: it does not wait forever, it goes on as long as it has a handle,
and when it has none it has taken just the turns of its queue and is as a pump leaves it. -/
theorem Covers.settles (hs : s.Covers) :
    Acc (fun s' s => ∃ log, Step s log s') s ∧
    ∀ log s', Run s log s' →
      (¬ s'.IsDone → ∃ log' s'', Step s' log' s'') ∧
      (s'.IsDone → log = turnsOf s.queue ∧ s'.guard = s.guard.pump) :=
  ⟨wellFounded_step.apply s, fun _ _ hrun => ⟨exists_step, hrun.of_isDone hs⟩⟩

/-! ## Guards on their way -/

/-- What a guard comes to on its way: the main line starts tasks, each with its number, failures are
sent and drained, and tasks take turns while the main line waits, for handles or for anything else.
-/
inductive Reached : Nat → Settling → Prop
  | empty : Reached 0 ⟨[], [], true, [], []⟩
  | spawn {n : Nat} {s : Settling} (h : Reached n s) (t : Task) : Reached (n + 1) (s.spawn ⟨[n], t⟩)
  | inbox {n : Nat} {s : Settling} (h : Reached n s) (fs : List Failure) :
      Reached n { s with inbox := fs }
  | turn {n : Nat} {s : Settling} (h : Reached n s) : Reached n s.turn
  | step {n : Nat} {s s' : Settling} {log : List Node} (h : Reached n s) (hstep : Step s log s') :
      Reached n s'

/-- On its way a guard always has handles for its tasks. -/
theorem Reached.covers {n : Nat} (h : Reached n s) : s.Covers := by
  induction h with
  | empty => exact List.forall_mem_nil _
  | spawn _ t ih => exact covers_spawn ih ⟨_, t⟩
  | inbox _ fs ih => exact ih
  | turn _ ih => exact covers_turn ih
  | step _ hstep ih => exact hstep.covers ih

/-- A step leaves the queue as it is or takes its next turn. -/
theorem Step.queue_eq_or (h : Step s log s') : s'.queue = s.queue ∨ s'.queue = advance s.queue := by
  cases h with
  | turn => exact .inr rfl
  | next => exact .inl rfl
  | take => exact .inl rfl

/-- No two of its tasks have one place, and the places stand below the numbers given so far. -/
theorem Reached.nodup_places {n : Nat} (h : Reached n s) :
    ((forestOf s.queue).map (·.place)).Nodup ∧
      ∀ p ∈ (forestOf s.queue).map (·.place), ∃ i < n, [i] <:+ p := by
  have hadvance {n : Nat} {q : List Node} (h : ((forestOf q).map (·.place)).Nodup ∧
      ∀ p ∈ (forestOf q).map (·.place), ∃ i < n, [i] <:+ p) :
      ((forestOf (advance q)).map (·.place)).Nodup ∧
        ∀ p ∈ (forestOf (advance q)).map (·.place), ∃ i < n, [i] <:+ p := by
    obtain ⟨kept, hperm, hsub⟩ := Task.subperm_places_advance q
    refine ⟨hperm.nodup_iff.mp (h.1.sublist hsub), fun p hp => h.2 p ?_⟩
    exact hsub.subset (hperm.mem_iff.mpr hp)
  induction h with
  | empty => exact ⟨.nil, List.forall_mem_nil _⟩
  | @spawn n s h t ih =>
      have hqueue : (s.spawn ⟨[n], t⟩).queue = s.queue ++ [⟨[n], t⟩] := rfl
      have hnew (p : List Nat) (hp : p ∈ (Task.tree [n] t).map (·.place)) : [n] <:+ p := by
        obtain ⟨a, ha, rfl⟩ := List.mem_map.mp hp
        exact Task.suffix_of_mem_tree ha
      have hforest : forestOf [⟨[n], t⟩] = Task.tree [n] t := List.append_nil _
      rw [hqueue, Task.forestOf_append, hforest, List.map_append, List.nodup_append]
      refine ⟨⟨ih.1, Task.nodup_tree [n] t, ?_⟩, ?_⟩
      · rintro p hp _ hq rfl
        obtain ⟨i, hlt, hi⟩ := ih.2 p hp
        have hend := (List.suffix_of_suffix_length_le hi (hnew p hq) (Nat.le_refl 1)).eq_of_length rfl
        exact absurd (List.cons.inj hend).1 (Nat.ne_of_lt hlt)
      · intro p hp
        rcases List.mem_append.mp hp with hp | hp
        · obtain ⟨i, hlt, hi⟩ := ih.2 p hp
          exact ⟨i, Nat.lt_succ_of_lt hlt, hi⟩
        · exact ⟨n, Nat.lt_succ_self n, hnew p hp⟩
  | inbox _ fs ih => exact ih
  | turn _ ih => exact hadvance ih
  | step _ hstep ih =>
      rcases hstep.queue_eq_or with hqueue | hqueue
      · rw [hqueue]
        exact ih
      · rw [hqueue]
        exact hadvance ih

/-- **A guard settles from wherever it is on its way**, and each task that is left then has its turns,
once and in their order. -/
theorem Reached.settles {n : Nat} (h : Reached n s) :
    Task.RunOnce (forestOf s.queue) (turnsOf s.queue) ∧
    Acc (fun s' s => ∃ log, Step s log s') s ∧
    ∀ log s', Run s log s' →
      (¬ s'.IsDone → ∃ log' s'', Step s' log' s'') ∧
      (s'.IsDone → log = turnsOf s.queue ∧ s'.guard = s.guard.pump) :=
  ⟨Task.runOnce_turnsOf s.queue h.nodup_places.1, h.covers.settles⟩

end Settling

/-- **A guard settles.** Its queue takes as many turns as there is work, and then no task is left;
each task that it had, and each below them, has had its turns by then, once and in their order, the
last being the one in which it ends. A guard that has a handle for each of its tasks does not wait
for them forever: it goes on as long as it has a handle, and when it has none, just these turns have
been taken and it drains what a pump leaves. -/
theorem Guard.settle_ends (g : Guard) :
    let nodes := forest [] 0 g.tasks
    let taken := turnsOf (nodesAt [] 0 g.tasks)
    (∀ n, (turns n g).tasks = [] ↔ workOf g.tasks ≤ n) ∧
    (∀ n, workOf g.tasks ≤ n → turns n g = g.pump) ∧ g.settle = g.pump.drain ∧
    taken.length = workOf g.tasks ∧
    (∀ n, taken[n]?.map (·.task) = (turns n g).tasks.head?) ∧
    nodes.map (·.task) = Task.familyOf g.tasks ∧ Task.RunOnce nodes taken ∧
    ∀ handles, (∀ a ∈ nodesAt [] 0 g.tasks, a.place ∈ handles) →
      Acc (fun s' s => ∃ log, Settling.Step s log s') (.start g handles) ∧
      ∀ log s', Settling.Run (.start g handles) log s' →
        (¬ s'.IsDone → ∃ log' s'', Settling.Step s' log' s'') ∧
        (s'.IsDone → log = taken ∧ s'.guard = g.pump) := by
  intro nodes taken
  have htasks : (nodesAt [] 0 g.tasks).map (·.task) = g.tasks := Task.map_task_nodesAt [] 0 g.tasks
  have hforest : Task.forestOf (nodesAt [] 0 g.tasks) = nodes := Task.forestOf_nodesAt [] 0 g.tasks
  have honce : Task.RunOnce nodes taken := by
    rw [← hforest]
    apply Task.runOnce_turnsOf
    rw [hforest]
    exact Task.nodup_forest [] 0 g.tasks
  refine ⟨fun n => tasks_turns_eq_nil_iff n g, fun n => turns_eq_pump, rfl, ?_,
    fun n => Task.getElem?_turnsOf _ n htasks.symm, Task.map_task_forest [] 0 g.tasks, honce, ?_⟩
  · rw [Task.length_turnsOf, htasks]
  · intro handles hhandles
    have hcovers : (Settling.start g handles).Covers := fun a ha => .inl (hhandles a ha)
    have hsettles := hcovers.settles
    rwa [Settling.guard_start] at hsettles

/-- A guard with a task that gives up a turn and then starts another one that panics. -/
theorem Guard.settle_ends_of_nested :
    let inner : Task := .mk "b" 0 [] [] (.panic (.text "no"))
    let g : Guard := { tasks := [.mk "a" 1 [] [inner] .ok] }
    (turns 3 g).tasks = [] ∧ (turnsOf (nodesAt [] 0 g.tasks)).map (·.place) = [[0], [0], [0, 0]] ∧
    Acc (fun s' s => ∃ log, Settling.Step s log s') (.start g [[0]]) := by
  intro inner g
  obtain ⟨hended, -, -, -, -, -, -, hhandles⟩ := settle_ends g
  refine ⟨(hended 3).mpr (by decide), by simp [g, inner, turnsOf, nodesAt, advance], ?_⟩
  refine (hhandles [[0]] ?_).1
  exact List.forall_mem_singleton.mpr (by decide)

end PolicyLint
