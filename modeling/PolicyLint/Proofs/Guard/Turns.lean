/-
# The turns of a queue

The tasks of a queue and the tasks below them form a forest, and each has its place in it. A queue
takes turns until it is empty: a turn may put its task back, and it may put new ones behind all
others, but it always takes one unit of work away. Whatever the order in which the tasks get their
turns, each has its own, one for each time that it gives a turn up and one in which it ends.

* `Task.Node`, `Task.forest` : tasks with their places;
* `Task.Node.stages` : the turns that a task should have;
* `Task.turnsOf`, `Task.getElem?_turnsOf` : the turns that a queue takes;
* `Task.RunOnce`, `Task.runOnce_turnsOf` : each task has its turns once, and in their order;
* `Guard.tasks_turns_eq_nil_iff` : when no task is left.
-/
import Mathlib.Data.List.Perm.Subperm
import PolicyLint.Proofs.Guard.Census

namespace PolicyLint

namespace Task

/-! ## Places -/

/-- A task at its place: its number among the tasks that are started together, then that of the task
that starts it, and so on. -/
structure Node where
  place : List Nat
  task : Task

/-- Tasks that one task starts, with their places; `k` others were started before them. -/
def nodesAt (p : List Nat) (k : Nat) : List Task → List Node
  | [] => []
  | t :: ts => ⟨k :: p, t⟩ :: nodesAt p (k + 1) ts

mutual

/-- A task at its place, and all tasks below it at theirs. -/
def tree (p : List Nat) : Task → List Node
  | .mk origin yields reports tasks ending =>
      ⟨p, .mk origin yields reports tasks ending⟩ :: forest p 0 tasks

/-- Some tasks that one task starts, and all tasks below them, at their places. -/
def forest (p : List Nat) (k : Nat) : List Task → List Node
  | [] => []
  | t :: ts => tree (k :: p) t ++ forest p (k + 1) ts

end

/-- All tasks of a queue and below it. -/
def forestOf (q : List Node) : List Node := q.flatMap fun a => tree a.place a.task

theorem forestOf_cons (a : Node) (q : List Node) :
    forestOf (a :: q) = tree a.place a.task ++ forestOf q := List.flatMap_cons

theorem forestOf_append (q r : List Node) : forestOf (q ++ r) = forestOf q ++ forestOf r :=
  List.flatMap_append

theorem map_task_nodesAt (p : List Nat) (k : Nat) (ts : List Task) :
    (nodesAt p k ts).map (·.task) = ts := by
  induction ts generalizing k with
  | nil => rfl
  | cons t ts ih => rw [nodesAt, List.map_cons, ih]

/-- The forest of a queue of new tasks. -/
theorem forestOf_nodesAt (p : List Nat) (k : Nat) (ts : List Task) :
    forestOf (nodesAt p k ts) = forest p k ts := by
  induction ts generalizing k with
  | nil => rw [nodesAt, forest, forestOf, List.flatMap_nil]
  | cons t ts ih => rw [nodesAt, forestOf_cons, ih, forest]

mutual

/-- The tasks of a tree are the family of its task. -/
theorem map_task_tree (p : List Nat) (t : Task) : (tree p t).map (·.task) = t.family := by
  obtain ⟨origin, yields, reports, tasks, ending⟩ := t
  rw [tree, List.map_cons, family, map_task_forest p 0 tasks]

/-- The tasks of a forest are the families of its tasks. -/
theorem map_task_forest (p : List Nat) (k : Nat) (ts : List Task) :
    (forest p k ts).map (·.task) = familyOf ts := by
  cases ts with
  | nil => rw [forest, familyOf, List.map_nil]
  | cons t ts =>
      rw [forest, familyOf, List.map_append, map_task_tree (k :: p) t,
        map_task_forest p (k + 1) ts]

end

mutual

/-- The places of a tree stand below its own. -/
theorem suffix_of_mem_tree {p : List Nat} {t : Task} {a : Node} (h : a ∈ tree p t) :
    p <:+ a.place := by
  obtain ⟨origin, yields, reports, tasks, ending⟩ := t
  rw [tree] at h
  rcases List.mem_cons.mp h with rfl | h
  · exact List.suffix_rfl
  · obtain ⟨j, -, hj⟩ := suffix_of_mem_forest h
    exact (List.suffix_cons j p).trans hj

/-- The places of a forest stand below those of its tasks. -/
theorem suffix_of_mem_forest {p : List Nat} {k : Nat} {ts : List Task} {a : Node}
    (h : a ∈ forest p k ts) : ∃ j, k ≤ j ∧ (j :: p) <:+ a.place := by
  cases ts with
  | nil =>
      rw [forest] at h
      cases h
  | cons t ts =>
      rw [forest] at h
      rcases List.mem_append.mp h with h | h
      · exact ⟨k, Nat.le_refl _, suffix_of_mem_tree h⟩
      · obtain ⟨j, hle, hj⟩ := suffix_of_mem_forest h
        exact ⟨j, Nat.le_of_succ_le hle, hj⟩

end

mutual

/-- No two tasks of a tree have one place. -/
theorem nodup_tree (p : List Nat) (t : Task) : ((tree p t).map (·.place)).Nodup := by
  obtain ⟨origin, yields, reports, tasks, ending⟩ := t
  rw [tree, List.map_cons, List.nodup_cons]
  refine ⟨?_, nodup_forest p 0 tasks⟩
  -- what stands below a place is longer
  intro h
  obtain ⟨a, ha, hplace⟩ := List.mem_map.mp h
  obtain ⟨j, -, hj⟩ := suffix_of_mem_forest ha
  have hle := hj.length_le
  rw [hplace, List.length_cons] at hle
  exact Nat.lt_irrefl _ hle

/-- **No two tasks of a forest have one place.** -/
theorem nodup_forest (p : List Nat) (k : Nat) (ts : List Task) :
    ((forest p k ts).map (·.place)).Nodup := by
  cases ts with
  | nil =>
      rw [forest]
      exact .nil
  | cons t ts =>
      rw [forest, List.map_append, List.nodup_append]
      refine ⟨nodup_tree (k :: p) t, nodup_forest p (k + 1) ts, ?_⟩
      intro q hq r hr hqr
      obtain ⟨a, ha, rfl⟩ := List.mem_map.mp hq
      obtain ⟨b, hb, rfl⟩ := List.mem_map.mp hr
      obtain ⟨j, hlt, hj⟩ := suffix_of_mem_forest hb
      have hk := suffix_of_mem_tree ha
      rw [hqr] at hk
      -- two ends of one place that are equally long are the same
      have heq := (List.suffix_of_suffix_length_le hk hj (by simp)).eq_of_length (by simp)
      rw [List.cons.injEq] at heq
      omega

end

/-! ## Turns -/

/-- A queue after one turn: its first task gives the turn up and queues again, or ends, and the
tasks that it starts queue. -/
def advance : List Node → List Node
  | [] => []
  | ⟨p, .mk origin (yields + 1) reports tasks ending⟩ :: rest =>
      rest ++ [⟨p, .mk origin yields reports tasks ending⟩]
  | ⟨p, .mk _ 0 _ tasks _⟩ :: rest => rest ++ nodesAt p 0 tasks

/-- A turn of a guard is a turn of its queue. -/
theorem map_task_advance (q : List Node) {g : Guard} (h : g.tasks = q.map (·.task)) :
    g.turn.tasks = (advance q).map (·.task) := by
  obtain ⟨tasks, inbox, isOpen⟩ := g
  subst h
  rcases q with _ | ⟨⟨p, ⟨origin, _ | yields, reports, tasks, ending⟩⟩, rest⟩
  · rfl
  · rw [advance, List.map_append, map_task_nodesAt]
    cases isOpen <;> rfl
  · rw [advance, List.map_append]
    rfl

/-- A turn takes one unit of work away. -/
theorem workOf_advance (a : Node) (rest : List Node) :
    workOf ((advance (a :: rest)).map (·.task)) + 1 = workOf ((a :: rest).map (·.task)) := by
  let g : Guard := { tasks := (a :: rest).map (·.task) }
  rw [← map_task_advance (a :: rest) (show g.tasks = _ from rfl)]
  exact g.workOf_tasks_turn (List.cons_ne_nil _ _)

section

variable (p : List Nat) (origin : String) (yields : Nat) (reports : List Failure)
  (tasks : List Task) (ending : TaskEnd) (rest : List Node)

/-- When a task ends, what it starts queues behind the others. -/
theorem forestOf_advance_end :
    (forestOf (advance (⟨p, .mk origin 0 reports tasks ending⟩ :: rest))).Perm
      (forest p 0 tasks ++ forestOf rest) := by
  rw [advance, forestOf_append, forestOf_nodesAt]
  exact List.perm_append_comm

/-- When a task gives its turn up it goes behind the others, and what is below it stays there. -/
theorem forestOf_advance_yield :
    (forestOf (advance (⟨p, .mk origin (yields + 1) reports tasks ending⟩ :: rest))).Perm
      (⟨p, .mk origin yields reports tasks ending⟩ :: forest p 0 tasks ++ forestOf rest) := by
  rw [advance, forestOf_append, forestOf_cons, tree, show forestOf [] = [] from rfl,
    List.append_nil]
  exact List.perm_append_comm

end

/-- After a turn no task stands at a place that was not there. -/
theorem subperm_places_advance (q : List Node) :
    ((forestOf (advance q)).map (·.place)).Subperm ((forestOf q).map (·.place)) := by
  rcases q with _ | ⟨⟨p, ⟨origin, _ | yields, reports, tasks, ending⟩⟩, rest⟩
  · exact .refl _
  · -- the place of a task that ends is left
    have hperm := forestOf_advance_end p origin reports tasks ending rest
    exact (hperm.map _).subperm.trans (List.sublist_cons_self _ _).subperm
  · exact ((forestOf_advance_yield p origin yields reports tasks ending rest).map _).subperm

/-- The turns that a queue takes until it is empty, each with its task as it stands. -/
def turnsOf : List Node → List Node
  | [] => []
  | a :: rest => a :: turnsOf (advance (a :: rest))
termination_by q => workOf (q.map (·.task))
decreasing_by
  have hwork := workOf_advance a rest
  omega

/-- A queue takes as many turns as there is work. -/
theorem length_turnsOf (q : List Node) : (turnsOf q).length = workOf (q.map (·.task)) := by
  induction q using turnsOf.induct with
  | case1 =>
      rw [turnsOf]
      rfl
  | case2 a rest ih => rw [turnsOf, List.length_cons, ih, workOf_advance]

/-- **The turns of a queue are those of a guard**: each is the turn of the task that stands in front
when it comes. -/
theorem getElem?_turnsOf (q : List Node) (n : Nat) {g : Guard} (h : g.tasks = q.map (·.task)) :
    (turnsOf q)[n]?.map (·.task) = (Guard.turns n g).tasks.head? := by
  induction n generalizing q g with
  | zero =>
      rw [Guard.turns, h]
      rcases q with _ | ⟨a, rest⟩
      · rw [turnsOf]
        rfl
      · rw [turnsOf]
        rfl
  | succ n ih =>
      rw [Guard.turns, ← ih (advance q) (map_task_advance q h)]
      rcases q with _ | ⟨a, rest⟩
      · rw [advance, turnsOf]
        rfl
      · rw [turnsOf]
        rfl

/-! ## Each task has its turns -/

/-- The turns that a task should have: one for each that it gives up, and one in which it ends. -/
def Node.stages : Node → List Node
  | ⟨p, .mk origin yields reports tasks ending⟩ =>
      (List.range (yields + 1)).reverse.map fun n => ⟨p, .mk origin n reports tasks ending⟩

/-- Whether some turns are those of some tasks with places: each task has its own, in their order,
and there are no others. -/
structure RunOnce (nodes turns : List Node) : Prop where
  distinct : (nodes.map (·.place)).Nodup
  inOrder : ∀ a ∈ nodes, turns.filter (·.place = a.place) = a.stages
  placed : ∀ a ∈ turns, a.place ∈ nodes.map (·.place)

variable {origin : String} {yields : Nat} {reports : List Failure} {tasks : List Task}
  {ending : TaskEnd} {p : List Nat} {nodes nodes' turns : List Node}

theorem Node.stages_zero :
    stages ⟨p, .mk origin 0 reports tasks ending⟩ = [⟨p, .mk origin 0 reports tasks ending⟩] := rfl

theorem Node.stages_succ :
    stages ⟨p, .mk origin (yields + 1) reports tasks ending⟩ =
      ⟨p, .mk origin (yields + 1) reports tasks ending⟩ ::
        stages ⟨p, .mk origin yields reports tasks ending⟩ := by
  rw [stages, List.range_succ, List.reverse_append, List.map_append]
  rfl

/-- The order of the tasks does not matter. -/
theorem RunOnce.of_perm (h : RunOnce nodes turns) (hperm : nodes.Perm nodes') :
    RunOnce nodes' turns where
  distinct := (hperm.map _).nodup_iff.mp h.distinct
  inOrder a ha := h.inOrder a (hperm.mem_iff.mpr ha)
  placed a ha := (hperm.map _).mem_iff.mp (h.placed a ha)

/-- A turn before the others, which its task gives up. -/
theorem RunOnce.cons_yield
    (h : RunOnce (⟨p, .mk origin yields reports tasks ending⟩ :: nodes) turns) :
    RunOnce (⟨p, .mk origin (yields + 1) reports tasks ending⟩ :: nodes)
      (⟨p, .mk origin (yields + 1) reports tasks ending⟩ :: turns) where
  distinct := h.distinct
  inOrder a ha := by
    rcases List.mem_cons.mp ha with rfl | ha
    · rw [Node.stages_succ, ← h.inOrder _ List.mem_cons_self]
      exact List.filter_cons_of_pos (decide_eq_true rfl)
    · have hmem : a.place ∈ nodes.map (·.place) := List.mem_map_of_mem ha
      have hne : p ≠ a.place := fun heq => (List.nodup_cons.mp h.distinct).1 (heq ▸ hmem)
      rw [← h.inOrder a (List.mem_cons_of_mem _ ha)]
      exact List.filter_cons_of_neg (mt of_decide_eq_true hne)
  placed a ha := by
    rcases List.mem_cons.mp ha with rfl | ha
    · exact List.mem_cons_self
    · exact h.placed a ha

/-- A turn before the others, in which its task ends. -/
theorem RunOnce.cons_end (h : RunOnce nodes turns) (hp : p ∉ nodes.map (·.place)) :
    RunOnce (⟨p, .mk origin 0 reports tasks ending⟩ :: nodes)
      (⟨p, .mk origin 0 reports tasks ending⟩ :: turns) where
  distinct := List.nodup_cons.mpr ⟨hp, h.distinct⟩
  inOrder a ha := by
    rcases List.mem_cons.mp ha with rfl | ha
    · have hnone : turns.filter (·.place = p) = [] := by
        rw [List.filter_eq_nil_iff]
        intro b hb hplace
        exact hp (of_decide_eq_true hplace ▸ h.placed b hb)
      rw [Node.stages_zero, ← hnone]
      exact List.filter_cons_of_pos (decide_eq_true rfl)
    · have hne : p ≠ a.place := fun heq => hp (heq ▸ List.mem_map_of_mem ha)
      rw [← h.inOrder a ha]
      exact List.filter_cons_of_neg (mt of_decide_eq_true hne)
  placed a ha := by
    rcases List.mem_cons.mp ha with rfl | ha
    · exact List.mem_cons_self
    · exact List.mem_cons_of_mem _ (h.placed a ha)

/-- **Each task of a queue and below it has its turns, once and in their order.** By induction along
the turns. -/
theorem runOnce_turnsOf (q : List Node) (h : ((forestOf q).map (·.place)).Nodup) :
    RunOnce (forestOf q) (turnsOf q) := by
  induction q using turnsOf.induct with
  | case1 =>
      rw [turnsOf]
      exact ⟨.nil, List.forall_mem_nil _, List.forall_mem_nil _⟩
  | case2 a rest ih =>
      rw [turnsOf]
      rcases a with ⟨p, ⟨origin, _ | yields, reports, tasks, ending⟩⟩
      · rw [forestOf_cons, tree, List.cons_append, List.map_cons, List.nodup_cons] at h
        rw [forestOf_cons, tree, List.cons_append]
        have hperm := forestOf_advance_end p origin reports tasks ending rest
        exact ((ih ((hperm.map _).nodup_iff.mpr h.2)).of_perm hperm).cons_end h.1
      · rw [forestOf_cons, tree] at h ⊢
        have hperm := forestOf_advance_yield p origin yields reports tasks ending rest
        exact ((ih ((hperm.map _).nodup_iff.mpr h)).of_perm hperm).cons_yield

end Task

/-! ## Guards run out of tasks -/

namespace Guard

/-- An empty queue takes no turn. -/
theorem turn_of_tasks_eq_nil {g : Guard} (h : g.tasks = []) : g.turn = g := by
  obtain ⟨tasks, inbox, isOpen⟩ := g
  subst h
  rfl

theorem workOf_tasks_turn_eq (g : Guard) :
    Task.workOf g.turn.tasks = Task.workOf g.tasks - 1 := by
  by_cases h : g.tasks = []
  · rw [turn_of_tasks_eq_nil h, h, Task.workOf]
  · have hwork := g.workOf_tasks_turn h
    omega

/-- Every turn takes one unit of work away, as long as there is any. -/
theorem workOf_tasks_turns (n : Nat) (g : Guard) :
    Task.workOf (turns n g).tasks = Task.workOf g.tasks - n := by
  induction n generalizing g with
  | zero => rfl
  | succ n ih => rw [turns, ih, workOf_tasks_turn_eq, Nat.sub_sub, Nat.add_comm]

/-- **No task is left exactly when there were as many turns as there was work.** -/
theorem tasks_turns_eq_nil_iff (n : Nat) (g : Guard) :
    (turns n g).tasks = [] ↔ Task.workOf g.tasks ≤ n := by
  have hwork := workOf_tasks_turns n g
  constructor
  · intro h
    rw [h, Task.workOf] at hwork
    omega
  · intro h
    exact tasks_eq_nil_of_workOf _ (by omega)

theorem turns_of_tasks_eq_nil (n : Nat) {g : Guard} (h : g.tasks = []) : turns n g = g := by
  induction n with
  | zero => rfl
  | succ n ih => rwa [turns, turn_of_tasks_eq_nil h]

theorem turns_add (m n : Nat) (g : Guard) : turns (m + n) g = turns n (turns m g) := by
  induction m generalizing g with
  | zero => rw [Nat.zero_add, turns]
  | succ m ih => rw [Nat.succ_add, turns, turns, ih]

/-- A turn before a pump changes nothing. -/
theorem pump_turn (g : Guard) : g.turn.pump = g.pump := by
  by_cases h : g.tasks = []
  · rw [turn_of_tasks_eq_nil h]
  · rw [pump, pump, ← g.workOf_tasks_turn h, turns]

/-- More turns than there is work for change nothing. -/
theorem turns_eq_pump {n : Nat} {g : Guard} (h : Task.workOf g.tasks ≤ n) :
    turns n g = g.pump := by
  rw [← Nat.add_sub_cancel' h, turns_add]
  exact turns_of_tasks_eq_nil _ g.tasks_pump

end Guard

end PolicyLint
