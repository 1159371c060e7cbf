/-
# What automata match

An automaton is run in all the states that it can be in at once, and no state is entered twice at
one place. What it matches can also be told state by state: a state matches what it asks for and
then what the states after it match, the first of them that matches anything counting. If no state
comes back to itself without a character being taken, a run gives just that.

* `State.matcher` : what a state matches, if the states after it match as given;
* `Automaton.Means` : what each state of an automaton matches;
* `Automaton.findSome?_reached`, `Automaton.run_eq` : what is reached, and a run;
* `Automaton.matchAt_eq` : an automaton matches what its start does.
-/
import PolicyLint.Pattern.Automaton
import Mathlib.Algebra.Order.BigOperators.Group.Finset

namespace PolicyLint.Pattern

/-! ## States -/

namespace State

/-- The states that a state may stand for without a character being taken. -/
def instead : State → List Nat
  | .look _ next => [next]
  | .fork nexts => nexts
  | _ => []

/-- What a state matches, if the others match as given. -/
def matcher (m : Nat → Matcher) : State → Matcher
  | .step set next => fun s =>
      match s.rest with
      | [] => none
      | c :: cs => if set c then (m next ⟨some c, cs⟩).map (· + 1) else none
  | .look l next => fun s => if l.holds s then m next s else none
  | .fork nexts => fun s => nexts.findSome? (m · s)
  | .accept => fun _ => some 0

end State

namespace Automaton

/-- What the states of an automaton match. The rank of a state goes down where another stands for
it, so that no state stands for itself. -/
structure Means (a : Automaton) (m : Nat → Matcher) (rank : Nat → Nat) : Prop where
  state : ∀ {q st}, a.states[q]? = some st → m q = st.matcher m
  missing : ∀ {q}, a.states[q]? = none → m q = fun _ => none
  descends : ∀ {q st}, a.states[q]? = some st → ∀ next ∈ st.instead, rank next < rank q

/-- Whether a state takes a character or accepts. -/
def IsLive (a : Automaton) (q : Nat) : Prop :=
  (∃ set next, a.states[q]? = some (.step set next)) ∨ a.states[q]? = some .accept

variable {a : Automaton} {m : Nat → Matcher} {rank : Nat → Nat} {s : Site}

/-! ## Marks -/

/-- The states marked are those marked before and the new one. -/
theorem testBit_mark (seen q p : Nat) :
    (seen ||| 1 <<< q).testBit p = (seen.testBit p || decide (q = p)) := by
  rw [Nat.testBit_or, Nat.one_shiftLeft, Nat.testBit_two_pow]

/-- How many ways the states offer that are not marked. -/
def fresh (a : Automaton) (seen : Nat) : Nat :=
  ∑ q ∈ Finset.range a.states.size,
    if seen.testBit q then 0 else (a.states[q]?.map Regular.waysOf).getD 0

/-- A state that is marked takes its ways with it. -/
theorem fresh_mark {seen q : Nat} {st : State} (hq : seen.testBit q = false)
    (hst : a.states[q]? = some st) :
    a.fresh (seen ||| 1 <<< q) + Regular.waysOf st = a.fresh seen := by
  have hmem : q ∈ Finset.range a.states.size :=
    Finset.mem_range.mpr (Array.getElem?_eq_some_iff.mp hst).1
  rw [fresh, fresh, ← Finset.sum_erase_add (Finset.range a.states.size) _ hmem,
    ← Finset.sum_erase_add (Finset.range a.states.size) _ hmem, testBit_mark,
    decide_eq_true rfl, Bool.or_true, if_pos rfl, hq, if_neg Bool.false_ne_true, hst, Nat.add_zero]
  refine congrArg (· + _) (Finset.sum_congr rfl fun p hp => ?_)
  rw [testBit_mark, decide_eq_false (Finset.ne_of_mem_erase hp).symm, Bool.or_false]

/-- What is marked takes no ways. -/
theorem fresh_mark_le (a : Automaton) (seen q : Nat) :
    a.fresh (seen ||| 1 <<< q) ≤ a.fresh seen := by
  refine Finset.sum_le_sum fun p _ => ?_
  rw [testBit_mark]
  cases seen.testBit p with
  | true => exact Nat.le_refl _
  | false =>
      rw [Bool.false_or]
      split
      · exact Nat.zero_le _
      · exact Nat.le_refl _

/-- The ways of an expression are those of its states. -/
theorem ways_compile (r : Regular) : r.compile.ways = r.compile.fresh 0 := by
  have hcount : ∀ states : List State, states.foldl (fun n st => n + Regular.waysOf st) 0 =
      ∑ q ∈ Finset.range states.length, (states[q]?.map Regular.waysOf).getD 0 := by
    intro states
    induction states using List.reverseRecOn with
    | nil => rfl
    | append_singleton states st ih =>
        rw [List.foldl_append, ih, List.length_append, List.length_singleton,
          Finset.sum_range_succ, List.getElem?_concat_length]
        refine congrArg (· + _) (Finset.sum_congr rfl fun q hq => ?_)
        rw [List.getElem?_append_left (Finset.mem_range.mp hq)]
  show Array.foldl _ 0 (r.build 0 #[.accept]).2 = _
  rw [← Array.foldl_toList, hcount, fresh]
  simp [Regular.compile]

/-! ## States reached -/

/-- Whether what the marked states match is known: a marked state matches nothing unless a state
found does, or one that is to be tried before any state of its rank. -/
def Settled (m : Nat → Matcher) (rank : Nat → Nat) (s : Site) (seen : Nat) (qs found : List Nat) :
    Prop :=
  ∀ p, seen.testBit p = true → ∃ front back, qs = front ++ back ∧ (∀ q ∈ front, rank q < rank p) ∧
    ((∀ q ∈ found, m q s = none) → (∀ q ∈ front, m q s = none) → m p s = none)

/-- A marked state that comes up again has been settled by the states found. -/
theorem Settled.head {seen q : Nat} {qs found : List Nat}
    (h : Settled m rank s seen (q :: qs) found) (hq : seen.testBit q = true)
    (hnone : ∀ p ∈ found, m p s = none) : m q s = none := by
  obtain ⟨_ | ⟨p, front⟩, back, heq, hrank, hsettled⟩ := h q hq
  · exact hsettled hnone (List.forall_mem_nil _)
  · -- what is to be tried before has a lower rank than the state itself
    obtain ⟨rfl, -⟩ := List.cons.inj heq
    exact absurd (hrank q List.mem_cons_self) (Nat.lt_irrefl _)

/-- A marked state that comes up again is passed over. -/
theorem Settled.skip {seen q : Nat} {qs found : List Nat}
    (h : Settled m rank s seen (q :: qs) found) (hq : seen.testBit q = true) :
    Settled m rank s seen qs found := by
  intro p hp
  obtain ⟨_ | ⟨q', front⟩, back, heq, hrank, hsettled⟩ := h p hp
  · exact ⟨[], qs, rfl, List.forall_mem_nil _, hsettled⟩
  · obtain ⟨rfl, hqs⟩ := List.cons.inj heq
    refine ⟨front, back, hqs, fun r hr => hrank r (List.mem_cons_of_mem q hr), ?_⟩
    intro hfound hfront
    exact hsettled hfound (List.forall_mem_cons.mpr ⟨h.head hq hfound, hfront⟩)

/-- A state is entered: others stand for it, or it is found. -/
theorem Settled.enter {seen q : Nat} {qs nexts found found' : List Nat}
    (h : Settled m rank s seen (q :: qs) found) (hrank : ∀ next ∈ nexts, rank next < rank q)
    (hfound : found ⊆ found')
    (hq : (∀ p ∈ found', m p s = none) → (∀ next ∈ nexts, m next s = none) → m q s = none) :
    Settled m rank s (seen ||| 1 <<< q) (nexts ++ qs) found' := by
  intro p hp
  rw [testBit_mark, Bool.or_eq_true, decide_eq_true_iff] at hp
  rcases hp with hp | rfl
  · obtain ⟨_ | ⟨q', front⟩, back, heq, hfront, hsettled⟩ := h p hp
    · exact ⟨[], _, rfl, List.forall_mem_nil _, fun hnone => hsettled fun r hr =>
        hnone r (hfound hr)⟩
    · obtain ⟨rfl, rfl⟩ := List.cons.inj heq
      obtain ⟨hqp, hfront⟩ := List.forall_mem_cons.mp hfront
      refine ⟨nexts ++ front, back, (List.append_assoc _ _ _).symm, ?_, ?_⟩
      · rw [List.forall_mem_append]
        exact ⟨fun next hnext => (hrank next hnext).trans hqp, hfront⟩
      · intro hnone hboth
        rw [List.forall_mem_append] at hboth
        exact hsettled (fun r hr => hnone r (hfound hr))
          (List.forall_mem_cons.mpr ⟨hq hnone hboth.1, hboth.2⟩)
  · exact ⟨nexts, qs, rfl, hrank, hq⟩

/-- A state that is not marked yet is entered: it is found, or others stand for it, which takes no
more ways than it has. -/
theorem Means.exists_enter (h : a.Means m rank) (fuel : Nat) {seen q : Nat} (qs found : List Nat)
    (hq : seen.testBit q = false) :
    ∃ nexts found', a.closure s (fuel + 1) (q :: qs) seen found =
        a.closure s fuel (nexts ++ qs) (seen ||| 1 <<< q) found' ∧
      ((nexts = [] ∧ found' = q :: found) ∨ (found' = found ∧ m q s = nexts.findSome? (m · s))) ∧
      (∀ next ∈ nexts, rank next < rank q) ∧
      nexts.length + a.fresh (seen ||| 1 <<< q) ≤ a.fresh seen := by
  have hle := a.fresh_mark_le seen q
  rw [closure, hq, if_neg Bool.false_ne_true]
  cases hst : a.states[q]? with
  | none =>
      have hm : m q s = none := congrFun (h.missing hst) s
      exact ⟨[], found, rfl, .inr ⟨rfl, hm⟩, List.forall_mem_nil _, (Nat.zero_add _).trans_le hle⟩
  | some st =>
      have hm : m q s = st.matcher m s := congrFun (h.state hst) s
      have hrank := h.descends hst
      have hways := fresh_mark hq hst
      rw [Nat.add_comm] at hways
      cases st with
      | step set next =>
          exact ⟨[], q :: found, rfl, .inl ⟨rfl, rfl⟩, List.forall_mem_nil _, hways.le⟩
      | accept => exact ⟨[], q :: found, rfl, .inl ⟨rfl, rfl⟩, List.forall_mem_nil _, hways.le⟩
      | fork nexts => exact ⟨nexts, found, rfl, .inr ⟨rfl, hm⟩, hrank, hways.le⟩
      | look l next =>
          dsimp only
          cases hl : l.holds s with
          | true =>
              refine ⟨[next], found, rfl, .inr ⟨rfl, ?_⟩, hrank, hways.le⟩
              rw [hm, List.findSome?_singleton]
              exact if_pos hl
          | false =>
              refine ⟨[], found, rfl, .inr ⟨rfl, ?_⟩, List.forall_mem_nil _,
                (Nat.zero_add _).trans_le hle⟩
              rw [hm]
              exact if_neg (Bool.eq_false_iff.mp hl)

/-- **What the states found match is what the states given do**, if there is fuel for each of them
and for all ways that are left. By induction on the fuel: a marked state has been settled, and
another is entered. -/
theorem findSome?_closure (h : a.Means m rank) (fuel : Nat) (qs : List Nat) (seen : Nat)
    (found : List Nat) (hfuel : qs.length + a.fresh seen ≤ fuel)
    (hsettled : Settled m rank s seen qs found) :
    (a.closure s fuel qs seen found).2.reverse.findSome? (m · s) =
      (found.reverse ++ qs).findSome? (m · s) := by
  induction fuel generalizing qs seen found with
  | zero =>
      obtain rfl : qs = [] := List.eq_nil_of_length_eq_zero (by omega)
      rw [closure, List.append_nil]
  | succ fuel ih =>
      cases qs with
      | nil =>
          rw [closure, List.append_nil]
          simp
      | cons q qs =>
          rw [List.length_cons] at hfuel
          cases hq : seen.testBit q with
          | true =>
              rw [closure, hq, if_pos rfl, ih qs seen found (by omega) (hsettled.skip hq),
                List.findSome?_append, List.findSome?_append, List.findSome?_cons]
              cases hfound : found.reverse.findSome? (m · s) with
              | some n => rfl
              | none =>
                  rw [List.findSome?_eq_none_iff] at hfound
                  rw [hsettled.head hq fun p hp => hfound p (List.mem_reverse.mpr hp)]
          | false =>
              obtain ⟨nexts, found', hclosure, hentered, hrank, hways⟩ :=
                h.exists_enter fuel qs found hq
              have hlength : (nexts ++ qs).length + a.fresh (seen ||| 1 <<< q) ≤ fuel := by
                rw [List.length_append]
                omega
              rcases hentered with ⟨rfl, rfl⟩ | ⟨rfl, hm⟩
              · rw [hclosure, ih _ _ _ hlength (hsettled.enter hrank (List.subset_cons_self _ _)
                  fun hnone _ => hnone q List.mem_cons_self), List.reverse_cons, List.append_assoc]
                rfl
              · rw [hclosure, ih _ _ _ hlength (hsettled.enter hrank (List.Subset.refl _)
                  fun _ hnone => hm.trans (List.findSome?_eq_none_iff.mpr hnone)),
                  List.findSome?_append, List.findSome?_append, List.findSome?_append,
                  List.findSome?_cons, hm]
                cases nexts.findSome? (m · s) <;> rfl

/-- The states found are live. -/
theorem isLive_of_mem_closure (fuel : Nat) (qs : List Nat) (seen : Nat) (found : List Nat)
    (hfound : ∀ q ∈ found, a.IsLive q) :
    ∀ q ∈ (a.closure s fuel qs seen found).2, a.IsLive q := by
  fun_induction closure a s fuel qs seen found with
  | case1 => exact hfound
  | case2 => exact hfound
  | case3 fuel q qs seen found hq ih => exact ih hfound
  | case4 fuel q qs seen found hq seen' l next hst ih => exact ih hfound
  | case5 fuel q qs seen found hq seen' nexts hst ih => exact ih hfound
  | case6 fuel q qs seen found hq seen' st hlook hfork hst ih =>
      refine ih (List.forall_mem_cons.mpr ⟨?_, hfound⟩)
      cases st with
      | step set next => exact .inl ⟨set, next, hst⟩
      | accept => exact .inr hst
      | look l next => exact absurd rfl (hlook l next)
      | fork nexts => exact absurd rfl (hfork nexts)
  | case7 fuel q qs seen found hq seen' hst ih => exact ih hfound

/-- **What is reached matches what the states given do.** -/
theorem findSome?_reached (h : a.Means m rank) (hways : a.ways = a.fresh 0) (s : Site)
    (qs : List Nat) : (a.reached s qs).findSome? (m · s) = qs.findSome? (m · s) := by
  refine findSome?_closure h _ qs 0 [] (by omega) ?_
  intro p hp
  rw [Nat.zero_testBit] at hp
  cases hp

/-- What is reached is live. -/
theorem isLive_of_mem_reached {qs : List Nat} : ∀ q ∈ a.reached s qs, a.IsLive q := by
  intro q hq
  exact isLive_of_mem_closure _ qs 0 [] (List.forall_mem_nil _) q (List.mem_reverse.mp hq)

/-! ## Runs -/

/-- At the end of a text only what accepts matches. -/
theorem findSome?_live_nil (h : a.Means m rank) (p : Option Char) {live : List Nat}
    (hlive : ∀ q ∈ live, a.IsLive q) :
    live.findSome? (m · ⟨p, []⟩) = if live.any a.accepts then some 0 else none := by
  induction live with
  | nil => rfl
  | cons q live ih =>
      rw [List.forall_mem_cons] at hlive
      rw [List.findSome?_cons, List.any_cons, ih hlive.2]
      rcases hlive.1 with ⟨set, next, hst⟩ | hst
      · rw [h.state hst, accepts, hst]
        rfl
      · rw [h.state hst, accepts, hst]
        rfl

/-- Before a character the states after it match, up to the first state that accepts. -/
theorem findSome?_live_cons (h : a.Means m rank) (p : Option Char) (c : Char) (cs : List Char)
    (count : Nat) (best : Option Nat) {live : List Nat} (hlive : ∀ q ∈ live, a.IsLive q) :
    ((live.findSome? (m · ⟨p, c :: cs⟩)).map (count + ·)).or best =
      ((((live.takeWhile fun q => !a.accepts q).filterMap (a.after? c)).findSome?
        (m · ⟨some c, cs⟩)).map (count + 1 + ·)).or
          (if live.any a.accepts then some count else best) := by
  induction live with
  | nil => rfl
  | cons q live ih =>
      rw [List.forall_mem_cons] at hlive
      rw [List.findSome?_cons, List.any_cons]
      rcases hlive.1 with ⟨set, next, hst⟩ | hst
      · have haccepts : a.accepts q = false := by rw [accepts, hst]
        have hafter : a.after? c q = if set c then some next else none := by rw [after?, hst]
        rw [h.state hst, List.takeWhile_cons_of_pos (by rw [haccepts]; rfl), haccepts,
          Bool.false_or, List.filterMap_cons, hafter]
        cases hc : set c with
        | false => simpa [State.matcher, hc] using ih hlive.2
        | true =>
            have hstep : State.matcher m (.step set next) ⟨p, c :: cs⟩ =
                (m next ⟨some c, cs⟩).map (· + 1) := if_pos hc
            rw [hstep, if_pos rfl, List.findSome?_cons]
            cases m next ⟨some c, cs⟩ with
            | none => exact ih hlive.2
            | some n =>
                show some (count + (n + 1)) = some (count + 1 + n)
                rw [Nat.add_comm n 1, Nat.add_assoc]
      · have haccepts : a.accepts q = true := by rw [accepts, hst]
        rw [h.state hst, List.takeWhile_cons_of_neg (by rw [haccepts]; exact Bool.false_ne_true),
          haccepts]
        rfl

/-- **A run gives what its states match**: the first of them that matches counts, and before all of
them what has been matched so far. -/
theorem run_eq (h : a.Means m rank) (hways : a.ways = a.fresh 0) (p : Option Char)
    (cs : List Char) (qs : List Nat) (count : Nat) (best : Option Nat) :
    a.run p cs qs count best = ((qs.findSome? (m · ⟨p, cs⟩)).map (count + ·)).or best := by
  induction cs generalizing p qs count best with
  | nil =>
      cases qs with
      | nil => rfl
      | cons q qs =>
          rw [run, ← findSome?_reached h hways, findSome?_live_nil h p isLive_of_mem_reached]
          · split <;> rfl
          · simp
  | cons c cs ih =>
      cases qs with
      | nil => rfl
      | cons q qs =>
          rw [run, ih, ← findSome?_reached h hways ⟨p, c :: cs⟩]
          · exact (findSome?_live_cons h p c cs count best isLive_of_mem_reached).symm
          · simp

/-- **An automaton matches what its start does.** -/
theorem matchAt_eq (h : a.Means m rank) (hways : a.ways = a.fresh 0) : a.matchAt = m a.start := by
  funext s
  rw [matchAt, run_eq h hways, List.findSome?_singleton, Option.or_none]
  simp

end Automaton

end PolicyLint.Pattern
