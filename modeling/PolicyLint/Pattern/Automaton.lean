/-
# Automata

A regular expression is run as an automaton. The states that the automaton can be in after some
characters stand in their order of preference, none of them twice, and a match found by one of them
beats all that come after it. The match at a place is the one that the most preferred way leads to.

* `Pattern.Automaton` : the automata;
* `Pattern.Regular.compile` : the automaton of an expression;
* `Pattern.Automaton.matchAt` : the matcher that an automaton is.
-/
import PolicyLint.Pattern.Regular

namespace PolicyLint.Pattern

/-- What an automaton does in a state: take a character of a set, ask for a place, try other states
in the order given, or accept. -/
inductive State where
  | step (set : CharSet) (next : Nat)
  | look (l : Look) (next : Nat)
  | fork (nexts : List Nat)
  | accept

/-- An automaton: its states by number, the state it starts in, and how many ways its forks and
places offer altogether. -/
structure Automaton where
  states : Array State
  start : Nat
  ways : Nat

/-! ## Compiling -/

namespace Regular

/-- States under construction. A builder adds the states of an expression that goes on to the state
given, and tells where the expression starts. -/
abbrev Builder := Nat → Array State → Nat × Array State

/-- Adds one state. -/
def add (s : State) (states : Array State) : Nat × Array State :=
  (states.size, states.push s)

/-- The states tried in their order, or in the reverse order for the lazy forms. -/
def fork (greedy : Bool) (first second : Nat) : State :=
  .fork (if greedy then [first, second] else [second, first])

/-- So many copies, one after the other. -/
def copies (body : Builder) : Nat → Builder
  | 0, next, states => (next, states)
  | n + 1, next, states =>
      let (start, states) := body next states
      copies body n start states

/-- At most so many copies, each of which may be the last. -/
def upTo (body : Builder) (greedy : Bool) : Nat → Builder
  | 0, next, states => (next, states)
  | n + 1, next, states =>
      let (inner, states) := upTo body greedy n next states
      let (start, states) := body inner states
      add (fork greedy start next) states

/-- One copy or more: after each, another one or the end. -/
def oneOrMore (body : Builder) (greedy : Bool) : Builder := fun next states =>
  let (loop, states) := add (.fork []) states
  let (start, states) := body loop states
  (start, states.setIfInBounds loop (fork greedy start next))

/-- Any number of copies. A body that can match the empty text is taken once or more, or not at
all, so that its preferences hold for the first copy. -/
def anyNumber (body : Builder) (nullable greedy : Bool) : Builder := fun next states =>
  if nullable then
    let (start, states) := oneOrMore body greedy next states
    add (fork greedy start next) states
  else
    let (loop, states) := add (.fork []) states
    let (start, states) := body loop states
    (loop, states.setIfInBounds loop (fork greedy start next))

mutual

/-- Adds the states of an expression. -/
def build : Regular → Builder
  | .empty => fun next states => (next, states)
  | .one set _ => fun next states => add (.step set next) states
  | .look l => fun next states => add (.look l next) states
  | .repetition body min max greedy => fun next states =>
      match max with
      | none =>
          if min = 0 then anyNumber body.build (body.minLength == 0) greedy next states
          else
            let (last, states) := oneOrMore body.build greedy next states
            copies body.build (min - 1) last states
      | some max =>
          let (rest, states) := upTo body.build greedy (max - min) next states
          copies body.build min rest states
  | .alternation branches => fun next states =>
      let (starts, states) := buildBranches branches next states
      add (.fork starts) states
  | .sequence parts => buildParts parts

/-- Adds the states of branches, and tells where each starts. -/
def buildBranches : List Regular → Nat → Array State → List Nat × Array State
  | [], _, states => ([], states)
  | r :: rs, next, states =>
      let (start, states) := r.build next states
      let (starts, states) := buildBranches rs next states
      (start :: starts, states)

/-- Adds the states of parts that follow each other. -/
def buildParts : List Regular → Builder
  | [] => fun next states => (next, states)
  | r :: rs => fun next states =>
      let (rest, states) := buildParts rs next states
      r.build rest states

end

/-- The number of ways that a state offers. -/
def waysOf : State → Nat
  | .step _ _ => 0
  | .look _ _ => 1
  | .fork nexts => nexts.length
  | .accept => 0

/-- The automaton of an expression. -/
def compile (r : Regular) : Automaton :=
  let (start, states) := r.build 0 #[.accept]
  ⟨states, start, states.foldl (fun n s => n + waysOf s) 0⟩

end Regular

/-! ## Running -/

namespace Automaton

/-- The states that wait for a character or accept, reached at a place from the states given without
taking a character; `seen` has the bits of the states reached before, and `found` the result so
far, the last state in front. Each state is entered once, so `fuel` need not exceed the number of
states given and of the ways that there are. -/
def closure (a : Automaton) (s : Site) : Nat → List Nat → Nat → List Nat → Nat × List Nat
  | 0, _, seen, found => (seen, found)
  | _, [], seen, found => (seen, found)
  | fuel + 1, q :: qs, seen, found =>
    if seen.testBit q then closure a s fuel qs seen found
    else
      let seen := seen ||| (1 <<< q)
      match a.states[q]? with
      | some (.look l next) =>
          closure a s fuel (if l.holds s then next :: qs else qs) seen found
      | some (.fork nexts) => closure a s fuel (nexts ++ qs) seen found
      | some _ => closure a s fuel qs seen (q :: found)
      | none => closure a s fuel qs seen found

/-- The states reached at a place from the states given, in their order. -/
def reached (a : Automaton) (s : Site) (qs : List Nat) : List Nat :=
  (a.closure s (qs.length + a.ways + 1) qs 0 []).2.reverse

/-- Whether a state accepts. -/
def accepts (a : Automaton) (q : Nat) : Bool :=
  match a.states[q]? with
  | some .accept => true
  | _ => false

/-- The state after a character. -/
def after? (a : Automaton) (c : Char) (q : Nat) : Option Nat :=
  match a.states[q]? with
  | some (.step set next) => if set c then some next else none
  | _ => none

/-- The length of the match that the states at a place lead to: `count` characters have been taken,
and `best` is the match of a state less preferred than all that are left. -/
def run (a : Automaton) (previous : Option Char) :
    List Char → List Nat → Nat → Option Nat → Option Nat
  | _, [], _, best => best
  | [], qs, count, best =>
      if (a.reached ⟨previous, []⟩ qs).any a.accepts then some count else best
  | c :: cs, qs, count, best =>
      let live := a.reached ⟨previous, c :: cs⟩ qs
      let best := if live.any a.accepts then some count else best
      let live := live.takeWhile fun q => !a.accepts q
      a.run (some c) cs (live.filterMap (a.after? c)) (count + 1) best

/-- Matches what the most preferred way of an automaton leads to. -/
def matchAt (a : Automaton) : Matcher := fun s => a.run s.previous s.rest [a.start] 0 none

end Automaton

end PolicyLint.Pattern
