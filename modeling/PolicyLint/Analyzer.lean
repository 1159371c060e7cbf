/-
# Analyzers

A run asks an analyzer about one input after the other. What the analyzer does for one call is a
script: it lets background tasks take their turns, sends failures and starts tasks, and ends with
warnings, with an error, or with a panic.

* `Script` : what is done for one call, and `Script.perform`, which does it;
* `Analyzer` : a script for each call;
* `Analyzer.ofFiles` : the analyzer that scans the files of a workspace.
-/
import PolicyLint.Guard
import PolicyLint.Scan.Input

namespace PolicyLint

/-- One thing that a call does besides answering. -/
inductive Action where
  | pump
  | report (f : Failure)
  | spawn (t : Task)

/-- How a call ends. -/
inductive Ending where
  | warnings (ws : List Warning)
  | rejected (e : InputError)
  | panicked (p : Panic)
deriving DecidableEq, Repr

/-- What a call does, and how it ends. -/
structure Script where
  actions : List Action := []
  ending : Ending := .warnings []

/-- The guard after an action. -/
def Action.perform (g : Guard) : Action → Guard
  | .pump => g.pump
  | .report f => g.send f
  | .spawn t => g.spawn t

/-- What a call comes to: warnings or an error, unless it panics. -/
def Ending.result : Ending → Except Panic (Except InputError (List Warning))
  | .warnings ws => .ok (.ok ws)
  | .rejected e => .ok (.error e)
  | .panicked p => .error p

/-- A call under a guard. -/
def Script.perform (s : Script) (g : Guard) :
    Except Panic (Except InputError (List Warning)) × Guard :=
  (s.ending.result, s.actions.foldl Action.perform g)

/-- An analyzer gives the script of each call, knowing how many calls came before it, the
configuration of the run and the input. -/
abbrev Analyzer := Nat → Config → String → Script

/-- The ending of a scan. -/
def Ending.ofScan : Except InputError (List Warning) → Ending
  | .ok ws => .warnings ws
  | .error e => .rejected e

/-- The analyzer that scans the files of a workspace; background tasks take turns meanwhile. Each
call has a choice of its own among the errors of its targets. -/
def Analyzer.ofFiles (w : Workspace) (choices : Nat → Nat := fun _ => 0) : Analyzer :=
  fun n c input => ⟨[.pump], .ofScan (Scan.input w c input (choices n))⟩

end PolicyLint
