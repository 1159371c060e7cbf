/-
# Outcomes

An outcome is the verdict on a run together with the counters of its summary. Outcomes of parts of
a run join to the outcome of the whole: the flag is the disjunction and each counter is the sum, so
neither the order nor the grouping of the parts matters.
-/
import PolicyLint.Warning

namespace PolicyLint

/-- The verdict on a run and its counters. -/
structure Outcome where
  fatal : Bool := false
  inputs : Nat := 0
  failedInputs : Nat := 0
  warnings : Nat := 0
  fatalWarnings : Nat := 0
  guardFailures : Nat := 0
deriving DecidableEq, Repr, Inhabited

namespace Outcome

/-- The outcome of nothing. -/
def empty : Outcome := {}

/-- The outcome of two parts taken together. -/
def join (a b : Outcome) : Outcome where
  fatal := a.fatal || b.fatal
  inputs := a.inputs + b.inputs
  failedInputs := a.failedInputs + b.failedInputs
  warnings := a.warnings + b.warnings
  fatalWarnings := a.fatalWarnings + b.fatalWarnings
  guardFailures := a.guardFailures + b.guardFailures

/-- One input was attempted. -/
def attempted : Outcome := { inputs := 1 }

/-- One input failed. -/
def failedInput : Outcome := { fatal := true, failedInputs := 1 }

/-- One failure reached the guard. -/
def guardFailure : Outcome := { fatal := true, guardFailures := 1 }

/-- One warning was reported. -/
def ofWarning (w : Warning) : Outcome :=
  { fatal := w.fatal, warnings := 1, fatalWarnings := if w.fatal then 1 else 0 }

/-- The exit status for an outcome: one exactly when it is fatal. -/
def exitCode (o : Outcome) : Nat := if o.fatal then 1 else 0

/-- An outcome as a JSON object. -/
def toJson (o : Outcome) : Json :=
  .object [("fatal", .bool o.fatal), ("inputs", .ofNat o.inputs),
    ("failed_inputs", .ofNat o.failedInputs), ("warnings", .ofNat o.warnings),
    ("fatal_warnings", .ofNat o.fatalWarnings), ("guard_failures", .ofNat o.guardFailures)]

/-! ## Joining -/

theorem join_assoc (a b c : Outcome) : (a.join b).join c = a.join (b.join c) := by
  simp [join, Bool.or_assoc, Nat.add_assoc]

theorem join_comm (a b : Outcome) : a.join b = b.join a := by
  simp [join, Bool.or_comm, Nat.add_comm]

@[simp] theorem empty_join (a : Outcome) : empty.join a = a := by
  simp [join, empty]

@[simp] theorem join_empty (a : Outcome) : a.join empty = a := by
  simp [join, empty]

end Outcome

end PolicyLint
