/-
# Failures nobody else handled

A failure names where it came from and says what went wrong. A panic becomes a failure with the
text of its payload, when the payload is a text.
-/

namespace PolicyLint

/-- A failure nobody else handled. -/
structure Failure where
  origin : String
  message : String
deriving DecidableEq, Repr

/-- The failure as a text. -/
def Failure.text (f : Failure) : String := f.origin ++ ": " ++ f.message

/-- The payload of a panic: a text, or something that has none. -/
inductive Panic where
  | text (message : String)
  | other
deriving DecidableEq, Repr

/-- What is recorded of a panic. -/
def Panic.message : Panic → String
  | .text message => "panicked: " ++ message
  | .other => "panicked"

/-- The failure that a panic of the given origin becomes. -/
def Panic.failure (origin : String) (p : Panic) : Failure := ⟨origin, p.message⟩

end PolicyLint
