/-
# Requirements

A policy document is a list of requirements. A requirement bans some names, properties or patterns;
it may give a message of its own, exempt files by globs, and say whether a hit is fatal.

* `Requirement`, `PolicyDocument` : requirements as they are written;
* `RequirementError` : the first fault of the first requirement that has one.
-/
import PolicyLint.Glob

namespace PolicyLint

/-- One entry of a policy document. -/
structure Requirement where
  kind : String
  values : List String := []
  errorMessage : Option String := none
  whitelist : List String := []
  level : Option String := none
deriving DecidableEq, Repr

/-- A policy document. -/
structure PolicyDocument where
  requirements : List Requirement := []
deriving DecidableEq, Repr

/-- A value that is no pattern, and what is wrong with it. -/
structure PatternError where
  pattern : String
  reason : String
deriving DecidableEq, Repr

/-- A fault of a requirement, with the place of the requirement in its document. -/
inductive RequirementError where
  | unknownType (index : Nat) (kind : String)
  | emptyValue (index : Nat) (kind : String)
  | pattern (index : Nat) (error : PatternError)
  | whitelist (index : Nat) (glob : String) (error : Glob.Error)
  | level (index : Nat) (level : String)
deriving DecidableEq, Repr

/-- The wording of a fault. -/
def RequirementError.message : RequirementError → String
  | .unknownType index kind =>
      "requirement #" ++ toString index ++ ": unknown type '" ++ kind ++ "'"
  | .emptyValue index kind =>
      "requirement #" ++ toString index ++ " (" ++ kind ++ "): value list is empty"
  | .pattern index error =>
      "requirement #" ++ toString index ++ ": invalid pattern '" ++ error.pattern ++ "': "
        ++ error.reason
  | .whitelist index glob error =>
      "requirement #" ++ toString index ++ ": invalid whitelist glob '" ++ glob ++ "': "
        ++ error.message
  | .level index value =>
      "requirement #" ++ toString index ++ ": unknown level '" ++ value
        ++ "' (expected error|warning)"

end PolicyLint
