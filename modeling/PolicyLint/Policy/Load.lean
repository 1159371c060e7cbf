/-
# Loading a policy

The policy of a run is read from a file once. It is an error if the file cannot be read, if its text
is no policy document, or if a requirement has a fault.

* `Policy.load` : the policy in the file at a path, if a path is given.
-/
import PolicyLint.Policy.Basic
import PolicyLint.Policy.Document
import PolicyLint.FileTree

namespace PolicyLint

/-- Why a policy could not be loaded. -/
inductive PolicyLoadError where
  | unreadable (path : String) (error : ReadError)
  | malformed (path : String)
  | invalid (path : String) (error : RequirementError)
deriving DecidableEq, Repr

/-- The wording of a load error. -/
def PolicyLoadError.message : PolicyLoadError → String
  | .unreadable path error => "cannot read policy file " ++ path ++ ": " ++ error.message
  | .malformed path => "policy file " ++ path ++ " is malformed: not a policy document"
  | .invalid path error => "policy file " ++ path ++ " has invalid requirements: " ++ error.message

namespace Policy

/-- The policy in the text of the file at a path. -/
def parse (path text : String) (engine : Pattern.Engine := Pattern.engine) :
    Except PolicyLoadError Policy :=
  match PolicyDocument.parse? path text with
  | none => .error (.malformed path)
  | some d => (ofRequirements d.requirements engine).mapError (.invalid path)

/-- The policy in the file at a path; none if no path is given. -/
def load (w : Workspace) (path : Option String) (engine : Pattern.Engine := Pattern.engine) :
    Except PolicyLoadError (Option Policy) :=
  match path with
  | none => .ok none
  | some path =>
      match w.read path with
      | .error e => .error (.unreadable path e)
      | .ok text => (parse path text engine).map some

end Policy

end PolicyLint
