/-
# Policies

A policy is the list of the rules of a document, in the order of its requirements.

* `Policy.ofRequirements` : the policy of some requirements, or the first fault of the first
  requirement that has one.
-/
import PolicyLint.Policy.Rule

namespace PolicyLint

/-- The rules of a document. -/
structure Policy where
  rules : List Rule := []

namespace Policy

/-- The rules of requirements, the first of which has the given number. -/
def rulesFrom (engine : Pattern.Engine) :
    Nat → List Requirement → Except RequirementError (List Rule)
  | _, [] => .ok []
  | n, r :: rs =>
      match r.toRule n engine with
      | .error e => .error e
      | .ok rule => (rulesFrom engine (n + 1) rs).map (rule :: ·)

/-- The policy of some requirements. -/
def ofRequirements (rs : List Requirement) (engine : Pattern.Engine := Pattern.engine) :
    Except RequirementError Policy :=
  (rulesFrom engine 0 rs).map Policy.mk

end Policy

end PolicyLint
