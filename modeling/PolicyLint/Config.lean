/-
# The configuration of a run

All inputs of a run share one configuration. The root is a path with a slash at its end, or empty
for the working directory, so an input below it is the root followed by the input.

* `Root.normalize` : the root as it is used;
* `Config.resolve` : where an input lies.
-/
import PolicyLint.Policy.Load

namespace PolicyLint

/-- The root with a slash at its end; without a root it is empty. -/
def Root.normalize (root : Option String) : String :=
  let r := root.getD ""
  if r.isEmpty || r.toList.getLast? = some '/' then r else r ++ "/"

/-- What all inputs of a run share: the root, the policy if there is one, and the name of the
directory of dependencies. -/
structure Config where
  root : String := ""
  policy : Option Policy := none
  dependencies : String := ""

/-- The path of an input: an absolute one stands for itself, another follows the root. -/
def Config.resolve (c : Config) (input : String) : String :=
  if c.root.isEmpty || Path.isAbsolute input then input else c.root ++ input

/-- What a run is asked for: a root, the path of a policy, and a directory of dependencies. -/
structure RunOptions where
  root : Option String := none
  policy : Option String := none
  dependencies : String := ""
deriving DecidableEq, Repr

/-- The configuration that options ask for. -/
def RunOptions.prepare (o : RunOptions) (w : Workspace)
    (engine : Pattern.Engine := Pattern.engine) : Except PolicyLoadError Config :=
  (Policy.load w o.policy engine).map fun policy =>
    ⟨Root.normalize o.root, policy, o.dependencies⟩

end PolicyLint
