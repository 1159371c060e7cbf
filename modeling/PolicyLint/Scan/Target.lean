/-
# Targets

The targets of an input are the files to lint: the input itself when it is a file, and all sources
below it when it is a directory, save those in a directory of dependencies. Sources are told by the
ends of their names: for each ending a glob is walked that begins with the directory as it is
written.

* `Scan.sources` : what these globs lead to;
* `Scan.isDependency` : whether a path leads through the directory of dependencies;
* `Scan.targets` : the targets of a directory, in the order of paths.
-/
import PolicyLint.Scan.GlobWalk

namespace PolicyLint.Scan

/-! ## Sources -/

/-- The ends of the names of sources. -/
def sourceEnds : List String := [".html", ".htm", ".js"]

/-- Whether a file with the given name is a source. -/
def isSource (name : String) : Bool :=
  sourceEnds.any fun ending => ending.toList.isSuffixOf name.toList

/-- The steps of a path from a directory on, or all of them when it does not start there. -/
def stepsFrom (directory path : String) : List Path.Component :=
  let steps := Path.components path
  (Path.stripPrefix? (Path.components directory) steps).getD steps

/-- Whether a path leads through the directory of dependencies below a directory. No name means no
such directory. -/
def isDependency (directory dependencies path : String) : Bool :=
  !dependencies.isEmpty && (stepsFrom directory path).any (·.text == dependencies)

/-! ## Targets -/

/-- The glob of the sources with the given ending, at any depth below a directory. -/
def sourceGlob (directory ending : String) : String :=
  Glob.escape directory ++ "/**/*" ++ ending

/-- The paths of the sources below a directory, those with one ending after those with another. -/
def sources (w : Workspace) (directory : String) : List String :=
  sourceEnds.flatMap fun ending => Glob.walk w (sourceGlob directory ending)

/-- The targets of a directory: sorted, and each once. -/
def targets (w : Workspace) (directory dependencies : String) : List String :=
  let found := (sources w directory).filter fun path =>
    !isDependency directory dependencies path && w.isFile path
  let sorted := found.mergeSort fun a b => Path.le (Path.components a) (Path.components b)
  sorted.eraseRepsBy fun a b => Path.components a == Path.components b

end PolicyLint.Scan
