/-
# The outermost layer

A snapshot of the files that a run can see, one call of the program, and its output. The snapshot
holds the repository that the working directory is in, or else that directory alone, the settings
files above it, and what lies at the paths that the command line and the settings name. Only
sources, settings files and named files are read; all other files are just known to be there.

* `Snapshot.take` : the snapshot for the words of a command line;
* `main` : the program.
-/
import PolicyLint.Program

namespace PolicyLint

namespace Snapshot

/-- The text of a file, if it can be read. -/
def textOf (path : String) : IO (Option String) := do
  try
    return String.fromUTF8? (← IO.FS.readBinFile path)
  catch _ =>
    return none

/-- The tree at a path, where of the files only sources are read. -/
partial def treeAt (path : String) : IO FileTree := do
  let place := (← IO.currentDir) / path
  if ← place.isDir then
    let mut entries := []
    for e in ← place.readDir do
      let below := path ++ "/" ++ e.fileName
      let isOpen ← pure (Scan.isSource e.fileName) <||>
        (pure (e.fileName != ".git") <&&> ((← IO.currentDir) / below).isDir)
      entries := (e.fileName, ← if isOpen then treeAt below else pure (.file none)) :: entries
    return .directory entries
  else
    return .file (← textOf path)

/-- The names that lead from the root to what lies at a path. -/
def namesOf (path : String) : IO (List String) := do
  return ((← IO.FS.realPath path).toString.splitOn "/").filter fun n => !n.isEmpty

/-- The workspace with what lies at a path, if anything does. -/
def add (w : Workspace) (path : String) : IO Workspace := do
  if ← ((← IO.currentDir) / path).pathExists then
    return { w with tree := w.tree.insert (← namesOf path) (← treeAt path) }
  else
    return w

/-- The paths where the search for a settings file looks. -/
def settingsPlaces (w : Workspace) : List String :=
  (Path.ancestors w.directoryPath).flatMap fun d => Settings.fileNames.map (Path.join d)

/-- The nearest directory that is the top of a repository, if there is one. -/
def repository? (w : Workspace) : IO (Option String) :=
  (Path.ancestors w.directoryPath).findM? fun d => do
    ((← IO.currentDir) / Path.join d ".git").pathExists

/-- The paths that a run with some words looks at: those that the words and the settings name. -/
def namedPlaces (w : Workspace) (words : List String) : List String :=
  match Arguments.ofWords words with
  | .error _ => []
  | .ok a =>
      let named := a.config.toList ++ a.inputs
      match Settings.find w a.config w.directoryPath with
      | .error _ => named
      | .ok file =>
          let e := Settings.resolve a.settings file
          let c : Config := { root := Root.normalize e.root }
          named ++ e.root.toList ++ a.inputs.map c.resolve ++ e.policy.toList

/-- The snapshot for the words of a command line. The named paths are added twice, since a settings
file that is one of them may name more. -/
def take (words : List String) : IO Workspace := do
  let w : Workspace := ⟨.empty, ← namesOf "."⟩
  let w ← add w ((← repository? w).getD w.directoryPath)
  let w ← (settingsPlaces w).foldlM add w
  let w ← (namedPlaces w words).foldlM add w
  (namedPlaces w words).foldlM add w

end Snapshot

end PolicyLint

/-- Runs the program over the files that are there, prints what it prints, and gives its exit
status. -/
def main (words : List String) : IO UInt32 := do
  let w ← PolicyLint.Snapshot.take words
  let color := (← IO.getEnv "NO_COLOR").isNone
  let f := PolicyLint.Program.start w color words
  IO.print f.stdout
  IO.eprint f.stderr
  return f.code.toUInt32
