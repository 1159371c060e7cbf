/-
# Settings files

A settings file is a record in YAML, if its extension says so, else in TOML. Without a file named on
the command line the nearest one counts: it is looked for in a directory and in all those above it,
up to the first that holds one or is the top of a repository.

* `Settings.load` : the settings in a file;
* `Settings.discover` : the nearest settings file;
* `Settings.find` : the settings file of a run with its settings.
-/
import PolicyLint.Settings.Basic
import PolicyLint.Format
import PolicyLint.FileTree

namespace PolicyLint

/-- Why a settings file could not be loaded. -/
inductive SettingsError where
  | unreadable (path reason : String)
  | malformed (path reason : String)
deriving DecidableEq, Repr

/-- The wording of a settings error. -/
def SettingsError.message : SettingsError → String
  | .unreadable path reason => "cannot read config file " ++ path ++ ": " ++ reason
  | .malformed path reason => "config file " ++ path ++ " is malformed: " ++ reason

namespace Settings

/-! ## Reading -/

/-- The settings that a value describes. -/
def read? {α : Type} (f : Format α) (v : α) : Option Settings :=
  match f.record? ["bowerdir", "policy", "root", "output"] v with
  | some [dependencies, policy, root, output] => do
      return {
        dependencies := ← orDefault? none f.optionalText? dependencies
        policy := ← orDefault? none f.optionalText? policy
        root := ← orDefault? none f.optionalText? root
        output := ← orDefault? none f.optionalText? output }
  | _ => none

/-- The settings in the text of the file at a path. -/
def parse? (path text : String) : Option Settings :=
  let extension := Path.extension? path
  if extension = some "yaml" ∨ extension = some "yml" then
    (Yaml.parse? text).bind fun root => read? (Yaml.format root) root
  else (Toml.parse? text).bind (read? Toml.format)

/-- The settings in the file at a path. -/
def load (w : Workspace) (path : String) : Except SettingsError Settings :=
  match w.read path with
  | .error e => .error (.unreadable path e.message)
  | .ok text =>
      match parse? path text with
      | some s => .ok s
      | none => .error (.malformed path "not a settings file")

/-! ## Finding -/

/-- The names of settings files, the first of which counts. -/
def fileNames : List String := ["lintrun.toml", "lintrun.yaml", "lintrun.yml"]

/-- What is found in one directory: a settings file, the end of the search, or nothing. -/
def searchDirectory (w : Workspace) (directory : String) : Option (Option String) :=
  match (fileNames.map (Path.join directory)).find? w.isFile with
  | some path => some (some path)
  | none => if w.pathExists (Path.join directory ".git") then some none else none

/-- The nearest settings file for a directory. -/
def discover (w : Workspace) (start : String) : Option String :=
  ((Path.ancestors start).findSome? (searchDirectory w)).join

/-- The settings file of a run with its settings: the one named on the command line, which must
load, or the nearest one, if it loads. -/
def find (w : Workspace) (named : Option String) (start : String) :
    Except SettingsError (Option (String × Settings)) :=
  match named with
  | some path => (load w path).map fun s => some (path, s)
  | none => .ok ((discover w start).bind fun path => (load w path).toOption.map (path, ·))

end Settings

end PolicyLint
