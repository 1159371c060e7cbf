/-
# Settings

Settings come from the command line, from a settings file, or are the defaults, in this order and
each on its own. A policy named in a file is looked for beside the file.

* `Settings` : the settings of one source, each given or not;
* `Effective` : the settings of a run, and `Settings.resolve` which finds them.
-/
import PolicyLint.Reporter

namespace PolicyLint

/-- The settings that one source gives: the name of the directory of dependencies, the path of the
policy, the root, and the name of the output mode. -/
structure Settings where
  dependencies : Option String := none
  policy : Option String := none
  root : Option String := none
  output : Option String := none
deriving DecidableEq, Repr

/-- The settings of a run, and the settings file that was loaded, if any. -/
structure Effective where
  dependencies : String
  policy : Option String
  root : Option String
  output : OutputMode
  source : Option String
deriving DecidableEq, Repr

namespace Settings

/-- The directory of dependencies where no source names one. -/
def defaultDependencies : String := "bower_components"

/-- A path as seen from the directory of a file. -/
def beside (file path : String) : String := Path.join ((Path.parent? file).getD "") path

/-- The settings of a run, given those of the command line and those of a file with its path. An
unknown output mode is that for people, whatever other sources say. -/
def resolve (commandLine : Settings) (file : Option (String × Settings)) : Effective :=
  let loaded := (file.map (·.2)).getD {}
  let source := file.map (·.1)
  { dependencies := (commandLine.dependencies <|> loaded.dependencies).getD defaultDependencies
    policy := commandLine.policy <|> loaded.policy.map (beside (source.getD ""))
    root := commandLine.root <|> loaded.root
    output := ((commandLine.output <|> loaded.output).bind OutputMode.ofName?).getD .human
    source }

end Settings

end PolicyLint
