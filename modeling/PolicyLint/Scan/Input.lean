/-
# Scanning an input

The targets of an input are linted at the same time, and their warnings are put together in the
order of the targets. If the input does not exist or a target cannot be read, it fails as a whole. Of
several errors any may come first; which one does is left to a choice.

* `InputError` : why an input failed;
* `Scan.gather` : what the targets come to together;
* `Scan.scan` : the warnings of an input.
-/
import PolicyLint.Scan.Target
import PolicyLint.Scan.File

namespace PolicyLint

/-- Why an input failed. -/
inductive InputError where
  | notFound (path : String)
  | unreadable (path reason : String)
  | task (message : String)
  | failed (message : String)
deriving DecidableEq, Repr

/-- The wording of an input error. -/
def InputError.message : InputError → String
  | .notFound path => "input not found: " ++ path
  | .unreadable path reason => "cannot read " ++ path ++ ": " ++ reason
  | .task message => "analysis task failed: " ++ message
  | .failed message => message

namespace Scan

/-- The warnings of one file. -/
def lint (w : Workspace) (c : Config) (file : String) : Except InputError (List Warning) :=
  match w.read file with
  | .error e => .error (.unreadable file e.message)
  | .ok text => .ok (warnings w c file text)

/-- The targets of a path that exists. -/
def targetsOf (w : Workspace) (c : Config) (path : String) : List String :=
  if w.isDirectory path then targets w path c.dependencies else [path]

/-- The errors among some results. -/
def errors {ε α : Type} (results : List (Except ε α)) : List ε :=
  results.filterMap fun
    | .error e => some e
    | .ok _ => none

/-- The values among some results. -/
def values {ε α : Type} (results : List (Except ε α)) : List α := results.filterMap Except.toOption

/-- All values, or one of the errors: the chosen one, counted around if there are fewer. -/
def gather {ε α : Type} (choice : Nat) (results : List (Except ε α)) : Except ε (List α) :=
  match (errors results)[choice % (errors results).length]? with
  | some e => .error e
  | none => .ok (values results)

/-- The warnings of what lies at a path. -/
def scan (w : Workspace) (c : Config) (path : String) (choice : Nat := 0) :
    Except InputError (List Warning) :=
  if w.pathExists path then
    (gather choice ((targetsOf w c path).map (lint w c))).map List.flatten
  else .error (.notFound path)

/-- The warnings of an input, which is looked for from the root. -/
def input (w : Workspace) (c : Config) (input : String) (choice : Nat := 0) :
    Except InputError (List Warning) :=
  scan w c (c.resolve input) choice

end Scan

end PolicyLint
