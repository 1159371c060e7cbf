/-
# Resolving references

A reference leads to a file or a directory: from the directory of the page that it stands in, or
from the root when it starts with a slash. One that leads upwards may also lead into the directory
of dependencies. What follows a question mark or a hash mark does not count, and a reference that
leads elsewhere, or is filled in later, is not looked at.

* `Reference.isExternal` : whether a reference is not looked at;
* `Reference.resolves` : whether a reference leads to something.
-/
import PolicyLint.Config

namespace PolicyLint.Reference

/-- Whether a reference leads out of the files or is a template. -/
def isExternal (reference : List Char) : Bool :=
  Text.contains "://".toList reference || "//".toList.isPrefixOf reference
    || "data:".toList.isPrefixOf reference || "#".toList.isPrefixOf reference
    || Text.contains "\x7b\x7b".toList reference || Text.contains "[[".toList reference

/-- The part of a reference that names a file. -/
def pathPart (reference : List Char) : List Char :=
  reference.takeWhile fun c => c ≠ '?' && c ≠ '#'

/-- What follows the steps upwards at the start of a reference. -/
def afterUpwards : List Char → List Char
  | '.' :: '.' :: '/' :: cs => afterUpwards cs
  | cs => cs

/-- Where the path part of a reference in a page of the given directory leads. -/
def direct (c : Config) (directory : String) : List Char → String
  | '/' :: cs => c.root ++ String.ofList cs
  | cs => Path.join directory (String.ofList cs)

/-- Where a path part leads in the directory of dependencies, if it leads upwards. -/
def fallback? (c : Config) (path : List Char) : Option String :=
  if c.dependencies.isEmpty || !("../".toList.isPrefixOf path) then none
  else some (c.root ++ c.dependencies ++ "/" ++ String.ofList (afterUpwards path))

/-- Whether a reference in a page of the given directory leads to something. -/
def resolves (w : Workspace) (c : Config) (directory : String) (reference : List Char) : Bool :=
  let path := pathPart reference
  isExternal reference || path.isEmpty || w.pathExists (direct c directory path)
    || (fallback? c path).any w.pathExists

end PolicyLint.Reference
