/-
# File trees

A snapshot of a file system without links: a tree of directories and files, and a working directory
in it. A path is walked step by step from the root or from the working directory; each step needs a
directory to start from.

* `FileTree` : the tree;
* `Workspace.find` : what a path leads to;
* `Workspace.read` : the text of a file.
-/
import PolicyLint.Path.Basic
import PolicyLint.Entries

namespace PolicyLint

/-- A file or a directory. The content of a file is a text, or bytes that are no text. -/
inductive FileTree where
  | file (content : Option String)
  | directory (entries : List (String × FileTree))

/-- Why a path could not be read. -/
inductive ReadError where
  | notFound
  | notDirectory
  | isDirectory
  | nameTooLong
  | notText
  | nulInName
deriving DecidableEq, Repr

/-- The wording of a read error. -/
def ReadError.message : ReadError → String
  | .notFound => "No such file or directory (os error 2)"
  | .notDirectory => "Not a directory (os error 20)"
  | .isDirectory => "Is a directory (os error 21)"
  | .nameTooLong => "File name too long (os error 36)"
  | .notText => "stream did not contain valid UTF-8"
  | .nulInName => "file name contained an unexpected NUL byte"

namespace FileTree

/-- A directory with nothing in it. -/
def empty : FileTree := .directory []

/-- The entry of a directory with the given name. -/
def entry? (name : String) : FileTree → Option FileTree
  | .file _ => none
  | .directory entries => entries.lookup name

/-- What lies below a tree at the given names. -/
def at? (t : FileTree) : List String → Option FileTree
  | [] => some t
  | n :: ns => (t.entry? n).bind (·.at? ns)

/-- Whether a tree is a directory. -/
def isDirectory : FileTree → Bool
  | .directory _ => true
  | .file _ => false

/-- The tree with `node` placed at the given names; the directories on the way are made where they
are missing. -/
def insert : FileTree → List String → FileTree → FileTree
  | _, [], node => node
  | t, n :: ns, node =>
      let entries := match t with
        | .directory entries => entries
        | .file _ => []
      .directory (setEntry n (insert ((entries.lookup n).getD empty) ns node) entries)

/-- The tree with a directory at the given names; one that is there stays as it is. -/
def insertDirectory (names : List String) (t : FileTree) : FileTree :=
  match t.at? names with
  | some (.directory _) => t
  | _ => t.insert names empty

end FileTree

/-- A file tree and a working directory in it, given by its names from the root. -/
structure Workspace where
  tree : FileTree
  directory : List String

namespace Workspace

/-- The longest name of an entry, in bytes. -/
def maxName : Nat := 255

/-- The longest path, in bytes. -/
def maxPath : Nat := 4095

/-- The working directory as a path. -/
def directoryPath (w : Workspace) : String := "/" ++ "/".intercalate w.directory

/-- The names that the pieces of a path lead to from a place in the tree. -/
def walk (t : FileTree) : List String → List (List Char) → Except ReadError (List String)
  | here, [] => .ok here
  | here, p :: ps =>
      if !((t.at? here).any FileTree.isDirectory) then .error .notDirectory
      else if p = [] ∨ p = ['.'] then walk t here ps
      else if p = ['.', '.'] then walk t here.dropLast ps
      else
        let name := String.ofList p
        if maxName < name.utf8ByteSize then .error .nameTooLong
        else if (t.at? (here ++ [name])).isSome then walk t (here ++ [name]) ps
        else .error .notFound

/-- What a path leads to. -/
def find (w : Workspace) (path : String) : Except ReadError FileTree := do
  if path.toList.contains '\x00' then throw .nulInName
  if path.isEmpty then throw .notFound
  if maxPath < path.utf8ByteSize then throw .nameTooLong
  let start := if Path.isAbsolute path then [] else w.directory
  let names ← walk w.tree start (Path.pieces path.toList)
  match w.tree.at? names with
  | some t => .ok t
  | none => .error .notFound

/-- Whether a path leads to something. -/
def pathExists (w : Workspace) (path : String) : Bool :=
  match w.find path with
  | .ok _ => true
  | .error _ => false

/-- Whether a path leads to a directory. -/
def isDirectory (w : Workspace) (path : String) : Bool :=
  match w.find path with
  | .ok t => t.isDirectory
  | .error _ => false

/-- Whether a path leads to a file. -/
def isFile (w : Workspace) (path : String) : Bool :=
  match w.find path with
  | .ok t => !t.isDirectory
  | .error _ => false

/-- The text of the file that a path leads to. -/
def read (w : Workspace) (path : String) : Except ReadError String := do
  match ← w.find path with
  | .file (some text) => .ok text
  | .file none => .error .notText
  | .directory _ => .error .isDirectory

end Workspace

end PolicyLint
