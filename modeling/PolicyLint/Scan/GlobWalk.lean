/-
# Walking a glob

A glob leads through a file system piece by piece, from the root or from the working directory. A
piece without wildcards is one step, which is taken if something lies there. For any other piece the
directory is read, and each entry whose name matches is a step. Two stars on their own stand for any
number of steps: whatever lies below the directory is met by the next piece.

* `Glob.escape` : the glob of a single path;
* `Glob.Place` : a path on the way, and what lies there;
* `Glob.advance` : what some pieces lead to from a place;
* `Glob.walk` : what a glob leads to.
-/
import PolicyLint.FileTree
import PolicyLint.Glob

namespace PolicyLint.Glob

/-! ## Escaping -/

/-- Whether a character has a meaning of its own in a glob. -/
def isWild (c : Char) : Bool := c == '?' || c == '*' || c == '[' || c == ']'

/-- Characters with those that have a meaning of their own in brackets. -/
def escapeChars (cs : List Char) : List Char :=
  cs.flatMap fun c => if isWild c then ['[', c, ']'] else [c]

/-- A glob that matches a path and nothing else. -/
def escape (path : String) : String := String.ofList (escapeChars path.toList)

/-! ## Pieces -/

/-- The character that a token stands for, if there is no other. -/
def Token.char? : Token → Option Char
  | .char c => some c
  | _ => none

/-- The text of a piece without wildcards. -/
def text? (piece : List Token) : Option String := (piece.mapM Token.char?).map String.ofList

/-- Whether a piece stands for any number of steps. -/
def isRecursive (piece : List Token) : Bool := piece.contains .anyPieces

/-! ## Places -/

/-- A path on the way, and what lies there. -/
structure Place where
  path : String
  tree : FileTree

namespace Place

/-- A path with what lies there. What is not there, or is not reached, is no directory. -/
def of (w : Workspace) (path : String) : Place :=
  match w.find path with
  | .ok tree => ⟨path, tree⟩
  | .error _ => ⟨path, .file none⟩

/-- The path one step on. The working directory leaves its dot behind. -/
def pathTo (path step : String) : String := if path = "." then step else Path.join path step

/-- Whether a place can be read as a directory: its path must not be too long. -/
def isOpen (here : Place) : Bool :=
  here.tree.isDirectory && here.path.utf8ByteSize ≤ Workspace.maxPath

/-- The entries of a place by their names. What has no name is not listed. -/
def entries (here : Place) : List (String × Place) :=
  match here.tree with
  | .file _ => []
  | .directory es =>
      if here.isOpen then
        (es.filter fun e => Path.isName e.1).map fun e => (e.1, ⟨pathTo here.path e.1, e.2⟩)
      else []

mutual

/-- All that lies below a path, each place with its name. -/
def below (path : String) : FileTree → List (String × Place)
  | .file _ => []
  | .directory es => if isOpen ⟨path, .directory es⟩ then belowAll path es else []

/-- Entries of a path and all that lies below them. -/
def belowAll (path : String) : List (String × FileTree) → List (String × Place)
  | [] => []
  | (n, t) :: rest =>
      if Path.isName n then
        (n, ⟨pathTo path n, t⟩) :: (below (pathTo path n) t ++ belowAll path rest)
      else belowAll path rest

end

end Place

/-! ## Walking -/

/-- The two names that every directory has for itself and the one above it. -/
def dots : List String := [".", ".."]

mutual

/-- What pieces lead to from a place. The dots are not among the entries of a directory; they are
steps where a piece without wildcards is one of them, or where a piece begins with a dot and matches
them. -/
def advance (w : Workspace) : List (List Token) → Place → List Place
  | [], here => [here]
  | p :: ps, here =>
      match text? p with
      | some step =>
          let next := Place.pathTo here.path step
          if (if step ∈ dots then here.tree.isDirectory else w.pathExists next) then
            advance w ps (.of w next)
          else []
      | none =>
          if isRecursive p then
            (Place.below here.path here.tree).flatMap fun e => meet w ps e.1 e.2
          else
            let named := here.entries.filter fun e => matchesTokens p e.1.toList
            let dotted :=
              if p.head? = some (.char '.') ∧ here.isOpen then
                dots.filter fun step => matchesTokens p step.toList
              else []
            (named.flatMap fun e => advance w ps e.2) ++
              dotted.flatMap fun step => advance w ps (.of w (Path.join here.path step))

/-- What pieces lead to from what lies below a place, of which the first has to match its name. Two
stars on their own once more stand for no more steps; as the last piece they want a directory. -/
def meet (w : Workspace) : List (List Token) → String → Place → List Place
  | [], _, here => if here.tree.isDirectory then [here] else []
  | p :: ps, name, here =>
      if isRecursive p then meet w ps name here
      else if matchesTokens p name.toList then advance w ps here
      else []

end

/-- The paths that a glob leads to; one that does not parse leads to none. The glob does not end with
a slash. -/
def walk (w : Workspace) (glob : String) : List String :=
  match parse glob, ((Path.pieces glob.toList).map String.ofList).mapM parse with
  | .ok _, .ok pieces =>
      let found :=
        if Path.isAbsolute glob then advance w (pieces.drop 1) (.of w "/")
        else advance w pieces (.of w ".")
      found.map Place.path
  | _, _ => []

end PolicyLint.Glob
