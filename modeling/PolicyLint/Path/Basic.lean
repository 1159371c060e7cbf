/-
# Paths

A path is a text whose pieces are divided by slashes; it is absolute when it starts with one. Its
components are its pieces without the empty ones and without the dots, save a dot in front of a
relative path.

* `Path.components` : what a path names, step by step;
* `Path.join`, `Path.parent?`, `Path.extension?` : the usual operations on the text of a path;
* `Path.display` : a path as seen from a working directory.
-/
import PolicyLint.Text.Basic

namespace PolicyLint.Path

/-! ## Pieces and components -/

/-- The pieces between the slashes of a text. -/
def pieces (cs : List Char) : List (List Char) := Text.splitAt '/' cs

/-- The text with the given pieces. -/
def unpieces : List (List Char) → List Char
  | [] => []
  | [p] => p
  | p :: q :: ps => p ++ '/' :: unpieces (q :: ps)

/-- A path is absolute when it starts with a slash. -/
def isAbsolute (path : String) : Bool := path.toList.head? == some '/'

/-- A step of a path. -/
inductive Component where
  | root
  | current
  | parent
  | name (n : String)
deriving DecidableEq, Repr

/-- The step that a piece in the middle of a path means, if any. -/
def step? (piece : List Char) : Option Component :=
  if piece = [] ∨ piece = ['.'] then none
  else if piece = ['.', '.'] then some .parent
  else some (.name (String.ofList piece))

/-- Whether a text can be the name of an entry: it is one step, and not a dot or two. -/
def isName (name : String) : Bool :=
  step? name.toList == some (.name name) && !name.toList.contains '/'

/-- The steps of a path. -/
def components (path : String) : List Component :=
  match pieces path.toList with
  | [] => []
  | first :: rest =>
      let front :=
        if isAbsolute path then [.root]
        else if first = ['.'] then [.current]
        else (step? first).toList
      front ++ rest.filterMap step?

/-- The text of a step. -/
def Component.text : Component → String
  | .root => "/"
  | .current => "."
  | .parent => ".."
  | .name n => n

/-- The place of a kind of step in the order of steps. -/
def Component.rank : Component → Nat
  | .root => 0
  | .current => 1
  | .parent => 2
  | .name _ => 3

/-- The order of steps: the root, a dot, two dots, then names by their characters. -/
def Component.lt (a b : Component) : Bool :=
  a.rank < b.rank || (a.rank == b.rank && a.text < b.text)

/-- The order of paths: step by step, a path before those that go on from it. -/
def le : List Component → List Component → Bool
  | [], _ => true
  | _ :: _, [] => false
  | a :: as, b :: bs => a.lt b || (a == b && le as bs)

/-! ## Joining and taking apart -/

/-- A path seen from a base: an absolute one stands for itself, another follows the base with one
slash between them. -/
def join (base path : String) : String :=
  if isAbsolute path || base.isEmpty then path
  else if base.toList.getLast? == some '/' then base ++ path
  else base ++ "/" ++ path

/-- Whether the piece at the given place is a step of the path. -/
def isStep (absolute : Bool) (place : Nat) (piece : List Char) : Bool :=
  if place = 0 then !absolute && !piece.isEmpty else (step? piece).isSome

/-- The path without its last step: none for a root or an empty path. -/
def parent? (path : String) : Option String :=
  let absolute := isAbsolute path
  let ps := pieces path.toList
  let steps := ps.zipIdx.filter fun (p, i) => isStep absolute i p
  match steps.reverse with
  | [] => none
  | [_] => some (if absolute then "/" else "")
  | _ :: (_, i) :: _ => some (String.ofList (unpieces (ps.take (i + 1))))

/-- A path and what remains of it as its last step is taken away again and again, at most so many
times. -/
def ancestorsFrom : Nat → String → List String
  | 0, path => [path]
  | n + 1, path =>
      path :: match parent? path with
        | none => []
        | some up => ancestorsFrom n up

/-- A path and all paths above it, from the nearest to the farthest. -/
def ancestors (path : String) : List String := ancestorsFrom (pieces path.toList).length path

/-- The last step of a path, if it is a name. -/
def fileName? (path : String) : Option String :=
  match (components path).getLast? with
  | some (.name n) => some n
  | _ => none

/-- What follows the last dot of the file name, if something precedes the dot. -/
def extension? (path : String) : Option String := do
  let name ← fileName? path
  let back := name.toList.reverse
  match back.dropWhile (· ≠ '.') with
  | _ :: _ :: _ => some (String.ofList (back.takeWhile (· ≠ '.')).reverse)
  | _ => none

/-- The steps that lead on from a base, if the path goes through it. -/
def stripPrefix? : List Component → List Component → Option (List Component)
  | [], cs => some cs
  | _ :: _, [] => none
  | b :: bs, c :: cs => if b = c then stripPrefix? bs cs else none

/-! ## Showing a path -/

/-- The steps from a base to a path, which are walked side by side; `found` are the steps so far.
What the two have in common at first is left out. Where they part there is a step upwards for each
step of the base that remains, and then the path goes on; but nothing leads back from two dots. -/
def walkApart (found : List Component) :
    List Component → List Component → Option (List Component)
  | [], [] => some found
  | a :: path, [] => some (found ++ a :: path)
  | [], _ :: base => walkApart (found ++ [.parent]) [] base
  | a :: path, b :: base =>
      if found.isEmpty && a == b then walkApart found path base
      else if b = .current then walkApart (found ++ [a]) path base
      else if b = .parent then none
      else some (found ++ .parent :: base.map (fun _ => .parent) ++ a :: path)

/-- A path as seen from a base. An absolute path is seen as it is from a relative base, and a
relative one cannot be seen from an absolute base. -/
def relative? (path base : String) : Option String :=
  if isAbsolute path = isAbsolute base then
    (walkApart [] (components path) (components base)).map fun steps =>
      (steps.map Component.text).foldl join ""
  else if isAbsolute path then some path
  else none

/-- Whether a path starts upwards. -/
def startsUpwards (path : String) : Bool :=
  (stripPrefix? (components "..") (components path)).isSome

/-- The path as shown from a working directory: an absolute path as it is seen from there, unless
that starts upwards; any other path as it is. -/
def display (workingDirectory path : String) : String :=
  if isAbsolute path then
    ((relative? path workingDirectory).filter fun seen => !startsUpwards seen).getD path
  else path

end PolicyLint.Path
