/-
# Globs

A glob is a pattern of file paths: `?` stands for one character, `*` for any number of them, `[...]`
for one character of a set, and `**` as a whole piece of the path for any number of pieces. All of
these may stand for a slash or a dot in front of a name.

* `Glob.parse` : reading a glob, or the first fault in it;
* `Glob.matches` : whether a path matches.
-/

namespace PolicyLint.Glob

/-! ## The parts of a glob -/

/-- A part of a set: one character, or all from one to another. -/
inductive Range where
  | single (c : Char)
  | between (low high : Char)
deriving DecidableEq, Repr

/-- Whether a character belongs to a part of a set. -/
def Range.has (r : Range) (c : Char) : Bool :=
  match r with
  | .single d => c == d
  | .between low high => low ≤ c && c ≤ high

/-- A part of a glob. -/
inductive Token where
  | char (c : Char)
  | anyChar
  | anySequence
  /-- Any number of pieces of a path, each with the slash after it. -/
  | anyPieces
  | within (set : List Range)
  | except (set : List Range)
deriving DecidableEq, Repr

/-- What is wrong with a glob. -/
inductive Fault where
  | wildcards
  | recursiveWildcards
  | range
deriving DecidableEq, Repr

/-- The wording of a fault. -/
def Fault.message : Fault → String
  | .wildcards => "wildcards are either regular `*` or recursive `**`"
  | .recursiveWildcards => "recursive wildcards must form a single path component"
  | .range => "invalid range pattern"

/-- A fault of a glob and the place, in characters from zero, where it shows. -/
structure Error where
  position : Nat
  fault : Fault
deriving DecidableEq, Repr

/-- The wording of an error. -/
def Error.message (e : Error) : String :=
  "Pattern syntax error near position " ++ toString e.position ++ ": " ++ e.fault.message

/-! ## Reading -/

/-- The parts of a set. -/
def ranges : List Char → List Range
  | a :: '-' :: b :: rest => .between a b :: ranges rest
  | a :: rest => .single a :: ranges rest
  | [] => []

/-- A set after its opening bracket, and what follows its closing one. Right after the bracket, or
after the `!` that negates the set, a closing bracket belongs to the set. -/
def set? (cs : List Char) : Option (Token × List Char) :=
  match cs with
  | '!' :: first :: rest =>
      if rest.contains ']' then
        some (.except (ranges (first :: rest.takeWhile (· ≠ ']'))),
          (rest.dropWhile (· ≠ ']')).drop 1)
      else none
  | '!' :: [] => none
  | first :: rest =>
      if rest.contains ']' then
        some (.within (ranges (first :: rest.takeWhile (· ≠ ']'))),
          (rest.dropWhile (· ≠ ']')).drop 1)
      else none
  | [] => none

/-- The tokens from a place on. `atStart` says that a piece of the path begins there, and each call
takes one token at least. -/
def tokens : Nat → Bool → Nat → List Char → Except Error (List Token)
  | 0, _, _, _ => .ok []
  | _, _, _, [] => .ok []
  | fuel + 1, atStart, place, c :: rest =>
    if c = '?' then do
      return .anyChar :: (← tokens fuel false (place + 1) rest)
    else if c = '*' then
      let stars := 1 + (rest.takeWhile (· = '*')).length
      let rest := rest.dropWhile (· = '*')
      if stars = 1 then do
        return .anySequence :: (← tokens fuel false (place + 1) rest)
      else if 2 < stars then .error ⟨place + 2, .wildcards⟩
      else if !atStart then .error ⟨place - 1, .recursiveWildcards⟩
      else match rest with
        | [] => .ok [.anyPieces]
        | '/' :: rest => do
            return .anyPieces :: (← tokens fuel true (place + 3) rest)
        | _ :: _ => .error ⟨place + 2, .recursiveWildcards⟩
    else if c = '[' then
      match set? rest with
      | none => .error ⟨place, .range⟩
      | some (token, after) => do
          return token :: (← tokens fuel false (place + 1 + (rest.length - after.length)) after)
    else do
      return .char c :: (← tokens fuel (c = '/') (place + 1) rest)

/-- The tokens of a glob, or its first fault from the left. -/
def parse (glob : String) : Except Error (List Token) :=
  let cs := glob.toList
  tokens cs.length true 0 cs

/-! ## Matching -/

/-- Whether a token that stands for one character stands for this one. -/
def Token.accepts : Token → Char → Bool
  | .char d, c => c == d
  | .anyChar, _ => true
  | .within set, c => set.any (·.has c)
  | .except set, c => !set.any (·.has c)
  | .anySequence, _ => false
  | .anyPieces, _ => false

/-- All endings of a text, the longest first. -/
def endings : List Char → List (List Char)
  | [] => [[]]
  | c :: cs => (c :: cs) :: endings cs

/-- The endings of a text that begin a piece of the path, other than the text itself, and the empty
ending. -/
def pieceEndings : List Char → List (List Char)
  | [] => [[]]
  | c :: cs => if c = '/' then cs :: pieceEndings cs else pieceEndings cs

/-- What may be left to match after a token, given what may be left before it. The lists go from
the longest ending to the shortest. -/
def Token.leaves : Token → List (List Char) → List (List Char)
  | .anySequence, s :: _ => endings s
  | .anyPieces, s :: ss => s :: (ss ++ pieceEndings s).eraseDups.mergeSort (·.length ≥ ·.length)
  | t, ss => ss.filterMap fun
      | c :: cs => if t.accepts c then some cs else none
      | [] => none

/-- Whether a path matches some tokens from start to end. -/
def matchesTokens (ts : List Token) (path : List Char) : Bool :=
  (ts.foldl (fun ss t => t.leaves ss) [path]).contains []

/-- Whether a path matches. -/
def «matches» (ts : List Token) (path : String) : Bool := matchesTokens ts path.toList

end PolicyLint.Glob
