/-
# Reading TOML documents

The grammar of TOML 1.1, in which lines may end and a comma may come last between braces too. Arrays
and braces nest at most eighty deep.

* `Toml.parse?` : the table that a document is.
-/
import PolicyLint.Toml.Table
import PolicyLint.Toml.Text
import PolicyLint.Toml.Scalar

namespace PolicyLint.Toml

/-! ## Gaps -/

/-- What follows the blanks at the start of a text. -/
def skipBlanks (cs : List Char) : List Char := cs.dropWhile isBlank

/-- What follows the comment at the start of a text, after its mark, up to the end of the line. -/
def comment? : List Char → Option (List Char)
  | [] => some []
  | '\n' :: cs => some ('\n' :: cs)
  | '\r' :: '\n' :: cs => some ('\r' :: '\n' :: cs)
  | c :: cs => if isPlain c then comment? cs else none

/-- What follows the blanks and the comment that end a line, from the line end on. -/
def lineTail? (cs : List Char) : Option (List Char) :=
  match skipBlanks cs with
  | '#' :: cs => comment? cs
  | cs => if cs.isEmpty || (lineEnd? cs).isSome then some cs else none

/-- What follows blanks, line ends and comments; there are not more of them than `fuel`. -/
def gap? : Nat → List Char → Option (List Char)
  | 0, cs => some cs
  | fuel + 1, cs =>
      match skipLines cs with
      | '#' :: cs => (comment? cs).bind (gap? fuel)
      | cs => some cs

/-- What follows all blanks, line ends and comments. -/
def skipGap? (cs : List Char) : Option (List Char) := gap? cs.length cs

/-! ## Keys -/

/-- Whether a character may stand in a key without quotes. -/
def isBare (c : Char) : Bool := c.isAlphanum || c = '_' || c = '-'

/-- One key at the start of a text, and what follows it. -/
def key? (cs : List Char) : Option (String × List Char) :=
  match line? cs with
  | some (s, rest) => some (String.ofList s, rest)
  | none =>
      let bare := cs.takeWhile isBare
      if bare.isEmpty then none else some (String.ofList bare, cs.dropWhile isBare)

/-- The keys of a dotted key, at most `fuel` of them, and what follows them and the blanks after
them. -/
def dottedKey? : Nat → List Char → Option (List String × List Char)
  | 0, _ => none
  | fuel + 1, cs => do
      let (key, rest) ← key? (skipBlanks cs)
      match skipBlanks rest with
      | '.' :: rest =>
          let (keys, rest) ← dottedKey? fuel rest
          return (key :: keys, rest)
      | rest => return ([key], rest)

/-- The keys at the start of a text as those that lead on and the last one, and what follows. -/
def path? (cs : List Char) : Option (List String × String × List Char) := do
  let (keys, rest) ← dottedKey? (cs.length + 1) cs
  return (keys.dropLast, ← keys.getLast?, rest)

/-! ## Values -/

/-- How deep arrays and braces may nest. -/
def maxDepth : Nat := 80

mutual

/-- A value at the start of a text, and what follows it. Arrays and braces may nest `depth` deep,
and reading takes at most `fuel` steps. -/
def readValue? : Nat → Nat → List Char → Option (Toml × List Char)
  | 0, _, _ => none
  | _, _, [] => none
  | fuel + 1, depth, c :: cs =>
    if c = '"' || c = '\x27' then
      (quoted? (c :: cs)).map fun (s, rest) => (.string (String.ofList s), rest)
    else if c = '[' then
      match depth with
      | 0 => none
      | depth + 1 => do
          let (items, rest) ← readItems? fuel depth (← skipGap? cs)
          return (.array items, rest)
    else if c = '\x7b' then
      match depth with
      | 0 => none
      | depth + 1 => do
          let (entries, rest) ← readPairs? fuel depth [] (← skipGap? cs)
          return (.table .inline entries, rest)
    else
      let (w, rest) := word (c :: cs)
      if isScalar w then some (.scalar, rest) else none

/-- The items of an array up to its closing bracket. -/
def readItems? : Nat → Nat → List Char → Option (List Toml × List Char)
  | 0, _, _ => none
  | _, _, ']' :: rest => some ([], rest)
  | fuel + 1, depth, cs => do
      let (v, rest) ← readValue? fuel depth cs
      match ← skipGap? rest with
      | ',' :: rest =>
          let (vs, rest) ← readItems? fuel depth (← skipGap? rest)
          return (v :: vs, rest)
      | ']' :: rest => return ([v], rest)
      | _ => none

/-- The pairs up to a closing brace, added to the entries read before. -/
def readPairs? : Nat → Nat → Entries → List Char → Option (Entries × List Char)
  | 0, _, _, _ => none
  | _, _, entries, '\x7d' :: rest => some (entries, rest)
  | fuel + 1, depth, entries, cs => do
      let (path, key, rest) ← path? cs
      match ← skipGap? rest with
      | '=' :: rest =>
          let (v, rest) ← readValue? fuel depth (← skipGap? rest)
          let entries ← insert? path key v .inline entries
          match ← skipGap? rest with
          | ',' :: rest => readPairs? fuel depth entries (← skipGap? rest)
          | '\x7d' :: rest => return (entries, rest)
          | _ => none
      | _ => none

end

/-! ## Documents -/

/-- The entries of a document so far, and the table opened last. -/
structure Draft where
  entries : Entries := []
  header : List String := []

/-- The document after the header at the start of a text, after its first bracket, and what follows
it. -/
def Draft.header? (d : Draft) : List Char → Option (Draft × List Char)
  | '[' :: cs => do
      let (path, key, rest) ← path? cs
      match rest with
      | ']' :: ']' :: rest => return (⟨← append? path key d.entries, path ++ [key]⟩, rest)
      | _ => none
  | cs => do
      let (path, key, rest) ← path? cs
      match rest with
      | ']' :: rest => return (⟨← open? path key d.entries, path ++ [key]⟩, rest)
      | _ => none

/-- The document after the pair at the start of a text, and what follows it. -/
def Draft.pair? (d : Draft) (cs : List Char) : Option (Draft × List Char) := do
  let (path, key, rest) ← path? cs
  match rest with
  | '=' :: rest =>
      let (v, rest) ← readValue? (rest.length + 1) maxDepth (skipBlanks rest)
      let entries ← insertBelow? d.header path key v d.entries
      return (⟨entries, d.header⟩, rest)
  | _ => none

/-- The document after all lines of a text, at most `fuel` of them. -/
def Draft.lines? : Nat → Draft → List Char → Option Draft
  | 0, _, _ => none
  | fuel + 1, d, cs => do
      let (d, cs) ← match skipBlanks cs with
        | [] => pure (d, [])
        | '#' :: rest => pure (d, '#' :: rest)
        | '[' :: rest => d.header? rest
        | c :: rest =>
            if (lineEnd? (c :: rest)).isSome then pure (d, c :: rest) else d.pair? (c :: rest)
      let tail ← lineTail? cs
      match lineEnd? tail with
      | some rest => d.lines? fuel rest
      | none => return d

/-- The table that a document is. A byte order mark in front of it does not count. -/
def parse? (text : String) : Option Toml := do
  let cs := match text.toList with
    | '\ufeff' :: cs => cs
    | cs => cs
  let d ← Draft.lines? (cs.length + 1) {} cs
  return .table .header d.entries

end PolicyLint.Toml
