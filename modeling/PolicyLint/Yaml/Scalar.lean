/-
# Scalars of a YAML text

A scalar is a text: plain, between quotes, or a block of lines below a header. Plain and quoted
scalars fold their line breaks; a block keeps them or folds them, and chomps its end.

* `Yaml.plain?`, `Yaml.quoted?`, `Yaml.block?` : a scalar at a place, and the place after it.
-/
import PolicyLint.Yaml.Cursor
import PolicyLint.Text.Hex

namespace PolicyLint.Yaml

/-! ## Plain scalars -/

/-- Whether a character separates or ends the items of a flow collection. -/
def isFlowMark (c : Char) : Bool :=
  c = ',' || c = '[' || c = ']' || c = '\x7b' || c = '\x7d'

/-- The word of a plain scalar at the start of a text. In a flow collection a colon may not stand in
front of a mark. -/
def plainWord? (inFlow : Bool) : List Char → Option (List Char)
  | [] => some []
  | c :: cs =>
    if isBlank c || isBreak c then some []
    else if inFlow && c = ':' && cs.head?.any (fun d => isFlowMark d || d = '?') then none
    else if c = ':' && endsWord cs then some []
    else if inFlow && isFlowMark c then some []
    else (plainWord? inFlow cs).map (c :: ·)

/-- The rest of a plain scalar after a word, with at most `fuel` words; the place after it; and
whether a line break was passed to get there. -/
def plainTail? (inFlow : Bool) (margin : Nat) : Nat → Cursor → Option (List Char × Cursor × Bool)
  | 0, c => some ([], c, false)
  | fuel + 1, c => do
    let gap ← c.gap? margin
    let stop := some ([], gap.next, !gap.breaks.isEmpty)
    if !inFlow && gap.next.column < margin then stop
    else if gap.next.isAtMark || gap.next.rest.head? = some '#' then stop
    else
      match ← plainWord? inFlow gap.next.rest with
      | [] => stop
      | w => do
          let (s, c, broken) ← plainTail? inFlow margin fuel (gap.next.skip w.length)
          return (gap.text ++ w ++ s, c, broken)

/-- The plain scalar at a place; the place after it; and whether a line break was passed to get
there. -/
def plain? (inFlow : Bool) (margin : Nat) (c : Cursor) : Option (List Char × Cursor × Bool) := do
  let w ← plainWord? inFlow c.rest
  let (s, c, broken) ← plainTail? inFlow margin c.rest.length (c.skip w.length)
  return (w ++ s, c, broken)

/-! ## Quoted scalars -/

/-- The character that an escape means, given what follows its backslash, and the number of
characters that the escape takes there. -/
def escape? : List Char → Option (Char × Nat)
  | '0' :: _ => some ('\x00', 1)
  | 'a' :: _ => some ('\x07', 1)
  | 'b' :: _ => some ('\x08', 1)
  | 't' :: _ => some ('\t', 1)
  | '\t' :: _ => some ('\t', 1)
  | 'n' :: _ => some ('\n', 1)
  | 'v' :: _ => some ('\x0b', 1)
  | 'f' :: _ => some ('\x0c', 1)
  | 'r' :: _ => some ('\r', 1)
  | 'e' :: _ => some ('\x1b', 1)
  | ' ' :: _ => some (' ', 1)
  | '"' :: _ => some ('"', 1)
  | '/' :: _ => some ('/', 1)
  | '\\' :: _ => some ('\\', 1)
  | 'N' :: _ => some ('\x85', 1)
  | '_' :: _ => some ('\xa0', 1)
  | 'L' :: _ => some ('\u2028', 1)
  | 'P' :: _ => some ('\u2029', 1)
  | 'x' :: cs => (Text.hexChar? 2 cs).map (·, 3)
  | 'u' :: cs => (Text.hexChar? 4 cs).map (·, 5)
  | 'U' :: cs => (Text.hexChar? 8 cs).map (·, 9)
  | _ => none

/-- A quoted scalar from a place after its opening quote, and the place after its closing one.
Between double quotes there are escapes, and one for the end of a line takes the blanks after it
away; between single quotes two of them stand for one. -/
def quoted? (quote : Char) : Nat → Cursor → Option (List Char × Cursor)
  | 0, _ => none
  | fuel + 1, c =>
    let put (s : List Char) (next : Cursor) :=
      (quoted? quote fuel next).map fun (t, c) => (s ++ t, c)
    if c.isAtMark then none
    else match c.rest with
    | [] => none
    | x :: cs =>
      if x = quote then
        if quote = '\x27' && cs.head? = some '\x27' then put ['\x27'] (c.skip 2)
        else some ([], c.skip 1)
      else if isBlank x || isBreak x then (c.gap? 0).bind fun gap => put gap.text gap.next
      else if x = '\\' && quote = '"' then
        match breaks? 0 fuel (c.skip 1) with
        | some (_ :: bs, next) => put bs.flatten next
        | _ => (escape? cs).bind fun (d, n) => put [d] (c.skip (n + 1))
      else put [x] (c.skip 1)

/-! ## Blocks -/

/-- What happens to the line breaks at the end of a block: all go, one stays, or all stay. -/
inductive Chomp where
  | strip
  | clip
  | keep
deriving DecidableEq, Repr

/-- The chomping that a character of a header asks for. -/
def Chomp.ofChar? : Char → Option Chomp
  | '+' => some .keep
  | '-' => some .strip
  | _ => none

/-- The chomping at a place, and the place after it. -/
def chomp (c : Cursor) : Chomp × Cursor :=
  match c.rest.head?.bind Chomp.ofChar? with
  | some chomp => (chomp, c.skip 1)
  | none => (.clip, c)

/-- The indentation at a place, which is not zero, and the place after it; it is zero where none is
given. -/
def increment? (c : Cursor) : Option (Nat × Cursor) :=
  match c.rest with
  | '0' :: _ => none
  | d :: _ => if d.isDigit then some (d.toNat - 48, c.skip 1) else some (0, c)
  | [] => some (0, c)

/-- The chomping and the indentation of a header in either order, and the place after the line. -/
def header? (c : Cursor) : Option (Chomp × Nat × Cursor) := do
  let (first, c) := chomp c
  let (increment, c) ← increment? c
  let (chomp, c) := if first = .clip && increment ≠ 0 then chomp c else (first, c)
  return (chomp, increment, ← c.lineTail?)

/-- The empty lines at a place, at most `fuel` of them: their breaks, the widest indentation seen,
and the place after the indentation of the next line. A line is indented by `indent` columns, or by
any number of them if that is zero, and not with tabs. -/
def emptyLines? (indent : Nat) : Nat → Nat → Cursor → Option (List (List Char) × Nat × Cursor)
  | 0, widest, c => some ([], widest, c)
  | fuel + 1, widest, c =>
    let spaces := (c.rest.takeWhile (· = ' ')).length
    let c := c.skip (if indent = 0 then spaces else min spaces (indent - c.column))
    let widest := max widest c.column
    if (indent = 0 || c.column < indent) && c.rest.head? = some '\t' then none
    else match c.break? with
    | none => some ([], widest, c)
    | some (b, next) => (emptyLines? indent fuel widest next).map fun (bs, rest) => (b :: bs, rest)

/-- The lines of a block from a place on, at most `fuel` of them: their text up to the last break,
that break, the breaks of empty lines after it, and the place after them. `last` is the break before
the place, `blank` says that its line began with a blank, and `empty` are the breaks after it. -/
def blockLines? (isFolded : Bool) (indent : Nat) :
    Nat → List Char → Bool → List (List Char) → Cursor →
      Option (List Char × List Char × List (List Char) × Cursor)
  | 0, last, _, empty, c => some ([], last, empty, c)
  | fuel + 1, last, blank, empty, c =>
    if c.column ≠ indent || c.rest.isEmpty then some ([], last, empty, c)
    else do
      let beginsBlank := c.rest.head?.any isBlank
      let joint :=
        if isFolded && last = ['\n'] && !blank && !beginsBlank then
          if empty.isEmpty then [' '] else []
        else last
      let line := c.rest.takeWhile fun x => !isBreak x
      let c := c.skip line.length
      let (next, c) := (c.break?).getD ([], c)
      let (breaks, _, c) ← emptyLines? indent c.rest.length 0 c
      let (s, rest) ← blockLines? isFolded indent fuel next beginsBlank breaks c
      return (joint ++ empty.flatten ++ line ++ s, rest)

/-- The block whose header follows a place, and the place after it. Lines of the block are indented
deeper than `margin` says, by as much as the header says or as the first line is. -/
def block? (isFolded : Bool) (margin : Nat) (c : Cursor) : Option (List Char × Cursor) := do
  let (chomp, increment, c) ← header? c
  let given := if increment = 0 then 0 else margin - 1 + increment
  let (empty, widest, c) ← emptyLines? given c.rest.length 0 c
  let indent := if given = 0 then max widest (max margin 1) else given
  let (s, last, empty, c) ← blockLines? isFolded indent c.rest.length [] false empty c
  match chomp with
  | .strip => return (s, c)
  | .clip => return (s ++ last, c)
  | .keep => return (s ++ last ++ empty.flatten, c)

end PolicyLint.Yaml
