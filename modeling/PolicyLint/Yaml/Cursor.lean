/-
# Places in a YAML text

A cursor is a place in a text together with its line and column, which decide how the text is
structured. Besides the line feed and the carriage return three more characters end a line.

* `Yaml.Cursor` : a place, and how to go on from it;
* `Yaml.Gap` : the blanks and line breaks between two words of a text, and the text they fold to.
-/
import PolicyLint.Text.Basic

namespace PolicyLint.Yaml

/-! ## Characters -/

/-- The blanks of YAML. -/
def isBlank (c : Char) : Bool := c = ' ' || c = '\t'

/-- The characters that end a line. -/
def isBreak (c : Char) : Bool :=
  c = '\n' || c = '\r' || c = '\x85' || c = '\u2028' || c = '\u2029'

/-- Whether a word ends in front of a text. -/
def endsWord : List Char → Bool
  | [] => true
  | c :: _ => isBlank c || isBreak c

/-- Whether a character may stand in a document. -/
def isPrintable (c : Char) : Bool :=
  let n := c.toNat
  c = '\t' || c = '\n' || c = '\r' || (0x20 ≤ n && n ≤ 0x7E) || n == 0x85
    || (0xA0 ≤ n && n ≤ 0xD7FF) || (0xE000 ≤ n && n ≤ 0xFFFD) || 0x10000 ≤ n

/-! ## Cursors -/

/-- A place in a text: what follows it, the number of characters before it, its line and its column,
all counted from zero. -/
structure Cursor where
  rest : List Char
  index : Nat := 0
  line : Nat := 0
  column : Nat := 0

namespace Cursor

/-- The place so many characters further on, on the same line. -/
def skip (c : Cursor) (n : Nat) : Cursor :=
  { c with rest := c.rest.drop n, index := c.index + n, column := c.column + n }

/-- The place in front of a later rest, on the same line. -/
def skipTo (c : Cursor) (rest : List Char) : Cursor := c.skip (c.rest.length - rest.length)

/-- The place after all characters of a kind. -/
def skipWhile (p : Char → Bool) (c : Cursor) : Cursor := c.skip (c.rest.takeWhile p).length

/-- The place after the end of a line, which takes so many characters. -/
def nextLine (c : Cursor) (n : Nat) : Cursor :=
  { rest := c.rest.drop n, index := c.index + n, line := c.line + 1 }

/-- The line break at a place, and the place after it. All breaks of one line read as line feeds;
the separators of lines and paragraphs stay as they are. -/
def break? (c : Cursor) : Option (List Char × Cursor) :=
  match c.rest with
  | '\r' :: '\n' :: _ => some (['\n'], c.nextLine 2)
  | x :: _ =>
      if isBreak x then
        some (if x = '\u2028' || x = '\u2029' then [x] else ['\n'], c.nextLine 1)
      else none
  | [] => none

/-- Whether a mark between documents stands at a place: three dashes or three dots at the start of a
line. -/
def isAtMark (c : Cursor) : Bool :=
  c.column = 0 &&
    match c.rest with
    | '-' :: '-' :: '-' :: cs => endsWord cs
    | '.' :: '.' :: '.' :: cs => endsWord cs
    | _ => false

/-- The place after a byte order mark at the start of a line, which still takes its column. -/
def skipByteOrderMark (c : Cursor) : Cursor :=
  if c.column = 0 && c.rest.head? = some '\ufeff' then c.skip 1 else c

/-- The place after the rest of a line. -/
def skipComment (c : Cursor) : Cursor :=
  if c.rest.head? = some '#' then c.skipWhile fun x => !isBreak x else c

/-- The place on the next line, where only blanks and a comment are left on this one. -/
def lineTail? (c : Cursor) : Option Cursor :=
  let c := (c.skipWhile isBlank).skipComment
  match c.break? with
  | some (_, next) => some next
  | none => if c.rest.isEmpty then some c else none

end Cursor

/-! ## Gaps -/

/-- The blanks up to the first line break, the line breaks, and the place after them all. -/
structure Gap where
  blanks : List Char
  breaks : List (List Char)
  next : Cursor

/-- The line breaks at a place with the blanks after each, at most `fuel` of them. After a line
break no tab may stand before the column `margin`. -/
def breaks? (margin : Nat) : Nat → Cursor → Option (List (List Char) × Cursor)
  | 0, c => some ([], c)
  | fuel + 1, c =>
    match c.break? with
    | none => some ([], c)
    | some (b, c) =>
        let indent := c.rest.takeWhile isBlank
        if (indent.take margin).contains '\t' then none
        else (breaks? margin fuel (c.skip indent.length)).map fun (bs, c) => (b :: bs, c)

/-- The gap at a place. -/
def Cursor.gap? (c : Cursor) (margin : Nat) : Option Gap :=
  let blanks := c.rest.takeWhile isBlank
  (breaks? margin c.rest.length (c.skip blanks.length)).map fun (bs, next) => ⟨blanks, bs, next⟩

/-- What line breaks fold to: a line feed alone is a space, and in front of more it is nothing. -/
def fold : List (List Char) → List Char
  | [['\n']] => [' ']
  | ['\n'] :: more => more.flatten
  | bs => bs.flatten

/-- The text that a gap folds to. -/
def Gap.text (g : Gap) : List Char := if g.breaks.isEmpty then g.blanks else fold g.breaks

end PolicyLint.Yaml
