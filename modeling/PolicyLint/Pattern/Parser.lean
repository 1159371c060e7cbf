/-
# Reading patterns

The grammar of patterns, read from left to right. Where blanks are ignored, blanks and comments may
stand between any two parts. There is no look-around and no back reference.

* `Pattern.parse?` : the expression that a text writes down, if it is well-formed.
-/
import PolicyLint.Pattern.Syntax
import PolicyLint.Text.Basic
import PolicyLint.Text.Hex
import PolicyLint.Text.Property

namespace PolicyLint.Pattern

/-! ## The state of reading -/

/-- What is left to read, whether blanks are ignored, and the names of groups read so far. -/
structure Reader where
  rest : List Char
  ignoreBlanks : Bool := false
  names : List String := []

namespace Reader

/-- What follows blanks and comments. -/
def gapFrom : Bool → List Char → List Char
  | _, [] => []
  | true, c :: cs => gapFrom (c != '\n') cs
  | false, c :: cs =>
      if Text.isBlank c then gapFrom false cs
      else if c = '#' then gapFrom true cs
      else c :: cs

/-- The text after blanks and comments, where these are ignored. -/
def gap (r : Reader) (cs : List Char) : List Char :=
  if r.ignoreBlanks then gapFrom false cs else cs

/-- The same reader with another text left to read. -/
def goOn (r : Reader) (cs : List Char) : Reader := { r with rest := cs }

/-- The same reader with another text left to read, after blanks and comments. -/
def skipTo (r : Reader) (cs : List Char) : Reader := { r with rest := r.gap cs }

end Reader

/-! ## Numbers and escapes -/

/-- So many hexadecimal digits, and what follows them. -/
def hexDigits? (r : Reader) : Nat → Nat → List Char → Option (Nat × List Char)
  | 0, n, cs => some (n, cs)
  | k + 1, n, c :: cs => do
      let v ← Text.hexValue? c
      hexDigits? r k (16 * n + v) (r.gap cs)
  | _ + 1, _, [] => none

/-- The hexadecimal digits up to a closing brace, and what follows it. -/
def bracedHex? (r : Reader) : Nat → List Char → List Char → Option (List Char × List Char)
  | 0, _, _ => none
  | fuel + 1, digits, cs =>
    match r.gap cs with
    | '}' :: rest => some (digits.reverse, r.gap rest)
    | c :: rest => do
        let _ ← Text.hexValue? c
        bracedHex? r fuel (c :: digits) rest
    | [] => none

/-- A character given by its code point, after `\x`, `\u` or `\U`, which take so many digits. -/
def hexEscape? (r : Reader) (width : Nat) (cs : List Char) : Option (Literal × List Char) :=
  match r.gap cs with
  | '{' :: rest => do
      let (digits, rest) ← bracedHex? r (rest.length + 1) [] rest
      if digits.isEmpty then none
      let n := digits.foldl (fun n c => 16 * n + (Text.hexValue? c).getD 0) 0
      return (⟨← Text.charAt? n, false⟩, rest)
  | rest => do
      let (n, rest) ← hexDigits? r width 0 rest
      return (⟨← Text.charAt? n, width == 2⟩, rest)

/-- A name up to a closing brace, and what follows it. -/
def bracedName? (r : Reader) : Nat → List Char → List Char → Option (List Char × List Char)
  | 0, _, _ => none
  | fuel + 1, name, cs =>
    match r.gap cs with
    | '}' :: rest => some (name.reverse, rest)
    | c :: rest => bracedName? r fuel (c :: name) rest
    | [] => none

/-- A text cut at the first place where `part` stands. -/
def cutAt? (part : List Char) : List Char → Option (List Char × List Char)
  | [] => none
  | c :: cs =>
      match Text.strip? part (c :: cs) with
      | some rest => some ([], rest)
      | none => (cutAt? part cs).map fun (before, after) => (c :: before, after)

/-- The property that a name in braces stands for, and whether the name negates it. -/
def propertyName (name : List Char) : PropertyName × Bool :=
  let valued := fun (n, v) => PropertyName.valued (String.ofList n) (String.ofList v)
  match cutAt? ['!', '='] name with
  | some cut => (valued cut, true)
  | none =>
      match cutAt? [':'] name <|> cutAt? ['='] name with
      | some cut => (valued cut, false)
      | none => (.named (String.ofList name), false)

/-- A property after `\p` or `\P`, whether it is negated by its name, and what follows it. -/
def property? (r : Reader) (cs : List Char) : Option (PropertyName × Bool × List Char) :=
  match r.gap cs with
  | '{' :: rest => do
      let (name, rest) ← bracedName? r (rest.length + 1) [] rest
      let (name, negated) := propertyName name
      return (name, negated, rest)
  | '\\' :: _ => none
  | c :: rest => some (.named (String.singleton c), false, r.gap rest)
  | [] => none

/-- The characters that have a meaning of their own in patterns. -/
def isMeta (c : Char) : Bool := "\\.+*?()|[]\x7b\x7d^$#&-~".toList.contains c

/-- Whether a backslash may stand in front of a character that then stands for itself. -/
def isEscapable (c : Char) : Bool :=
  isMeta c || (c.toNat < 128 && !c.isAlphanum && c != '<' && c != '>')

/-- What a part that is one character wide, or a place, can be. -/
inductive Atom where
  | literal (l : Literal)
  | assertion (a : Assertion)
  | short (cls : ShortClass) (negated : Bool)
  | property (name : PropertyName) (negated : Bool)

/-- The letters of a name for a kind of word boundary, and what follows its closing brace. -/
def boundaryName? (r : Reader) : Nat → List Char → List Char → Option (List Char × List Char)
  | 0, _, _ => none
  | fuel + 1, name, cs =>
    match cs with
    | '}' :: rest => some (name.reverse, rest)
    | c :: rest =>
        if c.isAlpha || c == '-' then boundaryName? r fuel (c :: name) (r.gap rest) else none
    | [] => none

/-- A word boundary after `\b`: a name in braces tells its kind, and braces that cannot hold a name
are left for a repetition. -/
def boundary? (r : Reader) (cs : List Char) : Option (Assertion × List Char) :=
  match cs with
  | '{' :: rest =>
      match r.gap rest with
      | [] => none
      | c :: more =>
          if c.isAlpha || c == '-' then do
            let (name, after) ← boundaryName? r (rest.length + 1) [] (c :: more)
            match String.ofList name with
            | "start" => return (.wordStart, after)
            | "end" => return (.wordEnd, after)
            | "start-half" => return (.wordStartHalf, after)
            | "end-half" => return (.wordEndHalf, after)
            | _ => none
          else some (.wordBoundary, cs)
  | _ => some (.wordBoundary, cs)

/-- An escape after its backslash, and what follows it. -/
def escape? (r : Reader) : List Char → Option (Atom × List Char)
  | [] => none
  | c :: cs =>
    let literal (d : Char) : Option (Atom × List Char) := some (.literal ⟨d, false⟩, cs)
    let hex (width : Nat) := (hexEscape? r width cs).map fun (l, rest) => (Atom.literal l, rest)
    let property (negated : Bool) := (property? r cs).map fun (name, flipped, rest) =>
      (Atom.property name (negated != flipped), rest)
    match c with
    | 'x' => hex 2
    | 'u' => hex 4
    | 'U' => hex 8
    | 'p' => property false
    | 'P' => property true
    | 'd' => some (.short .digit false, cs)
    | 'D' => some (.short .digit true, cs)
    | 's' => some (.short .space false, cs)
    | 'S' => some (.short .space true, cs)
    | 'w' => some (.short .word false, cs)
    | 'W' => some (.short .word true, cs)
    | 'a' => literal '\x07'
    | 'f' => literal '\x0c'
    | 't' => literal '\t'
    | 'n' => literal '\n'
    | 'r' => literal '\r'
    | 'v' => literal '\x0b'
    | 'A' => some (.assertion .startText, cs)
    | 'z' => some (.assertion .endText, cs)
    | 'b' => (boundary? r cs).map fun (a, rest) => (.assertion a, rest)
    | 'B' => some (.assertion .notWordBoundary, cs)
    | '<' => some (.assertion .wordStart, cs)
    | '>' => some (.assertion .wordEnd, cs)
    | c => if isEscapable c then literal c else none

/-- The expression that an atom is. -/
def Atom.toExpr : Atom → Expr
  | .literal l => .literal l
  | .assertion a => .assertion a
  | .short cls negated => .short cls negated
  | .property name negated => .property name negated

/-- The item of a set that an atom is; a place is none. -/
def Atom.toSet? : Atom → Option SetExpr
  | .literal l => some (.literal l)
  | .assertion _ => none
  | .short cls negated => some (.short cls negated)
  | .property name negated => some (.property name negated)

/-! ## Sets -/

/-- One atom of a set, and what follows it. -/
def setAtom? (r : Reader) : List Char → Option (Atom × List Char)
  | [] => none
  | '\\' :: cs => escape? r cs
  | c :: cs => some (.literal ⟨c, false⟩, cs)

/-- An item of a set: an atom, or all characters from one to another. -/
def setItem? (r : Reader) (cs : List Char) : Option (SetExpr × List Char) := do
  let (low, rest) ← setAtom? r cs
  match r.gap rest with
  | [] => none
  | '-' :: after =>
      match r.gap after with
      | ']' :: _ => return (← low.toSet?, '-' :: after)
      | '-' :: _ => return (← low.toSet?, '-' :: after)
      | [] => none
      | next =>
          let (high, rest) ← setAtom? r next
          match low, high with
          | .literal a, .literal b =>
              if a.char ≤ b.char then return (.range a b, rest) else none
          | _, _ => none
  | rest => return (← low.toSet?, rest)

/-- A class `[:name:]` after its opening bracket, and what follows it. -/
def asciiClass? (cs : List Char) : Option (SetExpr × List Char) :=
  match cs with
  | ':' :: rest =>
      let (negated, rest) := match rest with
        | '^' :: rest => (true, rest)
        | rest => (false, rest)
      let name := rest.takeWhile (· ≠ ':')
      match rest.dropWhile (· ≠ ':') with
      | ':' :: ']' :: after =>
          (AsciiClass.ofName? (String.ofList name)).map fun cls => (.ascii cls negated, after)
      | _ => none
  | _ => none

/-- The hyphens at the start of a set, each an item, and what follows them. -/
def setHyphens? (r : Reader) : Nat → List SetExpr → List Char → Option (List SetExpr × List Char)
  | 0, _, _ => none
  | fuel + 1, items, cs =>
    match cs with
    | '-' :: rest =>
        match r.gap rest with
        | [] => none
        | rest => setHyphens? r fuel (.literal ⟨'-', false⟩ :: items) rest
    | cs => some (items, cs)

/-- The start of a set after its opening bracket: whether it is negated, and its first items, the
last of them in front. A bracket that comes first belongs to the set. -/
def setStart? (r : Reader) (cs : List Char) : Option (Bool × List SetExpr × List Char) := do
  let (negated, cs) := match r.gap cs with
    | '^' :: rest => (true, r.gap rest)
    | rest => (false, rest)
  if cs.isEmpty then none
  let (items, cs) ← setHyphens? r (cs.length + 1) [] cs
  match items, cs with
  | [], ']' :: rest =>
      let rest := r.gap rest
      if rest.isEmpty then none else some (negated, [.literal ⟨']', false⟩], rest)
  | items, cs => some (negated, items, cs)

/-- What stands on the left of the next operation of a set. -/
def combine (left : Option (SetOp × SetExpr)) (items : List SetExpr) : SetExpr :=
  let right := SetExpr.ofItems items.reverse
  match left with
  | some (op, l) => .binary op l right
  | none => right

/-- A set after its opening bracket up to its closing one. The operations take all on their left
together, and `items` holds what has been read since the last of them, the last item in front. -/
def set? (r : Reader) : Nat → Bool → Option (SetOp × SetExpr) → List SetExpr → List Char →
    Option (SetExpr × List Char)
  | 0, _, _, _, _ => none
  | fuel + 1, negated, left, items, cs =>
    match r.gap cs with
    | [] => none
    | '[' :: rest =>
        match asciiClass? rest with
        | some (item, after) => set? r fuel negated left (item :: items) after
        | none => do
            let (innerNegated, innerItems, after) ← setStart? r rest
            let (inner, after) ← set? r fuel innerNegated none innerItems after
            set? r fuel negated left (inner :: items) after
    | ']' :: rest => some (.bracket negated (combine left items), rest)
    | '&' :: '&' :: rest =>
        set? r fuel negated (some (.intersection, combine left items)) [] rest
    | '-' :: '-' :: rest =>
        set? r fuel negated (some (.difference, combine left items)) [] rest
    | '~' :: '~' :: rest =>
        set? r fuel negated (some (.symmetricDifference, combine left items)) [] rest
    | rest => do
        let (item, after) ← setItem? r rest
        set? r fuel negated left (item :: items) after

/-! ## Groups and flags -/

/-- The flags up to `:` or `)`, which is left to read. A flag and the minus may each come once, and
the minus needs a flag after it. -/
def flags? : List Char → Bool → FlagChanges → Bool → Option (FlagChanges × List Char)
  | [], _, _, _ => none
  | c :: cs, negating, changes, dangling =>
    if c = ':' ∨ c = ')' then
      if dangling then none else some (changes.reverse, c :: cs)
    else if c = '-' then
      if negating then none else flags? cs true changes true
    else do
      let f ← Flag.ofChar? c
      if (changes.get? f).isSome then none
      flags? cs negating ((f, !negating) :: changes) false

/-- Whether a character may stand in the name of a group. -/
def isNameChar (first : Bool) (c : Char) : Bool :=
  if first then c == '_' || Text.isAlphabetic c
  else c == '_' || c == '.' || c == '[' || c == ']' || Text.isAlphanumeric c

/-- The name of a group up to `>`, and what follows it. -/
def groupName? (cs : List Char) : Option (String × List Char) :=
  let name := cs.takeWhile (· ≠ '>')
  match name, cs.dropWhile (· ≠ '>') with
  | c :: more, '>' :: rest =>
      if isNameChar true c && more.all (isNameChar false) then some (String.ofList name, rest)
      else none
  | _, _ => none

/-- How a group begins. -/
inductive GroupStart where
  /-- The group encloses what follows, under these flags. -/
  | opens (changes : FlagChanges)
  /-- There is no group: the flags hold from here on. -/
  | flags (changes : FlagChanges)

/-- The start of a group after its opening parenthesis. -/
def groupStart? (r : Reader) : Option (GroupStart × Reader) :=
  let named (rest : List Char) : Option (GroupStart × Reader) := do
    let (name, rest) ← groupName? rest
    if r.names.contains name then none
    return (.opens [], { r with rest := rest, names := name :: r.names })
  match r.rest with
  | '?' :: '=' :: _ => none
  | '?' :: '!' :: _ => none
  | '?' :: '<' :: '=' :: _ => none
  | '?' :: '<' :: '!' :: _ => none
  | '?' :: 'P' :: '<' :: rest => named rest
  | '?' :: '<' :: rest => named rest
  | '?' :: rest => do
      let (changes, rest) ← flags? rest false [] false
      match rest with
      | ')' :: rest => if changes.isEmpty then none else return (.flags changes, r.goOn rest)
      | _ :: rest => return (.opens changes, r.goOn rest)
      | [] => none
  | _ => some (.opens [], r)

/-! ## Repetitions -/

/-- Whether an expression can be repeated. -/
def Expr.repeats : Expr → Bool
  | .empty => false
  | .flags _ => false
  | _ => true

/-- What follows a question mark, and whether there was none. -/
def greedyThen (cs : List Char) : Bool × List Char :=
  match cs with
  | '?' :: rest => (false, rest)
  | rest => (true, rest)

/-- The digits of a number, and what follows them. -/
def digitsThen (r : Reader) : Nat → List Char → List Char → List Char × List Char
  | 0, digits, cs => (digits.reverse, cs)
  | fuel + 1, digits, cs =>
    match cs with
    | c :: rest =>
        if c.isDigit then digitsThen r fuel (c :: digits) (r.gap rest)
        else (digits.reverse, cs)
    | [] => (digits.reverse, [])

/-- A decimal number below 2^32 with blanks around it, and what follows it. -/
def decimal? (r : Reader) (cs : List Char) : Option (Nat × List Char) :=
  let cs := cs.dropWhile Text.isBlank
  let (digits, rest) := digitsThen r cs.length [] cs
  let n := digits.foldl (fun n d => 10 * n + (d.toNat - 48)) 0
  if digits.isEmpty || UInt32.size ≤ n then none else some (n, r.gap (rest.dropWhile Text.isBlank))

/-- The bounds of a counted repetition after its opening brace, and what follows the closing one. -/
def bounds? (r : Reader) (cs : List Char) : Option (Nat × Option Nat × List Char) := do
  let (min, rest) ← decimal? r (r.gap cs)
  match rest with
  | '}' :: rest => return (min, some min, rest)
  | ',' :: rest =>
      match r.gap rest with
      | '}' :: rest => return (min, none, rest)
      | rest =>
          let (max, rest) ← decimal? r rest
          match rest with
          | '}' :: rest => if min ≤ max then return (min, some max, rest) else none
          | _ => none
  | _ => none

/-! ## Expressions -/

/-- An expression up to the end or to a closing parenthesis, which is left to read. `branches` and
`parts` hold what has been read, the last of them in front. -/
def expr? : Nat → Reader → List Expr → List Expr → Option (Expr × Reader)
  | 0, _, _, _ => none
  | fuel + 1, r, branches, parts =>
    let repeated (min : Nat) (max : Option Nat) (greedy : Bool) (rest : List Char) :
        Option (Expr × Reader) :=
      match parts with
      | e :: es =>
          if e.repeats then expr? fuel (r.goOn rest) branches (.repetition e min max greedy :: es)
          else none
      | [] => none
    let uncounted (min : Nat) (max : Option Nat) (rest : List Char) : Option (Expr × Reader) :=
      let (greedy, rest) := greedyThen rest
      repeated min max greedy rest
    match r.gap r.rest with
    | [] =>
        some (.ofBranches ((.ofParts parts.reverse :: branches).reverse), r.goOn [])
    | ')' :: rest =>
        some (.ofBranches ((.ofParts parts.reverse :: branches).reverse), r.goOn (')' :: rest))
    | '|' :: rest => expr? fuel (r.goOn rest) (.ofParts parts.reverse :: branches) []
    | '(' :: rest => do
        let (start, inner) ← groupStart? (r.skipTo rest)
        match start with
        | .flags changes =>
            let ignore := (changes.get? .ignoreBlanks).getD r.ignoreBlanks
            expr? fuel { inner with ignoreBlanks := ignore } branches (.flags changes :: parts)
        | .opens changes =>
            let ignore := (changes.get? .ignoreBlanks).getD r.ignoreBlanks
            let (body, after) ← expr? fuel { inner with ignoreBlanks := ignore } [] []
            match after.rest with
            | ')' :: rest =>
                expr? fuel { after with rest := rest, ignoreBlanks := r.ignoreBlanks } branches
                  (.group changes body :: parts)
            | _ => none
    | '[' :: rest => do
        let (negated, items, after) ← setStart? r rest
        let (set, after) ← set? r (after.length + 1) negated none items after
        expr? fuel (r.goOn after) branches (.set set :: parts)
    | '?' :: rest => uncounted 0 (some 1) rest
    | '*' :: rest => uncounted 0 none rest
    | '+' :: rest => uncounted 1 none rest
    | '{' :: rest => do
        let (min, max, rest) ← bounds? r rest
        let (greedy, rest) := greedyThen (r.gap rest)
        repeated min max greedy rest
    | '\\' :: rest => do
        let (atom, rest) ← escape? r rest
        expr? fuel (r.goOn rest) branches (atom.toExpr :: parts)
    | '.' :: rest => expr? fuel (r.goOn rest) branches (.dot :: parts)
    | '^' :: rest => expr? fuel (r.goOn rest) branches (.assertion .startLine :: parts)
    | '$' :: rest => expr? fuel (r.goOn rest) branches (.assertion .endLine :: parts)
    | c :: rest => expr? fuel (r.goOn rest) branches (.literal ⟨c, false⟩ :: parts)

/-- Expressions nest no deeper than this. -/
def maxDepth : Nat := 250

/-- The expression that a text writes down, if it is well-formed and does not nest too deep. -/
def parse? (text : String) : Option Expr := do
  let cs := text.toList
  let (e, r) ← expr? (cs.length + 1) ⟨cs, false, []⟩ [] []
  if r.rest.isEmpty && e.depth ≤ maxDepth then some e else none

end PolicyLint.Pattern
