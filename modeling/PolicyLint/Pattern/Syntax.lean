/-
# The syntax of patterns

Patterns are regular expressions as they are written: with flags that are switched on and off on the
way, sets of characters with operations on them, and repetitions of several kinds. The tree keeps
flags where they stand; what they mean for the rest is settled later.

* `Pattern.Expr` : an expression;
* `Pattern.SetExpr` : a set of characters in brackets;
* `Pattern.Expr.depth` : how deep an expression nests.
-/

namespace PolicyLint.Pattern

/-- The flags of an expression. -/
inductive Flag where
  | caseInsensitive
  | multiLine
  | dotAll
  | swapGreed
  | unicode
  | crlf
  | ignoreBlanks
deriving DecidableEq, Repr

/-- The flag that a letter stands for. -/
def Flag.ofChar? : Char → Option Flag
  | 'i' => some .caseInsensitive
  | 'm' => some .multiLine
  | 's' => some .dotAll
  | 'U' => some .swapGreed
  | 'u' => some .unicode
  | 'R' => some .crlf
  | 'x' => some .ignoreBlanks
  | _ => none

/-- Flags with what they are set to. -/
abbrev FlagChanges := List (Flag × Bool)

/-- What a flag is set to, if it is among the changes. -/
def FlagChanges.get? (changes : FlagChanges) (f : Flag) : Option Bool :=
  (changes.find? fun c => c.1 == f).map Prod.snd

/-- A character as it is written; a two-digit escape denotes a byte where text is taken bytewise. -/
structure Literal where
  char : Char
  isByte : Bool := false
deriving DecidableEq, Repr

/-- The places between characters that an expression can ask for. -/
inductive Assertion where
  | startLine
  | endLine
  | startText
  | endText
  | wordBoundary
  | notWordBoundary
  | wordStart
  | wordEnd
  | wordStartHalf
  | wordEndHalf
deriving DecidableEq, Repr

/-- The classes with one-letter names: `\d`, `\s` and `\w`. -/
inductive ShortClass where
  | digit
  | space
  | word
deriving DecidableEq, Repr

/-- The classes of ASCII with names in `[:name:]`. -/
inductive AsciiClass where
  | alnum | alpha | ascii | blank | cntrl | digit | graph | lower | print | punct | space | upper
  | word | xdigit
deriving DecidableEq, Repr

/-- The class of ASCII with the given name. -/
def AsciiClass.ofName? (name : String) : Option AsciiClass :=
  match name with
  | "alnum" => some .alnum
  | "alpha" => some .alpha
  | "ascii" => some .ascii
  | "blank" => some .blank
  | "cntrl" => some .cntrl
  | "digit" => some .digit
  | "graph" => some .graph
  | "lower" => some .lower
  | "print" => some .print
  | "punct" => some .punct
  | "space" => some .space
  | "upper" => some .upper
  | "word" => some .word
  | "xdigit" => some .xdigit
  | _ => none

/-- A property of characters by its name, or by its name and value. -/
inductive PropertyName where
  | named (name : String)
  | valued (name value : String)
deriving DecidableEq, Repr

/-- The operations on sets of characters. -/
inductive SetOp where
  | intersection
  | difference
  | symmetricDifference
deriving DecidableEq, Repr

/-- A set of characters in brackets. -/
inductive SetExpr where
  | literal (l : Literal)
  | range (low high : Literal)
  | short (cls : ShortClass) (negated : Bool)
  | ascii (cls : AsciiClass) (negated : Bool)
  | property (name : PropertyName) (negated : Bool)
  | bracket (negated : Bool) (set : SetExpr)
  | union (items : List SetExpr)
  | binary (op : SetOp) (left right : SetExpr)

/-- A regular expression. -/
inductive Expr where
  | empty
  | flags (changes : FlagChanges)
  | literal (l : Literal)
  | dot
  | assertion (a : Assertion)
  | short (cls : ShortClass) (negated : Bool)
  | property (name : PropertyName) (negated : Bool)
  | set (s : SetExpr)
  | repetition (body : Expr) (min : Nat) (max : Option Nat) (greedy : Bool)
  | group (changes : FlagChanges) (body : Expr)
  | alternation (branches : List Expr)
  | sequence (parts : List Expr)

/-- Some parts as one expression. -/
def Expr.ofParts : List Expr → Expr
  | [] => .empty
  | [e] => e
  | es => .sequence es

/-- Some branches as one expression. -/
def Expr.ofBranches : List Expr → Expr
  | [e] => e
  | es => .alternation es

/-- Some items of a set as one. -/
def SetExpr.ofItems : List SetExpr → SetExpr
  | [s] => s
  | ss => .union ss

/-! ## Depth -/

mutual

/-- How deep the brackets, unions and operations of a set nest. -/
def SetExpr.depth : SetExpr → Nat
  | .bracket _ s => s.depth + 1
  | .union ss => SetExpr.depthOf ss + 1
  | .binary _ l r => max l.depth r.depth + 1
  | _ => 0

/-- The greatest depth among some sets. -/
def SetExpr.depthOf : List SetExpr → Nat
  | [] => 0
  | s :: ss => max s.depth (SetExpr.depthOf ss)

end

mutual

/-- How deep the groups, repetitions, branches, sequences and sets of an expression nest. -/
def Expr.depth : Expr → Nat
  | .set s => s.depth
  | .repetition e _ _ _ => e.depth + 1
  | .group _ e => e.depth + 1
  | .alternation es => Expr.depthOf es + 1
  | .sequence es => Expr.depthOf es + 1
  | _ => 0

/-- The greatest depth among some expressions. -/
def Expr.depthOf : List Expr → Nat
  | [] => 0
  | e :: es => max e.depth (Expr.depthOf es)

end

end PolicyLint.Pattern
