/-
# Sets of characters

What the classes, properties and bracketed sets of a pattern stand for. With the Unicode flag a
class covers all scripts; without it a class covers ASCII alone, and what would go beyond ASCII is
refused.

* `Pattern.Flags` : the flags in force at a place of a pattern;
* `Pattern.SetExpr.chars?` : the characters of a set, if the flags allow it;
* `Pattern.propertySet?` : the characters with a property.
-/
import PolicyLint.Pattern.Syntax
import PolicyLint.Text.Digit
import PolicyLint.Text.Property
import PolicyLint.Text.Script
import PolicyLint.Text.CaseFold

namespace PolicyLint.Pattern

/-! ## Flags -/

/-- The flags in force at a place of a pattern. -/
structure Flags where
  caseInsensitive : Bool := false
  multiLine : Bool := false
  dotAll : Bool := false
  swapGreed : Bool := false
  unicode : Bool := true
  crlf : Bool := false
deriving DecidableEq, Repr

/-- The flags after one of them has been set. -/
def Flags.set (fl : Flags) : Flag × Bool → Flags
  | (.caseInsensitive, b) => { fl with caseInsensitive := b }
  | (.multiLine, b) => { fl with multiLine := b }
  | (.dotAll, b) => { fl with dotAll := b }
  | (.swapGreed, b) => { fl with swapGreed := b }
  | (.unicode, b) => { fl with unicode := b }
  | (.crlf, b) => { fl with crlf := b }
  | (.ignoreBlanks, _) => fl

/-- The flags after some changes. -/
def Flags.change (fl : Flags) (changes : FlagChanges) : Flags := changes.foldl Flags.set fl

/-! ## Sets -/

/-- A set of characters, as a test for its members. -/
abbrev CharSet := Char → Bool

namespace CharSet

/-- The characters outside a set. -/
def complement (s : CharSet) : CharSet := fun c => !s c

/-- The characters in either of two sets. -/
def union (s t : CharSet) : CharSet := fun c => s c || t c

/-- The characters with a variant in a set. -/
def fold (s : CharSet) : CharSet := fun c => (Text.caseVariants c).any s

/-- The characters that are a member of a set, or its other case in ASCII. -/
def foldAscii (s : CharSet) : CharSet := fun c => s c || s c.toLower || s c.toUpper

/-- The result of an operation on two sets. -/
def binary (op : SetOp) (s t : CharSet) : CharSet :=
  match op with
  | .intersection => fun c => s c && t c
  | .difference => fun c => s c && !t c
  | .symmetricDifference => fun c => s c != t c

end CharSet

/-- The characters of a class of ASCII. -/
def AsciiClass.chars (cls : AsciiClass) : CharSet := fun c =>
  let n := c.toNat
  match cls with
  | .alnum => c.isAlphanum
  | .alpha => c.isAlpha
  | .ascii => n < 128
  | .blank => c == '\t' || c == ' '
  | .cntrl => n < 32 || n == 127
  | .digit => c.isDigit
  | .graph => 33 ≤ n && n ≤ 126
  | .lower => c.isLower
  | .print => 32 ≤ n && n ≤ 126
  | .punct => 33 ≤ n && n ≤ 126 && !c.isAlphanum
  | .space => n == 32 || (9 ≤ n && n ≤ 13)
  | .upper => c.isUpper
  | .word => Text.isAsciiWord c
  | .xdigit => c.isDigit || ('a' ≤ c && c ≤ 'f') || ('A' ≤ c && c ≤ 'F')

/-- The characters of all scripts in a class with a one-letter name. -/
def ShortClass.chars (cls : ShortClass) : CharSet :=
  match cls with
  | .digit => Text.isDecimalDigit
  | .space => Text.isBlank
  | .word => Text.isWord

/-- The characters of ASCII in a class with a one-letter name. -/
def ShortClass.asciiChars (cls : ShortClass) : CharSet :=
  match cls with
  | .digit => AsciiClass.digit.chars
  | .space => AsciiClass.space.chars
  | .word => AsciiClass.word.chars

/-! ## Properties -/

/-- A name without blanks, underscores, hyphens and a leading `is`, in lower case. -/
def looseName (name : String) : String :=
  let plain (cs : List Char) : List Char :=
    (cs.filter fun c => c.toNat < 128 && c != ' ' && c != '_' && c != '-').map Char.toLower
  match name.toList with
  | a :: b :: cs =>
      if a.toLower = 'i' ∧ b.toLower = 's' then
        let rest := plain cs
        if rest = ['c'] then "isc" else String.ofList rest
      else String.ofList (plain (a :: b :: cs))
  | cs => String.ofList (plain cs)

/-- The characters of a general category, or of the whole, the assigned or the ASCII part. -/
def categorySet? (name : String) : Option CharSet :=
  match name with
  | "any" => some fun _ => true
  | "ascii" => some fun c => c.toNat < 128
  | "assigned" => some fun c => Text.category c != "Cn"
  | _ => (Text.categories? name).map fun cats c => cats.contains (Text.category c)

/-- The characters of a script. -/
def scriptSet? (name : String) : Option CharSet :=
  (Text.script? name).map fun s c => Text.script c == s

/-- The characters that a script is used with. -/
def extendedScriptSet? (name : String) : Option CharSet :=
  (Text.script? name).map fun s c => (Text.extendedScripts c).contains s

/-- The characters with a property. A lone name is the name of a property, of a category or of a
script, in this order, save that `cf`, `sc` and `lc` name categories. -/
def propertySet? : PropertyName → Option CharSet
  | .named name =>
      let name := looseName name
      let property := if name = "cf" ∨ name = "sc" ∨ name = "lc" then none else Text.property? name
      property <|> categorySet? name <|> scriptSet? name
  | .valued name value =>
      let value := looseName value
      match looseName name with
      | "gc" => categorySet? value
      | "generalcategory" => categorySet? value
      | "sc" => scriptSet? value
      | "script" => scriptSet? value
      | "scx" => extendedScriptSet? value
      | "scriptextensions" => extendedScriptSet? value
      | _ => none

/-! ## The meaning of sets -/

/-- A set with the variants of its members where case does not count, and then negated or not. What
is negated goes beyond ASCII. -/
def foldAndNegate? (fl : Flags) (negated : Bool) (s : CharSet) : Option CharSet :=
  if fl.unicode then
    let s := if fl.caseInsensitive then s.fold else s
    some (if negated then s.complement else s)
  else if negated then none
  else some (if fl.caseInsensitive then s.foldAscii else s)

/-- The character that a literal stands for. Without the Unicode flag a set holds ASCII alone. -/
def Literal.inSet? (fl : Flags) (l : Literal) : Option Char :=
  if fl.unicode || l.char.toNat < 128 then some l.char else none

/-- The characters of a class with a one-letter name. -/
def ShortClass.set? (fl : Flags) (cls : ShortClass) (negated : Bool) : Option CharSet :=
  if fl.unicode then some (if negated then cls.chars.complement else cls.chars)
  else if negated then none
  else some cls.asciiChars

/-- The characters with a property, or without it. -/
def PropertyName.set? (fl : Flags) (name : PropertyName) (negated : Bool) : Option CharSet :=
  if fl.unicode then (propertySet? name).bind (foldAndNegate? fl negated) else none

mutual

/-- The characters of a set. -/
def SetExpr.chars? (fl : Flags) : SetExpr → Option CharSet
  | .literal l => (l.inSet? fl).map fun c d => d == c
  | .range low high => do
      let low ← low.inSet? fl
      let high ← high.inSet? fl
      return fun c => low ≤ c && c ≤ high
  | .short cls negated => cls.set? fl negated
  | .ascii cls negated => foldAndNegate? fl negated cls.chars
  | .property name negated => name.set? fl negated
  | .bracket negated s => do foldAndNegate? fl negated (← s.chars? fl)
  | .union ss => SetExpr.unionChars? fl ss
  | .binary op l r => do
      let l ← foldAndNegate? fl false (← l.chars? fl)
      let r ← foldAndNegate? fl false (← r.chars? fl)
      return CharSet.binary op l r

/-- The characters of some sets taken together. -/
def SetExpr.unionChars? (fl : Flags) : List SetExpr → Option CharSet
  | [] => some fun _ => false
  | s :: ss => do return CharSet.union (← s.chars? fl) (← SetExpr.unionChars? fl ss)

end

end PolicyLint.Pattern
