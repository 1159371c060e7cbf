/-
# The grammar of JSON

The texts of a value, as the standard of JSON has them: blanks may stand around every mark, and in
a string each character can be written as itself, unless it has to be escaped, by an escape of one
letter, if it has one, or by its UTF-16 units in hexadecimal digits of either case. Nothing here
refers to how texts are read.

* `Json.Form` : the ways to write a character of a string;
* `Json.IsNumber` : the literals of numbers;
* `Json.Writes`, `Json.WritesText` : the texts of a value, without and with blanks around them.
-/
import PolicyLint.Json.Basic

namespace PolicyLint.Json

/-- Any number of blanks. -/
def Blanks (g : List Char) : Prop := ∀ c ∈ g, c ∈ [' ', '\t', '\n', '\r']

/-! ## Strings -/

/-- The letters of the escapes of one letter, and what they stand for. -/
def shortForms : List (Char × Char) :=
  [('"', '"'), ('\\', '\\'), ('/', '/'), ('b', '\x08'), ('f', '\x0c'), ('n', '\n'), ('r', '\r'),
    ('t', '\t')]

/-- Whether a character is the hexadecimal digit of a number below sixteen, in either case. -/
def IsHexDigit (n : Nat) (c : Char) : Prop := c = hexDigit n ∨ c = (hexDigit n).toUpper

/-- The escape of a UTF-16 unit: its four hexadecimal digits behind a letter. -/
inductive UnitForm (n : Nat) : List Char → Prop
  | digits {a b c d : Char} (first : IsHexDigit (n / 4096) a) (second : IsHexDigit (n / 256 % 16) b)
      (third : IsHexDigit (n / 16 % 16) c) (fourth : IsHexDigit (n % 16) d) :
      UnitForm n ['\\', 'u', a, b, c, d]

/-- How a character can be written in a string: as itself, by an escape of one letter, by the
escape of its only unit, or by those of its two. -/
inductive Form (c : Char) : List Char → Prop
  | plain (notQuote : c ≠ '"') (notSlash : c ≠ '\\') (notControl : 32 ≤ c.toNat) : Form c [c]
  | short {e : Char} (isShort : (e, c) ∈ shortForms) : Form c ['\\', e]
  | unit {f : List Char} (isSmall : c.toNat < 0x10000) (digits : UnitForm c.toNat f) : Form c f
  | pair {high low : List Char} (isLarge : 0x10000 ≤ c.toNat)
      (highDigits : UnitForm (0xD800 + (c.toNat - 0x10000) / 1024) high)
      (lowDigits : UnitForm (0xDC00 + (c.toNat - 0x10000) % 1024) low) : Form c (high ++ low)

/-- How characters can be written one after the other. -/
inductive Spells : List Char → List Char → Prop
  | nil : Spells [] []
  | cons {c : Char} {cs f t : List Char} (first : Form c f) (rest : Spells cs t) :
      Spells (c :: cs) (f ++ t)

/-- The texts of a string, between its quotes. -/
inductive WritesString (s : String) : List Char → Prop
  | quoted {t : List Char} (spelled : Spells s.toList t) : WritesString s ('"' :: (t ++ ['"']))

/-! ## Numbers -/

/-- A run of digits, at least one. -/
def IsDigits (ds : List Char) : Prop := ds ≠ [] ∧ ∀ d ∈ ds, d.isDigit = true

/-- The whole part of a number: a zero, or digits that do not begin with one. -/
inductive IsWhole : List Char → Prop
  | zero : IsWhole ['0']
  | digits {d : Char} {ds : List Char} (notZero : d ≠ '0') (digits : IsDigits (d :: ds)) :
      IsWhole (d :: ds)

/-- The fraction of a number, if it has one. -/
inductive IsFraction : List Char → Prop
  | none : IsFraction []
  | point {ds : List Char} (digits : IsDigits ds) : IsFraction ('.' :: ds)

/-- The exponent of a number, if it has one. -/
inductive IsExponent : List Char → Prop
  | none : IsExponent []
  | unsigned {e : Char} {ds : List Char} (isLetter : e = 'e' ∨ e = 'E') (digits : IsDigits ds) :
      IsExponent (e :: ds)
  | signed {e s : Char} {ds : List Char} (isLetter : e = 'e' ∨ e = 'E') (isSign : s = '+' ∨ s = '-')
      (digits : IsDigits ds) : IsExponent (e :: s :: ds)

/-- A number without its sign. -/
inductive IsUnsigned : List Char → Prop
  | parts {w f e : List Char} (whole : IsWhole w) (fraction : IsFraction f)
      (exponent : IsExponent e) : IsUnsigned (w ++ f ++ e)

/-- The literals of numbers. -/
inductive IsNumber : List Char → Prop
  | positive {cs : List Char} (unsigned : IsUnsigned cs) : IsNumber cs
  | negative {cs : List Char} (unsigned : IsUnsigned cs) : IsNumber ('-' :: cs)

/-! ## Values -/

mutual

/-- The texts of a value, without blanks around it. -/
inductive Writes : Json → List Char → Prop
  | null : Writes .null ['n', 'u', 'l', 'l']
  | isTrue : Writes (.bool true) ['t', 'r', 'u', 'e']
  | isFalse : Writes (.bool false) ['f', 'a', 'l', 's', 'e']
  | number {literal : String} (isNumber : IsNumber literal.toList) :
      Writes (.number literal) literal.toList
  | string {s : String} {t : List Char} (quoted : WritesString s t) : Writes (.string s) t
  | emptyArray {g : List Char} (blanks : Blanks g) : Writes (.array []) ('[' :: (g ++ [']']))
  | array {vs : List Json} {t : List Char} (items : WritesItems vs t) :
      Writes (.array vs) ('[' :: (t ++ [']']))
  | emptyObject {g : List Char} (blanks : Blanks g) : Writes (.object []) ('{' :: (g ++ ['}']))
  | object {ms : List (String × Json)} {t : List Char} (members : WritesMembers ms t) :
      Writes (.object ms) ('{' :: (t ++ ['}']))

/-- The texts of the items of an array, of which there is one. -/
inductive WritesItems : List Json → List Char → Prop
  | last {v : Json} {g t g' : List Char} (before : Blanks g) (value : Writes v t)
      (after : Blanks g') : WritesItems [v] (g ++ t ++ g')
  | more {v : Json} {vs : List Json} {g t g' ts : List Char} (before : Blanks g)
      (value : Writes v t) (after : Blanks g') (rest : WritesItems vs ts) :
      WritesItems (v :: vs) (g ++ t ++ g' ++ ',' :: ts)

/-- The texts of the members of an object, of which there is one. -/
inductive WritesMembers : List (String × Json) → List Char → Prop
  | last {m : String × Json} {t : List Char} (member : WritesMember m t) : WritesMembers [m] t
  | more {m : String × Json} {ms : List (String × Json)} {t ts : List Char}
      (member : WritesMember m t) (rest : WritesMembers ms ts) :
      WritesMembers (m :: ms) (t ++ ',' :: ts)

/-- The texts of a member: its name and its value, with blanks around them. -/
inductive WritesMember : String × Json → List Char → Prop
  | pair {k : String} {v : Json} {g₁ n g₂ g₃ t g₄ : List Char} (before : Blanks g₁)
      (name : WritesString k n) (behindName : Blanks g₂) (beforeValue : Blanks g₃)
      (value : Writes v t) (after : Blanks g₄) :
      WritesMember (k, v) (g₁ ++ n ++ g₂ ++ ':' :: (g₃ ++ t ++ g₄))

end

/-- The texts of a value, with blanks around it. -/
inductive WritesText (v : Json) : String → Prop
  | around {text : String} {g t g' : List Char} (before : Blanks g) (value : Writes v t)
      (after : Blanks g') (isText : text.toList = g ++ t ++ g') : WritesText v text

end PolicyLint.Json
