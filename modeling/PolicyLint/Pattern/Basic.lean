/-
# Patterns

A pattern is a text that an engine makes a matcher of, if the text is well-formed and does not take
too much room. A value that is banned as a name or as a property is written as a pattern too: a
backslash is put in front of each character that has a meaning of its own, word boundaries are asked
for around a name, and in front of a property stand a dot and any blanks.

* `Pattern.Engine` : what makes matchers of texts;
* `Pattern.engine` : the engine here, which reads a text as its flags allow;
* `Pattern.escape`, `Pattern.nameText`, `Pattern.propertyText` : values as patterns.
-/
import PolicyLint.Pattern.Parser
import PolicyLint.Pattern.Automaton

namespace PolicyLint.Pattern

/-! ## Engines -/

/-- An engine for regular expressions: the matcher that a text stands for, or what is wrong with the
text; and what is wrong with a text whose matcher takes too much room. -/
structure Engine where
  read : String → Except String Matcher
  excess? : String → Option String

/-- The matcher of a text that does not take too much room. -/
def Engine.compile (engine : Engine) (text : String) : Except String Matcher :=
  match engine.excess? text with
  | none => engine.read text
  | some reason => .error reason

/-- The regular expression that a text stands for. -/
def regular? (text : String) : Option Regular := do
  let e ← parse? text
  let (r, _) ← e.regular? {}
  return r

/-- The most room that a pattern may take, in bytes. -/
def maxRoom : Nat := 10 * 1024 * 1024

/-- The engine here. -/
def engine : Engine where
  read text :=
    match regular? text with
    | none => .error "regex parse error: not a regular expression"
    | some r => .ok r.compile.matchAt
  excess? text :=
    match regular? text with
    | none => none
    | some r =>
        if r.room ≤ maxRoom then none
        else some ("Compiled regex exceeds size limit of " ++ toString maxRoom ++ " bytes.")

/-! ## Values -/

/-- A character as a pattern for itself. -/
def escapeChar (c : Char) : List Char := if isMeta c then ['\\', c] else [c]

/-- A text as a pattern for itself. -/
def escape (text : List Char) : List Char := text.flatMap escapeChar

/-- A value as a name in a pattern. -/
def nameText (value : List Char) : List Char := '\\' :: 'b' :: (escape value ++ ['\\', 'b'])

/-- A value as a property in a pattern. -/
def propertyText (value : List Char) : List Char :=
  '\\' :: '.' :: '\\' :: 's' :: '*' :: (escape value ++ ['\\', 'b'])

end PolicyLint.Pattern
