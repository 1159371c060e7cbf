/-
# Rules

A rule is a requirement ready for use. Each of its values is matched by a pattern: that for a name
stands for the name as a whole word, that for a property for the property after a dot, with blanks
allowed between the two, and a banned pattern is its own. Each match is a hit at the place where the
banned value stands.

* `Requirement.toRule` : the rule of a requirement, or its first fault;
* `Rule.hits` : all hits of a rule in a text, in the order of their offsets;
* `Rule.appliesTo`, `Rule.messageFor` : which files it is for, and what it says.
-/
import PolicyLint.Policy.Requirement
import PolicyLint.Pattern.Basic

namespace PolicyLint

/-! ## Kinds -/

/-- What a rule bans. -/
inductive RuleKind where
  | name
  | property
  | pattern
deriving DecidableEq, Repr

namespace RuleKind

/-- The kind with a given type name, in any case and with blanks around it. -/
def ofType? (type : String) : Option RuleKind :=
  match (Text.trim type).toUpper with
  | "BANNED_NAME" => some .name
  | "BANNED_PROPERTY" => some .property
  | "BANNED_PATTERN" => some .pattern
  | "BANNED_CODE_PATTERN" => some .pattern
  | _ => none

/-- The word for a kind. -/
def word : RuleKind → String
  | .name => "name"
  | .property => "property"
  | .pattern => "pattern"

end RuleKind

/-! ## Matchers -/

/-- The matcher for a value of a rule of the given kind, or what is wrong with the value. A pattern
may take too much room; a name or a property is taken to have enough. -/
def Matcher.ofValue (engine : Pattern.Engine) (kind : RuleKind) (value : String) :
    Except String Matcher :=
  match kind with
  | .name => engine.read (String.ofList (Pattern.nameText value.toList))
  | .property => engine.read (String.ofList (Pattern.propertyText value.toList))
  | .pattern => engine.compile value

/-! ## Rules -/

/-- A requirement ready for use: each value with its matcher. -/
structure Rule where
  kind : RuleKind
  matchers : List (String × Matcher)
  message : Option String
  whitelist : List (List Glob.Token)
  fatal : Bool

/-- A place where a value of a rule was found, as a byte offset. -/
structure Hit where
  offset : Nat
  value : String
deriving DecidableEq, Repr

/-- The byte offset of the first place where `part` stands in a text. -/
def Text.find? (part : List Char) : List Char → Option Nat
  | [] => if part.isEmpty then some 0 else none
  | c :: cs =>
      if part.isPrefixOf (c :: cs) then some 0
      else (Text.find? part cs).map (c.utf8Size + ·)

namespace Rule

/-- How far into a match the value of a rule stands. -/
def shift (kind : RuleKind) (value : List Char) (text : List Char) : Nat :=
  match kind with
  | .property => (Text.find? value text).getD 0
  | _ => 0

/-- The hits of one value in a text, from left to right. -/
def valueHits (kind : RuleKind) (value : String) (m : Matcher) (text : List Char) : List Hit :=
  (m.spans text).map fun s => ⟨s.offset + shift kind value.toList s.text, value⟩

/-- All hits in a text in the order of their offsets; hits at one offset stand in the order of the
values. -/
def hits (r : Rule) (text : List Char) : List Hit :=
  (r.matchers.flatMap fun (value, m) => valueHits r.kind value m text).mergeSort
    fun a b => a.offset ≤ b.offset

/-- Whether the rule is for the given file. Backslashes count as slashes. -/
def appliesTo (r : Rule) (file : String) : Bool :=
  let path := String.ofList (file.toList.map fun c => if c = '\\' then '/' else c)
  !r.whitelist.any (Glob.matches · path)

/-- What the rule says about a value. -/
def messageFor (r : Rule) (value : String) : String :=
  r.message.getD ("Use of banned " ++ r.kind.word ++ " '" ++ value ++ "'")

end Rule

/-! ## Requirements as rules -/

namespace Requirement

/-- Whether hits are fatal at a level, if it is a level; without one they are. -/
def isFatal? (level : Option String) : Option Bool :=
  match level.map Text.trim with
  | none => some true
  | some "error" => some true
  | some "warning" => some false
  | some "warn" => some false
  | some _ => none

/-- The values with their matchers, or the first value that is no pattern. -/
def matchers (engine : Pattern.Engine) (kind : RuleKind) :
    List String → Except PatternError (List (String × Matcher))
  | [] => .ok []
  | v :: vs =>
      match Matcher.ofValue engine kind v with
      | .error reason => .error ⟨v, reason⟩
      | .ok m => (matchers engine kind vs).map ((v, m) :: ·)

/-- The globs read, or the first that has a fault. -/
def globs : List String → Except (String × Glob.Error) (List (List Glob.Token))
  | [] => .ok []
  | g :: gs =>
      match Glob.parse g with
      | .error e => .error (g, e)
      | .ok ts => (globs gs).map (ts :: ·)

/-- The rule of a requirement at the given place of its document. Of several faults the first in
this order counts: the type, a missing value, the level, a value, a glob. -/
def toRule (index : Nat) (r : Requirement) (engine : Pattern.Engine := Pattern.engine) :
    Except RequirementError Rule := do
  let some kind := RuleKind.ofType? r.kind | throw (.unknownType index r.kind)
  if r.values.isEmpty then throw (.emptyValue index r.kind)
  let some fatal := isFatal? r.level | throw (.level index (Text.trim (r.level.getD "")))
  let matchers ← match matchers engine kind r.values with
    | .ok ms => pure ms
    | .error e => throw (.pattern index e)
  let whitelist ← match globs r.whitelist with
    | .ok gs => pure gs
    | .error (g, e) => throw (.whitelist index g e)
  return ⟨kind, matchers, r.errorMessage, whitelist, fatal⟩

end Requirement

end PolicyLint
