/-
# Regular expressions without flags

What a pattern means once its flags are settled: one character of a set, places between characters,
repetitions, branches in their order of preference, and sequences.

* `Pattern.Regular` : the expressions;
* `Pattern.Look.holds` : whether a place is as asked for;
* `Pattern.Expr.regular?` : the meaning of an expression, if the flags allow it;
* `Pattern.Regular.room` : the room that an expression takes when it is compiled.
-/
import PolicyLint.Pattern.CharSet
import PolicyLint.Search

namespace PolicyLint.Pattern

/-! ## Places -/

/-- A place between characters that an expression asks for; at words, `ascii` says that only ASCII
has word characters. -/
inductive Look where
  | textStart
  | textEnd
  | lineStart
  | lineEnd
  | crlfStart
  | crlfEnd
  | boundary (ascii : Bool)
  | notBoundary (ascii : Bool)
  | wordStart (ascii : Bool)
  | wordEnd (ascii : Bool)
  | wordStartHalf (ascii : Bool)
  | wordEndHalf (ascii : Bool)
deriving DecidableEq, Repr

/-- Whether a word character stands at the given place, if anything does. -/
def wordAt (ascii : Bool) (c : Option Char) : Bool :=
  c.any (if ascii then Text.isAsciiWord else Text.isWord)

/-- Whether a place is as asked for. -/
def Look.holds (l : Look) (s : Site) : Bool :=
  let next := s.rest.head?
  match l with
  | .textStart => s.previous.isNone
  | .textEnd => next.isNone
  | .lineStart => s.previous.all (· == '\n')
  | .lineEnd => next.all (· == '\n')
  | .crlfStart =>
      s.previous.all fun c => c == '\n' || (c == '\r' && next != some '\n')
  | .crlfEnd =>
      next.all fun c => c == '\r' || (c == '\n' && s.previous != some '\r')
  | .boundary ascii => wordAt ascii s.previous != wordAt ascii next
  | .notBoundary ascii => wordAt ascii s.previous == wordAt ascii next
  | .wordStart ascii => !wordAt ascii s.previous && wordAt ascii next
  | .wordEnd ascii => wordAt ascii s.previous && !wordAt ascii next
  | .wordStartHalf ascii => !wordAt ascii s.previous
  | .wordEndHalf ascii => !wordAt ascii next

/-- The place that an assertion asks for under some flags. -/
def Assertion.look (fl : Flags) (a : Assertion) : Look :=
  match a with
  | .startLine =>
      if !fl.multiLine then .textStart else if fl.crlf then .crlfStart else .lineStart
  | .endLine => if !fl.multiLine then .textEnd else if fl.crlf then .crlfEnd else .lineEnd
  | .startText => .textStart
  | .endText => .textEnd
  | .wordBoundary => .boundary !fl.unicode
  | .notWordBoundary => .notBoundary !fl.unicode
  | .wordStart => .wordStart !fl.unicode
  | .wordEnd => .wordEnd !fl.unicode
  | .wordStartHalf => .wordStartHalf !fl.unicode
  | .wordEndHalf => .wordEndHalf !fl.unicode

/-! ## Expressions -/

/-- A regular expression. One character of a set comes with the room that the set takes. -/
inductive Regular where
  | empty
  | one (set : CharSet) (room : Nat)
  | look (l : Look)
  | repetition (body : Regular) (min : Nat) (max : Option Nat) (greedy : Bool)
  | alternation (branches : List Regular)
  | sequence (parts : List Regular)

namespace Regular

mutual

/-- The least number of characters that an expression matches. -/
def minLength : Regular → Nat
  | .empty => 0
  | .one _ _ => 1
  | .look _ => 0
  | .repetition body min _ _ => min * body.minLength
  | .alternation branches => (leastOf branches).getD 0
  | .sequence parts => sumOf parts

/-- The least among the least lengths of some expressions. -/
def leastOf : List Regular → Option Nat
  | [] => none
  | r :: rs => match leastOf rs with
    | none => some r.minLength
    | some n => some (min r.minLength n)

/-- The sum of the least lengths of some expressions. -/
def sumOf : List Regular → Nat
  | [] => 0
  | r :: rs => r.minLength + sumOf rs

end

mutual

/-- Whether an expression matches the empty text alone. -/
def isZeroWidth : Regular → Bool
  | .empty => true
  | .one _ _ => false
  | .look _ => true
  | .repetition body _ max _ => max == some 0 || body.isZeroWidth
  | .alternation branches => areZeroWidth branches
  | .sequence parts => areZeroWidth parts

/-- Whether some expressions match the empty text alone. -/
def areZeroWidth : List Regular → Bool
  | [] => true
  | r :: rs => r.isZeroWidth && areZeroWidth rs

end

/-- A repetition; what matches the empty text alone is repeated once at most. -/
def repeated (body : Regular) (min : Nat) (max : Option Nat) (greedy : Bool) : Regular :=
  if max = some 0 then .empty
  else if body.isZeroWidth then .repetition body (Nat.min min 1) (some 1) greedy
  else if min = 1 ∧ max = some 1 then body
  else .repetition body min max greedy

/-! ## Room -/

/-- The room of a state, in bytes. -/
def stateRoom : Nat := 32

mutual

/-- The room that an expression takes when it is compiled, in bytes. -/
def room : Regular → Nat
  | .empty => stateRoom
  | .one _ n => n
  | .look _ => stateRoom
  | .repetition body min max _ =>
      let copies := match max with
        | none => Nat.max min 1
        | some n => n
      copies * body.room + (copies - min + 1) * stateRoom
  | .alternation branches => roomOf branches + 2 * stateRoom
  | .sequence parts => roomOf parts

/-- The room that some expressions take. -/
def roomOf : List Regular → Nat
  | [] => 0
  | r :: rs => r.room + roomOf rs

end

end Regular

/-- The room of one character that stands for itself. -/
def Literal.room (l : Literal) : Nat := l.char.utf8Size * Regular.stateRoom

/-- The room of a class of all scripts. -/
def classRoom : Nat := 64000

mutual

/-- The room of a set. -/
def SetExpr.room (fl : Flags) : SetExpr → Nat
  | .literal l => l.room
  | .range low high => low.room + high.room
  | .short _ _ => if fl.unicode then classRoom else 2 * Regular.stateRoom
  | .ascii _ _ => 2 * Regular.stateRoom
  | .property _ _ => classRoom
  | .bracket _ s => s.room fl
  | .union ss => SetExpr.roomOf fl ss
  | .binary _ l r => l.room fl + r.room fl

/-- The room of some sets. -/
def SetExpr.roomOf (fl : Flags) : List SetExpr → Nat
  | [] => 0
  | s :: ss => s.room fl + SetExpr.roomOf fl ss

end

/-! ## The meaning of expressions -/

/-- One character that stands for itself, or for its variants where case does not count. -/
def Literal.regular? (fl : Flags) (l : Literal) : Option Regular :=
  if !fl.unicode && l.isByte && 128 ≤ l.char.toNat then none
  else
    let chars :=
      if !fl.caseInsensitive then [l.char]
      else if fl.unicode then Text.caseVariants l.char
      else [l.char, l.char.toLower, l.char.toUpper]
    some (.one chars.contains l.room)

/-- Any character, save those that end a line; without the Unicode flag it could be part of one. -/
def dot? (fl : Flags) : Option Regular :=
  if !fl.unicode then none
  else
    let set : CharSet :=
      if fl.dotAll then fun _ => true
      else if fl.crlf then fun c => c != '\n' && c != '\r'
      else fun c => c != '\n'
    some (.one set (10 * Regular.stateRoom))

mutual

/-- The meaning of an expression under some flags, and the flags that hold after it. -/
def Expr.regular? (fl : Flags) : Expr → Option (Regular × Flags)
  | .empty => some (.empty, fl)
  | .flags changes => some (.empty, fl.change changes)
  | .literal l => (l.regular? fl).map (·, fl)
  | .dot => (dot? fl).map (·, fl)
  | .assertion a => some (.look (a.look fl), fl)
  | .short cls negated =>
      (cls.set? fl negated).map fun s => (.one s ((SetExpr.short cls negated).room fl), fl)
  | .property name negated => (name.set? fl negated).map fun s => (.one s classRoom, fl)
  | .set e => (e.chars? fl).map fun s => (.one s (e.room fl), fl)
  | .repetition body min max greedy => do
      let (r, after) ← body.regular? fl
      return (.repeated r min max (greedy != fl.swapGreed), after)
  | .group changes body => do
      let (r, _) ← body.regular? (fl.change changes)
      return (r, fl)
  | .alternation es => do
      let (rs, after) ← Expr.allRegular? fl es
      return (.alternation rs, after)
  | .sequence es => do
      let (rs, after) ← Expr.allRegular? fl es
      return (.sequence rs, after)

/-- The meanings of some expressions, each under the flags that hold after the one before it. -/
def Expr.allRegular? (fl : Flags) : List Expr → Option (List Regular × Flags)
  | [] => some ([], fl)
  | e :: es => do
      let (r, fl) ← e.regular? fl
      let (rs, fl) ← Expr.allRegular? fl es
      return (r :: rs, fl)

end

end PolicyLint.Pattern
