/-
# Searching a text

A matcher tells, at a place of a text, how many characters it matches there. Searching takes the
leftmost match again and again: the next search starts where a match ends, and an empty match that
stands right at the end of the match before it does not count.

* `Site`, `Matcher`, `Span` : places, matchers and the stretches they match;
* `Matcher.spans` : all stretches of a text that a matcher finds, from left to right.
-/
import PolicyLint.Text.Basic

namespace PolicyLint

/-- A place in a text: the character before it, if any, and the characters after it. -/
structure Site where
  previous : Option Char
  rest : List Char
deriving DecidableEq, Repr

namespace Site

/-- The place at the start of a text. -/
def start (text : List Char) : Site := ⟨none, text⟩

/-- The place so many characters further on. -/
def skip : Site → Nat → Site
  | s, 0 => s
  | ⟨_, c :: cs⟩, n + 1 => skip ⟨some c, cs⟩ n
  | ⟨p, []⟩, _ + 1 => ⟨p, []⟩

/-- What follows after so many characters. -/
theorem rest_skip (s : Site) (n : Nat) : (s.skip n).rest = s.rest.drop n := by
  induction n generalizing s with
  | zero => simp [skip]
  | succ n ih =>
      rcases s with ⟨p, _ | ⟨c, cs⟩⟩
      · simp [skip]
      · simp [skip, ih]

end Site

/-- How many characters are matched at a place, if anything is. -/
abbrev Matcher := Site → Option Nat

/-- A stretch of a text: the byte offset where it starts, and its characters. -/
structure Span where
  offset : Nat
  text : List Char
deriving DecidableEq, Repr

/-- The byte offset where a stretch ends. -/
def Span.stop (s : Span) : Nat := s.offset + Text.size s.text

namespace Matcher

/-- The stretches found from a place on, which has the given offset. `fresh` says that no match has
just ended there. -/
def spansFrom (m : Matcher) (offset : Nat) (fresh : Bool) : Site → List Span
  | ⟨p, []⟩ => if fresh && (m ⟨p, []⟩).isSome then [⟨offset, []⟩] else []
  | ⟨p, c :: cs⟩ =>
    match m ⟨p, c :: cs⟩ with
    | some (n + 1) =>
        let found := (c :: cs).take (n + 1)
        ⟨offset, found⟩ ::
          spansFrom m (offset + Text.size found) false (Site.skip ⟨some c, cs⟩ n)
    | some 0 =>
        let found := if fresh then [⟨offset, []⟩] else []
        found ++ spansFrom m (offset + c.utf8Size) true ⟨some c, cs⟩
    | none => spansFrom m (offset + c.utf8Size) true ⟨some c, cs⟩
termination_by s => s.rest.length
decreasing_by
  all_goals simp only [Site.rest_skip, List.length_drop, List.length_cons]
  all_goals omega

/-- All stretches of a text that a matcher finds, from left to right. -/
def spans (m : Matcher) (text : List Char) : List Span := m.spansFrom 0 true (Site.start text)

end Matcher

end PolicyLint
