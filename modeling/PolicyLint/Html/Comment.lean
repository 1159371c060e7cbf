/-
# Comments

A comment goes from `<!--` to the nearest `-->` after it. Blanking a text puts spaces in place of
its comments, one for each byte, and keeps their line feeds, so that offsets and lines stay the
same.

* `Html.comment` : the matcher of comments;
* `Html.blankComments` : a text with its comments blanked.
-/
import PolicyLint.Search

namespace PolicyLint.Html

/-- The number of characters up to the end of the first `-->`. -/
def closing? : List Char → Option Nat
  | '-' :: '-' :: '>' :: _ => some 3
  | _ :: cs => (closing? cs).map (· + 1)
  | [] => none

/-- Matches a comment. -/
def comment : Matcher := fun s =>
  match s.rest with
  | '<' :: '!' :: '-' :: '-' :: cs => (closing? cs).map (· + 4)
  | _ => none

/-- What stands for a character of a comment: a line feed for itself, and a space for each byte of
any other. -/
def blank (c : Char) : List Char :=
  if c = '\n' then ['\n'] else List.replicate c.utf8Size ' '

/-- The text with the characters of comments blanked; so many characters still belong to the comment
that has begun. -/
def blankFrom : Nat → Option Char → List Char → List Char
  | _, _, [] => []
  | n + 1, _, c :: cs => blank c ++ blankFrom n (some c) cs
  | 0, p, c :: cs =>
      match comment ⟨p, c :: cs⟩ with
      | some (n + 1) => blank c ++ blankFrom n (some c) cs
      | _ => c :: blankFrom 0 (some c) cs

/-- The text with its comments blanked. -/
def blankComments (text : List Char) : List Char := blankFrom 0 none text

end PolicyLint.Html
