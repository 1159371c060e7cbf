/-
# Texts in TOML

A text stands between quotes, between double ones with escapes and between single ones as it is.
Three quotes open a text of several lines: a line feed right after them does not count, one or two
more quotes may stand before those that close it, and between double quotes a backslash at the end
of a line takes all blanks and line feeds after it away.

* `Toml.line?` : a text of one line;
* `Toml.quoted?` : a text of one line or of several.
-/
import PolicyLint.Text.Hex

namespace PolicyLint.Toml

/-! ## Characters -/

/-- The blanks of TOML. -/
def isBlank (c : Char) : Bool := c = ' ' || c = '\t'

/-- Whether a character may stand in a text or a comment: no control character but the tab. -/
def isPlain (c : Char) : Bool := c = '\t' || (32 ≤ c.toNat && c.toNat ≠ 127)

/-- What follows the line end at the start of a text. -/
def lineEnd? : List Char → Option (List Char)
  | '\n' :: cs => some cs
  | '\r' :: '\n' :: cs => some cs
  | _ => none

/-- What follows the blanks and line ends at the start of a text. -/
def skipLines : List Char → List Char
  | '\r' :: '\n' :: cs => skipLines cs
  | c :: cs => if c = '\n' || isBlank c then skipLines cs else c :: cs
  | [] => []

/-- No line end has characters of its own. -/
theorem length_skipLines_le (cs : List Char) : (skipLines cs).length ≤ cs.length := by
  fun_induction skipLines cs with
  | case1 cs ih => simp; omega
  | case2 c cs _ _ ih => simp; omega
  | case3 => simp
  | case4 => simp

/-! ## Escapes -/

/-- The character that an escape means, given what follows its backslash, and the number of
characters that the escape takes there. -/
def escape? : List Char → Option (Char × Nat)
  | 'b' :: _ => some ('\x08', 1)
  | 't' :: _ => some ('\t', 1)
  | 'n' :: _ => some ('\n', 1)
  | 'f' :: _ => some ('\x0c', 1)
  | 'r' :: _ => some ('\r', 1)
  | 'e' :: _ => some ('\x1b', 1)
  | '"' :: _ => some ('"', 1)
  | '\\' :: _ => some ('\\', 1)
  | 'x' :: cs => (Text.hexChar? 2 cs).map (·, 3)
  | 'u' :: cs => (Text.hexChar? 4 cs).map (·, 5)
  | 'U' :: cs => (Text.hexChar? 8 cs).map (·, 9)
  | _ => none

/-! ## One line -/

/-- A text with escapes up to its closing quote, and what follows it. -/
def basic? : List Char → Option (List Char × List Char)
  | [] => none
  | '"' :: cs => some ([], cs)
  | '\\' :: cs =>
      match escape? cs with
      | none => none
      | some (c, n) => (basic? (cs.drop n)).map fun (s, rest) => (c :: s, rest)
  | c :: cs => if isPlain c then (basic? cs).map fun (s, rest) => (c :: s, rest) else none
termination_by cs => cs.length
decreasing_by all_goals simp; try omega

/-- A text without escapes up to its closing quote, and what follows it. -/
def literal? : List Char → Option (List Char × List Char)
  | [] => none
  | '\x27' :: cs => some ([], cs)
  | c :: cs => if isPlain c then (literal? cs).map fun (s, rest) => (c :: s, rest) else none

/-! ## Several lines -/

/-- Up to two more quotes after the three that close a text, and what follows them. -/
def closing (quote : Char) : List Char → List Char × List Char
  | a :: b :: cs =>
      if a = quote then if b = quote then ([a, b], cs) else ([a], b :: cs) else ([], a :: b :: cs)
  | [a] => if a = quote then ([a], []) else ([], [a])
  | [] => ([], [])

/-- What follows a backslash at the end of a line. -/
def foldLines? (cs : List Char) : Option (List Char) :=
  (lineEnd? (cs.dropWhile isBlank)).map skipLines

/-- A line end has a character. -/
theorem length_lineEnd? {cs rest : List Char} (h : lineEnd? cs = some rest) :
    rest.length < cs.length := by
  unfold lineEnd? at h
  split at h
  · rw [Option.some.injEq] at h
    subst h
    exact Nat.lt_succ_self _
  · rw [Option.some.injEq] at h
    subst h
    exact Nat.lt_of_lt_of_le (Nat.lt_succ_self _) (Nat.le_succ _)
  · contradiction

/-- Folding lines takes a character at least. -/
theorem length_foldLines? {cs rest : List Char} (h : foldLines? cs = some rest) :
    rest.length < cs.length := by
  obtain ⟨mid, hmid, rfl⟩ := Option.map_eq_some_iff.1 h
  have h1 := length_lineEnd? hmid
  have h2 := length_skipLines_le mid
  have h3 : (cs.dropWhile isBlank).length ≤ cs.length :=
    (List.dropWhile_suffix isBlank).length_le
  omega

/-- A text of several lines with escapes, and what follows its closing quotes. -/
def basicLines? : List Char → Option (List Char × List Char)
  | [] => none
  | '"' :: '"' :: '"' :: cs => some (closing '"' cs)
  | '\r' :: '\n' :: cs => (basicLines? cs).map fun (s, rest) => ('\r' :: '\n' :: s, rest)
  | '\\' :: cs =>
      match _h : foldLines? cs with
      | some after => basicLines? after
      | none =>
          match escape? cs with
          | none => none
          | some (c, n) => (basicLines? (cs.drop n)).map fun (s, rest) => (c :: s, rest)
  | c :: cs =>
      if c = '\n' || isPlain c then (basicLines? cs).map fun (s, rest) => (c :: s, rest) else none
termination_by cs => cs.length
decreasing_by
  · simp only [List.length_cons]; omega
  · have := length_foldLines? _h
    simp only [List.length_cons]; omega
  · simp only [List.length_cons, List.length_drop]; omega
  · simp

/-- A text of several lines without escapes, and what follows its closing quotes. -/
def literalLines? : List Char → Option (List Char × List Char)
  | [] => none
  | '\x27' :: '\x27' :: '\x27' :: cs => some (closing '\x27' cs)
  | '\r' :: '\n' :: cs => (literalLines? cs).map fun (s, rest) => ('\r' :: '\n' :: s, rest)
  | c :: cs =>
      if c = '\n' || isPlain c then (literalLines? cs).map fun (s, rest) => (c :: s, rest)
      else none

/-! ## All kinds of quotes -/

/-- A text without the line end right after the opening quotes. -/
def skipFirstLineEnd (cs : List Char) : List Char := (lineEnd? cs).getD cs

/-- A quoted text of one line at the start of a text, and what follows it. -/
def line? : List Char → Option (List Char × List Char)
  | '"' :: cs => basic? cs
  | '\x27' :: cs => literal? cs
  | _ => none

/-- A quoted text at the start of a text, and what follows it. -/
def quoted? : List Char → Option (List Char × List Char)
  | '"' :: '"' :: '"' :: cs => basicLines? (skipFirstLineEnd cs)
  | '\x27' :: '\x27' :: '\x27' :: cs => literalLines? (skipFirstLineEnd cs)
  | cs => line? cs

end PolicyLint.Toml
