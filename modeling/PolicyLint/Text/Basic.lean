/-
# Texts and their bytes

A text is a list of characters. Its size and the offsets into it are counted in bytes of its
UTF-8 form, so an offset names a place between two characters exactly when it is the size of some
prefix of the text.

* `Text.size` : the number of bytes of a text;
* `Text.before` : the characters that end at or before a byte offset;
* `Text.trim` : a text without the blanks at its two ends.
-/

namespace PolicyLint.Text

/-! ## Sizes and offsets -/

/-- The number of bytes of a text in UTF-8. -/
def size : List Char → Nat
  | [] => 0
  | c :: cs => c.utf8Size + size cs

/-- The characters of a text that end at or before the byte offset `n`. -/
def before : List Char → Nat → List Char
  | [], _ => []
  | c :: cs, n => if c.utf8Size ≤ n then c :: before cs (n - c.utf8Size) else []

@[simp] theorem size_nil : size [] = 0 := rfl

@[simp] theorem size_cons (c : Char) (cs : List Char) :
    size (c :: cs) = c.utf8Size + size cs := rfl

/-- The size of an append is the sum of the sizes. -/
@[simp] theorem size_append (as bs : List Char) : size (as ++ bs) = size as + size bs := by
  induction as with
  | nil => simp
  | cons c cs ih => simp [ih, Nat.add_assoc]

/-- No text but the empty one has size zero. -/
theorem size_eq_zero_iff (cs : List Char) : size cs = 0 ↔ cs = [] := by
  cases cs with
  | nil => simp
  | cons c cs => simp [Nat.ne_of_gt c.utf8Size_pos]

@[simp] theorem before_nil (n : Nat) : before [] n = [] := rfl

@[simp] theorem before_zero (cs : List Char) : before cs 0 = [] := by
  cases cs with
  | nil => rfl
  | cons c cs => simp [before, Nat.ne_of_gt c.utf8Size_pos]

/-- Up to the size of a prefix, a text is that prefix. -/
@[simp] theorem before_size_append (as bs : List Char) : before (as ++ bs) (size as) = as := by
  induction as with
  | nil => simp
  | cons c cs ih => simp [before, ih]

/-! ## Blanks -/

/-- A blank is a character with the Unicode property `White_Space`. -/
def isBlank (c : Char) : Bool :=
  let n := c.toNat
  (9 ≤ n && n ≤ 13) || n == 0x20 || n == 0x85 || n == 0xA0 || n == 0x1680
    || (0x2000 ≤ n && n ≤ 0x200A) || n == 0x2028 || n == 0x2029 || n == 0x202F || n == 0x205F
    || n == 0x3000

/-- A text without the blanks at its two ends. -/
def trim (s : String) : String :=
  String.ofList ((s.toList.dropWhile isBlank).reverse.dropWhile isBlank).reverse

/-! ## Pieces of a text -/

/-- Whether `part` stands somewhere in a text. -/
def contains (part : List Char) : List Char → Bool
  | [] => part.isEmpty
  | c :: cs => part.isPrefixOf (c :: cs) || contains part cs

/-- The pieces of a text between the marks in it; there is one more of them than marks. -/
def splitAt (mark : Char) : List Char → List (List Char)
  | [] => [[]]
  | c :: cs =>
      if c = mark then [] :: splitAt mark cs
      else match splitAt mark cs with
        | [] => [[c]]
        | p :: ps => (c :: p) :: ps

/-- The rest of a text after a given beginning, if it begins so. -/
def strip? : List Char → List Char → Option (List Char)
  | [], cs => some cs
  | _ :: _, [] => none
  | p :: ps, c :: cs => if p = c then strip? ps cs else none

/-- Exactly the appends to a beginning can be stripped of it. -/
theorem strip?_eq_some_iff (ps cs rest : List Char) :
    strip? ps cs = some rest ↔ cs = ps ++ rest := by
  induction ps generalizing cs with
  | nil => simp [strip?, eq_comm]
  | cons p ps ih =>
      cases cs with
      | nil => simp [strip?]
      | cons c cs =>
          by_cases h : p = c
          · simp [strip?, h, ih]
          · simp [strip?, h, Ne.symm h]

end PolicyLint.Text
