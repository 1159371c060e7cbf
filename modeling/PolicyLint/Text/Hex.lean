/-
# Hexadecimal numbers

Digits from 0 to f in either case, and the characters that such numbers denote.
-/

namespace PolicyLint.Text

/-- The value of a hexadecimal digit. -/
def hexValue? (c : Char) : Option Nat :=
  if '0' ≤ c ∧ c ≤ '9' then some (c.toNat - 48)
  else if 'a' ≤ c ∧ c ≤ 'f' then some (c.toNat - 87)
  else if 'A' ≤ c ∧ c ≤ 'F' then some (c.toNat - 55)
  else none

/-- The character at a code point. -/
def charAt? (n : Nat) : Option Char :=
  if n < 0xD800 ∨ (0xDFFF < n ∧ n < 0x110000) then some (Char.ofNat n) else none

/-- The number that the first so many characters of a text write down. -/
def hexNumber? (count : Nat) (cs : List Char) : Option Nat := do
  let digits ← (cs.take count).mapM hexValue?
  if digits.length = count then some (digits.foldl (fun n d => 16 * n + d) 0) else none

/-- The character whose code point the first so many characters of a text write down. -/
def hexChar? (count : Nat) (cs : List Char) : Option Char := (hexNumber? count cs).bind charAt?

end PolicyLint.Text
