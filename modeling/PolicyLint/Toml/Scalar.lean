/-
# Numbers, truth values and dates in TOML

What stands without quotes must be a truth value, an integer, a float or a date. Digits may have
single underscores between them. An integer fits into 128 bits, with its sign if it has one, and a
float rounds to a finite number unless it is written as an infinity.

* `Toml.isScalar` : whether a text is one of these.
-/
import PolicyLint.Text.Basic
import PolicyLint.Text.Hex

namespace PolicyLint.Toml

/-! ## Integers -/

/-- The digits of a run without the underscores between them. -/
def digits? (isDigit : Char → Bool) (cs : List Char) : Option (List Char) :=
  let runs := Text.splitAt '_' cs
  if runs.all (fun run => !run.isEmpty && run.all isDigit) then some runs.flatten else none

/-- The digits of a whole number: no zero in front of other digits. -/
def whole? (cs : List Char) : Option (List Char) :=
  match digits? Char.isDigit cs with
  | some ('0' :: _ :: _) => none
  | other => other

/-- The number that digits write down in a base. -/
def valueIn (base : Nat) (ds : List Char) : Nat :=
  ds.foldl (fun n d => base * n + (Text.hexValue? d).getD 0) 0

/-- A power of two. -/
def twoTo (n : Nat) : Nat := Nat.pow 2 n

/-- A text without the sign in front of it, if there is one. -/
def unsigned : List Char → List Char
  | '+' :: cs => cs
  | '-' :: cs => cs
  | cs => cs

/-- Whether a text is a number without a sign in a base. -/
def isInBase (base : Nat) (cs : List Char) : Bool :=
  (digits? (fun c => (Text.hexValue? c).any (· < base)) cs).any fun ds =>
    valueIn base ds < twoTo 128

/-- Whether a text is an integer. -/
def isInteger : List Char → Bool
  | '0' :: 'x' :: cs => isInBase 16 cs
  | '0' :: 'o' :: cs => isInBase 8 cs
  | '0' :: 'b' :: cs => isInBase 2 cs
  | '-' :: cs => (whole? cs).any fun ds => valueIn 10 ds ≤ twoTo 127
  | cs => (whole? (unsigned cs)).any fun ds => valueIn 10 ds < twoTo 128

/-! ## Floats -/

/-- The least number that rounds to infinity. -/
def infinite : Nat := twoTo 1024 - twoTo 970

/-- Whether `digits` times ten to the power of `up` and over ten to the power of `down` is too large
for a float. -/
def isTooLarge (digits : List Char) (up down : Nat) : Bool :=
  let ds := digits.dropWhile (· = '0')
  if ds.isEmpty then false
  else if down + 309 < ds.length + up then true
  else if ds.length + up < down + 308 then false
  else infinite * Nat.pow 10 (down - up) ≤ valueIn 10 ds * Nat.pow 10 (up - down)

/-- The exponent of a float after its letter, with its sign. -/
def exponent? : List Char → Option (Bool × Nat)
  | '-' :: cs => (digits? Char.isDigit cs).map fun ds => (true, valueIn 10 ds)
  | cs => (digits? Char.isDigit (if cs.head? = some '+' then cs.drop 1 else cs)).map
      fun ds => (false, valueIn 10 ds)

/-- Whether a character opens the exponent of a float. -/
def isExponentMark (c : Char) : Bool := c = 'e' || c = 'E'

/-- The digits of the fraction of a float, if one follows its whole part, and the exponent. -/
def tail? (cs : List Char) : Option (List Char × Bool × Nat) := do
  let (fraction, cs) ← match cs with
    | '.' :: cs => do
        let ds ← digits? Char.isDigit (cs.takeWhile fun c => !isExponentMark c)
        pure (ds, cs.dropWhile fun c => !isExponentMark c)
    | cs => if cs.isEmpty then none else pure ([], cs)
  match cs with
  | [] => return (fraction, false, 0)
  | _ :: cs => return (fraction, ← exponent? cs)

/-- Whether a text without a sign is a float. -/
def isUnsignedFloat (cs : List Char) : Bool :=
  let isEnd (c : Char) : Bool := c = '.' || isExponentMark c
  if cs = "inf".toList || cs = "nan".toList then true
  else match whole? (cs.takeWhile fun c => !isEnd c), tail? (cs.dropWhile fun c => !isEnd c) with
    | some whole, some (fraction, negative, n) =>
        let up := if negative then 0 else n
        let down := fraction.length + if negative then n else 0
        !isTooLarge (whole ++ fraction) up down
    | _, _ => false

/-- Whether a text is a float. -/
def isFloat (cs : List Char) : Bool := isUnsignedFloat (unsigned cs)

/-! ## Dates -/

/-- The number of `count` digits at the start of a text, and what follows them. -/
def number? (count : Nat) (cs : List Char) : Option (Nat × List Char) :=
  let ds := cs.takeWhile Char.isDigit
  if ds.length = count then some (valueIn 10 ds, cs.dropWhile Char.isDigit) else none

/-- What follows a given character at the start of a text. -/
def mark? (c : Char) : List Char → Option (List Char)
  | d :: cs => if c = d then some cs else none
  | [] => none

/-- The number of days of a month. -/
def daysIn (year month : Nat) : Nat :=
  if month = 2 then
    if year % 4 = 0 ∧ (year % 100 ≠ 0 ∨ year % 400 = 0) then 29 else 28
  else if month = 4 ∨ month = 6 ∨ month = 9 ∨ month = 11 then 30
  else 31

/-- What follows the day at the start of a text. -/
def date? (cs : List Char) : Option (List Char) := do
  let (year, cs) ← number? 4 cs
  let (month, cs) ← number? 2 (← mark? '-' cs)
  let (day, cs) ← number? 2 (← mark? '-' cs)
  if 1 ≤ month ∧ month ≤ 12 ∧ 1 ≤ day ∧ day ≤ daysIn year month then some cs else none

/-- What follows the fraction of a second, if one stands there. -/
def fraction? : List Char → Option (List Char)
  | '.' :: cs => if cs.head?.any Char.isDigit then some (cs.dropWhile Char.isDigit) else none
  | cs => some cs

/-- What follows the time of day at the start of a text. The seconds may be left out. -/
def time? (cs : List Char) : Option (List Char) := do
  let (hour, cs) ← number? 2 cs
  let (minute, cs) ← number? 2 (← mark? ':' cs)
  if 23 < hour ∨ 59 < minute then none
  match cs with
  | ':' :: cs =>
      let (second, cs) ← number? 2 cs
      if 60 < second then none
      fraction? cs
  | cs => some cs

/-- Whether a text is the distance of a time zone. -/
def isZone : List Char → Bool
  | ['Z'] => true
  | ['z'] => true
  | c :: cs =>
      if c = '+' || c = '-' then
        match number? 2 cs with
        | some (hour, ':' :: cs) =>
            match number? 2 cs with
            | some (minute, []) => hour ≤ 23 && minute ≤ 59
            | _ => false
        | _ => false
      else false
  | [] => false

/-- Whether a text is a day, a time of day, or both. -/
def isDate (cs : List Char) : Bool :=
  match date? cs with
  | some [] => true
  | some (c :: cs) =>
      if c = 'T' || c = 't' || c = ' ' then
        (time? cs).any fun rest => rest.isEmpty || isZone rest
      else false
  | none => (time? cs).any List.isEmpty

/-! ## All of them -/

/-- Whether a text is a truth value, an integer, a float or a date. -/
def isScalar (cs : List Char) : Bool :=
  cs = "true".toList || cs = "false".toList || isInteger cs || isFloat cs || isDate cs

/-- Whether a character ends what stands without quotes. -/
def isStop (c : Char) : Bool := "=,[]\x7b\x7d \t#\r\n".toList.contains c

/-- The text without quotes at the start of a text, and what follows it. A day and a time of day may
have a space between them. -/
def word (cs : List Char) : List Char × List Char :=
  let first := cs.takeWhile fun c => !isStop c
  let rest := cs.drop first.length
  match rest with
  | ' ' :: d :: more =>
      if date? first = some [] ∧ d.isDigit then
        let second := (d :: more).takeWhile fun c => !isStop c
        (first ++ ' ' :: second, rest.drop (second.length + 1))
      else (first, rest)
  | _ => (first, rest)

end PolicyLint.Toml
