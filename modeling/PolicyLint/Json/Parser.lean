/-
# Reading JSON texts

The standard grammar of JSON. An escape that denotes half of a surrogate pair is let through, and
makes a broken value of the string, or of the object that it names a member of, because such a
value may stand where nobody reads it.
-/
import PolicyLint.Json.Basic
import PolicyLint.Text.Hex

namespace PolicyLint.Json

/-! ## Strings -/

/-- A part of a written string: a character, or a `\u` escape for a UTF-16 unit. -/
inductive Piece where
  | char (c : Char)
  | unit (n : Nat)

/-- The character that a one-letter escape stands for. -/
def shortEscape? (c : Char) : Option Char :=
  match c with
  | '"' => some '"'
  | '\\' => some '\\'
  | '/' => some '/'
  | 'b' => some '\x08'
  | 'f' => some '\x0c'
  | 'n' => some '\n'
  | 'r' => some '\r'
  | 't' => some '\t'
  | _ => none

/-- The pieces of a string up to its closing quote, and what follows the quote. -/
def pieces : List Char → Option (List Piece × List Char)
  | '"' :: rest => some ([], rest)
  | '\\' :: 'u' :: a :: b :: c :: d :: rest => do
      let n ← Text.hexNumber? 4 [a, b, c, d]
      let (ps, rest) ← pieces rest
      return (.unit n :: ps, rest)
  | '\\' :: c :: rest => do
      let e ← shortEscape? c
      let (ps, rest) ← pieces rest
      return (.char e :: ps, rest)
  | c :: rest =>
      if c = '\\' ∨ c.toNat < 32 then none
      else do
        let (ps, rest) ← pieces rest
        return (.char c :: ps, rest)
  | [] => none

/-- The characters that the pieces spell; the halves of a surrogate pair must stand together. -/
def spell? : List Piece → Option (List Char)
  | [] => some []
  | .char c :: ps => (spell? ps).map (c :: ·)
  | .unit n :: ps =>
      if 0xD800 ≤ n ∧ n < 0xDC00 then
        match ps with
        | .unit m :: ps =>
            if 0xDC00 ≤ m ∧ m < 0xE000 then
              (spell? ps).map (Char.ofNat (0x10000 + (n - 0xD800) * 1024 + (m - 0xDC00)) :: ·)
            else none
        | _ => none
      else if 0xDC00 ≤ n ∧ n < 0xE000 then none
      else (spell? ps).map (Char.ofNat n :: ·)

/-! ## Numbers and blanks -/

/-- The blanks of JSON. -/
def isGap (c : Char) : Bool := c = ' ' || c = '\t' || c = '\n' || c = '\r'

/-- What follows the blanks at the start of a text. -/
def skipGap (cs : List Char) : List Char := cs.dropWhile isGap

/-- A run of digits, at least one, and what follows it. -/
def digits1? (cs : List Char) : Option (List Char × List Char) :=
  match cs.takeWhile Char.isDigit with
  | [] => none
  | ds => some (ds, cs.dropWhile Char.isDigit)

/-- The whole part of a number: no zero in front of other digits. -/
def wholePart? (cs : List Char) : Option (List Char × List Char) :=
  match digits1? cs with
  | some ('0' :: _ :: _, _) => none
  | other => other

/-- The fraction of a number, if one follows. -/
def fraction? : List Char → Option (List Char × List Char)
  | '.' :: cs => (digits1? cs).map fun (ds, rest) => ('.' :: ds, rest)
  | cs => some ([], cs)

/-- The exponent of a number, if one follows. -/
def exponent? : List Char → Option (List Char × List Char)
  | c :: cs =>
      if c = 'e' ∨ c = 'E' then
        match cs with
        | '+' :: ds => (digits1? ds).map fun (ds, rest) => (c :: '+' :: ds, rest)
        | '-' :: ds => (digits1? ds).map fun (ds, rest) => (c :: '-' :: ds, rest)
        | ds => (digits1? ds).map fun (ds, rest) => (c :: ds, rest)
      else some ([], c :: cs)
  | [] => some ([], [])

/-- A number without its sign. -/
def unsigned? (cs : List Char) : Option (List Char × List Char) := do
  let (whole, cs) ← wholePart? cs
  let (fraction, cs) ← fraction? cs
  let (exponent, cs) ← exponent? cs
  return (whole ++ fraction ++ exponent, cs)

/-- The literal of a number, and what follows it. -/
def number? : List Char → Option (List Char × List Char)
  | '-' :: cs => (unsigned? cs).map fun (l, rest) => ('-' :: l, rest)
  | cs => unsigned? cs

/-! ## Values -/

/-- A string after its opening quote, as a value. -/
def stringValue? (cs : List Char) : Option (Json × List Char) := do
  let (ps, rest) ← pieces cs
  match spell? ps with
  | some s => return (.string (String.ofList s), rest)
  | none => return (.broken, rest)

/-- The name of a member after its opening quote, if it spells a text. -/
def name? (cs : List Char) : Option (Option String × List Char) := do
  let (ps, rest) ← pieces cs
  return ((spell? ps).map String.ofList, rest)

/-- The object with the members given, unless a name is broken. -/
def objectValue (members : List (Option String × Json)) : Json :=
  match members.mapM fun (k, v) => k.map (·, v) with
  | some members => .object members
  | none => .broken

mutual

/-- A value at the start of a text, and what follows it; values nest no deeper than `fuel`. -/
def readValue? : Nat → List Char → Option (Json × List Char)
  | 0, _ => none
  | fuel + 1, cs =>
    match cs with
    | '"' :: rest => stringValue? rest
    | '[' :: rest =>
        match skipGap rest with
        | ']' :: rest => some (.array [], rest)
        | rest => do
            let (vs, rest) ← readItems? fuel rest
            return (.array vs, rest)
    | '{' :: rest =>
        match skipGap rest with
        | '}' :: rest => some (.object [], rest)
        | rest => do
            let (ms, rest) ← readMembers? fuel rest
            return (objectValue ms, rest)
    | 'n' :: 'u' :: 'l' :: 'l' :: rest => some (.null, rest)
    | 't' :: 'r' :: 'u' :: 'e' :: rest => some (.bool true, rest)
    | 'f' :: 'a' :: 'l' :: 's' :: 'e' :: rest => some (.bool false, rest)
    | cs => (number? cs).map fun (l, rest) => (.number (String.ofList l), rest)

/-- The items of an array up to its closing bracket. -/
def readItems? : Nat → List Char → Option (List Json × List Char)
  | 0, _ => none
  | fuel + 1, cs => do
      let (v, rest) ← readValue? fuel cs
      match skipGap rest with
      | ']' :: rest => return ([v], rest)
      | ',' :: rest =>
          let (vs, rest) ← readItems? fuel (skipGap rest)
          return (v :: vs, rest)
      | _ => none

/-- The members of an object up to its closing brace. -/
def readMembers? : Nat → List Char → Option (List (Option String × Json) × List Char)
  | 0, _ => none
  | fuel + 1, cs =>
    match cs with
    | '"' :: rest => do
        let (k, rest) ← name? rest
        match skipGap rest with
        | ':' :: rest =>
            let (v, rest) ← readValue? fuel (skipGap rest)
            match skipGap rest with
            | '}' :: rest => return ([(k, v)], rest)
            | ',' :: rest =>
                let (ms, rest) ← readMembers? fuel (skipGap rest)
                return ((k, v) :: ms, rest)
            | _ => none
        | _ => none
    | _ => none

end

/-- The value that a whole text is. -/
def parse? (text : String) : Option Json := do
  let cs := text.toList
  let (v, rest) ← readValue? (cs.length + 1) (skipGap cs)
  if (skipGap rest).isEmpty then some v else none

end PolicyLint.Json
