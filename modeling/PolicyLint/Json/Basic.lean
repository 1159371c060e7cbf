/-
# JSON values

The values of JSON texts and their compact form: no blanks, members in their order, and in strings
only the escapes that JSON asks for.

* `Json` : the values;
* `Json.render` : the compact text of a value;
* `Json.natural?`, `Json.text?`, `Json.texts?`, `Json.record?` : what a value says when it is read
  as a number, a text, a list of texts, or a record with known members.
-/
import PolicyLint.Text.Basic

namespace PolicyLint

/-- A JSON value. A number keeps its literal, and an object its members in the order written. -/
inductive Json where
  | null
  | bool (b : Bool)
  | number (literal : String)
  | string (s : String)
  /-- A string with an escape for half of a surrogate pair, or an object with such a name; nothing
  can be read from it. -/
  | broken
  | array (items : List Json)
  | object (members : List (String × Json))

namespace Json

/-! ## Writing -/

/-- The digits of a number below sixteen, in lower case. -/
def hexDigit (n : Nat) : Char :=
  if n < 10 then Char.ofNat (48 + n) else Char.ofNat (87 + n)

/-- The form of a character inside a string: quotes, backslashes and control characters are
escaped, all others stand for themselves. -/
def escape (c : Char) : List Char :=
  if c = '"' then ['\\', '"']
  else if c = '\\' then ['\\', '\\']
  else if c = '\n' then ['\\', 'n']
  else if c = '\r' then ['\\', 'r']
  else if c = '\t' then ['\\', 't']
  else if c = '\x08' then ['\\', 'b']
  else if c = '\x0c' then ['\\', 'f']
  else if c.toNat < 32 then
    ['\\', 'u', '0', '0', hexDigit (c.toNat / 16), hexDigit (c.toNat % 16)]
  else [c]

/-- A string between its quotes. -/
def quote (s : String) : List Char :=
  '"' :: (s.toList.flatMap escape ++ ['"'])

mutual

/-- The compact text of a value. -/
def print : Json → List Char
  | .null => "null".toList
  | .bool true => "true".toList
  | .bool false => "false".toList
  | .number literal => literal.toList
  | .string s => quote s
  | .broken => quote ""
  | .array items => '[' :: (printItems items ++ [']'])
  | .object members => '{' :: (printMembers members ++ ['}'])

/-- The items of an array, with commas between them. -/
def printItems : List Json → List Char
  | [] => []
  | [v] => print v
  | v :: w :: vs => print v ++ ',' :: printItems (w :: vs)

/-- The members of an object, with commas between them. -/
def printMembers : List (String × Json) → List Char
  | [] => []
  | [(k, v)] => quote k ++ ':' :: print v
  | (k, v) :: m :: ms => quote k ++ ':' :: (print v ++ ',' :: printMembers (m :: ms))

end

/-- The compact text of a value. -/
def render (v : Json) : String := String.ofList (print v)

/-- A natural number as a value. -/
def ofNat (n : Nat) : Json := .number (toString n)

/-! ## Reading values as data -/

/-- The number of a run of decimal digits. -/
def digitsValue (ds : List Char) : Nat :=
  ds.foldl (fun n d => 10 * n + (d.toNat - 48)) 0

/-- The natural number below `UInt64.size` that a value is, if its literal holds digits alone. -/
def natural? : Json → Option Nat
  | .number literal =>
      let n := digitsValue literal.toList
      if literal.toList.all Char.isDigit && n < UInt64.size then some n else none
  | _ => none

/-- The text that a value is. -/
def text? : Json → Option String
  | .string s => some s
  | _ => none

/-- The items of an array. -/
def items? : Json → Option (List Json)
  | .array items => some items
  | _ => none

/-- The texts that an array holds, if it holds nothing else. -/
def texts? (v : Json) : Option (List String) := v.items?.bind (·.mapM text?)

/-- The truth value that a value is. -/
def bool? : Json → Option Bool
  | .bool b => some b
  | _ => none

/-- The text that a value is, where `null` stands for none. -/
def optionalText? : Json → Option (Option String)
  | .null => some none
  | .string s => some (some s)
  | _ => none

/-- The values of the known members of a record, each present or not. An object gives them by
name, and no known name may come twice; an array gives them in their order, and may end early. -/
def record? (names : List String) : Json → Option (List (Option Json))
  | .object members =>
      names.mapM fun name =>
        match members.filter (fun m => m.1 == name) with
        | [] => some none
        | [m] => some (some m.2)
        | _ => none
  | .array items =>
      if items.length ≤ names.length then
        some (items.map some ++ List.replicate (names.length - items.length) none)
      else none
  | _ => none

end Json

end PolicyLint
