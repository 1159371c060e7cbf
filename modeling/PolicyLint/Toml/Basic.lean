/-
# TOML values

The values of TOML documents. Only texts, lists and tables are ever read as data, so a number, a
truth value or a date is just known to be one.

* `Toml` : the values;
* `Toml.text?`, `Toml.texts?`, `Toml.record?` : what a value says when it is read as a text, a list
  of texts, or a record with known members.
-/

namespace PolicyLint

/-- How a table came about, which decides what may still be added to it. -/
inductive Toml.Origin where
  /-- The document, a header of the table's own, or one item of an array of tables. -/
  | header
  /-- A header of a table below it. -/
  | passage
  /-- A dotted key. -/
  | dotted
  /-- Braces. -/
  | inline
deriving DecidableEq, Repr

/-- A TOML value. The entries of a table stand in the order in which they were first written. -/
inductive Toml where
  | string (s : String)
  | scalar
  | array (items : List Toml)
  /-- An array of tables that headers have written so far. -/
  | tables (items : List Toml)
  | table (origin : Toml.Origin) (entries : List (String × Toml))

namespace Toml

/-! ## Reading values as data -/

/-- The text that a value is. -/
def text? : Toml → Option String
  | .string s => some s
  | _ => none

/-- The items of an array, however it was written. -/
def items? : Toml → Option (List Toml)
  | .array items => some items
  | .tables items => some items
  | _ => none

/-- The texts that an array holds, if it holds nothing else. -/
def texts? (v : Toml) : Option (List String) := v.items?.bind (·.mapM text?)

/-- The values of the known members of a record, each present or not. A table gives them by name; an
array gives them in their order, and may end early or go on. -/
def record? (names : List String) : Toml → Option (List (Option Toml))
  | .table _ entries => some (names.map fun name => entries.lookup name)
  | .array items =>
      some ((items.take names.length).map some ++ List.replicate (names.length - items.length) none)
  | _ => none

end Toml

end PolicyLint
