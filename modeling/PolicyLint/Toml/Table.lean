/-
# Writing into TOML tables

A document is written line by line: a header opens a table, and a pair adds an entry to the table
opened last, or to one below it when its key is dotted. A table may be opened by a header once,
dotted keys add only to tables that dotted keys have made, and what stands between braces is
complete.

* `Toml.insert?` : a table after a pair;
* `Toml.open?`, `Toml.append?` : a table after a header, for a table or for one more of an array.
-/
import PolicyLint.Toml.Basic
import PolicyLint.Entries

namespace PolicyLint.Toml

/-- The entries of a table. -/
abbrev Entries := List (String × Toml)

/-- The entries after a change of the table that some keys lead to. Tables that are missing on the
way are made; of an array of tables the last is meant. `dotted` says that the keys are those of a
pair. -/
def changeAt? (dotted : Bool) (change : Origin → Entries → Option Entries) :
    List String → Origin → Entries → Option Entries
  | [], origin, entries => change origin entries
  | key :: keys, _, entries =>
    match entries.lookup key with
    | none => do
        let made := if dotted then Origin.dotted else Origin.passage
        return setEntry key (.table made (← changeAt? dotted change keys made [])) entries
    | some (.table origin inner) =>
        if origin = .inline || (dotted && origin = .header) then none
        else do
          return setEntry key (.table origin (← changeAt? dotted change keys origin inner)) entries
    | some (.tables items) =>
        match items.getLast? with
        | some (.table origin inner) => do
            let last := .table origin (← changeAt? dotted change keys origin inner)
            return setEntry key (.tables (items.dropLast ++ [last])) entries
        | _ => none
    | some _ => none

/-- The entries of a table after a pair, whose key may be dotted. -/
def insert? (path : List String) (key : String) (value : Toml) :
    Origin → Entries → Option Entries :=
  changeAt? true (fun origin entries =>
    if (origin = .dotted) ≠ (path ≠ []) then none
    else if (entries.lookup key).isSome then none
    else some (setEntry key value entries)) path

/-- The entries of a document after the header of a table. -/
def open? (path : List String) (key : String) (entries : Entries) : Option Entries :=
  changeAt? false (fun _ entries =>
    match entries.lookup key with
    | none => some (setEntry key (.table .header []) entries)
    | some (.table .passage inner) => some (setEntry key (.table .header inner) entries)
    | some _ => none) path .header entries

/-- The entries of a document after the header of one more table of an array. -/
def append? (path : List String) (key : String) (entries : Entries) : Option Entries :=
  changeAt? false (fun _ entries =>
    match entries.lookup key with
    | none => some (setEntry key (.tables [.table .header []]) entries)
    | some (.tables items) => some (setEntry key (.tables (items ++ [.table .header []])) entries)
    | some _ => none) path .header entries

/-- The entries of a document after a pair in the table that a header names. -/
def insertBelow? (header path : List String) (key : String) (value : Toml) (entries : Entries) :
    Option Entries :=
  changeAt? false (insert? path key value) header .header entries

end PolicyLint.Toml
