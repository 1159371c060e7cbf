/-
# Tables of characters

Tables over all code points, written compactly: numbers in base 36, each given by its distance from
the one before it, with blanks between them.

* `Table.bounds` and `Table.holdsAt` : a property, by the places where it begins and ends to hold;
* `Table.runs` and `Table.valueAt` : a value, by the places where its runs start;
* `Table.triples` : numbers taken three at a time, each as it is.
-/

namespace PolicyLint.Text.Table

/-- The value of a digit in base 36. -/
def digit? (c : Char) : Option Nat :=
  if '0' ≤ c ∧ c ≤ '9' then some (c.toNat - 48)
  else if 'a' ≤ c ∧ c ≤ 'z' then some (c.toNat - 87)
  else none

/-- The number at the start of an entry, and the value that follows it. A value starts with a
capital. -/
def entry (cs : List Char) : Nat × String :=
  let digits := cs.takeWhile fun c => (digit? c).isSome
  (digits.foldl (fun n c => 36 * n + (digit? c).getD 0) 0,
    String.ofList (cs.dropWhile fun c => (digit? c).isSome))

/-- The entries of a table, which stand between blanks and line ends. -/
def entries (text : String) : List (Nat × String) :=
  ((text.toList.splitOnP fun c => c = ' ' || c = '\n').filter fun cs => !cs.isEmpty).map entry

/-- Entries with distances summed up. -/
def summed (es : List (Nat × String)) : Array (Nat × String) :=
  (es.foldl (fun (acc, n) e => (acc.push (n + e.1, e.2), n + e.1)) (#[], 0)).1

/-- A table of values, each with the place where its run starts. -/
def runs (text : String) : Array (Nat × String) := summed (entries text)

/-- A table of the places where a property begins and ends to hold. -/
def bounds (text : String) : Array Nat := (runs text).map Prod.fst

/-- Numbers taken three at a time. -/
def threes : List Nat → List (Nat × Nat × Nat)
  | a :: b :: c :: rest => (a, b, c) :: threes rest
  | _ => []

/-- A table of triples. -/
def triples (text : String) : List (Nat × Nat × Nat) := threes ((entries text).map Prod.fst)

/-- The number of places, in increasing order, that are at most `n`; at most `steps` halvings of the
stretch from `low` to `high` look for it. -/
def countUpTo (place : Nat → Nat) (n : Nat) : Nat → Nat → Nat → Nat
  | 0, low, _ => low
  | steps + 1, low, high =>
      if high ≤ low then low
      else
        let middle := (low + high) / 2
        if place middle ≤ n then countUpTo place n steps (middle + 1) high
        else countUpTo place n steps low middle

/-- Whether a property holds at a code point. -/
def holdsAt (table : Array Nat) (n : Nat) : Bool :=
  countUpTo (fun i => table.getD i 0) n 32 0 table.size % 2 == 1

/-- The value at a code point. -/
def valueAt (table : Array (Nat × String)) (n : Nat) : String :=
  (table.getD (countUpTo (fun i => (table.getD i (0, "")).1) n 32 0 table.size - 1) (0, "")).2

end PolicyLint.Text.Table
