/-
# Positions in a text

The place after a beginning of a text, told as a line and a column. Both count from one; a line
feed ends a line, and a column counts characters.
-/
import PolicyLint.Text.Basic

namespace PolicyLint

/-- A line and a column, both counted from one. -/
structure Position where
  line : Nat
  column : Nat
deriving DecidableEq, Repr

namespace Position

/-- The first place of a text. -/
def start : Position := ⟨1, 1⟩

/-- The place one character further on. -/
def next (p : Position) (c : Char) : Position :=
  if c = '\n' then ⟨p.line + 1, 1⟩ else ⟨p.line, p.column + 1⟩

/-- The place after a beginning of a text. -/
def after (beginning : List Char) : Position := beginning.foldl next start

/-- The place of a byte offset in a text. -/
def ofOffset (text : List Char) (offset : Nat) : Position := after (Text.before text offset)

@[simp] theorem after_nil : after [] = start := rfl

/-- One more character moves the place by one step. -/
theorem after_append_singleton (cs : List Char) (c : Char) :
    after (cs ++ [c]) = (after cs).next c := by
  simp [after, List.foldl_append]

end Position

end PolicyLint
