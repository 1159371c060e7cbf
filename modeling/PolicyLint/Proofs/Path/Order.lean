/-
# The order of paths

Steps are told apart by their rank and their text, and ordered by these in turn. Paths are ordered
step by step, so of two paths one comes before the other, and both do only if they have the same
steps.

* `Path.Component.key` : what a step is ordered by;
* `Path.le_iff` : the order of paths is that of the keys of their steps;
* `Path.le_trans`, `Path.le_total`, `Path.le_antisymm` : it is a linear order.
-/
import PolicyLint.Path.Basic
import Mathlib.Data.String.Basic
import Mathlib.Data.Prod.Lex

namespace PolicyLint.Path

namespace Component

/-- What a step is ordered by: its rank, and then its text. -/
def key (s : Component) : ℕ ×ₗ String := toLex (s.rank, s.text)

/-- Steps are ordered by their keys. -/
theorem lt_iff {a b : Component} : a.lt b = true ↔ a.key < b.key := by
  rw [lt, key, key, Prod.Lex.toLex_lt_toLex]
  simp

/-- Steps with one key are the same. -/
theorem key_injective : Function.Injective key := by
  intro a b h
  obtain ⟨hrank, htext⟩ := Prod.mk.inj (toLex_inj.mp h)
  cases a <;> cases b <;> first
    | rfl
    | exact congrArg name htext
    | cases hrank

end Component

variable {as bs cs : List Component}

/-- **Paths are ordered by the keys of their steps.** -/
theorem le_iff : le as bs = true ↔ as.map Component.key ≤ bs.map Component.key := by
  induction as generalizing bs with
  | nil => exact iff_of_true rfl (not_lt.mp (List.not_lt_nil _))
  | cons a as ih =>
      cases bs with
      | nil => exact iff_of_false Bool.false_ne_true (not_le.mpr (List.nil_lt_cons _ _))
      | cons b bs =>
          rw [le, List.map_cons, List.map_cons, Bool.or_eq_true, Bool.and_eq_true, beq_iff_eq,
            Component.lt_iff, ih, ← Component.key_injective.eq_iff, ← not_lt, ← not_lt,
            List.cons_lt_cons_iff]
          rcases lt_trichotomy a.key b.key with hlt | heq | hgt
          · simp [hlt, hlt.not_gt, hlt.ne']
          · simp [heq]
          · simp [hgt, hgt.not_gt, hgt.ne']

theorem le_trans (h : le as bs = true) (h' : le bs cs = true) : le as cs = true := by
  rw [le_iff] at *
  exact LE.le.trans h h'

theorem le_total (as bs : List Component) : (le as bs || le bs as) = true := by
  rw [Bool.or_eq_true, le_iff, le_iff]
  exact LinearOrder.le_total _ _

theorem le_antisymm (h : le as bs = true) (h' : le bs as = true) : as = bs := by
  rw [le_iff] at h h'
  exact Component.key_injective.list_map (LE.le.antisymm h h')

end PolicyLint.Path
