/-
# Entries

Named entries in the order in which their names were first set.
-/

namespace PolicyLint

/-- The entries with one of them replaced, or added at the end. -/
def setEntry {α : Type} (name : String) (a : α) : List (String × α) → List (String × α)
  | [] => [(name, a)]
  | (n, b) :: rest => if n = name then (n, a) :: rest else (n, b) :: setEntry name a rest

/-- What is set is found again, and all else is as before. -/
theorem lookup_setEntry {α : Type} (name other : String) (a : α) (es : List (String × α)) :
    (setEntry name a es).lookup other = if other = name then some a else es.lookup other := by
  induction es with
  | nil => by_cases h : other = name <;> simp [setEntry, h, List.lookup_cons, beq_eq_false_iff_ne.2]
  | cons e es ih =>
      obtain ⟨n, b⟩ := e
      by_cases hn : n = name
      · subst hn
        by_cases h : other = n <;> simp [setEntry, List.lookup_cons, h, beq_eq_false_iff_ne.2]
      · by_cases ho : other = n
        · subst ho
          simp [setEntry, hn]
        · simp [setEntry, List.lookup_cons, hn, beq_eq_false_iff_ne.2 ho, ih]

end PolicyLint
