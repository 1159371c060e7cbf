/-
# Values written as patterns

Whatever the value that is written as a name or as a property, the pattern is well-formed. With a
backslash in front of each character that has a meaning of its own, all characters of the value are
read as themselves.

* `Pattern.expr?_escape` : how an escaped text is read;
* `Pattern.parse?_nameText`, `Pattern.parse?_propertyText` : how a name and a property are read.
-/
import PolicyLint.Pattern.Basic

namespace PolicyLint.Pattern

/-! ## Escaping -/

/-- No escaped text begins with a character that has a meaning of its own, save with a backslash. -/
theorem head?_escape_append_ne {d : Char} (hd : isMeta d = true) (hslash : '\\' ≠ d)
    (text : List Char) {cs : List Char} (h : cs.head? ≠ some d) :
    (escape text ++ cs).head? ≠ some d := by
  cases text with
  | nil => exact h
  | cons c text =>
      rw [escape, List.flatMap_cons, escapeChar]
      split
      · exact fun hhead => hslash (Option.some.inj hhead)
      · rename_i hmeta
        intro hhead
        obtain rfl : c = d := Option.some.inj hhead
        exact hmeta hd

/-! ## Reading -/

section Reading

variable (fuel : Nat) (names : List String) (branches parts : List Expr)

/-- After a backslash a character that has a meaning of its own stands for itself. -/
theorem escape?_of_isMeta (r : Reader) {c : Char} (h : isMeta c = true) (cs : List Char) :
    escape? r (c :: cs) = some (.literal ⟨c, false⟩, cs) := by
  have hmem : c ∈ "\\.+*?()|[]\x7b\x7d^$#&-~".toList := List.contains_iff_mem.mp h
  simp only [String.reduceToList, List.mem_cons, List.not_mem_nil, or_false] at hmem
  rcases hmem with rfl | rfl | rfl | rfl | rfl | rfl | rfl | rfl | rfl | rfl | rfl | rfl | rfl |
    rfl | rfl | rfl | rfl | rfl <;> rfl

/-- An escaped character is read as itself. -/
theorem expr?_escapeChar (c : Char) (cs : List Char) :
    expr? (fuel + 1) ⟨escapeChar c ++ cs, false, names⟩ branches parts =
      expr? fuel ⟨cs, false, names⟩ branches (.literal ⟨c, false⟩ :: parts) := by
  rw [escapeChar]
  cases hmeta : isMeta c with
  | true =>
      show (escape? _ (c :: cs)).bind _ = _
      rw [escape?_of_isMeta _ hmeta]
      rfl
  | false =>
      rw [if_neg Bool.false_ne_true, List.singleton_append, expr?]
      dsimp only [Reader.gap]
      rw [if_neg Bool.false_ne_true]
      split
      case h_1 heq => cases heq
      case h_14 heq =>
          cases heq
          rfl
      -- in all other cases the character has a meaning of its own
      all_goals
        rename_i heq
        cases heq
        cases hmeta

/-- An escaped text is read as its characters. -/
theorem expr?_escape (text cs : List Char) :
    expr? (text.length + fuel) ⟨escape text ++ cs, false, names⟩ branches parts =
      expr? fuel ⟨cs, false, names⟩ branches
        ((text.map fun c => Expr.literal ⟨c, false⟩).reverse ++ parts) := by
  induction text generalizing parts with
  | nil => rw [List.length_nil, Nat.zero_add]; rfl
  | cons c text ih =>
      rw [List.length_cons, Nat.add_right_comm, escape, List.flatMap_cons, List.append_assoc,
        expr?_escapeChar]
      exact (ih _).trans (by rw [List.map_cons, List.reverse_cons, List.append_assoc]; rfl)

/-- A word boundary is read where no brace follows. -/
theorem expr?_boundary {cs : List Char} (h : cs.head? ≠ some '\x7b') :
    expr? (fuel + 1) ⟨'\\' :: 'b' :: cs, false, names⟩ branches parts =
      expr? fuel ⟨cs, false, names⟩ branches (.assertion .wordBoundary :: parts) := by
  have hboundary : ∀ r, boundary? r cs = some (.wordBoundary, cs) := by
    intro r
    rw [boundary?]
    rintro rest rfl
    exact h rfl
  show (escape? _ ('b' :: cs)).bind _ = _
  rw [show escape? _ ('b' :: cs) = (boundary? _ cs).map fun x => (Atom.assertion x.1, x.2)
    from rfl, hboundary]
  rfl

end Reading

/-- The characters of a value and a word boundary, as they are read. -/
def valueExprs (value : List Char) : List Expr :=
  value.map (fun c => .literal ⟨c, false⟩) ++ [.assertion .wordBoundary]

/-- A value and a word boundary are read to the end of a text. -/
theorem expr?_value (extra : Nat) (names : List String) (parts : List Expr) (value : List Char) :
    expr? (value.length + (extra + 2)) ⟨escape value ++ ['\\', 'b'], false, names⟩ [] parts =
      some (.ofParts (parts.reverse ++ valueExprs value), ⟨[], false, names⟩) := by
  rw [expr?_escape, expr?_boundary _ _ _ _ (by decide)]
  show some (Expr.ofParts _, _) = _
  rw [valueExprs, List.reverse_cons, List.reverse_append, List.reverse_reverse, List.append_assoc]
  rfl

/-- A value does not nest. -/
theorem depthOf_valueExprs (value : List Char) : Expr.depthOf (valueExprs value) = 0 := by
  induction value with
  | nil => rfl
  | cons c value ih => exact (Nat.zero_max _).trans ih

/-- A text that is read to its end is a well-formed pattern, unless it nests too deep. -/
theorem parse?_of_expr? {text : List Char} {e : Expr} (names : List String)
    (h : expr? (text.length + 1) ⟨text, false, []⟩ [] [] = some (e, ⟨[], false, names⟩))
    (hdepth : e.depth ≤ maxDepth) : parse? (String.ofList text) = some e := by
  rw [parse?, String.toList_ofList]
  dsimp only
  rw [h]
  exact if_pos (decide_eq_true hdepth)

/-- No text is longer than it is as a pattern. -/
theorem length_le_length_escape (text : List Char) : text.length ≤ (escape text).length := by
  induction text with
  | nil => exact Nat.le_refl _
  | cons c text ih =>
      have hone : 1 ≤ (escapeChar c).length := by
        rw [escapeChar]
        split <;> simp
      rw [escape, List.flatMap_cons, List.length_append, List.length_cons, Nat.add_comm]
      exact Nat.add_le_add hone ih

/-- **A name is read as a value with a word boundary in front.** -/
theorem parse?_nameText (value : List Char) :
    parse? (String.ofList (nameText value)) =
      some (.sequence (.assertion .wordBoundary :: valueExprs value)) := by
  obtain ⟨k, hk⟩ := Nat.exists_eq_add_of_le (length_le_length_escape value)
  have hlength : (nameText value).length = value.length + (k + 2 + 2) := by
    simp only [nameText, List.length_cons, List.length_append, hk, List.length_nil]
    omega
  refine parse?_of_expr? [] ?_ ?_
  · have hbrace : (escape value ++ ['\\', 'b']).head? ≠ some '\x7b' :=
      head?_escape_append_ne rfl (by decide) value (by decide)
    rw [hlength, nameText, expr?_boundary _ _ _ _ hbrace, expr?_value]
    cases value <;> rfl
  · show max 0 (Expr.depthOf (valueExprs value)) + 1 ≤ maxDepth
    rw [depthOf_valueExprs]
    decide

/-- **A property is read as a value with a dot and any blanks in front.** -/
theorem parse?_propertyText (value : List Char) :
    parse? (String.ofList (propertyText value)) =
      some (.sequence (.literal ⟨'.', false⟩ ::
        .repetition (.short .space false) 0 none true :: valueExprs value)) := by
  obtain ⟨k, hk⟩ := Nat.exists_eq_add_of_le (length_le_length_escape value)
  have hlength : (propertyText value).length + 1 = value.length + (k + 3 + 2) + 1 + 1 + 1 := by
    simp only [propertyText, List.length_cons, List.length_append, hk, List.length_nil]
    omega
  have hmark : (escape value ++ ['\\', 'b']).head? ≠ some '?' :=
    head?_escape_append_ne rfl (by decide) value (by decide)
  have hgreedy : greedyThen (escape value ++ ['\\', 'b']) =
      (true, escape value ++ ['\\', 'b']) := by
    rw [greedyThen]
    rintro rest hrest
    rw [hrest] at hmark
    exact hmark rfl
  refine parse?_of_expr? [] ?_ ?_
  · rw [hlength]
    refine (expr?_escapeChar _ [] [] [] '.' _).trans ?_
    show expr? (value.length + (k + 3 + 2))
      ⟨(greedyThen (escape value ++ ['\\', 'b'])).2, false, []⟩ []
      [.repetition (.short .space false) 0 none (greedyThen (escape value ++ ['\\', 'b'])).1,
        .literal ⟨'.', false⟩] = _
    rw [hgreedy, expr?_value]
    rfl
  · show max 0 (max (0 + 1) (Expr.depthOf (valueExprs value))) + 1 ≤ maxDepth
    rw [depthOf_valueExprs]
    decide

end PolicyLint.Pattern
