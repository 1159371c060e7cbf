/-
# Pieces between marks

A text is cut at each mark. No mark is left in a piece, and a text without marks is one piece; where
two texts stand with a mark between them, the pieces of the second follow those of the first, and a
part without marks stands in one of the two texts.

* `Text.not_mem_of_mem_splitAt` : no mark is in a piece;
* `Text.splitAt_append` : the pieces of two texts with a mark between them;
* `Text.infix_append_cons_iff` : the parts of two texts with a mark between them.
-/
import PolicyLint.Text.Basic

namespace PolicyLint.Text

variable {mark : Char}

/-- No mark is in a piece between marks. -/
theorem not_mem_of_mem_splitAt {cs piece : List Char} (h : piece ∈ splitAt mark cs) :
    mark ∉ piece := by
  induction cs generalizing piece with
  | nil =>
      rw [splitAt, List.mem_singleton] at h
      rw [h]
      exact List.not_mem_nil
  | cons c cs ih =>
      rw [splitAt] at h
      split at h
      · rcases List.mem_cons.mp h with rfl | h
        · exact List.not_mem_nil
        · exact ih h
      · rename_i hc
        split at h
        · rw [List.mem_singleton] at h
          rw [h, List.mem_singleton]
          exact Ne.symm hc
        · rename_i q qs hsplit
          rcases List.mem_cons.mp h with rfl | h
          · rw [List.mem_cons, not_or]
            exact ⟨Ne.symm hc, ih (hsplit ▸ List.mem_cons_self)⟩
          · exact ih (hsplit ▸ List.mem_cons_of_mem q h)

/-- The characters of a piece are those of the text. -/
theorem mem_of_mem_splitAt {c : Char} {cs piece : List Char} (h : piece ∈ splitAt mark cs)
    (hc : c ∈ piece) : c ∈ cs := by
  induction cs generalizing piece with
  | nil =>
      rw [splitAt, List.mem_singleton] at h
      exact h ▸ hc
  | cons d ds ih =>
      rw [splitAt] at h
      split at h
      · rcases List.mem_cons.mp h with rfl | h
        · cases hc
        · exact List.mem_cons_of_mem d (ih h hc)
      · split at h
        · rw [List.mem_singleton.mp h, List.mem_singleton] at hc
          exact hc ▸ List.mem_cons_self
        · rename_i q qs hsplit
          rcases List.mem_cons.mp h with rfl | h
          · rcases List.mem_cons.mp hc with rfl | hc
            · exact List.mem_cons_self
            · exact List.mem_cons_of_mem d (ih (hsplit ▸ List.mem_cons_self) hc)
          · exact List.mem_cons_of_mem d (ih (hsplit ▸ List.mem_cons_of_mem q h) hc)

/-- There is a first piece. -/
theorem splitAt_ne_nil (mark : Char) (cs : List Char) : splitAt mark cs ≠ [] := by
  cases cs with
  | nil => exact List.cons_ne_nil _ _
  | cons c cs =>
      rw [splitAt]
      split
      · exact List.cons_ne_nil _ _
      · split
        · exact List.cons_ne_nil _ _
        · exact List.cons_ne_nil _ _

/-- A text without marks is its only piece. -/
theorem splitAt_of_not_mem {cs : List Char} (h : mark ∉ cs) : splitAt mark cs = [cs] := by
  induction cs with
  | nil => rfl
  | cons c cs ih =>
      rw [List.mem_cons, not_or] at h
      rw [splitAt, if_neg (Ne.symm h.1), ih h.2]

/-- **With a mark between two texts** the pieces of the second follow those of the first. -/
theorem splitAt_append (mark : Char) (as bs : List Char) :
    splitAt mark (as ++ mark :: bs) = splitAt mark as ++ splitAt mark bs := by
  induction as with
  | nil => exact if_pos rfl
  | cons c cs ih =>
      rw [List.cons_append, splitAt, splitAt, ih]
      split
      · rfl
      · cases hsplit : splitAt mark cs with
        | nil => exact absurd hsplit (splitAt_ne_nil mark cs)
        | cons p ps => rfl

/-- A text whose first piece is a single character is that character, or goes on with the mark. -/
theorem eq_of_splitAt_eq_singleton_cons {c : Char} {cs : List Char} {rest : List (List Char)}
    (h : splitAt mark cs = [c] :: rest) : cs = [c] ∨ ∃ more, cs = c :: mark :: more := by
  rcases cs with _ | ⟨a, _ | ⟨b, bs⟩⟩
  · cases h
  · rw [splitAt] at h
    split at h
    · cases h
    · cases h
      exact .inl rfl
  · rw [splitAt] at h
    split at h
    · cases h
    · rw [splitAt] at h
      by_cases hb : b = mark
      · rw [if_pos hb] at h
        cases h
        exact .inr ⟨bs, by rw [hb]⟩
      · rw [if_neg hb] at h
        cases hsplit : splitAt mark bs with
        | nil =>
            rw [hsplit] at h
            cases h
        | cons p ps =>
            rw [hsplit] at h
            cases h

/-! ## Parts -/

variable {part as bs : List Char}

/-- Whether a part stands somewhere in a text. -/
theorem contains_iff {cs : List Char} : contains part cs = true ↔ part <:+: cs := by
  induction cs with
  | nil => rw [contains, List.isEmpty_iff, List.infix_nil]
  | cons c cs ih =>
      rw [contains, Bool.or_eq_true, ih, List.isPrefixOf_iff_prefix, List.infix_cons_iff]

/-- What begins a text in front of a mark begins the text, if it has no mark. -/
theorem prefix_append_cons_iff (h : mark ∉ part) : part <+: as ++ mark :: bs ↔ part <+: as := by
  induction as generalizing part with
  | nil =>
      cases part with
      | nil => exact iff_of_true List.nil_prefix List.nil_prefix
      | cons p ps =>
          rw [List.mem_cons, not_or] at h
          rw [List.nil_append, List.cons_prefix_cons, List.prefix_nil]
          exact iff_of_false (fun hp => h.1 hp.1.symm) (List.cons_ne_nil p ps)
  | cons a as ih =>
      cases part with
      | nil => exact iff_of_true List.nil_prefix List.nil_prefix
      | cons p ps =>
          rw [List.mem_cons, not_or] at h
          rw [List.cons_append, List.cons_prefix_cons, List.cons_prefix_cons, ih h.2]

/-- **With a mark between two texts** a part without marks stands in the one or the other. -/
theorem infix_append_cons_iff (hne : part ≠ []) (h : mark ∉ part) :
    part <:+: as ++ mark :: bs ↔ part <:+: as ∨ part <:+: bs := by
  induction as with
  | nil =>
      have hstart : ¬ part <+: [] ++ mark :: bs := by
        rw [prefix_append_cons_iff h, List.prefix_nil]
        exact hne
      rw [List.nil_append] at hstart
      rw [List.nil_append, List.infix_cons_iff, List.infix_nil, or_iff_right hstart,
        or_iff_right hne]
  | cons a as ih =>
      rw [List.cons_append, List.infix_cons_iff, List.infix_cons_iff, ih, or_assoc,
        ← List.cons_append, prefix_append_cons_iff h]

/-- Behind a text in which its first character does not stand, a part stands in what follows. -/
theorem infix_append_iff_of_not_mem {c : Char} (h : c ∉ as) :
    c :: part <:+: as ++ bs ↔ c :: part <:+: bs := by
  induction as with
  | nil => exact Iff.rfl
  | cons a as ih =>
      rw [List.mem_cons, not_or] at h
      rw [List.cons_append, List.infix_cons_iff, List.cons_prefix_cons, ih h.2]
      exact or_iff_right fun hstart => h.1 hstart.1

end PolicyLint.Text
