/-
# Blanking the comments of a page

Blanking turns the comments of a page into blanks of the same size, and leaves all other segments as
they are. What stands inside a comment opens no tag afterwards.

* `Html.closing?_append` : a comment ends with the first mark that closes it;
* `Html.Segment.masked` : a segment with its comment blanked;
* `Html.blankComments_pageText` : a page with its comments blanked.
-/
import PolicyLint.Proofs.Html.Page

namespace PolicyLint.Html

/-! ## Where a comment ends -/

/-- A text that does not close a comment does not close it in the middle of its own end mark: an end
that began inside would need a `>` where the mark has a dash. -/
theorem closing?_append (body rest : List Char) (h : ¬ "-->".toList <:+: body) :
    closing? (body ++ ("-->".toList ++ rest)) = some (body.length + 3) := by
  induction body with
  | nil => rfl
  | cons c body ih =>
      have hbody : ¬ "-->".toList <:+: body := by
        intro hin
        exact h (hin.trans (List.suffix_cons c body).isInfix)
      have hhead : ¬ "-->".toList <+: c :: body := fun hin => h hin.isInfix
      rw [List.cons_append, closing?, ih hbody]
      · rfl
      · -- the mark cannot begin at `c` and reach into what follows the body
        rintro tail hc htail
        subst hc
        rcases body with _ | ⟨d, _ | ⟨e, body⟩⟩
        · simp at htail
        · simp at htail
        · simp only [List.cons_append, List.cons.injEq] at htail
          obtain ⟨rfl, rfl, -⟩ := htail
          exact hhead ⟨body, rfl⟩

/-- Nothing but an opening mark begins a comment. -/
theorem comment_eq_none {p : Option Char} {c : Char} {cs : List Char} (h : c ≠ '<') :
    comment ⟨p, c :: cs⟩ = none := by
  unfold comment
  split
  · rename_i heq
    exact absurd (List.cons.inj heq).1 h
  · rfl

/-- A tag begins no comment. -/
theorem comment_tag_eq_none {p : Option Char} {c : Char} {cs : List Char} (h : c ≠ '!') :
    comment ⟨p, '<' :: c :: cs⟩ = none := by
  unfold comment
  split
  · rename_i heq
    exact absurd (List.cons.inj (List.cons.inj heq).2).1 h
  · rfl

/-! ## Blanking -/

/-- Whether a character is neither a space nor a line feed, so that it never stands for a character
of a comment. -/
def NoBlank (c : Char) : Prop := c ≠ ' ' ∧ c ≠ '\n'

instance (c : Char) : Decidable (NoBlank c) := inferInstanceAs (Decidable (_ ∧ _))

/-- Only blanks stand for a character of a comment. -/
theorem not_mem_blank {d : Char} (hd : NoBlank d) (c : Char) : d ∉ blank c := by
  intro hmem
  rw [blank] at hmem
  split at hmem
  · exact hd.2 (List.mem_singleton.mp hmem)
  · exact hd.1 (List.eq_of_mem_replicate hmem)

/-- Only blanks stand for the characters of a comment. -/
theorem not_mem_flatMap_blank {d : Char} (hd : NoBlank d) (cs : List Char) :
    d ∉ cs.flatMap blank := by
  intro hmem
  obtain ⟨c, -, hc⟩ := List.mem_flatMap.mp hmem
  exact not_mem_blank hd c hc

/-- The character before a place has no part in the blanking after it. -/
theorem blankFrom_previous (n : Nat) (p : Option Char) (cs : List Char) :
    blankFrom n p cs = blankFrom n none cs := by
  cases cs with
  | nil => cases n <;> rfl
  | cons c cs =>
      cases n with
      | succ n => rfl
      | zero => rfl

/-- Where no comment begins a character stays. -/
theorem blankFrom_cons {c : Char} {cs : List Char} (h : comment ⟨none, c :: cs⟩ = none) :
    blankFrom 0 none (c :: cs) = c :: blankFrom 0 none cs := by
  rw [blankFrom, h, blankFrom_previous]

/-- Text that opens no tag stays. -/
theorem blankFrom_append_of_no_tag (cs rest : List Char) (h : '<' ∉ cs) :
    blankFrom 0 none (cs ++ rest) = cs ++ blankFrom 0 none rest := by
  induction cs with
  | nil => rfl
  | cons c cs ih =>
      rw [List.mem_cons, not_or] at h
      rw [List.cons_append, blankFrom_cons (comment_eq_none (Ne.symm h.1)), ih h.2]
      rfl

/-- A tag stays. -/
theorem blankFrom_append_of_tag (c : Char) (cs rest : List Char) (hc : c ≠ '!')
    (h : '<' ∉ c :: cs) :
    blankFrom 0 none ('<' :: c :: cs ++ rest) = '<' :: c :: cs ++ blankFrom 0 none rest := by
  have hcons : blankFrom 0 none ('<' :: (c :: cs ++ rest)) =
      '<' :: blankFrom 0 none (c :: cs ++ rest) := blankFrom_cons (comment_tag_eq_none hc)
  rw [blankFrom_append_of_no_tag _ _ h] at hcons
  exact hcons

/-- So many characters that belong to a comment are blanked, as far as the text goes. -/
theorem blankFrom_eq_append (n : Nat) (cs : List Char) :
    blankFrom n none cs = (cs.take n).flatMap blank ++ blankFrom 0 none (cs.drop n) := by
  induction n generalizing cs with
  | zero => rfl
  | succ n ih =>
      cases cs with
      | nil => rfl
      | cons c cs =>
          rw [blankFrom, blankFrom_previous, ih, List.take_succ_cons, List.flatMap_cons,
            List.append_assoc, List.drop_succ_cons]

/-- Where a comment is matched its characters are blanked. -/
theorem blankFrom_of_comment {p : Option Char} {c : Char} {cs : List Char} {n : Nat}
    (h : comment ⟨p, c :: cs⟩ = some (n + 1)) :
    blankFrom 0 none (c :: cs) =
      ((c :: cs).take (n + 1)).flatMap blank ++ blankFrom 0 none (cs.drop n) := by
  have hmatch : comment ⟨none, c :: cs⟩ = some (n + 1) := h
  rw [blankFrom, hmatch]
  dsimp only
  rw [blankFrom_previous, blankFrom_eq_append, ← List.append_assoc, ← List.flatMap_cons,
    List.take_succ_cons]

/-- A beginning of a text that belongs to a comment is blanked. -/
theorem blankFrom_length_append (cs rest : List Char) :
    blankFrom cs.length none (cs ++ rest) = cs.flatMap blank ++ blankFrom 0 none rest := by
  rw [blankFrom_eq_append, List.take_left, List.drop_left]

/-- **A comment is blanked**, from its opening mark to the first closing one. -/
theorem blankFrom_comment (body rest : List Char) (h : ¬ "-->".toList <:+: body) :
    blankFrom 0 none ("<!--".toList ++ body ++ "-->".toList ++ rest) =
      ("<!--".toList ++ body ++ "-->".toList).flatMap blank ++ blankFrom 0 none rest := by
  -- the match takes both marks and the body, and all but its first character are still to go
  have hlength : ('!' :: '-' :: '-' :: (body ++ "-->".toList)).length = body.length + 6 := by
    simp
  have hmatch : comment ⟨none, '<' :: ('!' :: '-' :: '-' :: (body ++ "-->".toList) ++ rest)⟩ =
      some (body.length + 6 + 1) := by
    show (closing? (body ++ "-->".toList ++ rest)).map (· + 4) = _
    rw [List.append_assoc, closing?_append body rest h]
    rfl
  have htext : "<!--".toList ++ body ++ "-->".toList =
      '<' :: ('!' :: '-' :: '-' :: (body ++ "-->".toList)) := by
    rw [List.append_assoc]
    rfl
  rw [htext, List.cons_append, blankFrom, hmatch]
  dsimp only
  rw [blankFrom_previous, ← hlength, blankFrom_length_append, ← List.append_assoc,
    ← List.flatMap_cons]

/-! ## Segments -/

/-- A tag with a name stays. -/
theorem blankFrom_tag {name attributes : List Char} (hname : Lettered name) (hne : name ≠ [])
    (w : Spelling name) (hattributes : ∀ c ∈ attributes, Inner c) (rest : List Char) :
    blankFrom 0 none ('<' :: (w.chars ++ attributes) ++ ['>'] ++ rest) =
      '<' :: (w.chars ++ attributes) ++ ['>'] ++ blankFrom 0 none rest := by
  obtain ⟨l, ls, hl⟩ := List.exists_cons_of_ne_nil hne
  obtain ⟨c, cs, hcs, -⟩ := w.exists_cons hl
  have hletters := w.isAlpha hname
  have hopens := not_mem_tag hname w hattributes
  rw [hcs] at hletters hopens ⊢
  have hc : c ≠ '!' := by
    rintro rfl
    exact absurd (hletters _ List.mem_cons_self) (by decide)
  simpa using blankFrom_append_of_tag c (cs ++ attributes ++ ['>']) rest hc hopens

namespace Segment

/-- A segment with its comment blanked. -/
def masked : Segment → List Char
  | .comment body h => (Segment.comment body h).text.flatMap blank
  | s => s.text

/-- **Blanking a page blanks its first segment** and then the others. -/
theorem blankFrom_text (s : Segment) (rest : List Char) :
    blankFrom 0 none (s.text ++ rest) = s.masked ++ blankFrom 0 none rest := by
  cases s with
  | plain text h => exact blankFrom_append_of_no_tag text rest h
  | comment body h => exact blankFrom_comment body rest h
  | link tag rel relQuote href quote value =>
      exact blankFrom_tag (by decide) (by decide) tag
        (inner_link rel relQuote href quote lettered_import.inner value) rest
  | script tag src quote value closing =>
      have hopen := blankFrom_tag (by decide) (by decide) tag (inner_script src quote value)
        ('<' :: '/' :: (closing.chars ++ ['>']) ++ rest)
      rw [blankFrom_append_of_tag '/' _ rest (by decide) (not_mem_closing closing)] at hopen
      simpa [masked, text] using hopen

/-- The blanks that stand for a character take as many bytes. -/
theorem size_blank (c : Char) : Text.size (blank c) = c.utf8Size := by
  have hspaces : ∀ n, Text.size (List.replicate n ' ') = n := by
    intro n
    induction n with
    | zero => rfl
    | succ n ih =>
        have hspace : ' '.utf8Size = 1 := by decide
        rw [List.replicate_succ, Text.size_cons, ih, hspace, Nat.add_comm]
  unfold blank
  split
  · rename_i h
    rw [h]
    rfl
  · exact hspaces _

/-- The blanks that stand for a text take as many bytes. -/
theorem size_flatMap_blank (cs : List Char) : Text.size (cs.flatMap blank) = Text.size cs := by
  induction cs with
  | nil => rfl
  | cons c cs ih => rw [List.flatMap_cons, Text.size_append, size_blank, ih, Text.size_cons]

/-- Blanking a segment keeps its size. -/
theorem size_masked (s : Segment) : Text.size s.masked = Text.size s.text := by
  cases s with
  | comment body h => exact size_flatMap_blank _
  | plain text h => rfl
  | link tag rel relQuote href quote value => rfl
  | script tag src quote value closing => rfl

end Segment

/-- **Blanking the comments of a page** blanks them segment by segment. -/
theorem blankComments_pageText (page : List Segment) :
    blankComments (pageText page) = page.flatMap Segment.masked := by
  unfold blankComments pageText
  induction page with
  | nil => rfl
  | cons s page ih => rw [List.flatMap_cons, Segment.blankFrom_text, ih, List.flatMap_cons]

end PolicyLint.Html
