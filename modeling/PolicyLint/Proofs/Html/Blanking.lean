/-
# Blanking comment by comment

Comments can be blanked one after the other: each is found in the text as it was, and the stretch
where it stands is replaced in the copy that has the comments before it blanked already. Blanks take
as many bytes as what they stand for, so a comment stands in that copy where it stands in the text,
between two places, and in the end all comments are blanked.

* `Html.blankSpan?`, `Html.blankComments?` : one comment blanked in a copy, and all of them;
* `Html.blankComments?_eq` : this comes to the text with its comments blanked;
* `Html.isPlace_of_spans_eq` : what is replaced stands between two places of the copy.
-/
import PolicyLint.Proofs.Html.Masking
import PolicyLint.Proofs.Text.Cut

namespace PolicyLint.Html

/-- A copy of a text with one more comment blanked, if that stands between two places. -/
def blankSpan? (copy : List Char) (s : Span) : Option (List Char) :=
  Text.replace? copy s.offset s.stop (s.text.flatMap blank)

/-- The text with its comments blanked one after the other. -/
def blankComments? (text : List Char) : Option (List Char) :=
  (comment.spans text).foldlM blankSpan? text

/-- A comment has characters. -/
theorem comment_ne_some_zero (site : Site) : comment site ≠ some 0 := by
  unfold comment
  split
  · rename_i cs _
    cases closing? cs <;> simp
  · simp

/-- A stretch that stands in a copy is blanked there. -/
theorem blankSpan?_append (before text behind : List Char) :
    blankSpan? (before ++ text ++ behind) ⟨Text.size before, text⟩ =
      some (before ++ text.flatMap blank ++ behind) :=
  Text.replace?_append before text behind (text.flatMap blank)

/-- The comments from a place on are blanked one after the other in a copy that is blanked up to
there. By induction along the search: what it leaves behind takes as many bytes in the copy as in
the text, so each comment stands in the copy where it was found. -/
theorem foldlM_blankSpan? (offset : Nat) (fresh : Bool) (site : Site) (front : List Char)
    (h : Text.size front = offset) :
    (comment.spansFrom offset fresh site).foldlM blankSpan? (front ++ site.rest) =
      some (front ++ blankFrom 0 none site.rest) := by
  induction offset, fresh, site using Matcher.spansFrom.induct comment generalizing front with
  | case1 offset fresh p hfound =>
      rw [Bool.and_eq_true] at hfound
      cases hfound.2
  | case2 offset fresh p hfound =>
      rw [Matcher.spansFrom, if_neg hfound]
      rfl
  | case3 offset fresh p c cs n hm found ih =>
      subst h
      simp only [Matcher.spansFrom, hm]
      rw [Site.rest_skip] at ih
      have hfound : c :: cs = found ++ (c :: cs).drop (n + 1) := (List.take_append_drop _ _).symm
      have hblanked : blankFrom 0 none (c :: cs) =
          found.flatMap blank ++ blankFrom 0 none (cs.drop n) := blankFrom_of_comment hm
      have hspan : blankSpan? (front ++ (c :: cs)) ⟨Text.size front, found⟩ =
          some (front ++ found.flatMap blank ++ cs.drop n) := by
        conv => lhs; rw [hfound, ← List.append_assoc]
        exact blankSpan?_append front found _
      rw [List.foldlM_cons, hspan, hblanked, ← List.append_assoc]
      refine ih (front ++ found.flatMap blank) ?_
      rw [Text.size_append, Segment.size_flatMap_blank]
  | case4 offset fresh p c cs hm ih => exact absurd hm (comment_ne_some_zero _)
  | case5 offset fresh p c cs hm ih =>
      subst h
      simp only [Matcher.spansFrom, hm]
      have hcons := ih (front ++ [c]) (by rw [Text.size_append]; rfl)
      rw [List.append_assoc, List.append_assoc] at hcons
      have hmatch : comment ⟨none, c :: cs⟩ = none := hm
      rw [blankFrom_cons hmatch]
      exact hcons

/-- **Blanking the comments one after the other blanks them all.** -/
theorem blankComments?_eq (text : List Char) : blankComments? text = some (blankComments text) :=
  foldlM_blankSpan? 0 true (Site.start text) [] rfl

/-- **A comment stands between two places of the copy** that has the comments before it blanked. -/
theorem isPlace_of_spans_eq {text : List Char} {done rest : List Span} {s : Span}
    (h : comment.spans text = done ++ s :: rest) :
    ∃ copy, done.foldlM blankSpan? text = some copy ∧ Text.IsPlace copy s.offset ∧
      Text.IsPlace copy s.stop := by
  have hall := blankComments?_eq text
  rw [blankComments?, h, List.foldlM_append] at hall
  obtain ⟨copy, hcopy, hrest⟩ := Option.bind_eq_some_iff.mp hall
  rw [List.foldlM_cons] at hrest
  obtain ⟨next, hnext, -⟩ := Option.bind_eq_some_iff.mp hrest
  exact ⟨copy, hcopy, Text.isPlace_of_replace? hnext⟩

end PolicyLint.Html
