/-
# The comments of a text

A comment goes from an opening mark to the nearest closing one. Searching a text for comments finds
them from left to right: one where the first could begin, the next behind it, and so on.

* `Html.HasComment`, `Html.AreComments` : whether a text has a comment, and what its comments are;
* `Html.areComments_spans` : the search finds the comments.
-/
import PolicyLint.Proofs.Html.Blanking
import PolicyLint.Proofs.Text.Leftmost

namespace PolicyLint.Html

/-! ## Comments -/

/-- The mark that opens a comment. -/
def openingMark : List Char := ['<', '!', '-', '-']

/-- The mark that closes a comment. -/
def closingMark : List Char := ['-', '-', '>']

/-- Whether a comment stands somewhere in a text: an opening mark, and a closing one behind it. -/
def HasComment (text : List Char) : Prop :=
  ∃ before body behind, text = before ++ openingMark ++ body ++ closingMark ++ behind

/-- Whether some stretches are the comments of a text: each goes from an opening mark to the nearest
closing one, none overlaps another, and where a comment could begin elsewhere, it would begin inside
one of them. -/
structure AreComments (text : List Char) (comments : List Span) : Prop where
  standsIn : ∀ s ∈ comments, s.StandsIn text
  nearest : ∀ s ∈ comments, ∃ body, s.text = openingMark ++ body ++ closingMark ∧
    ¬ closingMark <:+: body
  apart : comments.Pairwise fun s t => s.stop ≤ t.offset
  leftmost : ∀ before body behind, text = before ++ openingMark ++ body ++ closingMark ++ behind →
    ∃ s ∈ comments, s.offset ≤ Text.size before ∧ Text.size before < s.stop

/-- The end of the first closing mark is where a text that has none in front of it ends with one. -/
theorem closing?_eq_some_iff {cs : List Char} {n : Nat} :
    closing? cs = some n ↔ ∃ body behind, cs = body ++ (closingMark ++ behind) ∧
      ¬ closingMark <:+: body ∧ n = body.length + 3 := by
  constructor
  · intro h
    induction cs using closing?.induct generalizing n with
    | case1 rest =>
        cases h
        exact ⟨[], rest, rfl, by decide, rfl⟩
    | case2 c cs hmark ih =>
        rw [closing?] at h
        · obtain ⟨k, hk, rfl⟩ := Option.map_eq_some_iff.mp h
          obtain ⟨body, behind, rfl, hbody, rfl⟩ := ih hk
          refine ⟨c :: body, behind, rfl, ?_, rfl⟩
          rw [List.infix_cons_iff, not_or]
          refine ⟨?_, hbody⟩
          rintro ⟨more, hmore⟩
          obtain ⟨rfl, hrest⟩ := List.cons.inj hmore
          exact hmark (more ++ (closingMark ++ behind)) rfl (by rw [← hrest]; rfl)
        · exact hmark
    | case3 => cases h
  · rintro ⟨body, behind, rfl, hbody, rfl⟩
    exact closing?_append body behind hbody

/-- A closing mark is found exactly if one stands in the text. -/
theorem isSome_closing?_iff (cs : List Char) :
    (closing? cs).isSome = true ↔ closingMark <:+: cs := by
  induction cs using closing?.induct with
  | case1 rest =>
      rw [closing?]
      exact ⟨fun _ => ⟨[], rest, rfl⟩, fun _ => rfl⟩
  | case2 c cs hmark ih =>
      have hstarts : ¬ closingMark <+: c :: cs := by
        rintro ⟨more, hmore⟩
        obtain ⟨rfl, hrest⟩ := List.cons.inj hmore
        exact hmark more rfl hrest.symm
      rw [closing?]
      · rw [Option.isSome_map, ih, List.infix_cons_iff, or_iff_right hstarts]
      · exact hmark
  | case3 => exact ⟨fun h => absurd h (by decide), fun h => absurd h (by decide)⟩

/-- A comment is matched where an opening mark stands with a closing one behind it. -/
theorem isSome_comment_iff (p : Option Char) (cs : List Char) :
    (comment ⟨p, cs⟩).isSome = true ↔ ∃ rest, cs = openingMark ++ rest ∧ closingMark <:+: rest := by
  unfold comment
  split
  · rename_i rest heq
    have hcs : cs = openingMark ++ rest := heq
    rw [Option.isSome_map, isSome_closing?_iff]
    constructor
    · intro h
      exact ⟨rest, hcs, h⟩
    · rintro ⟨more, hmore, h⟩
      rw [hcs] at hmore
      rw [List.append_cancel_left hmore]
      exact h
  · rename_i hopen
    constructor
    · intro h
      cases h
    · rintro ⟨rest, rfl, -⟩
      exact absurd rfl (hopen rest)

/-- What is matched is a comment up to the nearest closing mark. -/
theorem comment_eq_some {p : Option Char} {cs : List Char} {n : Nat}
    (h : comment ⟨p, cs⟩ = some n) : ∃ body behind,
      cs = openingMark ++ body ++ closingMark ++ behind ∧ ¬ closingMark <:+: body ∧
      n = (openingMark ++ body ++ closingMark).length := by
  unfold comment at h
  split at h
  · rename_i rest heq
    obtain ⟨k, hk, rfl⟩ := Option.map_eq_some_iff.mp h
    obtain ⟨body, behind, rfl, hbody, rfl⟩ := closing?_eq_some_iff.mp hk
    refine ⟨body, behind, ?_, hbody, ?_⟩
    · rw [List.append_assoc, List.append_assoc]
      exact heq
    · rw [List.length_append, List.length_append]
      show body.length + 3 + 4 = 4 + body.length + 3
      omega
  · cases h

/-- A text has a comment exactly if one is matched at some place of it. -/
theorem hasComment_iff (text : List Char) :
    HasComment text ↔
      ∃ before rest, text = before ++ rest ∧ (comment ⟨none, rest⟩).isSome = true := by
  constructor
  · rintro ⟨before, body, behind, rfl⟩
    refine ⟨before, openingMark ++ (body ++ closingMark ++ behind),
      by simp only [List.append_assoc],
      (isSome_comment_iff _ _).mpr ⟨_, rfl, body, behind, rfl⟩⟩
  · rintro ⟨before, rest, rfl, h⟩
    obtain ⟨more, rfl, body, behind, rfl⟩ := (isSome_comment_iff _ _).mp h
    exact ⟨before, body, behind, by simp only [List.append_assoc]⟩

/-- **The search for comments finds the comments.** -/
theorem areComments_spans (text : List Char) : AreComments text (comment.spans text) where
  standsIn := fun s hs => Matcher.standsIn_of_mem_spans _ hs
  nearest := by
    intro s hs
    obtain ⟨before, behind, -, -, k, hk, htake⟩ := Matcher.exists_match_of_mem_spans hs
    obtain ⟨body, rest, hrest, hbody, rfl⟩ := comment_eq_some hk
    rw [hrest, List.take_left] at htake
    exact ⟨body, htake.symm, hbody⟩
  apart := comment.pairwise_spans text
  leftmost := by
    rintro before body behind rfl
    have hne : openingMark ++ (body ++ closingMark ++ behind) ≠ [] := List.cons_ne_nil _ _
    obtain ⟨n, hn⟩ := Option.isSome_iff_exists.mp
      ((isSome_comment_iff before.getLast? _).mpr ⟨_, rfl, body, behind, rfl⟩)
    cases n with
    | zero => exact absurd hn (comment_ne_some_zero _)
    | succ n =>
        rw [show before ++ openingMark ++ body ++ closingMark ++ behind =
          before ++ (openingMark ++ (body ++ closingMark ++ behind)) by
            simp only [List.append_assoc]]
        exact Matcher.exists_of_match hne hn

end PolicyLint.Html
