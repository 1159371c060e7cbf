/-
# Places of a text

A place of a text is a byte offset where a beginning of the text ends: never one inside a character,
and never one behind the end. Positions go the way of offsets, and two places have two positions.

* `Text.IsPlace` : whether a byte offset is a place, and `Text.isPlace_iff_isValid`, which says it
  of strings;
* `Span.StandsIn` : whether a stretch stands in a text where it says;
* `Position.ofOffset_lt` : a later place has a later position.
-/
import PolicyLint.Text.Position
import PolicyLint.Search

namespace PolicyLint

namespace Text

/-! ## Places -/

/-- Whether a byte offset is a place of a text. -/
def IsPlace (text : List Char) (n : Nat) : Prop :=
  ∃ before behind, text = before ++ behind ∧ size before = n

/-- Two beginnings of a text that have one size are the same. -/
theorem append_inj_of_size_eq {as bs cs ds : List Char} (h : as ++ bs = cs ++ ds)
    (hsize : size as = size cs) : as = cs ∧ bs = ds := by
  have has : as = cs := by
    rw [← before_size_append as bs, h, hsize, before_size_append]
  rw [has] at h
  exact ⟨has, List.append_cancel_left h⟩

theorem isPlace_size_append (before behind : List Char) :
    IsPlace (before ++ behind) (size before) :=
  ⟨before, behind, rfl, rfl⟩

variable {text : List Char} {n m : Nat}

/-- A place is not behind the end. -/
theorem IsPlace.le_size (h : IsPlace text n) : n ≤ size text := by
  obtain ⟨before, behind, rfl, rfl⟩ := h
  rw [size_append]
  exact Nat.le_add_right _ _

/-- What stands before a place reaches up to it. -/
theorem IsPlace.size_before (h : IsPlace text n) : size (before text n) = n := by
  obtain ⟨before, behind, rfl, rfl⟩ := h
  rw [before_size_append]

/-- What stands before an offset stands before a later one. -/
theorem before_prefix_before (text : List Char) (h : n ≤ m) : before text n <+: before text m := by
  induction text generalizing n m with
  | nil => exact List.prefix_rfl
  | cons c cs ih =>
      rw [before, before]
      by_cases hn : c.utf8Size ≤ n
      · rw [if_pos hn, if_pos (Nat.le_trans hn h)]
        exact (List.prefix_cons_inj c).mpr (ih (Nat.sub_le_sub_right h _))
      · rw [if_neg hn]
        exact List.nil_prefix

/-- The size of a text is that of its string. -/
theorem utf8ByteSize_ofList (cs : List Char) : (String.ofList cs).utf8ByteSize = size cs := by
  induction cs with
  | nil => rfl
  | cons c cs ih =>
      have hcons : String.ofList (c :: cs) = String.singleton c ++ String.ofList cs := by
        rw [← String.toList_inj]
        simp
      rw [hcons, String.utf8ByteSize_append, ih, String.utf8ByteSize_singleton, size_cons]

/-- **A place is a valid position of the string**: one between two characters or at an end. -/
theorem isPlace_iff_isValid (text : String) (n : Nat) :
    IsPlace text.toList n ↔ (String.Pos.Raw.mk n).IsValid text := by
  rw [String.Pos.Raw.isValid_iff_exists_append]
  constructor
  · rintro ⟨before, behind, htext, hsize⟩
    refine ⟨String.ofList before, String.ofList behind, ?_, ?_⟩
    · rw [← String.toList_inj, htext, String.toList_append, String.toList_ofList,
        String.toList_ofList]
    · rw [String.Pos.Raw.ext_iff, String.byteIdx_rawEndPos, utf8ByteSize_ofList]
      exact hsize.symm
  · rintro ⟨before, behind, rfl, hplace⟩
    refine ⟨before.toList, behind.toList, String.toList_append, ?_⟩
    rw [← utf8ByteSize_ofList, String.ofList_toList, ← String.byteIdx_rawEndPos, ← hplace]

/-- A place of a text is a valid position of it, and not behind its end. -/
theorem IsPlace.isValid {text : String} (h : IsPlace text.toList n) :
    n ≤ text.utf8ByteSize ∧ (String.Pos.Raw.mk n).IsValid text := by
  refine ⟨?_, (isPlace_iff_isValid text n).mp h⟩
  have hsize := utf8ByteSize_ofList text.toList
  rw [String.ofList_toList] at hsize
  rw [hsize]
  exact h.le_size

end Text

/-! ## Stretches -/

namespace Span

/-- Whether a stretch stands in a text where it says. -/
def StandsIn (s : Span) (text : List Char) : Prop :=
  ∃ before behind, text = before ++ s.text ++ behind ∧ s.offset = Text.size before

variable {s : Span} {text : List Char}

/-- A place of a stretch is a place of the text that it stands in. -/
theorem StandsIn.isPlace_add (h : s.StandsIn text) {n : Nat} (hn : Text.IsPlace s.text n) :
    Text.IsPlace text (s.offset + n) := by
  obtain ⟨before, behind, rfl, hoffset⟩ := h
  obtain ⟨inner, rest, htext, rfl⟩ := hn
  refine ⟨before ++ inner, rest ++ behind, ?_, ?_⟩
  · rw [htext]
    simp only [List.append_assoc]
  · rw [Text.size_append, hoffset]

end Span

/-! ## The order of positions -/

namespace Position

/-- Positions go line by line, and column by column within a line. -/
instance : LE Position := ⟨fun p q => p.line < q.line ∨ (p.line = q.line ∧ p.column ≤ q.column)⟩

instance : LT Position := ⟨fun p q => p.line < q.line ∨ (p.line = q.line ∧ p.column < q.column)⟩

theorem le_iff {p q : Position} :
    p ≤ q ↔ p.line < q.line ∨ (p.line = q.line ∧ p.column ≤ q.column) := Iff.rfl

theorem lt_iff {p q : Position} :
    p < q ↔ p.line < q.line ∨ (p.line = q.line ∧ p.column < q.column) := Iff.rfl

protected theorem le_refl (p : Position) : p ≤ p := .inr ⟨rfl, Nat.le_refl _⟩

protected theorem le_of_lt {p q : Position} (h : p < q) : p ≤ q := by
  rw [lt_iff] at h
  rw [le_iff]
  omega

protected theorem lt_of_lt_of_le {p q r : Position} (h : p < q) (h' : q ≤ r) : p < r := by
  rw [lt_iff] at h ⊢
  rw [le_iff] at h'
  omega

/-- A character leads to a later position. -/
theorem lt_next (p : Position) (c : Char) : p < p.next c := by
  rw [next]
  split
  · exact .inl (Nat.lt_succ_self _)
  · exact .inr ⟨rfl, Nat.lt_succ_self _⟩

/-- Characters lead to no earlier position. -/
theorem le_foldl_next (p : Position) (cs : List Char) : p ≤ cs.foldl next p := by
  induction cs generalizing p with
  | nil => exact p.le_refl
  | cons c cs ih => exact Position.le_of_lt (Position.lt_of_lt_of_le (p.lt_next c) (ih (p.next c)))

/-- A beginning of a text leads to an earlier position than a longer one. -/
theorem after_lt_of_prefix {cs ds : List Char} (h : cs <+: ds) (hne : cs ≠ ds) :
    after cs < after ds := by
  obtain ⟨_ | ⟨c, more⟩, rfl⟩ := h
  · rw [List.append_nil] at hne
    exact absurd rfl hne
  · rw [after, after, List.foldl_append]
    exact Position.lt_of_lt_of_le (lt_next _ c) (le_foldl_next _ more)

variable {n m : Nat}

/-- **A later place has a later position.** -/
theorem ofOffset_lt {text : List Char} (hn : Text.IsPlace text n) (hm : Text.IsPlace text m)
    (h : n < m) : ofOffset text n < ofOffset text m := by
  apply after_lt_of_prefix (Text.before_prefix_before text (Nat.le_of_lt h))
  intro heq
  have hsize := congrArg Text.size heq
  rw [hn.size_before, hm.size_before] at hsize
  omega

end Position

end PolicyLint
