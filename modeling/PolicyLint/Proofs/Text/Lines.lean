/-
# Lines and columns

The positions of a text are its lines, counted from one, each with a column for every character and
one for its end. From a position one gets to a place: behind the line feeds of the lines before, and
then so many characters on. That undoes reading off the position of a place, so the places of a text
and its positions are the same, in the same order.

* `Text.line` : a line of a text;
* `Position.IsIn`, `Position.place?` : the positions of a text, and the place that each leads to;
* `Position.places_eq_positions` : places and positions correspond to each other in order.
-/
import PolicyLint.Proofs.Text.Cut
import PolicyLint.Proofs.Text.Pieces
import PolicyLint.Proofs.Text.Place

namespace PolicyLint

namespace Text

/-! ## Lines -/

/-- The lines of a text: what stands between its line feeds. -/
def lines (text : List Char) : List (List Char) := splitAt '\n' text

/-- The line with the given number, counted from one. -/
def line (text : List Char) (n : Nat) : List Char := (lines text).getD (n - 1) []

theorem lines_cons_feed (cs : List Char) : lines ('\n' :: cs) = [] :: lines cs := rfl

/-- A text has a first line. -/
theorem exists_lines_eq (cs : List Char) : ∃ first rest, lines cs = first :: rest :=
  List.exists_cons_of_ne_nil (splitAt_ne_nil '\n' cs)

/-- Any other character goes to the front of the first line. -/
theorem lines_cons_of_ne {c : Char} (hc : c ≠ '\n') {cs first : List Char}
    {rest : List (List Char)} (h : lines cs = first :: rest) :
    lines (c :: cs) = (c :: first) :: rest := by
  rw [lines] at h
  rw [lines, splitAt, if_neg hc, h]

end Text

namespace Position

/-! ## The position after one more character in front -/

/-- The positions on the way from a later line are so many lines later. -/
theorem foldl_next_of_line (l k m : Nat) (cs : List Char) :
    cs.foldl next ⟨l + m, k⟩ =
      ⟨(cs.foldl next ⟨l, k⟩).line + m, (cs.foldl next ⟨l, k⟩).column⟩ := by
  induction cs generalizing l k with
  | nil => rfl
  | cons c cs ih =>
      rw [List.foldl_cons, List.foldl_cons, next, next]
      by_cases hc : c = '\n'
      · rw [if_pos hc, if_pos hc, show l + m + 1 = l + 1 + m by omega, ih]
      · rw [if_neg hc, if_neg hc, ih]

/-- Where the column is when one starts makes no difference behind a line feed. -/
theorem foldl_next_of_mem (l k k' : Nat) {cs : List Char} (h : '\n' ∈ cs) :
    cs.foldl next ⟨l, k⟩ = cs.foldl next ⟨l, k'⟩ := by
  induction cs generalizing k k' with
  | nil => cases h
  | cons c cs ih =>
      rw [List.foldl_cons, List.foldl_cons, next, next]
      by_cases hc : c = '\n'
      · rw [if_pos hc, if_pos hc]
      · rw [if_neg hc, if_neg hc]
        exact ih _ _ ((List.mem_cons.mp h).resolve_left (Ne.symm hc))

/-- A line feed in front leads one line further on. -/
theorem after_cons_feed (cs : List Char) :
    after ('\n' :: cs) = ⟨(after cs).line + 1, (after cs).column⟩ := by
  rw [after, List.foldl_cons]
  exact foldl_next_of_line 1 1 1 cs

/-- Any other character in front leads one column further on in the first line. -/
theorem after_cons_of_not_mem {c : Char} {cs : List Char} (hc : c ≠ '\n') (h : '\n' ∉ cs) :
    after (c :: cs) = ⟨(after cs).line, (after cs).column + 1⟩ := by
  have hcons : '\n' ∉ c :: cs := by
    rw [List.mem_cons, not_or]
    exact ⟨Ne.symm hc, h⟩
  rw [after, after, foldl_next_of_not_mem _ _ hcons, foldl_next_of_not_mem _ _ h, List.length_cons]
  rfl

/-- It makes no difference in a later line. -/
theorem after_cons_of_mem {c : Char} {cs : List Char} (hc : c ≠ '\n') (h : '\n' ∈ cs) :
    after (c :: cs) = after cs := by
  rw [after, List.foldl_cons, next, if_neg hc]
  exact foldl_next_of_mem 1 _ 1 h

/-- The line counts the line feeds. -/
theorem line_after (cs : List Char) : (after cs).line = cs.count '\n' + 1 := by
  rw [after, line_foldl_next, Nat.add_comm]
  rfl

/-! ## Going to a position -/

/-- The offset behind so many line feeds and then so many characters of the line that begins there,
if the text has so many of them. -/
def goTo? : Nat → Nat → List Char → Option Nat
  | 0, 0, _ => some 0
  | _, _, [] => none
  | 0, columns + 1, c :: cs =>
      if c = '\n' then none else (goTo? 0 columns cs).map (c.utf8Size + ·)
  | feeds + 1, columns, c :: cs =>
      (goTo? (if c = '\n' then feeds else feeds + 1) columns cs).map (c.utf8Size + ·)

/-- The place that a position leads to: at the start of its line, and so many characters on. -/
def place? (p : Position) (text : List Char) : Option Nat :=
  goTo? (p.line - 1) (p.column - 1) text

/-- Whether a position is one of a text: its line is one of the lines, and its column that of a
character of the line or of its end. -/
structure IsIn (p : Position) (text : List Char) : Prop where
  line_pos : 1 ≤ p.line
  line_le : p.line ≤ text.count '\n' + 1
  column_pos : 1 ≤ p.column
  column_le : p.column ≤ (Text.line text p.line).length + 1

/-- From the position after a beginning of a text one gets to the end of the beginning. By induction
on the beginning: each character of it is passed on the way. -/
theorem goTo?_after {feeds columns : Nat} {beginning : List Char}
    (h : after beginning = ⟨feeds + 1, columns + 1⟩) (behind : List Char) :
    goTo? feeds columns (beginning ++ behind) = some (Text.size beginning) := by
  induction beginning generalizing feeds columns with
  | nil =>
      cases h
      rw [goTo?]
      rfl
  | cons c cs ih =>
      by_cases hc : c = '\n'
      · subst hc
        have hline := line_after cs
        rw [after_cons_feed] at h
        cases feeds with
        | zero =>
            -- behind a line feed one is not in the first line
            have := congrArg Position.line h
            dsimp only at this
            omega
        | succ feeds =>
            have hcs : after cs = ⟨feeds + 1, columns + 1⟩ := by
              injection h with hl hk
              injection hl with hl
              rw [← hl, ← hk]
            rw [List.cons_append, goTo?, if_pos rfl, ih hcs]
            rfl
      · by_cases hmem : '\n' ∈ cs
        · -- the line begins later, so the character is passed on the way to it
          rw [after_cons_of_mem hc hmem] at h
          have hline := line_after cs
          have hcount := List.count_pos_iff.mpr hmem
          rw [h] at hline
          dsimp only at hline
          obtain ⟨feeds, rfl⟩ : ∃ k, feeds = k + 1 := ⟨feeds - 1, by omega⟩
          rw [List.cons_append, goTo?, if_neg hc, ih h]
          rfl
        · -- the character is one column of the first line
          rw [after_cons_of_not_mem hc hmem] at h
          have hline := line_after cs
          have hcount := List.count_eq_zero.mpr hmem
          injection h with hl hk
          obtain rfl : feeds = 0 := by omega
          have hcolumn : 1 ≤ (after cs).column := by
            rw [after, foldl_next_of_not_mem _ _ hmem]
            exact Nat.le_add_right _ _
          obtain ⟨columns, rfl⟩ : ∃ k, columns = k + 1 := ⟨columns - 1, by omega⟩
          have hcs : after cs = ⟨0 + 1, columns + 1⟩ := by
            injection hk with hk
            rw [← hl, ← hk]
          rw [List.cons_append, goTo?, if_neg hc, ih hcs]
          rfl

/-- Where one gets to is the end of a beginning of the text, and its position is the one gone to. -/
theorem exists_of_goTo? {feeds columns n : Nat} {text : List Char}
    (h : goTo? feeds columns text = some n) :
    ∃ beginning behind, text = beginning ++ behind ∧ Text.size beginning = n ∧
      after beginning = ⟨feeds + 1, columns + 1⟩ := by
  induction feeds, columns, text using goTo?.induct generalizing n with
  | case1 text =>
      rw [goTo?] at h
      cases h
      exact ⟨[], text, rfl, rfl, rfl⟩
  | case2 feeds columns hne =>
      rw [goTo?] at h
      · cases h
      · exact hne
  | case3 columns cs =>
      rw [goTo?, if_pos rfl] at h
      cases h
  | case4 columns c cs hc ih =>
      rw [goTo?, if_neg hc] at h
      obtain ⟨m, hm, rfl⟩ := Option.map_eq_some_iff.mp h
      obtain ⟨beginning, behind, rfl, rfl, hafter⟩ := ih hm
      have hmem : '\n' ∉ beginning := by
        have hline := line_after beginning
        rw [hafter] at hline
        exact List.count_eq_zero.mp (Nat.succ.inj hline).symm
      refine ⟨c :: beginning, behind, rfl, rfl, ?_⟩
      rw [after_cons_of_not_mem hc hmem, hafter]
  | case5 feeds columns c cs ih =>
      rw [goTo?] at h
      obtain ⟨m, hm, rfl⟩ := Option.map_eq_some_iff.mp h
      obtain ⟨beginning, behind, rfl, rfl, hafter⟩ := ih hm
      refine ⟨c :: beginning, behind, rfl, rfl, ?_⟩
      by_cases hc : c = '\n'
      · subst hc
        rw [if_pos rfl] at hafter
        rw [after_cons_feed, hafter]
      · rw [if_neg hc] at hafter
        have hmem : '\n' ∈ beginning := by
          have hline := line_after beginning
          have hcount : 0 < beginning.count '\n' := by
            rw [hafter] at hline
            dsimp only at hline
            omega
          exact List.count_pos_iff.mp hcount
        rw [after_cons_of_mem hc hmem, hafter]

/-- One gets to a position exactly if the text has so many line feeds, and the line that begins
there so many characters. -/
theorem isSome_goTo?_iff (feeds columns : Nat) (text : List Char) :
    (goTo? feeds columns text).isSome = true ↔
      feeds ≤ text.count '\n' ∧ columns ≤ ((Text.lines text).getD feeds []).length := by
  induction text generalizing feeds columns with
  | nil =>
      rcases feeds with _ | feeds
      · rcases columns with _ | columns
        · simp [goTo?]
        · simp [goTo?, Text.lines, Text.splitAt]
      · simp [goTo?]
  | cons c cs ih =>
      by_cases hc : c = '\n'
      · subst hc
        rw [Text.lines_cons_feed, List.count_cons_self]
        rcases feeds with _ | feeds
        · rcases columns with _ | columns
          · simp [goTo?]
          · simp [goTo?]
        · rw [goTo?, if_pos rfl, Option.isSome_map, ih, List.getD_cons_succ, Nat.succ_le_succ_iff]
      · obtain ⟨first, rest, hlines⟩ := Text.exists_lines_eq cs
        rw [Text.lines_cons_of_ne hc hlines, List.count_cons_of_ne hc]
        rcases feeds with _ | feeds
        · rcases columns with _ | columns
          · simp [goTo?]
          · rw [goTo?, if_neg hc, Option.isSome_map, ih, hlines, List.getD_cons_zero,
              List.getD_cons_zero, List.length_cons, Nat.succ_le_succ_iff]
        · rw [goTo?, if_neg hc, Option.isSome_map, ih, hlines, List.getD_cons_succ,
            List.getD_cons_succ]

/-! ## Places and positions -/

variable {text : List Char} {n : Nat} {p : Position}

/-- A position of a text leads to a place. -/
theorem isSome_place?_iff (hline : 1 ≤ p.line) (hcolumn : 1 ≤ p.column) :
    (p.place? text).isSome = true ↔ p.IsIn text := by
  rw [place?, isSome_goTo?_iff]
  constructor
  · rintro ⟨hfeeds, hcolumns⟩
    exact ⟨hline, by omega, hcolumn, by rw [Text.line]; omega⟩
  · rintro ⟨-, hfeeds, -, hcolumns⟩
    rw [Text.line] at hcolumns
    exact ⟨by omega, by omega⟩

/-- **A position leads to a place exactly if it is read off there.** -/
theorem place?_eq_some_iff (hline : 1 ≤ p.line) (hcolumn : 1 ≤ p.column) :
    p.place? text = some n ↔ Text.IsPlace text n ∧ ofOffset text n = p := by
  have hp : p = ⟨p.line - 1 + 1, p.column - 1 + 1⟩ := by
    rw [Nat.sub_add_cancel hline, Nat.sub_add_cancel hcolumn]
  constructor
  · intro h
    obtain ⟨beginning, behind, rfl, rfl, hafter⟩ := exists_of_goTo? h
    rw [ofOffset, Text.before_size_append, hafter, ← hp]
    exact ⟨Text.isPlace_size_append beginning behind, rfl⟩
  · rintro ⟨⟨beginning, behind, rfl, rfl⟩, hposition⟩
    rw [ofOffset, Text.before_size_append] at hposition
    exact goTo?_after (hposition.trans hp) behind

/-- Lines and columns count from one. -/
theorem one_le_ofOffset (text : List Char) (n : Nat) :
    1 ≤ (ofOffset text n).line ∧ 1 ≤ (ofOffset text n).column := by
  obtain ⟨before, line, -, hafter⟩ := cut?_lineStart (Text.before text n)
  rw [ofOffset, hafter]
  exact ⟨Nat.le_add_left _ _, Nat.le_add_left _ _⟩

/-- **The places of a text are its positions, in the same order.** The position of a place is one of
the text and leads back to the place; a later place has a later position; and each position of the
text is that of exactly one place. -/
theorem places_eq_positions (text : List Char) :
    (∀ n, Text.IsPlace text n →
      (ofOffset text n).IsIn text ∧ (ofOffset text n).place? text = some n) ∧
    (∀ n m, Text.IsPlace text n → Text.IsPlace text m → n < m →
      ofOffset text n < ofOffset text m) ∧
    ∀ p : Position, p.IsIn text → ∃ n, (Text.IsPlace text n ∧ ofOffset text n = p) ∧
      ∀ m, Text.IsPlace text m → ofOffset text m = p → m = n := by
  refine ⟨fun n hn => ?_, fun n m hn hm h => ofOffset_lt hn hm h, fun p hp => ?_⟩
  · obtain ⟨hline, hcolumn⟩ := one_le_ofOffset text n
    have hplace : (ofOffset text n).place? text = some n :=
      (place?_eq_some_iff hline hcolumn).mpr ⟨hn, rfl⟩
    exact ⟨(isSome_place?_iff hline hcolumn).mp (by rw [hplace]; rfl), hplace⟩
  · obtain ⟨n, hn⟩ := Option.isSome_iff_exists.mp
      ((isSome_place?_iff hp.line_pos hp.column_pos).mpr hp)
    refine ⟨n, (place?_eq_some_iff hp.line_pos hp.column_pos).mp hn, fun m hm hposition => ?_⟩
    have hagain := (place?_eq_some_iff hp.line_pos hp.column_pos).mpr ⟨hm, hposition⟩
    rw [hn] at hagain
    exact (Option.some.inj hagain).symm

/-- In three lines, the second of which ends in a character of two bytes, the place behind that
character has the last position of the second line. -/
theorem places_eq_positions_threeLines :
    let text := "ab\ncdé\nx".toList
    Text.IsPlace text 7 ∧ ofOffset text 7 = ⟨2, 4⟩ ∧ (ofOffset text 7).place? text = some 7 ∧
      ∃ n, (Text.IsPlace text n ∧ ofOffset text n = ⟨3, 2⟩) ∧
        ∀ m, Text.IsPlace text m → ofOffset text m = ⟨3, 2⟩ → m = n := by
  intro text
  have hplace : Text.IsPlace text 7 := ⟨"ab\ncdé".toList, "\nx".toList, by decide, by decide⟩
  obtain ⟨hback, -, hposition⟩ := places_eq_positions text
  exact ⟨hplace, by decide, (hback 7 hplace).2,
    hposition ⟨3, 2⟩ ⟨by decide, by decide, by decide, by decide⟩⟩

end Position

end PolicyLint
