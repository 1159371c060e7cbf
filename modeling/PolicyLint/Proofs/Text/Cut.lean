/-
# Cutting a text

A text can be cut at its places and nowhere else: at an offset inside a character, or behind the
end, there is no cut. So is a stretch of a text replaced between two places, and a position read off
from the cut: the line feeds in front of it make the line, and the characters since the last of them
the column.

* `Text.cut?`, `Text.cut?_eq_some_iff` : a text cut at a byte offset, if that is a place;
* `Text.replace?` : a text with the bytes between two offsets replaced, if both are places;
* `Position.ofCut?`, `Position.ofCut?_eq_some` : the position read off is that of the offset.
-/
import PolicyLint.Proofs.Text.Place

namespace PolicyLint

namespace Text

/-! ## Cutting -/

/-- A text in two at a byte offset, if no character stands across it. -/
def cut? : Nat → List Char → Option (List Char × List Char)
  | 0, cs => some ([], cs)
  | _ + 1, [] => none
  | n + 1, c :: cs =>
      if c.utf8Size ≤ n + 1 then
        (cut? (n + 1 - c.utf8Size) cs).map fun (before, behind) => (c :: before, behind)
      else none

/-- **A text is cut where a beginning of it ends**, and nowhere else. -/
theorem cut?_eq_some_iff {n : Nat} {text before behind : List Char} :
    cut? n text = some (before, behind) ↔ text = before ++ behind ∧ size before = n := by
  induction n, text using cut?.induct generalizing before with
  | case1 text =>
      rw [cut?, size_eq_zero_iff, Option.some.injEq, Prod.mk.injEq]
      constructor
      · rintro ⟨rfl, rfl⟩
        exact ⟨rfl, rfl⟩
      · rintro ⟨rfl, rfl⟩
        exact ⟨rfl, rfl⟩
  | case2 n =>
      constructor
      · intro h
        cases h
      · rintro ⟨htext, hsize⟩
        rw [(List.append_eq_nil_iff.mp htext.symm).1] at hsize
        cases hsize
  | case3 n c cs hle ih =>
      rw [cut?, if_pos hle]
      constructor
      · intro h
        obtain ⟨⟨inner, rest⟩, hcut, heq⟩ := Option.map_eq_some_iff.mp h
        cases heq
        obtain ⟨rfl, hsize⟩ := ih.mp hcut
        exact ⟨rfl, by rw [size_cons, hsize]; omega⟩
      · rintro ⟨htext, hsize⟩
        rcases before with _ | ⟨d, inner⟩
        · cases hsize
        · obtain ⟨rfl, hcs⟩ := List.cons.inj htext
          rw [size_cons] at hsize
          rw [ih.mpr ⟨hcs, by omega⟩]
          rfl
  | case4 n c cs hlt =>
      rw [cut?, if_neg hlt]
      constructor
      · intro h
        cases h
      · rintro ⟨htext, hsize⟩
        rcases before with _ | ⟨d, inner⟩
        · cases hsize
        · obtain ⟨rfl, -⟩ := List.cons.inj htext
          rw [size_cons] at hsize
          omega

/-- A text is cut after a beginning of it. -/
theorem cut?_size_append (before behind : List Char) :
    cut? (size before) (before ++ behind) = some (before, behind) :=
  cut?_eq_some_iff.mpr ⟨rfl, rfl⟩

/-- Where a text is cut is a place of it. -/
theorem isPlace_of_cut? {n : Nat} {text : List Char} {pieces : List Char × List Char}
    (h : cut? n text = some pieces) : IsPlace text n := by
  obtain ⟨htext, hsize⟩ := cut?_eq_some_iff.mp h
  exact ⟨pieces.1, pieces.2, htext, hsize⟩

/-! ## Replacing -/

/-- A text with its bytes between two offsets replaced, if no character stands across either. -/
def replace? (text : List Char) (start stop : Nat) (new : List Char) : Option (List Char) := do
  let (before, _) ← cut? start text
  let (_, behind) ← cut? stop text
  if start ≤ stop then some (before ++ new ++ behind) else none

/-- A piece of a text is replaced. -/
theorem replace?_append (before old behind new : List Char) :
    replace? (before ++ old ++ behind) (size before) (size before + size old) new =
      some (before ++ new ++ behind) := by
  have hstart : cut? (size before) (before ++ old ++ behind) = some (before, old ++ behind) := by
    rw [List.append_assoc]
    exact cut?_size_append before (old ++ behind)
  have hstop : cut? (size before + size old) (before ++ old ++ behind) =
      some (before ++ old, behind) := by
    rw [← size_append]
    exact cut?_size_append (before ++ old) behind
  rw [replace?, hstart, hstop]
  exact if_pos (Nat.le_add_right _ _)

/-- What is replaced stands between two places. -/
theorem isPlace_of_replace? {text new replaced : List Char} {start stop : Nat}
    (h : replace? text start stop new = some replaced) :
    IsPlace text start ∧ IsPlace text stop := by
  obtain ⟨⟨before, rest⟩, hstart, h⟩ := Option.bind_eq_some_iff.mp h
  obtain ⟨⟨front, behind⟩, hstop, h⟩ := Option.bind_eq_some_iff.mp h
  exact ⟨isPlace_of_cut? hstart, isPlace_of_cut? hstop⟩

/-! ## The last mark -/

/-- The byte offset where a mark stands for the last time in a text. -/
def last? (mark : Char) : List Char → Option Nat
  | [] => none
  | c :: cs =>
      match last? mark cs with
      | some n => some (c.utf8Size + n)
      | none => if c = mark then some 0 else none

/-- A mark that does not stand in a text for a last time does not stand there. -/
theorem not_mem_of_last? {mark : Char} {text : List Char} (h : last? mark text = none) :
    mark ∉ text := by
  induction text with
  | nil => exact List.not_mem_nil
  | cons c cs ih =>
      rw [last?] at h
      split at h
      · cases h
      · rename_i hcs
        split at h
        · cases h
        · rename_i hc
          rw [List.mem_cons, not_or]
          exact ⟨Ne.symm hc, ih hcs⟩

/-- Where a mark stands for the last time, it stands, and no more behind. -/
theorem exists_of_last? {mark : Char} {text : List Char} {n : Nat} (h : last? mark text = some n) :
    ∃ before behind, text = before ++ mark :: behind ∧ size before = n ∧ mark ∉ behind := by
  induction text generalizing n with
  | nil => cases h
  | cons c cs ih =>
      rw [last?] at h
      split at h
      · rename_i k hk
        cases h
        obtain ⟨before, behind, rfl, rfl, hmark⟩ := ih hk
        exact ⟨c :: before, behind, rfl, rfl, hmark⟩
      · rename_i hcs
        split at h
        · rename_i hc
          cases h
          exact ⟨[], cs, congrArg (· :: cs) hc, rfl, not_mem_of_last? hcs⟩
        · cases h

/-- The byte offset where the last line of a text starts: behind the last line feed. -/
def lineStart (text : List Char) : Nat := ((last? '\n' text).map (· + 1)).getD 0

end Text

/-! ## Positions -/

namespace Position

/-- A stretch of a line leads on in the line. -/
theorem foldl_next_of_not_mem (p : Position) (cs : List Char) (h : '\n' ∉ cs) :
    cs.foldl next p = ⟨p.line, p.column + cs.length⟩ := by
  induction cs generalizing p with
  | nil => rfl
  | cons c cs ih =>
      rw [List.mem_cons, not_or] at h
      have hnext : p.next c = ⟨p.line, p.column + 1⟩ := if_neg (Ne.symm h.1)
      rw [List.foldl_cons, ih _ h.2, hnext, List.length_cons, Nat.add_assoc, Nat.add_comm 1]

/-- Each line feed leads to a new line. -/
theorem line_foldl_next (p : Position) (cs : List Char) :
    (cs.foldl next p).line = p.line + cs.count '\n' := by
  induction cs generalizing p with
  | nil => rfl
  | cons c cs ih =>
      rw [List.foldl_cons, ih, next, List.count_cons]
      by_cases hc : c = '\n'
      · rw [if_pos hc, if_pos (beq_iff_eq.mpr hc), Nat.add_assoc, Nat.add_comm 1]
      · rw [if_neg hc, if_neg (fun h => hc (beq_iff_eq.mp h))]
        rfl

/-- The position of a byte offset, or of the end if that comes first, read off from the text cut
there and at the start of the line. -/
def ofCut? (text : List Char) (offset : Nat) : Option Position := do
  let (beginning, _) ← Text.cut? (min offset (Text.size text)) text
  let (_, line) ← Text.cut? (Text.lineStart beginning) beginning
  return ⟨beginning.count '\n' + 1, line.length + 1⟩

/-- A beginning of a text is cut at the start of its last line, and its position is read off. -/
theorem cut?_lineStart (beginning : List Char) :
    ∃ before line, Text.cut? (Text.lineStart beginning) beginning = some (before, line) ∧
      after beginning = ⟨beginning.count '\n' + 1, line.length + 1⟩ := by
  rw [Text.lineStart]
  cases hlast : Text.last? '\n' beginning with
  | none =>
      have hfeed := Text.not_mem_of_last? hlast
      refine ⟨[], beginning, Text.cut?_size_append [] beginning, ?_⟩
      rw [after, foldl_next_of_not_mem _ _ hfeed, List.count_eq_zero.mpr hfeed, Nat.add_comm]
      rfl
  | some n =>
      obtain ⟨before, line, rfl, rfl, hfeed⟩ := Text.exists_of_last? hlast
      -- the line feed goes to the lines before the last
      have hfeeds : before ++ '\n' :: line = (before ++ ['\n']) ++ line := by simp
      refine ⟨before ++ ['\n'], line, ?_, ?_⟩
      · rw [hfeeds]
        exact Text.cut?_eq_some_iff.mpr ⟨rfl, Text.size_append before ['\n']⟩
      · have hline := line_foldl_next start (before ++ ['\n'])
        rw [hfeeds, List.count_append, List.count_eq_zero.mpr hfeed, Nat.add_zero, after,
          List.foldl_append, foldl_next_of_not_mem _ _ hfeed, hline, Nat.add_comm]
        rw [← after, after_append_singleton, next, if_pos rfl, Nat.add_comm 1]
        rfl

/-- **The position of a place is read off from the text cut there.** -/
theorem ofCut?_eq_some {text : List Char} {n : Nat} (h : Text.IsPlace text n) :
    ofCut? text n = some (ofOffset text n) := by
  have hmin : min n (Text.size text) = n := Nat.min_eq_left h.le_size
  obtain ⟨beginning, behind, rfl, rfl⟩ := h
  obtain ⟨before, line, hline, hafter⟩ := cut?_lineStart beginning
  rw [ofOffset, Text.before_size_append, hafter, ofCut?, hmin, Text.cut?_size_append]
  simp only [Option.bind_eq_bind, Option.bind_some, hline]
  rfl

end Position

end PolicyLint
