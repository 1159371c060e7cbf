/-
# Where references stand

References are read from a page whose comments are blanked, and their offsets are used for the page
itself. In the blanked page a reference stands between quotes. Blanking makes no quotes and keeps
the size of what it blanks, so the quote in front of a reference stands in the page as well, at the
same offset, and the reference begins at a place of the page.

* `Html.Quoted` : whether a stretch stands between quotes;
* `Html.quoted_of_attribute?`, `Html.quoted_of_mem_imports` : values and references do;
* `Html.isPlace_of_mem_imports` : references begin at places of the page.
-/
import PolicyLint.Proofs.Html.Blanked
import PolicyLint.Proofs.Html.References
import Mathlib.Data.List.TakeWhile

namespace PolicyLint.Html

/-! ## Values -/

/-- Whether a stretch stands between quotes in a text that starts at the given offset. -/
def Quoted (offset : Nat) (text : List Char) (s : Span) : Prop :=
  ∃ (before behind : List Char) (q r : Quote),
    text = before ++ q.char :: (s.text ++ r.char :: behind) ∧ s.offset = offset + Text.size before + 1

/-- What stands between quotes in the rest of a text stands so in the text. -/
theorem Quoted.append {offset : Nat} {text : List Char} {s : Span} (front : List Char)
    (h : Quoted (offset + Text.size front) text s) : Quoted offset (front ++ text) s := by
  obtain ⟨before, behind, q, r, rfl, hoffset⟩ := h
  refine ⟨front ++ before, behind, q, r, (List.append_assoc _ _ _).symm, ?_⟩
  rw [hoffset, Text.size_append]
  omega

/-- What stands between quotes in a part of a text stands so in the text. -/
theorem Quoted.append_right {offset : Nat} {text : List Char} {s : Span} (back : List Char)
    (h : Quoted offset text s) : Quoted offset (text ++ back) s := by
  obtain ⟨before, behind, q, r, rfl, hoffset⟩ := h
  refine ⟨before, behind ++ back, q, r, ?_, hoffset⟩
  simp only [List.append_assoc, List.cons_append]

/-- A name is stripped from the front. -/
theorem suffix_of_stripName? {name cs rest : List Char} (h : stripName? name cs = some rest) :
    rest <:+ cs := by
  induction name generalizing cs with
  | nil =>
      rw [stripName?] at h
      cases h
      exact List.suffix_rfl
  | cons l ls ih =>
      cases cs with
      | nil => cases h
      | cons c cs =>
          rw [stripName?] at h
          split at h
          · exact (ih h).trans (List.suffix_cons c cs)
          · cases h

/-- What is stripped of an attribute is its name, the sign, and all blanks around the sign. -/
theorem exists_of_stripAssignment? {name cs rest : List Char}
    (h : stripAssignment? name cs = some rest) :
    ∃ left right, stripName? name cs = some (left ++ '=' :: (right ++ rest)) ∧
      (∀ c ∈ left, Text.isBlank c = true) ∧ (∀ c ∈ right, Text.isBlank c = true) ∧
      ∀ c ∈ rest.head?, Text.isBlank c = false := by
  obtain ⟨named, hname, h⟩ := Option.bind_eq_some_iff.mp h
  split at h
  · rename_i more hsign
    cases h
    refine ⟨named.takeWhile Text.isBlank, more.takeWhile Text.isBlank, ?_,
      List.all_eq_true.mp List.all_takeWhile, List.all_eq_true.mp List.all_takeWhile,
      fun c hc => ?_⟩
    · rw [List.takeWhile_append_dropWhile, ← hsign, List.takeWhile_append_dropWhile]
      exact hname
    · have hhead := List.head?_dropWhile_not Text.isBlank more
      rw [Option.mem_def.mp hc] at hhead
      exact hhead
  · cases h

/-- The name of an attribute and its sign are stripped from the front. -/
theorem suffix_of_stripAssignment? {name cs rest : List Char}
    (h : stripAssignment? name cs = some rest) : rest <:+ cs := by
  obtain ⟨left, right, hname, -⟩ := exists_of_stripAssignment? h
  refine List.IsSuffix.trans ?_ (suffix_of_stripName? hname)
  exact ⟨left ++ '=' :: right, by rw [List.append_assoc, List.cons_append]⟩

/-- A value stands between quotes. -/
theorem exists_of_quoted? {cs value : List Char} (h : quoted? cs = some value) :
    ∃ (q r : Quote) (behind : List Char), cs = q.char :: (value ++ r.char :: behind) := by
  cases cs with
  | nil => cases h
  | cons c cs =>
      simp only [quoted?] at h
      split at h
      · rename_i hquotes
        cases h
        rw [Bool.and_eq_true, Bool.and_eq_true] at hquotes
        obtain ⟨⟨hopens, -⟩, hcloses⟩ := hquotes
        -- the value ends where the first quote stands
        obtain ⟨d, hd, hquote⟩ := List.any_eq_true.mp hcloses
        have hne : cs.dropWhile (fun c => !isQuote c) ≠ [] := by
          rw [ne_eq, List.dropWhile_eq_nil_iff]
          intro hall
          have := hall d hd
          rw [hquote] at this
          cases this
        obtain ⟨e, behind, hrest⟩ := List.exists_cons_of_ne_nil hne
        have hends : isQuote e = true := by
          have := List.head_dropWhile_not (fun c => !isQuote c) hne
          simp only [hrest, List.head_cons, Bool.not_eq_false'] at this
          exact this
        refine ⟨⟨c, hopens⟩, ⟨e, hends⟩, behind, ?_⟩
        dsimp only
        rw [← hrest, List.takeWhile_append_dropWhile]
      · cases h

/-- A value has characters. -/
theorem ne_nil_of_quoted? {cs value : List Char} (h : quoted? cs = some value) : value ≠ [] := by
  cases cs with
  | nil => cases h
  | cons c cs =>
      simp only [quoted?] at h
      split at h
      · rename_i hquotes
        cases h
        rw [Bool.and_eq_true, Bool.and_eq_true, Bool.not_eq_true', List.isEmpty_eq_false_iff]
          at hquotes
        exact hquotes.1.2
      · cases h

/-- The value of an attribute is read where the name and the sign end that follow a blank. -/
theorem exists_of_attribute? {name cs : List Char} {offset : Nat} {s : Span}
    (h : attribute? name offset cs = some s) :
    ∃ front b before rest, cs = front ++ b :: before ++ rest ∧
      stripAssignment? name (before ++ rest) = some rest ∧ quoted? rest = some s.text ∧
      s.offset = offset + Text.size (front ++ b :: before) + 1 := by
  induction cs generalizing offset with
  | nil => cases h
  | cons c cs ih =>
      rw [attribute?, Option.orElse_eq_orElse, Option.orElse_eq_or, Option.or_eq_some_iff] at h
      rcases h with h | ⟨-, h⟩
      · split at h
        · cases h
        · obtain ⟨rest, hrest, h⟩ := Option.bind_eq_some_iff.mp h
          obtain ⟨value, hvalue, h⟩ := Option.bind_eq_some_iff.mp h
          cases h
          obtain ⟨before, rfl⟩ := suffix_of_stripAssignment? hrest
          refine ⟨[], c, before, rest, rfl, hrest, hvalue, ?_⟩
          simp only [List.nil_append, Text.size_cons, Text.size_append]
          omega
      · obtain ⟨front, b, before, rest, rfl, hrest, hvalue, hoffset⟩ := ih h
        refine ⟨c :: front, b, before, rest, rfl, hrest, hvalue, ?_⟩
        rw [hoffset, List.cons_append, Text.size_cons, Nat.add_assoc offset]

/-- **The value of an attribute stands between quotes.** -/
theorem quoted_of_attribute? {name cs : List Char} {offset : Nat} {s : Span}
    (h : attribute? name offset cs = some s) : Quoted offset cs s := by
  obtain ⟨front, b, before, rest, rfl, -, hvalue, hoffset⟩ := exists_of_attribute? h
  obtain ⟨q, r, behind, rfl⟩ := exists_of_quoted? hvalue
  exact ⟨_, behind, q, r, rfl, hoffset⟩

/-! ## References -/

/-- What stands between quotes in a stretch of a text stands so in the text. -/
theorem Quoted.of_standsIn {s t : Span} {text : List Char} (h : Quoted t.offset t.text s)
    (ht : t.StandsIn text) : Quoted 0 text s := by
  obtain ⟨before, behind, rfl, hoffset⟩ := ht
  rw [List.append_assoc]
  apply Quoted.append before
  rw [Nat.zero_add, ← hoffset]
  exact h.append_right behind

/-- **A reference stands between quotes** in the text with its comments blanked. -/
theorem quoted_of_mem_imports {text : List Char} {s : Span} (h : s ∈ imports text) :
    Quoted 0 (blankComments text) s := by
  rw [imports, List.mem_mergeSort, List.mem_append] at h
  rcases h with h | h
  · obtain ⟨t, ht, hs⟩ := List.mem_filterMap.mp h
    split at hs
    · exact (quoted_of_attribute? hs).of_standsIn (Matcher.standsIn_of_mem_spans _ ht)
    · cases hs
  · obtain ⟨t, ht, hs⟩ := List.mem_filterMap.mp h
    exact (quoted_of_attribute? hs).of_standsIn (Matcher.standsIn_of_mem_spans _ ht)

/-! ## Blanking -/

/-- A quote is no blank. -/
theorem Quote.noBlank (q : Quote) : NoBlank q.char := by
  rcases q.char_eq with h | h <;> (rw [h]; decide)

/-- **A reference begins at a place of the page**, although it was read from the page with its
comments blanked. -/
theorem isPlace_of_mem_imports {text : List Char} {s : Span} (h : s ∈ imports text) :
    Text.IsPlace text s.offset := by
  obtain ⟨before, behind, q, r, hmasked, hoffset⟩ := quoted_of_mem_imports h
  obtain ⟨front, back, rfl, rfl, -⟩ := exists_append_of_blankFrom q.noBlank hmasked
  refine ⟨front ++ [q.char], back, by simp, ?_⟩
  rw [← blankComments, size_blankComments] at hoffset
  rw [Text.size_append, Text.size_cons, q.utf8Size, Text.size_nil, hoffset]
  omega

end PolicyLint.Html
