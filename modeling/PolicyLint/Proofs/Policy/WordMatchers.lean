/-
# What values match

A value is matched as a name where a word starts or ends on both sides of it, and as a property
where it stands behind a dot, with any blanks between, and a word starts or ends behind it. For a
value of word characters these are the places where it stands as a whole word, or ends as one. A
match of such a value begins and ends at the ends of a word; a match of a property begins with a dot
and has no other. So none begins inside another.

* `Matcher.wholeWord`, `Matcher.property` : the matchers for names and properties;
* `Text.IsWholeWordAt`, `Text.IsPropertyAt` : where a value stands as a name or as a property;
* `Matcher.wholeWord_eq_some_iff_boundary`, `Matcher.property_eq_some_iff_boundary` : what is
  matched;
* `Matcher.wholeWord_eq_some_iff` : the same for names that are words;
* `Matcher.separate_wholeWord`, `Matcher.separate_property` : matches do not overlap.
-/
import PolicyLint.Text.Word
import PolicyLint.Proofs.Text.Leftmost

namespace PolicyLint

/-! ## Matchers -/

/-- Whether a word starts or ends at a place. -/
def Site.isBoundary (s : Site) : Bool := Text.isBoundary s.previous s.rest.head?

namespace Matcher

/-- Matches a value where words start or end on both sides of it. -/
def wholeWord (value : List Char) : Matcher := fun s =>
  if s.isBoundary && value.isPrefixOf s.rest && (s.skip value.length).isBoundary then
    some value.length
  else none

/-- Matches a value after so many characters or fewer, the most of them first, where a word starts
or ends after it; `s` is the place, and the match begins there. -/
def valueWithin (value : List Char) (s : Site) : Nat → Option Nat
  | 0 =>
      if value.isPrefixOf s.rest && (s.skip value.length).isBoundary then some value.length
      else none
  | n + 1 =>
      let here := s.skip (n + 1)
      if value.isPrefixOf here.rest && (here.skip value.length).isBoundary then
        some (n + 1 + value.length)
      else valueWithin value s n

/-- Matches a value after a dot and any blanks, where a word starts or ends after it. -/
def property (value : List Char) : Matcher := fun s =>
  match s.rest with
  | '.' :: cs =>
      (valueWithin value (s.skip 1) (cs.takeWhile Text.isBlank).length).map (· + 1)
  | _ => none

end Matcher

/-! ## Words -/

namespace Text

/-- Whether a value stands at an offset of a text with no word character directly before or behind
it. -/
def IsWholeWordAt (value text : List Char) (n : Nat) : Prop :=
  ∃ before behind, text = before ++ value ++ behind ∧ size before = n ∧
    isWordAt before.getLast? = false ∧ isWordAt behind.head? = false

/-- Whether a value stands at an offset of a text directly behind a dot and any blanks, with no word
character directly behind it. -/
def IsPropertyAt (value text : List Char) (n : Nat) : Prop :=
  ∃ before blanks behind, text = before ++ '.' :: blanks ++ value ++ behind ∧
    (∀ c ∈ blanks, isBlank c = true) ∧ size (before ++ '.' :: blanks) = n ∧
    isWordAt behind.head? = false

/-- Whether a value is made of word characters, of at least one. -/
structure IsWordValue (value : List Char) : Prop where
  ne_nil : value ≠ []
  isWord : ∀ c ∈ value, isWord c = true

variable {value : List Char}

theorem IsWordValue.isWordAt_head? (h : IsWordValue value) : isWordAt value.head? = true := by
  obtain ⟨c, cs, rfl⟩ := List.exists_cons_of_ne_nil h.ne_nil
  exact h.isWord c List.mem_cons_self

theorem IsWordValue.isWordAt_getLast? (h : IsWordValue value) :
    isWordAt value.getLast? = true := by
  rw [List.getLast?_eq_some_getLast h.ne_nil]
  exact h.isWord _ (List.getLast_mem h.ne_nil)

/-- Whether a value has at least one character and neither dots nor blanks. -/
structure IsSolid (value : List Char) : Prop where
  ne_nil : value ≠ []
  ne_dot : ∀ c ∈ value, c ≠ '.'
  not_blank : ∀ c ∈ value, isBlank c = false

/-- A value without characters that are a dot or a blank is solid. -/
theorem isSolid_of_forall {q : Char → Bool} (hne : value ≠ []) (hvalue : ∀ c ∈ value, q c = true)
    (hdot : q '.' = false) (hblank : ∀ c, isBlank c = true → q c = false) : IsSolid value := by
  refine ⟨hne, ?_, fun c hc => ?_⟩
  · rintro c hc rfl
    rw [hvalue _ hc] at hdot
    cases hdot
  · cases hisBlank : isBlank c with
    | false => rfl
    | true =>
        have hq := hblank c hisBlank
        rw [hvalue c hc] at hq
        cases hq

/-- A value of word characters has neither dots nor blanks. -/
theorem IsWordValue.isSolid (h : IsWordValue value) : IsSolid value :=
  isSolid_of_forall h.ne_nil h.isWord (by decide) isWord_eq_false_of_isBlank

end Text

/-! ## Names -/

namespace Matcher

open Text

variable {value : List Char} {p : Option Char} {cs : List Char} {n : Nat}

/-- The place behind a value is told by its last character. -/
theorem isBoundary_skip (hne : value ≠ []) (behind : List Char) :
    (Site.skip ⟨p, value ++ behind⟩ value.length).isBoundary =
      Text.isBoundary value.getLast? behind.head? := by
  rw [Site.skip_length_append, Site.isBoundary, List.getLast?_eq_some_getLast hne, Option.some_or]

/-- In front of a value of word characters is a boundary exactly if no word character precedes. -/
theorem isBoundary_head?_iff (h : IsWordValue value) {previous : Option Char} :
    Text.isBoundary previous value.head? = true ↔ isWordAt previous = false := by
  rw [Text.isBoundary, h.isWordAt_head?]
  cases isWordAt previous <;> decide

/-- Behind a value of word characters is a boundary exactly if no word character follows. -/
theorem isBoundary_getLast?_iff (h : IsWordValue value) {next : Option Char} :
    Text.isBoundary value.getLast? next = true ↔ isWordAt next = false := by
  rw [Text.isBoundary, h.isWordAt_getLast?]
  cases isWordAt next <;> decide

/-- **A name is matched where a word starts or ends on both sides of it.** -/
theorem wholeWord_eq_some_iff_boundary (hne : value ≠ []) :
    wholeWord value ⟨p, cs⟩ = some n ↔ ∃ behind, cs = value ++ behind ∧
      Text.isBoundary p value.head? = true ∧ Text.isBoundary value.getLast? behind.head? = true ∧
      n = value.length := by
  have hfront (behind : List Char) :
      Site.isBoundary ⟨p, value ++ behind⟩ = Text.isBoundary p value.head? := by
    obtain ⟨c, cs, rfl⟩ := List.exists_cons_of_ne_nil hne
    rfl
  rw [wholeWord]
  constructor
  · intro hmatch
    split at hmatch
    · rename_i hcond
      cases hmatch
      rw [Bool.and_eq_true, Bool.and_eq_true, List.isPrefixOf_iff_prefix] at hcond
      obtain ⟨⟨hstart, behind, rfl⟩, hend⟩ := hcond
      exact ⟨behind, rfl, hfront behind ▸ hstart, isBoundary_skip hne behind ▸ hend, rfl⟩
    · cases hmatch
  · rintro ⟨behind, rfl, hstart, hend, rfl⟩
    refine if_pos ?_
    rw [Bool.and_eq_true, Bool.and_eq_true, List.isPrefixOf_iff_prefix, hfront,
      isBoundary_skip hne]
    exact ⟨⟨hstart, List.prefix_append value behind⟩, hend⟩

/-- **A name that is a word is matched where it stands as a whole word.** -/
theorem wholeWord_eq_some_iff (h : IsWordValue value) :
    wholeWord value ⟨p, cs⟩ = some n ↔ ∃ behind, cs = value ++ behind ∧ isWordAt p = false ∧
      isWordAt behind.head? = false ∧ n = value.length := by
  rw [wholeWord_eq_some_iff_boundary h.ne_nil]
  simp only [isBoundary_head?_iff h, isBoundary_getLast?_iff h]

/-- No whole word begins inside another. -/
theorem separate_wholeWord (h : IsWordValue value) : (wholeWord value).Separate := by
  intro p cs k hk a b htake ha hb
  obtain ⟨behind, rfl, -, -, rfl⟩ := (wholeWord_eq_some_iff h).mp hk
  rw [List.take_left] at htake
  rw [List.drop_left]
  cases hmatch : wholeWord value ⟨a.getLast?, b ++ behind⟩ with
  | none => rfl
  | some n =>
      -- in front of a second match would stand a character of the value
      obtain ⟨-, -, hstart, -⟩ := (wholeWord_eq_some_iff h).mp hmatch
      rw [List.getLast?_eq_some_getLast ha] at hstart
      have hword : isWord (a.getLast ha) = true :=
        h.isWord _ (htake ▸ List.mem_append_left b (List.getLast_mem ha))
      rw [isWordAt, Option.any_some, hword] at hstart
      cases hstart

/-! ## Properties -/

/-- A value is matched within so many characters, the most of them first. -/
theorem exists_of_valueWithin {s : Site} {most : Nat} (hmatch : valueWithin value s most = some n) :
    ∃ k, k ≤ most ∧ value <+: (s.skip k).rest ∧
      ((s.skip k).skip value.length).isBoundary = true ∧ n = k + value.length := by
  induction most with
  | zero =>
      rw [valueWithin] at hmatch
      split at hmatch
      · rename_i hcond
        cases hmatch
        rw [Bool.and_eq_true, List.isPrefixOf_iff_prefix] at hcond
        exact ⟨0, Nat.le_refl 0, hcond.1, hcond.2, (Nat.zero_add _).symm⟩
      · cases hmatch
  | succ most ih =>
      rw [valueWithin] at hmatch
      split at hmatch
      · rename_i hcond
        cases hmatch
        rw [Bool.and_eq_true, List.isPrefixOf_iff_prefix] at hcond
        exact ⟨most + 1, Nat.le_refl _, hcond.1, hcond.2, rfl⟩
      · obtain ⟨k, hk, hrest⟩ := ih hmatch
        exact ⟨k, Nat.le_succ_of_le hk, hrest⟩

/-- A value that stands behind the most characters is matched there. -/
theorem valueWithin_eq_some {s : Site} {most : Nat} (hstarts : value <+: (s.skip most).rest)
    (hend : ((s.skip most).skip value.length).isBoundary = true) :
    valueWithin value s most = some (most + value.length) := by
  have hcond : (value.isPrefixOf (s.skip most).rest &&
      ((s.skip most).skip value.length).isBoundary) = true := by
    rw [Bool.and_eq_true, List.isPrefixOf_iff_prefix]
    exact ⟨hstarts, hend⟩
  cases most with
  | zero =>
      rw [valueWithin, Nat.zero_add]
      exact if_pos hcond
  | succ most =>
      rw [valueWithin]
      exact if_pos hcond

/-- The blanks in front of a solid value are all that are there. -/
theorem takeWhile_isBlank_append (h : IsSolid value) {blanks : List Char}
    (hblanks : ∀ c ∈ blanks, isBlank c = true) (behind : List Char) :
    (blanks ++ (value ++ behind)).takeWhile isBlank = blanks := by
  obtain ⟨c, cs, rfl⟩ := List.exists_cons_of_ne_nil h.ne_nil
  have hc := h.not_blank c List.mem_cons_self
  rw [List.takeWhile_append_of_pos hblanks, List.cons_append,
    List.takeWhile_cons_of_neg (by rw [hc]; exact Bool.false_ne_true), List.append_nil]

/-- **A property is matched where it stands behind a dot and any blanks, and a word starts or ends
behind it.** -/
theorem property_eq_some_iff_boundary (h : IsSolid value) :
    property value ⟨p, cs⟩ = some n ↔ ∃ blanks behind, cs = '.' :: blanks ++ value ++ behind ∧
      (∀ c ∈ blanks, isBlank c = true) ∧ Text.isBoundary value.getLast? behind.head? = true ∧
      n = ('.' :: blanks ++ value).length := by
  rw [property]
  constructor
  · intro hmatch
    split at hmatch
    · rename_i rest hrest
      obtain rfl : cs = '.' :: rest := hrest
      obtain ⟨m, hm, rfl⟩ := Option.map_eq_some_iff.mp hmatch
      obtain ⟨k, hk, ⟨behind, hbehind⟩, hend, rfl⟩ := exists_of_valueWithin hm
      have hle := (List.takeWhile_prefix (p := isBlank) (l := rest)).length_le
      have hdrop : value ++ behind = rest.drop k := by
        rw [hbehind, Site.rest_skip]
        rfl
      -- the characters passed over are blanks
      obtain ⟨blanks, rfl, rfl, hblanks⟩ : ∃ blanks, blanks.length = k ∧
          rest = blanks ++ (value ++ behind) ∧ ∀ c ∈ blanks, isBlank c = true := by
        refine ⟨rest.take k, List.length_take_of_le (Nat.le_trans hk hle), ?_, fun c hc => ?_⟩
        · rw [hdrop, List.take_append_drop]
        · have htake : rest.take k <+: rest.takeWhile isBlank :=
            List.prefix_of_prefix_length_le (List.take_prefix k rest) (List.takeWhile_prefix _)
              (Nat.le_trans (List.length_take_le k rest) hk)
          exact List.all_eq_true.mp List.all_takeWhile c (htake.subset hc)
      have hsite : (Site.skip ⟨p, '.' :: (blanks ++ (value ++ behind))⟩ 1).skip blanks.length =
          ⟨blanks.getLast?.or (some '.'), value ++ behind⟩ := Site.skip_length_append _ _ _
      rw [hsite, isBoundary_skip h.ne_nil] at hend
      refine ⟨blanks, behind, by simp, hblanks, hend, ?_⟩
      rw [List.length_append, List.length_cons]
      omega
    · cases hmatch
  · rintro ⟨blanks, behind, rfl, hblanks, hend, rfl⟩
    have hsite : (Site.skip ⟨p, '.' :: (blanks ++ (value ++ behind))⟩ 1).skip blanks.length =
        ⟨blanks.getLast?.or (some '.'), value ++ behind⟩ := Site.skip_length_append _ _ _
    have hwithin : valueWithin value (Site.skip ⟨p, '.' :: (blanks ++ (value ++ behind))⟩ 1)
        blanks.length = some (blanks.length + value.length) := by
      apply valueWithin_eq_some
      · rw [hsite]
        exact List.prefix_append value behind
      · rw [hsite, isBoundary_skip h.ne_nil]
        exact hend
    have hcs : '.' :: blanks ++ value ++ behind = '.' :: (blanks ++ (value ++ behind)) := by simp
    rw [hcs]
    show (valueWithin value _ ((blanks ++ (value ++ behind)).takeWhile isBlank).length).map _ = _
    rw [takeWhile_isBlank_append h hblanks, hwithin, Option.map_some, List.length_append,
      List.length_cons, Nat.add_right_comm]

/-- No property begins inside another, since it has one dot only. -/
theorem separate_property (h : IsSolid value) : (property value).Separate := by
  intro p cs k hk a b htake ha hb
  obtain ⟨blanks, behind, rfl, hblanks, -, rfl⟩ := (property_eq_some_iff_boundary h).mp hk
  rw [List.take_left] at htake
  rw [List.drop_left]
  cases hmatch : property value ⟨a.getLast?, b ++ behind⟩ with
  | none => rfl
  | some n =>
      -- a second match would begin with a dot among the blanks or in the value
      obtain ⟨_, _, hdot, -⟩ := (property_eq_some_iff_boundary h).mp hmatch
      obtain ⟨c, cs, rfl⟩ := List.exists_cons_of_ne_nil ha
      obtain ⟨d, ds, rfl⟩ := List.exists_cons_of_ne_nil hb
      obtain ⟨rfl, hrest⟩ := List.cons.inj htake
      obtain ⟨rfl, -⟩ := List.cons.inj hdot
      have hrest : blanks ++ value = cs ++ '.' :: ds := hrest
      have hmem : '.' ∈ blanks ++ value := hrest ▸ List.mem_append_right cs List.mem_cons_self
      rcases List.mem_append.mp hmem with hmem | hmem
      · exact absurd (hblanks _ hmem) (by decide)
      · exact absurd rfl (h.ne_dot _ hmem)

end Matcher

end PolicyLint
