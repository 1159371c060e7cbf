/-
# Pages

A page is written segment by segment: plain text, comments, links that import, and scripts. The
letters of names are small or capital, each as it likes, and values stand between quotes of either
kind. A well-formed segment is the only kind that there is.

* `Html.Spelling`, `Html.Quote`, `Html.Value` : the pieces of tags;
* `Html.Segment`, `Html.Segment.text` : the segments, and how they are written;
* `Html.references` : what the segments of a page refer to, and where.
-/
import PolicyLint.Html.Import

namespace PolicyLint.Html

/-! ## Names, quotes and values -/

/-- Whether a text is a name with each of its letters as it is or capital. -/
inductive Spells : List Char → List Char → Prop where
  | nil : Spells [] []
  | cons {l c : Char} {ls cs : List Char} (letter : c = l ∨ c = l.toUpper) (rest : Spells ls cs) :
      Spells (l :: ls) (c :: cs)

/-- A name, written with each of its letters as it is or capital. -/
structure Spelling (name : List Char) where
  chars : List Char
  spells : Spells name chars

/-- A quote of either kind. -/
structure Quote where
  char : Char
  isQuote : isQuote char = true

/-- A value that can stand between quotes in a tag. -/
structure Value where
  chars : List Char
  ne_nil : chars ≠ []
  plain : ∀ c ∈ chars, c ≠ '<' ∧ c ≠ '>' ∧ isQuote c = false

variable {name : List Char}

/-- An attribute up to the quote that opens its value, with a space in front. -/
def Spelling.opening (w : Spelling name) (q : Quote) : List Char :=
  ' ' :: (w.chars ++ ['=', q.char])

/-- An attribute with its value, with a space in front. -/
def Spelling.assign (w : Spelling name) (q : Quote) (value : List Char) : List Char :=
  w.opening q ++ value ++ [q.char]

/-! ## Segments -/

/-- A segment of a page. Plain text opens no tag, and a comment ends where it says so first. -/
inductive Segment where
  | plain (text : List Char) (opensNothing : '<' ∉ text)
  | comment (body : List Char) (staysOpen : ¬ "-->".toList <:+: body)
  | link (tag : Spelling "link".toList) (rel : Spelling "rel".toList) (relQuote : Quote)
      (href : Spelling "href".toList) (quote : Quote) (value : Value)
  | script (tag : Spelling "script".toList) (src : Spelling "src".toList) (quote : Quote)
      (value : Value) (closing : Spelling "script".toList)

namespace Segment

/-- A segment as it is written. -/
def text : Segment → List Char
  | .plain text _ => text
  | .comment body _ => "<!--".toList ++ body ++ "-->".toList
  | .link tag rel relQuote href quote value =>
      '<' :: (tag.chars ++
        (rel.assign relQuote "import".toList ++ href.assign quote value.chars)) ++ ['>']
  | .script tag src quote value closing =>
      '<' :: (tag.chars ++ src.assign quote value.chars) ++ ['>'] ++
        '<' :: ('/' :: closing.chars ++ ['>'])

/-- What a link refers to when its segment starts at the given offset, and where that stands. -/
def link? (offset : Nat) : Segment → Option Span
  | .link tag rel relQuote href quote value =>
      some ⟨offset + Text.size
        ('<' :: (tag.chars ++ (rel.assign relQuote "import".toList ++ href.opening quote))),
        value.chars⟩
  | _ => none

/-- What a script refers to when its segment starts at the given offset, and where that stands. -/
def script? (offset : Nat) : Segment → Option Span
  | .script tag src quote value _ =>
      some ⟨offset + Text.size ('<' :: (tag.chars ++ src.opening quote)), value.chars⟩
  | _ => none

/-- What a segment refers to, if it is a link or a script. -/
def reference? (offset : Nat) (s : Segment) : Option Span := s.link? offset <|> s.script? offset

end Segment

/-- A page as it is written. -/
def pageText (page : List Segment) : List Char := page.flatMap Segment.text

/-- What the segments of a page give, each told the offset where it starts. -/
def collect (give : Nat → Segment → Option Span) : Nat → List Segment → List Span
  | _, [] => []
  | offset, s :: page => (give offset s).toList ++ collect give (offset + Text.size s.text) page

/-- What the segments of a page refer to, in their order. -/
def references (page : List Segment) : List Span := collect Segment.reference? 0 page

/-! ## What stands inside a tag -/

/-- A name that is not empty begins with its first letter, small or capital. -/
theorem Spelling.exists_cons {l : Char} {ls : List Char} (w : Spelling name) (h : name = l :: ls) :
    ∃ c cs, w.chars = c :: cs ∧ (c = l ∨ c = l.toUpper) := by
  subst h
  obtain ⟨_, hcs⟩ := w
  cases hcs with
  | cons hletter _ => exact ⟨_, _, rfl, hletter⟩

/-- Whether a character neither begins nor ends a tag. -/
def Inner (c : Char) : Prop := c ≠ '<' ∧ c ≠ '>'

instance (c : Char) : Decidable (Inner c) := inferInstanceAs (Decidable (c ≠ '<' ∧ c ≠ '>'))

/-- Whether a name has letters only, small and capital. -/
def Lettered (name : List Char) : Prop := ∀ l ∈ name, l.isAlpha = true ∧ l.toUpper.isAlpha = true

instance (name : List Char) : Decidable (Lettered name) :=
  List.decidableBAll (fun l : Char => l.isAlpha = true ∧ l.toUpper.isAlpha = true) name

/-- However a name of letters is written, it has letters only. -/
theorem Spelling.isAlpha (hname : Lettered name) (w : Spelling name) :
    ∀ c ∈ w.chars, c.isAlpha = true := by
  obtain ⟨cs, hcs⟩ := w
  show ∀ c ∈ cs, c.isAlpha = true
  induction hcs with
  | nil =>
      intro c hc
      cases hc
  | cons hletter _ ih =>
      have hl := hname _ List.mem_cons_self
      intro c hc
      rcases List.mem_cons.mp hc with rfl | hc
      · rcases hletter with rfl | rfl
        · exact hl.1
        · exact hl.2
      · exact ih (fun m hm => hname m (List.mem_cons_of_mem _ hm)) c hc

/-- No letter begins or ends a tag. -/
theorem inner_of_isAlpha {c : Char} (h : c.isAlpha = true) : Inner c := by
  constructor
  · rintro rfl
    exact absurd h (by decide)
  · rintro rfl
    exact absurd h (by decide)

/-- A name of letters neither begins nor ends a tag. -/
theorem Lettered.inner (hname : Lettered name) : ∀ c ∈ name, Inner c := by
  intro c hc
  exact inner_of_isAlpha (hname c hc).1

/-- The relation of a link that imports is a name of letters. -/
theorem lettered_import : Lettered "import".toList := by decide

/-- A quote is one of two characters. -/
theorem Quote.char_eq (q : Quote) : q.char = '"' ∨ q.char = '\x27' := by
  have h := q.isQuote
  rw [Html.isQuote, Bool.or_eq_true, beq_iff_eq, beq_iff_eq] at h
  exact h

/-- No quote begins or ends a tag. -/
theorem Quote.inner (q : Quote) : Inner q.char := by
  rcases q.char_eq with h | h <;> rw [h] <;> exact ⟨by decide, by decide⟩

/-- The start of an attribute neither begins nor ends a tag. -/
theorem Spelling.inner_opening (hname : Lettered name) (w : Spelling name) (q : Quote) :
    ∀ c ∈ w.opening q, Inner c := by
  intro c hc
  rw [opening, List.mem_cons, List.mem_append, List.mem_cons, List.mem_singleton] at hc
  rcases hc with rfl | hc | rfl | rfl
  · exact ⟨by decide, by decide⟩
  · exact inner_of_isAlpha (w.isAlpha hname c hc)
  · exact ⟨by decide, by decide⟩
  · exact q.inner

/-- An attribute neither begins nor ends a tag, if its value does not. -/
theorem Spelling.inner_assign (hname : Lettered name) (w : Spelling name) (q : Quote)
    {value : List Char} (hvalue : ∀ c ∈ value, Inner c) : ∀ c ∈ w.assign q value, Inner c := by
  intro c hc
  rw [assign, List.mem_append, List.mem_append, List.mem_singleton] at hc
  rcases hc with (hc | hc) | rfl
  · exact w.inner_opening hname q c hc
  · exact hvalue c hc
  · exact q.inner

/-- A value neither begins nor ends a tag. -/
theorem Value.inner (v : Value) : ∀ c ∈ v.chars, Inner c := by
  intro c hc
  exact ⟨(v.plain c hc).1, (v.plain c hc).2.1⟩

/-- Behind its opening mark a tag opens no other. -/
theorem not_mem_tag {attributes : List Char} (hname : Lettered name) (w : Spelling name)
    (hattributes : ∀ c ∈ attributes, Inner c) : '<' ∉ w.chars ++ attributes ++ ['>'] := by
  rw [List.mem_append, List.mem_append, not_or, not_or]
  refine ⟨⟨?_, ?_⟩, by decide⟩
  · intro hmem
    exact (inner_of_isAlpha (w.isAlpha hname _ hmem)).1 rfl
  · intro hmem
    exact (hattributes _ hmem).1 rfl

/-- The attributes of a link neither begin nor end a tag, if its relation does not. -/
theorem inner_link (rel : Spelling "rel".toList) (relQuote : Quote) (href : Spelling "href".toList)
    (quote : Quote) {relation : List Char} (hrelation : ∀ c ∈ relation, Inner c) (value : Value) :
    ∀ c ∈ rel.assign relQuote relation ++ href.assign quote value.chars, Inner c := by
  intro c hc
  rcases List.mem_append.mp hc with hc | hc
  · exact rel.inner_assign (by decide) relQuote hrelation c hc
  · exact href.inner_assign (by decide) quote value.inner c hc

/-- The attribute of a script neither begins nor ends a tag. -/
theorem inner_script (src : Spelling "src".toList) (quote : Quote) (value : Value) :
    ∀ c ∈ src.assign quote value.chars, Inner c :=
  src.inner_assign (by decide) quote value.inner

/-- The end of a script opens no other tag. -/
theorem not_mem_closing (closing : Spelling "script".toList) :
    '<' ∉ '/' :: (closing.chars ++ ['>']) := by
  have hopens := not_mem_tag (by decide) closing (List.forall_mem_nil Inner)
  rw [List.append_nil] at hopens
  rw [List.mem_cons, not_or]
  exact ⟨by decide, hopens⟩

/-! ## The place of a reference -/

/-- A reference of a segment is a value that stands in it where the reference says. -/
theorem Segment.exists_text_of_reference? {offset : Nat} {s : Segment} {r : Span}
    (h : s.reference? offset = some r) :
    ∃ (before behind : List Char) (value : Value), s.text = before ++ value.chars ++ behind ∧
      r = ⟨offset + Text.size before, value.chars⟩ := by
  cases s with
  | plain text h' => cases h
  | comment body h' => cases h
  | link tag rel relQuote href quote value =>
      cases h
      refine ⟨_, [quote.char, '>'], value, ?_, rfl⟩
      simp [text, Spelling.assign]
  | script tag src quote value closing =>
      cases h
      refine ⟨_, [quote.char, '>'] ++ '<' :: ('/' :: closing.chars ++ ['>']), value, ?_, rfl⟩
      simp [text, Spelling.assign]

/-- The references of the segments from an offset on stand in their text where they say. -/
theorem exists_text_of_mem_collect {page : List Segment} {offset : Nat} {r : Span}
    (h : r ∈ collect Segment.reference? offset page) :
    ∃ before behind, pageText page = before ++ r.text ++ behind ∧
      r.offset = offset + Text.size before := by
  induction page generalizing offset with
  | nil => cases h
  | cons s page ih =>
      rw [collect, List.mem_append, Option.mem_toList] at h
      rw [pageText, List.flatMap_cons, ← pageText]
      rcases h with h | h
      · obtain ⟨before, behind, value, htext, rfl⟩ := Segment.exists_text_of_reference? h
        refine ⟨before, behind ++ pageText page, ?_, rfl⟩
        rw [htext, List.append_assoc]
      · obtain ⟨before, behind, htext, hoffset⟩ := ih h
        refine ⟨s.text ++ before, behind, ?_, ?_⟩
        · rw [htext, List.append_assoc, List.append_assoc, List.append_assoc]
        · rw [hoffset, Text.size_append, Nat.add_assoc]

/-- **A reference of a page stands in its text where it says.** -/
theorem exists_pageText_of_mem_references {page : List Segment} {r : Span}
    (h : r ∈ references page) :
    ∃ before behind, pageText page = before ++ r.text ++ behind ∧ r.offset = Text.size before := by
  obtain ⟨before, behind, htext, hoffset⟩ := exists_text_of_mem_collect h
  exact ⟨before, behind, htext, hoffset.trans (Nat.zero_add _)⟩

/-! ## The order of references -/

/-- A reference of a segment stands inside it. -/
theorem Segment.offset_reference? {offset : Nat} {s : Segment} {r : Span}
    (h : s.reference? offset = some r) :
    offset ≤ r.offset ∧ r.offset < offset + Text.size s.text := by
  obtain ⟨before, behind, value, htext, rfl⟩ := exists_text_of_reference? h
  have hvalue : Text.size value.chars ≠ 0 := by
    intro hzero
    exact value.ne_nil ((Text.size_eq_zero_iff _).mp hzero)
  rw [htext, Text.size_append, Text.size_append]
  constructor
  · exact Nat.le_add_right _ _
  · show offset + Text.size before < _
    omega

/-- The references of a page stand at or behind its start. -/
theorem le_offset_of_mem_collect {page : List Segment} {offset : Nat} {r : Span}
    (h : r ∈ collect Segment.reference? offset page) : offset ≤ r.offset := by
  induction page generalizing offset with
  | nil => cases h
  | cons s page ih =>
      rw [collect, List.mem_append, Option.mem_toList] at h
      rcases h with h | h
      · exact (Segment.offset_reference? h).1
      · exact Nat.le_trans (Nat.le_add_right _ _) (ih h)

/-- **The references of a page stand one behind the other**, no two of them at one place. -/
theorem pairwise_collect (page : List Segment) (offset : Nat) :
    (collect Segment.reference? offset page).Pairwise fun r t => r.offset < t.offset := by
  induction page generalizing offset with
  | nil => exact .nil
  | cons s page ih =>
      rw [collect, List.pairwise_append]
      refine ⟨?_, ih _, ?_⟩
      · cases s.reference? offset with
        | none => exact .nil
        | some r => exact List.pairwise_singleton _ _
      · intro r hr t ht
        -- the reference of a segment stands inside it, and the segments that follow begin behind it
        have hinside := (Segment.offset_reference? (Option.mem_toList.mp hr)).2
        have hbehind := le_offset_of_mem_collect ht
        omega

/-- The references of a page are those of its links and those of its scripts. -/
theorem collect_perm (page : List Segment) (offset : Nat) :
    (collect Segment.link? offset page ++ collect Segment.script? offset page).Perm
      (collect Segment.reference? offset page) := by
  induction page generalizing offset with
  | nil => exact .refl _
  | cons s page ih =>
      have hs : (s.reference? offset).toList =
          (s.link? offset).toList ++ (s.script? offset).toList := by
        cases s <;> rfl
      simp only [collect, hs, List.append_assoc]
      refine List.Perm.append_left _ ?_
      rw [← List.append_assoc]
      refine (List.perm_append_comm.append_right _).trans ?_
      rw [List.append_assoc]
      exact (ih _).append_left _

end PolicyLint.Html
