/-
# The references of a page

The references that are found in a page are those of its links and its scripts, in the order of the
page and with the places where they stand. Comments give none, whatever they say.

* `Html.filterMap_spansFrom_masked` : a search through a page goes segment by segment;
* `Html.linkImports_masked`, `Html.scriptImports_masked` : what the two searches find;
* `Html.imports_pageText` : the references of a page.
-/
import PolicyLint.Proofs.Html.Attributes
import PolicyLint.Proofs.Text.Search

namespace PolicyLint.Html

/-! ## Searching a page -/

/-- A search through a page whose comments are blanked finds what its segments give, if it finds at
the start of any text what the first segment gives. -/
theorem filterMap_spansFrom_masked {m : Matcher} (hm : m.Forward) {pick : Span → Option Span}
    {give : Nat → Segment → Option Span}
    (hfirst : ∀ (s : Segment) (rest : List Char) (offset : Nat),
      (m.spansFrom offset true ⟨none, s.masked ++ rest⟩).filterMap pick =
        (give offset s).toList ++
          (m.spansFrom (offset + Text.size s.text) true ⟨none, rest⟩).filterMap pick)
    (page : List Segment) (offset : Nat) :
    (m.spansFrom offset true ⟨none, page.flatMap Segment.masked⟩).filterMap pick =
      collect give offset page := by
  induction page generalizing offset with
  | nil =>
      rw [List.flatMap_nil, Matcher.spansFrom, hm.nil]
      rfl
  | cons s page ih => rw [List.flatMap_cons, hfirst, ih, collect]

/-- A search for tags passes over a blanked comment. -/
theorem spansFrom_comment {name : List Char} (body rest : List Char)
    (h : ¬ "-->".toList <:+: body) (offset : Nat) :
    (tag name).spansFrom offset true ⟨none, (Segment.comment body h).masked ++ rest⟩ =
      (tag name).spansFrom (offset + Text.size (Segment.comment body h).text) true
        ⟨none, rest⟩ := by
  rw [← Segment.size_masked]
  exact spansFrom_append_of_no_tag _ rest (not_mem_flatMap_blank (by decide) _) offset

/-- A search for tags passes over the end of a script. -/
theorem spansFrom_closing {name : List Char} (hname : ∀ cs, stripName? name ('/' :: cs) = none)
    (closing : Spelling "script".toList) (rest : List Char) (offset : Nat) :
    (tag name).spansFrom offset true ⟨none, '<' :: ('/' :: closing.chars ++ ['>']) ++ rest⟩ =
      (tag name).spansFrom (offset + Text.size ('<' :: ('/' :: closing.chars ++ ['>']))) true
        ⟨none, rest⟩ :=
  spansFrom_append_of_stripName? _ rest (not_mem_closing closing) (hname _) offset

/-! ## Links -/

/-- The reference of a link, if it imports. -/
def linkReference (t : Span) : Option Span :=
  if relatesImport t.text then attribute? "href".toList t.offset t.text else none

/-- A link with any relation and anything that it refers to. -/
def linkText (tag : Spelling "link".toList) (rel : Spelling "rel".toList) (relQuote : Quote)
    (href : Spelling "href".toList) (quote : Quote) (relation value : List Char) : List Char :=
  '<' :: (tag.chars ++ (rel.assign relQuote relation ++ href.assign quote value)) ++ ['>']

/-- What a link refers to is the first attribute with the name, if its relation has no blanks. -/
theorem attribute?_linkText (tag : Spelling "link".toList) (rel : Spelling "rel".toList)
    (relQuote : Quote) (href : Spelling "href".toList) (quote : Quote) {relation : List Char}
    (hblank : ∀ c ∈ relation, Text.isBlank c = false) (value : Value) (offset : Nat) :
    attribute? "href".toList offset
        (linkText tag rel relQuote href quote relation value.chars) =
      some ⟨offset + Text.size
        ('<' :: (tag.chars ++ (rel.assign relQuote relation ++ href.opening quote))),
          value.chars⟩ := by
  have htext : linkText tag rel relQuote href quote relation value.chars =
      ('<' :: tag.chars) ++
        (rel.assign relQuote relation ++ (href.assign quote value.chars ++ ['>'])) := by
    simp [linkText]
  rw [htext, attribute?_tag (by decide),
    attribute?_other (by decide) (by decide) rel relQuote hblank, attribute?_assign]
  simp [Nat.add_assoc]

/-- **The reference of a link is read back**, with its place. -/
theorem linkReference_text (tag : Spelling "link".toList) (rel : Spelling "rel".toList)
    (relQuote : Quote) (href : Spelling "href".toList) (quote : Quote) (value : Value)
    (offset : Nat) :
    linkReference ⟨offset, (Segment.link tag rel relQuote href quote value).text⟩ =
      (Segment.link tag rel relQuote href quote value).link? offset := by
  have htext : (Segment.link tag rel relQuote href quote value).text = ('<' :: tag.chars) ++
      (rel.assign relQuote "import".toList ++ (href.assign quote value.chars ++ ['>'])) := by
    simp [Segment.text]
  have hrel : relatesImport (Segment.link tag rel relQuote href quote value).text = true := by
    rw [htext]
    exact relatesImport_append _ _ (relatesImport_assign rel relQuote _)
  unfold linkReference
  dsimp only
  rw [if_pos hrel]
  exact attribute?_linkText tag rel relQuote href quote lettered_import.isBlank value offset

/-- The search for links finds at the start of a text what the first segment gives. -/
theorem filterMap_linkReference (s : Segment) (rest : List Char) (offset : Nat) :
    ((tag "link".toList).spansFrom offset true ⟨none, s.masked ++ rest⟩).filterMap linkReference =
      (s.link? offset).toList ++
        ((tag "link".toList).spansFrom (offset + Text.size s.text) true
          ⟨none, rest⟩).filterMap linkReference := by
  cases s with
  | plain text h => exact congrArg _ (spansFrom_append_of_no_tag text rest h offset)
  | comment body h => exact congrArg _ (spansFrom_comment body rest h offset)
  | link tag rel relQuote href quote value =>
      -- the tag is found as a whole, and then its attributes are read
      have hinner := inner_link rel relQuote href quote lettered_import.inner value
      have hsearch := spansFrom_tag tag rfl hinner rest offset
      refine (congrArg (List.filterMap linkReference) hsearch).trans ?_
      rw [List.filterMap_cons_some]
      · rfl
      · exact linkReference_text tag rel relQuote href quote value offset
  | script tag src quote value closing =>
      -- neither of the two tags of a script is one of a link
      have hapart : apart "link".toList "script".toList = true := by decide
      have hopen := spansFrom_other (by decide) hapart tag (inner_script src quote value)
        ('<' :: ('/' :: closing.chars ++ ['>']) ++ rest) offset
      rw [spansFrom_closing (fun _ => rfl) closing rest, Nat.add_assoc, ← Text.size_append] at hopen
      have htext : (Segment.script tag src quote value closing).masked ++ rest =
          '<' :: (tag.chars ++ src.assign quote value.chars) ++ ['>'] ++
            ('<' :: ('/' :: closing.chars ++ ['>']) ++ rest) := List.append_assoc _ _ _
      rw [htext]
      exact congrArg _ hopen

/-! ## Scripts -/

/-- The reference of a script. -/
def scriptReference (t : Span) : Option Span := attribute? "src".toList t.offset t.text

/-- **The reference of a script is read back**, with its place. -/
theorem scriptReference_tag (tag : Spelling "script".toList) (src : Spelling "src".toList)
    (quote : Quote) (value : Value) (closing : Spelling "script".toList) (offset : Nat) :
    scriptReference ⟨offset, '<' :: (tag.chars ++ src.assign quote value.chars) ++ ['>']⟩ =
      (Segment.script tag src quote value closing).script? offset := by
  have htext : '<' :: (tag.chars ++ src.assign quote value.chars) ++ ['>'] =
      ('<' :: tag.chars) ++ (src.assign quote value.chars ++ ['>']) := by
    simp
  unfold scriptReference
  dsimp only
  rw [htext, attribute?_tag (by decide), attribute?_assign]
  simp [Segment.script?, Nat.add_assoc]

/-- The search for scripts finds at the start of a text what the first segment gives. -/
theorem filterMap_scriptReference (s : Segment) (rest : List Char) (offset : Nat) :
    ((tag "script".toList).spansFrom offset true
        ⟨none, s.masked ++ rest⟩).filterMap scriptReference =
      (s.script? offset).toList ++
        ((tag "script".toList).spansFrom (offset + Text.size s.text) true
          ⟨none, rest⟩).filterMap scriptReference := by
  cases s with
  | plain text h => exact congrArg _ (spansFrom_append_of_no_tag text rest h offset)
  | comment body h => exact congrArg _ (spansFrom_comment body rest h offset)
  | link tag rel relQuote href quote value =>
      exact congrArg _ (spansFrom_other (by decide) (by decide) tag
        (inner_link rel relQuote href quote lettered_import.inner value) rest offset)
  | script tag src quote value closing =>
      have hopen := spansFrom_tag tag rfl (inner_script src quote value)
        ('<' :: ('/' :: closing.chars ++ ['>']) ++ rest) offset
      rw [spansFrom_closing (fun _ => rfl) closing rest, Nat.add_assoc, ← Text.size_append] at hopen
      have htext : (Segment.script tag src quote value closing).masked ++ rest =
          '<' :: (tag.chars ++ src.assign quote value.chars) ++ ['>'] ++
            ('<' :: ('/' :: closing.chars ++ ['>']) ++ rest) := List.append_assoc _ _ _
      rw [htext]
      refine (congrArg (List.filterMap scriptReference) hopen).trans ?_
      rw [List.filterMap_cons_some]
      · rfl
      · exact scriptReference_tag tag src quote value closing offset

/-! ## All references -/

/-- The links of a page that are found are those that it has. -/
theorem linkImports_masked (page : List Segment) :
    linkImports (page.flatMap Segment.masked) = collect Segment.link? 0 page :=
  filterMap_spansFrom_masked (forward_tag _) filterMap_linkReference page 0

/-- The scripts of a page that are found are those that it has. -/
theorem scriptImports_masked (page : List Segment) :
    scriptImports (page.flatMap Segment.masked) = collect Segment.script? 0 page :=
  filterMap_spansFrom_masked (forward_tag _) filterMap_scriptReference page 0

/-- Sorting by place puts references in the only order in which they stand one behind the other. -/
theorem mergeSort_eq_of_perm {found refs : List Span} (hperm : found.Perm refs)
    (hrefs : refs.Pairwise fun r t => r.offset < t.offset) :
    (found.mergeSort fun r t => r.offset ≤ t.offset) = refs := by
  have hsame := (List.mergeSort_perm found fun r t => decide (r.offset ≤ t.offset)).trans hperm
  -- no two references stand at one place, in whatever order they come
  have hplaces := (hperm.pairwise_iff Ne.symm).mpr (hrefs.imp Nat.ne_of_lt)
  have hstrict := List.pairwise_lt_mergeSort Span.offset hplaces
  apply List.Perm.eq_of_pairwise _ hstrict hrefs hsame
  intro r t _ _ hrt htr
  omega

/-- **The references of a page are read back from its text**: each link and each script gives what
it refers to and the place where that stands, in the order of the page, and nothing else does. -/
theorem imports_pageText (page : List Segment) : imports (pageText page) = references page := by
  unfold imports
  dsimp only
  rw [blankComments_pageText, linkImports_masked, scriptImports_masked]
  exact mergeSort_eq_of_perm (collect_perm page 0) (pairwise_collect page 0)

end PolicyLint.Html
