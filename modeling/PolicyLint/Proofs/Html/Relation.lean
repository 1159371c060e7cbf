/-
# What links relate to

A link imports if its relation does. Of a tag it is only asked whether, anywhere behind a blank, the
name of the attribute is followed by a value that begins as it should, with a quote in front or
without. So three kinds of links count as imports: those whose relation begins with `import`, as it
may go on; and those that have such an attribute written out in their relation, or in what they
refer to.

* `Html.StartsImport`, `Html.HasRelation` : what is looked for in the values of a link;
* `Html.relatesImport_linkText` : where it is found in a link;
* `Html.imports_surrounded` : the references of a text with one link;
* `Html.imports_link` : when there is one;
* `Html.imports_importance` : links that do not import, but count.
-/
import PolicyLint.Proofs.Html.Places

namespace PolicyLint.Html

variable {name cs rest : List Char} {q : Char}

/-! ## Names -/

/-- A letter of a name is no quote, in whatever form. -/
theorem Lettered.sameLetter_quote (hname : Lettered name) (q : Quote) :
    ∀ l ∈ name, sameLetter l q.char = false := by
  have hquote : q.char.isAlpha = false ∧ q.char ≠ '\u212a' ∧ q.char ≠ '\u017f' := by
    rcases q.char_eq with h | h <;> rw [h] <;> decide
  intro l hl
  have hletter : q.char ≠ l := by
    rintro rfl
    exact absurd (hname _ hl).1 (by rw [hquote.1]; exact Bool.false_ne_true)
  have hcapital : q.char ≠ l.toUpper := by
    intro hupper
    exact absurd (hname l hl).2 (by rw [← hupper, hquote.1]; exact Bool.false_ne_true)
  simp [sameLetter, hletter, hcapital, hquote.2]

/-- **What is left of a text without a name** follows the name, in any case of letters, if no letter
of the name has more forms than two. -/
theorem stripName?_eq_some_iff (hname : 'k' ∉ name ∧ 's' ∉ name) :
    stripName? name cs = some rest ↔ ∃ w : Spelling name, cs = w.chars ++ rest := by
  refine ⟨fun h => ?_, fun ⟨w, hw⟩ => hw ▸ stripName?_append w rest⟩
  induction name generalizing cs with
  | nil =>
      cases h
      exact ⟨⟨[], .nil⟩, rfl⟩
  | cons l ls ih =>
      simp only [List.mem_cons, not_or] at hname
      cases cs with
      | nil => cases h
      | cons c cs =>
          rw [stripName?] at h
          split at h
          · rename_i hletter
            obtain ⟨w, rfl⟩ := ih ⟨hname.1.2, hname.2.2⟩ h
            have hc := (sameLetter_iff (Ne.symm hname.1.1) (Ne.symm hname.2.1)).mp hletter
            exact ⟨⟨c :: w.chars, .cons hc w.spells⟩, rfl⟩
          · cases h

/-- Where a name does not go through a character, it is stripped of the text in front of that or not
at all. -/
theorem stripName?_append_cons (hq : ∀ l ∈ name, sameLetter l q = false) :
    stripName? name (cs ++ q :: rest) = (stripName? name cs).map (· ++ q :: rest) := by
  induction name generalizing cs with
  | nil => rfl
  | cons l ls ih =>
      rw [List.forall_mem_cons] at hq
      cases cs with
      | nil => exact if_neg (by rw [hq.1]; exact Bool.false_ne_true)
      | cons c cs =>
          rw [List.cons_append, stripName?, stripName?]
          split
          · exact ih hq.2
          · rfl

/-- The same for a name with the sign behind it and all blanks. -/
theorem stripAssignment?_append_cons (hq : ∀ l ∈ name, sameLetter l q = false)
    (hblank : Text.isBlank q = false) (hsign : q ≠ '=') :
    stripAssignment? name (cs ++ q :: rest) =
      (stripAssignment? name cs).map (· ++ q :: rest) := by
  have hdrop (as : List Char) : (as ++ q :: rest).dropWhile Text.isBlank =
      as.dropWhile Text.isBlank ++ q :: rest := by
    rw [List.dropWhile_append]
    split
    · rename_i hempty
      rw [List.isEmpty_iff.mp hempty, List.nil_append]
      exact List.dropWhile_cons_of_neg (by rw [hblank]; exact Bool.false_ne_true)
    · rfl
  rw [stripAssignment?, stripAssignment?, stripName?_append_cons hq]
  cases stripName? name cs with
  | none => rfl
  | some behind =>
      simp only [Option.map_some, Option.bind_eq_bind, Option.bind_some, hdrop]
      cases hbehind : behind.dropWhile Text.isBlank with
      | nil =>
          rw [List.nil_append]
          split
          · rename_i heq
            exact absurd (List.cons.inj heq).1 hsign
          · rfl
      | cons c more =>
          rw [List.cons_append]
          by_cases hc : c = '='
          · subst hc
            simp only [hdrop, Option.map_some]
          · split
            · rename_i heq
              exact absurd (List.cons.inj heq).1 hc
            · split
              · rename_i heq
                exact absurd (List.cons.inj heq).1 hc
              · rfl

/-- **A name with a sign is stripped** of the text with all blanks around the sign. -/
theorem stripAssignment?_eq_some_iff (hname : 'k' ∉ name ∧ 's' ∉ name) :
    stripAssignment? name cs = some rest ↔
      ∃ (w : Spelling name) (left right : List Char),
        cs = w.chars ++ (left ++ '=' :: (right ++ rest)) ∧
          (∀ c ∈ left, Text.isBlank c = true) ∧ (∀ c ∈ right, Text.isBlank c = true) ∧
          ∀ c ∈ rest.head?, Text.isBlank c = false := by
  constructor
  · intro h
    obtain ⟨left, right, hbehind, hleft, hright, hrest⟩ := exists_of_stripAssignment? h
    obtain ⟨w, rfl⟩ := (stripName?_eq_some_iff hname).mp hbehind
    exact ⟨w, left, right, rfl, hleft, hright, hrest⟩
  · rintro ⟨w, left, right, rfl, hleft, hright, hrest⟩
    have hsign : (left ++ '=' :: (right ++ rest)).dropWhile Text.isBlank =
        '=' :: (right ++ rest) := by
      rw [List.dropWhile_append_of_pos hleft, List.dropWhile_cons_of_neg (by decide)]
    have hvalue : (right ++ rest).dropWhile Text.isBlank = rest := by
      rw [List.dropWhile_append_of_pos hright]
      cases rest with
      | nil => rfl
      | cons c more =>
          exact List.dropWhile_cons_of_neg (by rw [hrest c rfl]; exact Bool.false_ne_true)
    simp only [stripAssignment?, stripName?_append, Option.bind_eq_bind, Option.bind_some, hsign,
      hvalue]

/-! ## What is looked for -/

/-- Whether a text begins with `import`, in any case of letters. -/
def StartsImport (cs : List Char) : Prop := ∃ w : Spelling "import".toList, w.chars <+: cs

/-- Whether a text begins with `rel` in any case of letters, a sign with any blanks around it, and
`import`. -/
def StartsRelation (cs : List Char) : Prop :=
  ∃ (rel : Spelling "rel".toList) (left right value : List Char),
    cs = rel.chars ++ (left ++ '=' :: (right ++ value)) ∧
      (∀ c ∈ left, Text.isBlank c = true) ∧ (∀ c ∈ right, Text.isBlank c = true) ∧
      StartsImport value

/-- Whether a text has, anywhere behind a blank, an attribute `rel` without quotes that begins with
`import`. -/
def HasRelation (cs : List Char) : Prop :=
  ∃ b rest, Text.isBlank b = true ∧ StartsRelation rest ∧ b :: rest <:+ cs

/-- Whether a text can stand between quotes in a tag. -/
def IsPlain (cs : List Char) : Prop := ∀ c ∈ cs, c ≠ '<' ∧ c ≠ '>' ∧ isQuote c = false

instance (cs : List Char) : Decidable (IsPlain cs) :=
  List.decidableBAll (fun c : Char => c ≠ '<' ∧ c ≠ '>' ∧ isQuote c = false) cs

/-- What can stand between quotes in a tag neither begins nor ends a tag. -/
theorem IsPlain.inner (hplain : IsPlain cs) : ∀ c ∈ cs, Inner c :=
  fun c hc => ⟨(hplain c hc).1, (hplain c hc).2.1⟩

/-- A name is stripped of what begins with it. -/
theorem startsImport_iff : StartsImport cs ↔ (stripName? "import".toList cs).isSome = true := by
  rw [Option.isSome_iff_exists]
  constructor
  · rintro ⟨w, rest, rfl⟩
    exact ⟨rest, stripName?_append w rest⟩
  · rintro ⟨rest, hrest⟩
    obtain ⟨w, rfl⟩ := (stripName?_eq_some_iff (by decide)).mp hrest
    exact ⟨w, rest, rfl⟩

/-- What begins with `import` does not begin with a blank or with a quote. -/
theorem StartsImport.exists_cons (h : StartsImport cs) :
    ∃ c more, cs = c :: more ∧ Text.isBlank c = false ∧ isQuote c = false := by
  obtain ⟨w, rest, rfl⟩ := h
  obtain ⟨c, more, hw, hc⟩ := w.exists_cons rfl
  refine ⟨c, more ++ rest, by rw [hw]; rfl, ?_⟩
  rcases hc with rfl | rfl <;> decide

/-- Where no quote stands in front, a value is asked for `import` at its start. -/
theorem beginsImport_iff (hquote : ∀ c ∈ cs.head?, isQuote c = false) :
    beginsImport cs = true ↔ StartsImport cs := by
  cases cs with
  | nil =>
      refine iff_of_false Bool.false_ne_true fun h => ?_
      obtain ⟨c, more, hcons, -⟩ := h.exists_cons
      cases hcons
  | cons c cs => rw [beginsImport, hquote c rfl, if_neg Bool.false_ne_true, startsImport_iff]

/-- An attribute `rel` is read where it is written. -/
theorem startsRelation_iff (hplain : IsPlain cs) :
    (stripAssignment? "rel".toList cs).any beginsImport = true ↔ StartsRelation cs := by
  rw [Option.any_eq_true]
  constructor
  · rintro ⟨value, hvalue, hbegins⟩
    obtain ⟨rel, left, right, rfl, hleft, hright, -⟩ :=
      (stripAssignment?_eq_some_iff (by decide)).mp hvalue
    refine ⟨rel, left, right, value, rfl, hleft, hright,
      (beginsImport_iff fun c hc => ?_).mp hbegins⟩
    exact (hplain c ((suffix_of_stripAssignment? hvalue).subset (List.mem_of_mem_head? hc))).2.2
  · rintro ⟨rel, left, right, value, rfl, hleft, hright, himport⟩
    obtain ⟨c, more, rfl, hblank, hquote⟩ := himport.exists_cons
    refine ⟨c :: more, (stripAssignment?_eq_some_iff (by decide)).mpr
      ⟨rel, left, right, rfl, hleft, hright, ?_⟩, (beginsImport_iff ?_).mpr himport⟩
    · rintro _ ⟨⟩
      exact hblank
    · rintro _ ⟨⟩
      exact hquote

/-- **A text without quotes imports** if it has such an attribute. -/
theorem relatesImport_iff (hplain : IsPlain cs) : relatesImport cs = true ↔ HasRelation cs := by
  induction cs with
  | nil =>
      refine iff_of_false Bool.false_ne_true ?_
      rintro ⟨b, rest, -, -, hsuffix⟩
      exact List.cons_ne_nil _ _ (List.suffix_nil.mp hsuffix)
  | cons c cs ih =>
      have hrest : IsPlain cs := fun d hd => hplain d (List.mem_cons_of_mem c hd)
      rw [relatesImport, Bool.or_eq_true, Bool.and_eq_true, ih hrest, startsRelation_iff hrest]
      constructor
      · rintro (⟨hblank, hstarts⟩ | ⟨b, rest, hb, hstarts, hsuffix⟩)
        · exact ⟨c, cs, hblank, hstarts, List.suffix_rfl⟩
        · exact ⟨b, rest, hb, hstarts, hsuffix.trans (List.suffix_cons c cs)⟩
      · rintro ⟨b, rest, hb, hstarts, hsuffix⟩
        rcases List.suffix_cons_iff.mp hsuffix with heq | hsuffix
        · cases heq
          exact .inl ⟨hb, hstarts⟩
        · exact .inr ⟨b, rest, hb, hstarts, hsuffix⟩

/-! ## Links -/

variable {relation value : List Char}

/-- A value begins with `import` or not, whatever follows behind a quote, if that does not. -/
theorem beginsImport_append_cons (hquote : ∀ c ∈ value.head?, isQuote c = false) (q : Quote)
    (hrest : ¬ StartsImport rest) :
    beginsImport (value ++ q.char :: rest) = beginsImport value := by
  cases value with
  | nil =>
      rw [startsImport_iff, Bool.not_eq_true] at hrest
      rw [List.nil_append, beginsImport, q.isQuote, if_pos rfl, hrest, beginsImport]
  | cons c more =>
      have hc := hquote c rfl
      rw [List.cons_append, beginsImport, beginsImport, hc, if_neg Bool.false_ne_true,
        if_neg Bool.false_ne_true, ← List.cons_append,
        stripName?_append_cons (lettered_import.sameLetter_quote q), Option.isSome_map]

/-- A text up to a quote imports, or what follows does, if that does not begin with `import`: no
attribute goes through the quote but one whose value would begin behind it. -/
theorem relatesImport_append_cons (hquote : ∀ c ∈ cs, isQuote c = false) (q : Quote)
    (hrest : ¬ StartsImport rest) :
    relatesImport (cs ++ q.char :: rest) = (relatesImport cs || relatesImport rest) := by
  have hsign : q.char ≠ '=' := by
    rcases q.char_eq with h | h <;> rw [h] <;> decide
  have hrel := (show Lettered "rel".toList by decide).sameLetter_quote q
  induction cs with
  | nil => simp [relatesImport, q.isBlank]
  | cons c cs ih =>
      rw [List.forall_mem_cons] at hquote
      have hvalue : ((stripAssignment? "rel".toList cs).map (· ++ q.char :: rest)).any
          beginsImport = (stripAssignment? "rel".toList cs).any beginsImport := by
        cases hsome : stripAssignment? "rel".toList cs with
        | none => rfl
        | some value =>
            refine beginsImport_append_cons (fun d hd => hquote.2 d ?_) q hrest
            exact (suffix_of_stripAssignment? hsome).subset (List.mem_of_mem_head? hd)
      rw [List.cons_append, relatesImport, relatesImport, ih hquote.2,
        stripAssignment?_append_cons hrel q.isBlank hsign, hvalue, Bool.or_assoc]

/-- Text without blanks in front has no part in whether a text imports. -/
theorem relatesImport_append_of_not_blank (h : ∀ c ∈ cs, Text.isBlank c = false) :
    relatesImport (cs ++ rest) = relatesImport rest := by
  induction cs with
  | nil => rfl
  | cons c cs ih =>
      rw [List.forall_mem_cons] at h
      rw [List.cons_append, relatesImport, h.1, Bool.false_and, Bool.false_or, ih h.2]

/-- An attribute as it is written. -/
theorem assign_append (w : Spelling name) (q : Quote) (value rest : List Char) :
    w.assign q value ++ rest = ' ' :: (w.chars ++ '=' :: q.char :: (value ++ q.char :: rest)) := by
  simp [Spelling.assign, Spelling.opening]

/-- Behind the space in front of it an attribute imports if its value does, or what follows. -/
theorem relatesImport_value (hname : Lettered name) (w : Spelling name) (q : Quote)
    (hvalue : IsPlain value) (hrest : ¬ StartsImport rest) :
    relatesImport (w.chars ++ '=' :: q.char :: (value ++ q.char :: rest)) =
      (relatesImport value || relatesImport rest) := by
  have hplain : ∀ c ∈ w.chars ++ ['=', q.char], Text.isBlank c = false := by
    intro c hc
    simp only [List.mem_append, List.mem_cons, List.not_mem_nil, or_false] at hc
    rcases hc with hc | rfl | rfl
    · exact isBlank_of_isAlpha (w.isAlpha hname c hc)
    · decide
    · exact q.isBlank
  have htext : w.chars ++ '=' :: q.char :: (value ++ q.char :: rest) =
      (w.chars ++ ['=', q.char]) ++ (value ++ q.char :: rest) := by
    simp
  rw [htext, relatesImport_append_of_not_blank hplain,
    relatesImport_append_cons (fun c hc => (hvalue c hc).2.2) q hrest]

/-- **An attribute with another name imports** if its value does, or what follows. -/
theorem relatesImport_assign_other (hname : Lettered name) (h : apart "rel".toList name = true)
    (w : Spelling name) (q : Quote) (hvalue : IsPlain value) (hrest : ¬ StartsImport rest) :
    relatesImport (w.assign q value ++ rest) = (relatesImport value || relatesImport rest) := by
  have hother (behind : List Char) :
      stripAssignment? "rel".toList (w.chars ++ behind) = none := by
    rw [stripAssignment?, stripName?_other h]
    rfl
  rw [assign_append, relatesImport, hother, Option.any_none, Bool.and_false, Bool.false_or,
    relatesImport_value hname w q hvalue hrest]

/-- **A relation imports** if it begins with `import`, or if an attribute in it does, or what
follows. -/
theorem relatesImport_assign_rel (w : Spelling "rel".toList) (q : Quote) (hvalue : IsPlain value)
    (hrest : ¬ StartsImport rest) :
    relatesImport (w.assign q value ++ rest) =
      ((stripName? "import".toList value).isSome || relatesImport value || relatesImport rest) := by
  have hbegins : beginsImport (q.char :: (value ++ q.char :: rest)) =
      (stripName? "import".toList value).isSome := by
    rw [beginsImport, q.isQuote, if_pos rfl,
      stripName?_append_cons (lettered_import.sameLetter_quote q), Option.isSome_map]
  have hspace : Text.isBlank ' ' = true := by decide
  rw [assign_append, relatesImport, hspace, Bool.true_and, stripAssignment?_append,
    Option.any_some, hbegins, relatesImport_value (by decide) w q hvalue hrest, Bool.or_assoc]

variable (tag : Spelling "link".toList) (rel : Spelling "rel".toList) (relQuote : Quote)
  (href : Spelling "href".toList) (quote : Quote)

/-- **Where a link imports**: its relation begins with `import`, or has an attribute that says so,
or what it refers to has one. -/
theorem relatesImport_linkText (hrelation : IsPlain relation) (hvalue : IsPlain value) :
    relatesImport (linkText tag rel relQuote href quote relation value) = true ↔
      StartsImport relation ∨ HasRelation relation ∨ HasRelation value := by
  have htext : linkText tag rel relQuote href quote relation value =
      ('<' :: tag.chars) ++
        (rel.assign relQuote relation ++ (href.assign quote value ++ ['>'])) := by
    simp [linkText]
  have htag : ∀ c ∈ '<' :: tag.chars, Text.isBlank c = false := by
    rw [List.forall_mem_cons]
    exact ⟨by decide, fun c hc => isBlank_of_isAlpha (tag.isAlpha (by decide) c hc)⟩
  have hhref : ¬ StartsImport (href.assign quote value ++ ['>']) := by
    intro h
    obtain ⟨c, more, hcons, hblank, -⟩ := h.exists_cons
    rw [assign_append] at hcons
    cases hcons
    exact absurd hblank (by decide)
  have hend : ¬ StartsImport ['>'] := by
    rw [startsImport_iff]
    decide
  have hnothing : relatesImport ['>'] = false := by decide
  rw [htext, relatesImport_append_of_not_blank htag, relatesImport_assign_rel rel _ hrelation hhref,
    relatesImport_assign_other (by decide) (by decide) href quote hvalue hend, hnothing,
    Bool.or_false, Bool.or_eq_true, Bool.or_eq_true, ← startsImport_iff,
    relatesImport_iff hrelation, relatesImport_iff hvalue, or_assoc]

/-! ## A text with one link -/

/-- If an attribute is found in the end of a text, one is found in the text. -/
theorem isSome_attribute?_append (cs : List Char)
    (h : ∀ offset, (attribute? name offset rest).isSome = true) (offset : Nat) :
    (attribute? name offset (cs ++ rest)).isSome = true := by
  induction cs generalizing offset with
  | nil => exact h offset
  | cons c cs ih =>
      have hor (here : Option Span) (s : Span) : (here <|> some s).isSome = true := by
        cases here <;> rfl
      obtain ⟨s, hs⟩ := Option.isSome_iff_exists.mp (ih (offset + c.utf8Size))
      rw [List.cons_append, attribute?, hs]
      exact hor _ s

section

variable {before behind attributes : List Char}

/-- A text with one tag has no comments. -/
theorem blankComments_surrounded (hbefore : '<' ∉ before) (hbehind : '<' ∉ behind)
    (hattributes : ∀ c ∈ attributes, Inner c) :
    blankComments (before ++ ('<' :: (tag.chars ++ attributes) ++ ['>'] ++ behind)) =
      before ++ ('<' :: (tag.chars ++ attributes) ++ ['>'] ++ behind) := by
  have hrest : blankFrom 0 none behind = behind := by
    simpa [blankFrom] using blankFrom_append_of_no_tag behind [] hbehind
  rw [blankComments, blankFrom_append_of_no_tag _ _ hbefore,
    blankFrom_tag (by decide) (by decide) tag hattributes, hrest]

/-- A search for tags finds nothing in text that opens none. -/
theorem spansFrom_of_no_tag (hbehind : '<' ∉ behind) (offset : Nat) :
    (Html.tag name).spansFrom offset true ⟨none, behind⟩ = [] := by
  have hrest : (Html.tag name).spansFrom offset true ⟨none, behind ++ []⟩ = _ :=
    spansFrom_append_of_no_tag behind [] hbehind offset
  rw [List.append_nil] at hrest
  rw [hrest, Matcher.spansFrom, (forward_tag name).nil]
  rfl

/-- **The references of a text with one link** are what is read from the link. -/
theorem imports_surrounded (hbefore : '<' ∉ before) (hbehind : '<' ∉ behind)
    (hspace : attributes.head? = some ' ') (hattributes : ∀ c ∈ attributes, Inner c) :
    imports (before ++ ('<' :: (tag.chars ++ attributes) ++ ['>'] ++ behind)) =
      (linkReference ⟨Text.size before, '<' :: (tag.chars ++ attributes) ++ ['>']⟩).toList := by
  have hlinks : (Html.tag "link".toList).spansFrom 0 true
      ⟨none, before ++ ('<' :: (tag.chars ++ attributes) ++ ['>'] ++ behind)⟩ =
        [⟨Text.size before, '<' :: (tag.chars ++ attributes) ++ ['>']⟩] := by
    rw [spansFrom_append_of_no_tag _ _ hbefore, spansFrom_tag tag hspace hattributes,
      spansFrom_of_no_tag hbehind, Nat.zero_add]
  have hscripts : (Html.tag "script".toList).spansFrom 0 true
      ⟨none, before ++ ('<' :: (tag.chars ++ attributes) ++ ['>'] ++ behind)⟩ = [] := by
    rw [spansFrom_append_of_no_tag _ _ hbefore,
      spansFrom_other (by decide) (by decide) tag hattributes, spansFrom_of_no_tag hbehind]
  rw [imports, blankComments_surrounded tag hbefore hbehind hattributes]
  generalize before ++ ('<' :: (tag.chars ++ attributes) ++ ['>'] ++ behind) = text
    at hlinks hscripts ⊢
  generalize (⟨Text.size before, '<' :: (tag.chars ++ attributes) ++ ['>']⟩ : Span) = t at hlinks ⊢
  have hlinkImports : linkImports text = (linkReference t).toList := by
    refine (congrArg (List.filterMap linkReference) hlinks).trans ?_
    rw [List.filterMap_cons]
    cases linkReference t <;> rfl
  have hscriptImports : scriptImports text = [] :=
    congrArg (List.filterMap scriptReference) hscripts
  rw [hlinkImports, hscriptImports, List.append_nil]
  cases linkReference t with
  | none => exact List.mergeSort_nil
  | some s => exact List.mergeSort_singleton s

end

/-! ## The reference of a link -/

/-- What a link refers to is found in it. -/
theorem isSome_attribute?_linkText (relation : List Char) (value : Value) (offset : Nat) :
    (attribute? "href".toList offset
      (linkText tag rel relQuote href quote relation value.chars)).isSome = true := by
  have htext : linkText tag rel relQuote href quote relation value.chars =
      ('<' :: (tag.chars ++ rel.assign relQuote relation)) ++
        (href.assign quote value.chars ++ ['>']) := by
    simp [linkText]
  rw [htext]
  refine isSome_attribute?_append _ (fun offset => ?_) offset
  rw [attribute?_assign]
  rfl

/-- **A link gives nothing** exactly if it does not import. -/
theorem linkReference_linkText_eq_none_iff (hrelation : IsPlain relation) (value : Value)
    (offset : Nat) :
    linkReference ⟨offset, linkText tag rel relQuote href quote relation value.chars⟩ = none ↔
      ¬ StartsImport relation ∧ ¬ HasRelation relation ∧ ¬ HasRelation value.chars := by
  rw [← not_or, ← not_or,
    ← relatesImport_linkText tag rel relQuote href quote hrelation value.plain, linkReference]
  have hsome := isSome_attribute?_linkText tag rel relQuote href quote relation value offset
  split
  · rename_i himports
    refine iff_of_false (fun heq => ?_) (not_not_intro himports)
    rw [heq] at hsome
    cases hsome
  · rename_i himports
    exact iff_of_true rfl himports

/-- **When a link gives a reference.** In a text that opens no other tag, a link whose relation is
`import` in any case of letters gives what it refers to. A link gives nothing exactly if its
relation does not begin with `import` and neither its relation nor what it refers to has, behind a
blank, an attribute that says so. If the relation has no blanks, all that it can give is what it
refers to. -/
theorem imports_link {relation before behind : List Char} (hrelation : IsPlain relation)
    (value : Value) (hbefore : '<' ∉ before) (hbehind : '<' ∉ behind) :
    let found := imports
      (before ++ (linkText tag rel relQuote href quote relation value.chars ++ behind))
    let reference : Span := ⟨Text.size before + Text.size
      ('<' :: (tag.chars ++ (rel.assign relQuote relation ++ href.opening quote))), value.chars⟩
    (Spells "import".toList relation → found = [reference]) ∧
    (found = [] ↔ ¬ StartsImport relation ∧ ¬ HasRelation relation ∧ ¬ HasRelation value.chars) ∧
    ((∀ c ∈ relation, Text.isBlank c = false) → found ≠ [] → found = [reference]) := by
  intro found reference
  have hinner := inner_link rel relQuote href quote hrelation.inner value
  have hfound : found = (linkReference ⟨Text.size before,
      linkText tag rel relQuote href quote relation value.chars⟩).toList :=
    imports_surrounded tag hbefore hbehind rfl hinner
  have hnone : found = [] ↔
      ¬ StartsImport relation ∧ ¬ HasRelation relation ∧ ¬ HasRelation value.chars := by
    rw [hfound, Option.toList_eq_nil_iff]
    exact linkReference_linkText_eq_none_iff tag rel relQuote href quote hrelation value _
  have hreference : (∀ c ∈ relation, Text.isBlank c = false) → found ≠ [] →
      found = [reference] := by
    intro hblank hne
    have himports : relatesImport
        (linkText tag rel relQuote href quote relation value.chars) = true := by
      rw [ne_eq, hnone, ← not_or, ← not_or, Classical.not_not] at hne
      exact (relatesImport_linkText tag rel relQuote href quote hrelation value.plain).mpr hne
    rw [hfound, linkReference]
    dsimp only
    rw [if_pos himports, attribute?_linkText tag rel relQuote href quote hblank]
    rfl
  refine ⟨fun hspells => ?_, hnone, hreference⟩
  -- a relation that is spelled like this begins with it, and has no blanks
  let spelling : Spelling "import".toList := ⟨relation, hspells⟩
  refine hreference (fun c hc => isBlank_of_isAlpha (spelling.isAlpha (by decide) c hc)) ?_
  rw [ne_eq, hnone]
  exact fun h => h.1 ⟨spelling, List.prefix_rfl⟩

/-! ### Links as they are mostly written -/

/-- A name spells itself. -/
theorem Spells.refl (name : List Char) : Spells name name := by
  induction name with
  | nil => exact .nil
  | cons l ls ih => exact .cons (.inl rfl) ih

/-- A name as it is. -/
def Spelling.asIs (name : List Char) : Spelling name := ⟨name, .refl name⟩

/-- A double quote. -/
def doubleQuote : Quote := ⟨'"', rfl⟩

/-- A link in small letters and double quotes. -/
theorem linkText_asIs (relation value : List Char) :
    linkText (.asIs _) (.asIs _) doubleQuote (.asIs _) doubleQuote relation value =
      "<link rel=\"".toList ++ relation ++ "\" href=\"".toList ++ value ++ "\">".toList := by
  have hopen : "<link rel=\"".toList =
      '<' :: ("link".toList ++ ' ' :: ("rel".toList ++ ['=', '"'])) := by decide
  have hmiddle : "\" href=\"".toList = '"' :: ' ' :: ("href".toList ++ ['=', '"']) := by decide
  have hclose : "\">".toList = ['"', '>'] := by decide
  generalize "<link rel=\"".toList = a at hopen ⊢
  generalize "\" href=\"".toList = b at hmiddle ⊢
  generalize "\">".toList = c at hclose ⊢
  subst hopen hmiddle hclose
  simp only [linkText, Spelling.asIs, Spelling.assign, Spelling.opening, doubleQuote,
    List.append_assoc, List.cons_append, List.nil_append]

/-- A value with a blank in it. -/
def spacedValue : Value := ⟨"a b".toList, by decide, (by decide : IsPlain "a b".toList)⟩

/-- A link that imports gives its reference, in any case of letters, and a style sheet gives
none. -/
theorem imports_link_spaced :
    let link (relation : String) := "<link rel=\"".toList ++ relation.toList ++
      "\" href=\"".toList ++ spacedValue.chars ++ "\">".toList
    IsPlain "ImPORT".toList ∧ IsPlain "style importer".toList ∧ '<' ∉ "é> ".toList ∧
      '<' ∉ "-->".toList ∧ Spells "import".toList "ImPORT".toList ∧
      imports ("é> ".toList ++ (link "ImPORT" ++ "-->".toList)) = [⟨29, "a b".toList⟩] ∧
      (imports ("é> ".toList ++ (link "style importer" ++ "-->".toList)) = [] ↔
        ¬ StartsImport "style importer".toList ∧ ¬ HasRelation "style importer".toList ∧
          ¬ HasRelation spacedValue.chars) := by
  intro link
  have hplain : IsPlain "ImPORT".toList ∧ IsPlain "style importer".toList := by decide
  have hspells : Spells "import".toList "ImPORT".toList :=
    .cons (.inr rfl) (.cons (.inl rfl) (.cons (.inr rfl) (.cons (.inr rfl) (.cons (.inr rfl)
      (.cons (.inr rfl) .nil)))))
  have hopens : '<' ∉ "é> ".toList ∧ '<' ∉ "-->".toList := by decide
  have himport := imports_link (.asIs _) (.asIs _) doubleQuote (.asIs _) doubleQuote hplain.1
    spacedValue hopens.1 hopens.2
  have hstyle := imports_link (.asIs _) (.asIs _) doubleQuote (.asIs _) doubleQuote hplain.2
    spacedValue hopens.1 hopens.2
  dsimp only at himport hstyle
  rw [linkText_asIs] at himport hstyle
  exact ⟨hplain.1, hplain.2, hopens.1, hopens.2, hspells, himport.1 hspells, hstyle.2.1⟩

/-- **Links that do not import, but count.** Their relations are other single words, with a blank in
front of the second one: a word that begins like the right one, a word that is an attribute with the
right one, and a word with such an attribute in what the link refers to. -/
theorem imports_importance :
    let other (word : String) : Prop := (∀ c ∈ word.toList, Text.isBlank c = false) ∧
      word.toList ≠ [] ∧ ¬ Spells "import".toList word.toList
    other "importance" ∧ other "rel=import" ∧ other "stylesheet" ∧
      imports "<link rel=\"importance\" href=\"x\">".toList = [⟨29, "x".toList⟩] ∧
      imports "<link rel=\" rel=import\" href=\"x\">".toList = [⟨30, "x".toList⟩] ∧
      imports "<link rel=\"stylesheet\" href=\"x rel=import\">".toList =
        [⟨29, "x rel=import".toList⟩] := by
  intro other
  have hother {word : String} (hplain : word.toList.all (!Text.isBlank ·) = true)
      (hne : word.toList ≠ []) (hlength : word.toList.length ≠ "import".toList.length) :
      other word := by
    refine ⟨fun c hc => ?_, hne, fun h => hlength (Spelling.length_chars ⟨_, h⟩)⟩
    exact (Bool.not_eq_true' _).mp (List.all_eq_true.mp hplain c hc)
  exact ⟨hother (by decide) (by decide) (by decide), hother (by decide) (by decide) (by decide),
    hother (by decide) (by decide) (by decide), by decide +kernel, by decide +kernel,
    by decide +kernel⟩

end PolicyLint.Html
