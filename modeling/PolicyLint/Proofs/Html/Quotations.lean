/-
# References and what the page says

A reference is read from the page with its comments blanked. In the page itself there stand quotes
on both sides of it, and between them what it was before blanking: the reference itself, unless that
has a comment in it. References stand one behind the other. Those of one kind do since their tags
do; and a link and a script never share one, even where their tags overlap, since in front of the
sign that a value follows stands the end of one name.

* `Html.exists_quotation_of_mem_imports` : what stands in the page where a reference is read;
* `Html.assigned?` : the end of the name that a value is given to;
* `Html.pairwise_imports` : references stand one behind the other;
* `Html.imports_between_quotes` : references and what the page says there;
* `Html.imports_commentInValue` : a reference that the page does not have.
-/
import PolicyLint.Proofs.Html.Places

namespace PolicyLint.Html

/-! ## What the page says -/

/-- **Where a reference is read, quotes stand on both sides in the page**, and between them what is
the reference after blanking: blanks are no quotes, so no comment goes over a quote that is left. -/
theorem exists_quotation_of_mem_imports {text : List Char} {s : Span} (h : s ∈ imports text) :
    ∃ (front stretch back : List Char) (q r : Quote),
      text = front ++ q.char :: (stretch ++ r.char :: back) ∧
        s.offset = Text.size front + 1 ∧ s.text = blankComments stretch := by
  obtain ⟨before, behind, q, r, hmasked, hoffset⟩ := quoted_of_mem_imports h
  obtain ⟨front, inner, rfl, rfl, hinner, -⟩ := exists_append_of_blankFrom q.noBlank hmasked
  obtain ⟨stretch, back, rfl, hstretch, -⟩ := exists_append_of_blankFrom r.noBlank hinner
  refine ⟨front, stretch, back, q, r, rfl, ?_, hstretch.symm⟩
  rw [← blankComments, size_blankComments, Nat.zero_add] at hoffset
  exact hoffset

/-- A reference has characters. -/
theorem ne_nil_of_mem_imports {text : List Char} {s : Span} (h : s ∈ imports text) :
    s.text ≠ [] := by
  rw [imports, List.mem_mergeSort, List.mem_append] at h
  have hattribute {name cs : List Char} {offset : Nat} (hs : attribute? name offset cs = some s) :
      s.text ≠ [] := by
    obtain ⟨_, _, _, _, _, _, hvalue, _⟩ := exists_of_attribute? hs
    exact ne_nil_of_quoted? hvalue
  rcases h with h | h
  · obtain ⟨t, -, hs⟩ := List.mem_filterMap.mp h
    split at hs
    · exact hattribute hs
    · cases hs
  · obtain ⟨t, -, hs⟩ := List.mem_filterMap.mp h
    exact hattribute hs

/-! ## References of one kind -/

/-- The value of an attribute begins inside of its tag. -/
theorem offset_of_attribute? {name : List Char} {t s : Span}
    (h : attribute? name t.offset t.text = some s) :
    t.offset < s.offset ∧ s.offset < t.stop := by
  obtain ⟨before, behind, q, r, htext, hoffset⟩ := quoted_of_attribute? h
  rw [Span.stop, htext, hoffset]
  simp only [Text.size_append, Text.size_cons, q.utf8Size, r.utf8Size]
  omega

/-- What is picked from inside of stretches that a search finds stands one behind the other. -/
theorem pairwise_filterMap_spans {m : Matcher} {pick : Span → Option Span} (text : List Char)
    (h : ∀ t s, pick t = some s → t.offset < s.offset ∧ s.offset < t.stop) :
    ((m.spans text).filterMap pick).Pairwise fun s u => s.offset < u.offset := by
  rw [List.pairwise_filterMap]
  refine (m.pairwise_spans text).imp ?_
  intro t v hapart s hs u hu
  have hinside := (h t s hs).2
  have hbehind := (h v u hu).1
  omega

/-! ## Names and values -/

/-- The last character in front of the sign that a text ends with, blanks around the sign aside. -/
def assigned? (cs : List Char) : Option Char :=
  match cs.reverse.dropWhile Text.isBlank with
  | '=' :: rest => (rest.dropWhile Text.isBlank).head?
  | _ => none

/-- It is the one that is written there. -/
theorem assigned?_append {c : Char} {left right : List Char} (front : List Char)
    (hc : Text.isBlank c = false) (hleft : ∀ d ∈ left, Text.isBlank d = true)
    (hright : ∀ d ∈ right, Text.isBlank d = true) :
    assigned? (front ++ c :: (left ++ '=' :: right)) = some c := by
  have hreverse : (front ++ c :: (left ++ '=' :: right)).reverse =
      right.reverse ++ '=' :: (left.reverse ++ c :: front.reverse) := by
    simp
  have hsign : (right.reverse ++ '=' :: (left.reverse ++ c :: front.reverse)).dropWhile
      Text.isBlank = '=' :: (left.reverse ++ c :: front.reverse) := by
    rw [List.dropWhile_append_of_pos fun d hd => hright d (List.mem_reverse.mp hd)]
    exact List.dropWhile_cons_of_neg (by decide)
  have hname : (left.reverse ++ c :: front.reverse).dropWhile Text.isBlank =
      c :: front.reverse := by
    rw [List.dropWhile_append_of_pos fun d hd => hleft d (List.mem_reverse.mp hd)]
    exact List.dropWhile_cons_of_neg (by rw [hc]; exact Bool.false_ne_true)
  rw [assigned?, hreverse, hsign]
  exact congrArg List.head? hname

/-- A name ends with its last letter in some form. -/
theorem exists_of_stripName?_append {ls cs rest : List Char} {l : Char}
    (h : stripName? (ls ++ [l]) cs = some rest) :
    ∃ front c, cs = front ++ c :: rest ∧ sameLetter l c = true := by
  induction ls generalizing cs with
  | nil =>
      cases cs with
      | nil => cases h
      | cons c cs =>
          rw [List.nil_append, stripName?] at h
          split at h
          · rename_i hletter
            cases h
            exact ⟨[], c, rfl, hletter⟩
          · cases h
  | cons m ls ih =>
      cases cs with
      | nil => cases h
      | cons c cs =>
          rw [List.cons_append, stripName?] at h
          split at h
          · obtain ⟨front, d, rfl, hletter⟩ := ih h
            exact ⟨c :: front, d, rfl, hletter⟩
          · cases h

/-- **A value that is found is given to its name**: behind the end of the name, the sign and a quote
it begins. -/
theorem exists_assigned?_of_attribute? (ls : List Char) (l : Char) {t s : Span} {text : List Char}
    (hl : l.isAlpha = true ∧ l.toUpper.isAlpha = true)
    (ht : t.StandsIn text) (h : attribute? (ls ++ [l]) t.offset t.text = some s) :
    ∃ before behind c, text = before ++ behind ∧ s.offset = Text.size before + 1 ∧
      assigned? before = some c ∧ sameLetter l c = true := by
  obtain ⟨front, back, rfl, hstart⟩ := ht
  obtain ⟨more, b, before, rest, htext, hname, -, hoffset⟩ := exists_of_attribute? h
  obtain ⟨left, right, hstrip, hleft, hright, -⟩ := exists_of_stripAssignment? hname
  obtain ⟨name, c, hbefore, hletter⟩ := exists_of_stripName?_append hstrip
  -- what precedes the value is the name, the sign, and all blanks around the sign
  have hsplit : before = name ++ c :: (left ++ '=' :: right) := by
    have hall : before ++ rest = name ++ c :: (left ++ '=' :: right) ++ rest := by
      rw [hbefore]
      simp
    exact List.append_cancel_right hall
  refine ⟨front ++ (more ++ b :: before), rest ++ back, c, ?_, ?_, ?_, hletter⟩
  · rw [htext]
    simp
  · rw [hoffset, hstart, Text.size_append front, Nat.add_assoc]
  · have hassigned := assigned?_append (front ++ (more ++ b :: name))
      (isBlank_of_sameLetter hl hletter) hleft hright
    rw [hsplit]
    simpa using hassigned

/-! ## The order of references -/

/-- A link and a script share no reference. -/
theorem offset_ne_of_mem {masked : List Char} {s u : Span} (hs : s ∈ linkImports masked)
    (hu : u ∈ scriptImports masked) : s.offset ≠ u.offset := by
  obtain ⟨t, ht, hs⟩ := List.mem_filterMap.mp hs
  obtain ⟨v, hv, hu⟩ := List.mem_filterMap.mp hu
  split at hs
  · obtain ⟨before, behind, c, htext, hoffset, hassigned, hletter⟩ :=
      exists_assigned?_of_attribute? "hre".toList 'f' (by decide)
        (Matcher.standsIn_of_mem_spans _ ht) hs
    obtain ⟨before', behind', c', htext', hoffset', hassigned', hletter'⟩ :=
      exists_assigned?_of_attribute? "sr".toList 'c' (by decide)
        (Matcher.standsIn_of_mem_spans _ hv) hu
    intro heq
    -- at one place one name ends
    obtain ⟨rfl, -⟩ := Text.append_inj_of_size_eq (htext.symm.trans htext') (by omega)
    rw [hassigned] at hassigned'
    cases hassigned'
    rcases (sameLetter_iff (by decide) (by decide)).mp hletter with rfl | rfl
    · cases hletter'
    · cases hletter'
  · cases hs

/-- **References stand one behind the other**, no two of them at one place. -/
theorem pairwise_imports (text : List Char) :
    (imports text).Pairwise fun s u => s.offset < u.offset := by
  rw [imports]
  apply List.pairwise_lt_mergeSort Span.offset
  rw [List.pairwise_append]
  refine ⟨?_, ?_, fun s hs u hu => offset_ne_of_mem hs hu⟩
  · refine (pairwise_filterMap_spans _ fun t s hs => ?_).imp Nat.ne_of_lt
    split at hs
    · exact offset_of_attribute? hs
    · cases hs
  · exact (pairwise_filterMap_spans _ fun t s hs => offset_of_attribute? hs).imp Nat.ne_of_lt

/-! ## References and what the page says -/

/-- **References and what the page says there.** References stand one behind the other, each at its
own place. Each has characters, and in the page stand quotes directly before and behind it. Between
these the page says what is the reference with its comments blanked, and that takes as many bytes:
the reference itself, unless a whole comment stands between the quotes. -/
theorem imports_between_quotes (text : List Char) :
    (imports text).Pairwise (fun s u => s.offset < u.offset) ∧
    ∀ s ∈ imports text, s.text ≠ [] ∧
      ∃ (front stretch back : List Char) (q r : Quote),
        text = front ++ q.char :: (stretch ++ r.char :: back) ∧
          s.offset = Text.size front + 1 ∧ Text.size s.text = Text.size stretch ∧
          s.text = blankComments stretch ∧ (s.text = stretch ↔ ¬ HasComment stretch) := by
  refine ⟨pairwise_imports text, fun s hs => ⟨ne_nil_of_mem_imports hs, ?_⟩⟩
  obtain ⟨front, stretch, back, q, r, htext, hoffset, hstretch⟩ :=
    exists_quotation_of_mem_imports hs
  refine ⟨front, stretch, back, q, r, htext, hoffset, ?_, hstretch, ?_⟩
  · rw [hstretch, size_blankComments]
  · rw [hstretch]
    exact blankComments_eq_self_iff

/-- A link that is not closed in front of a script, so that their tags overlap. -/
def openLink : List Char := "<link rel=import <script src='é' href=\"b\">".toList

/-- Both refer to what the page says. -/
theorem imports_between_quotes_openLink :
    ⟨30, ['é']⟩ ∈ imports openLink ∧ ⟨40, ['b']⟩ ∈ imports openLink ∧
    (imports openLink).Pairwise (fun s u => s.offset < u.offset) ∧
    ['b'] ≠ [] ∧
      ∃ (front stretch back : List Char) (q r : Quote),
        openLink = front ++ q.char :: (stretch ++ r.char :: back) ∧
          40 = Text.size front + 1 ∧ Text.size ['b'] = Text.size stretch ∧
          ['b'] = blankComments stretch ∧ (['b'] = stretch ↔ ¬ HasComment stretch) := by
  have hlinks : linkImports (blankComments openLink) = [⟨40, ['b']⟩] := by decide +kernel
  have hscripts : scriptImports (blankComments openLink) = [⟨30, ['é']⟩] := by decide +kernel
  have hmem (s : Span) : s ∈ imports openLink ↔ s = ⟨40, ['b']⟩ ∨ s = ⟨30, ['é']⟩ := by
    unfold imports
    dsimp only
    rw [hlinks, hscripts, List.mem_mergeSort, List.singleton_append, List.mem_cons,
      List.mem_singleton]
  have hlink := (hmem ⟨40, ['b']⟩).mpr (.inl rfl)
  obtain ⟨horder, hall⟩ := imports_between_quotes openLink
  exact ⟨(hmem _).mpr (.inr rfl), hlink, horder, hall _ hlink⟩

/-- A script whose reference has a comment in it. -/
def commentInValue : List Char := "<script src=\"a<!--b-->c.js\"></script>".toList

/-- **A comment in a reference is blanked**, and then the page does not say what is read. -/
theorem imports_commentInValue :
    let s : Span := ⟨13, "a        c.js".toList⟩
    imports commentInValue = [s] ∧ ¬ s.text <:+: commentInValue ∧ ¬ s.StandsIn commentInValue := by
  intro s
  have hlinks : linkImports (blankComments commentInValue) = [] := by decide +kernel
  have hscripts : scriptImports (blankComments commentInValue) =
      [⟨13, "a        c.js".toList⟩] := by decide +kernel
  have hmissing : ¬ "a        c.js".toList <:+: commentInValue := by decide +kernel
  refine ⟨?_, hmissing, ?_⟩
  · unfold imports
    dsimp only
    rw [hlinks, hscripts, List.nil_append, List.mergeSort_singleton]
  · rintro ⟨before, behind, htext, -⟩
    exact hmissing ⟨before, behind, htext.symm⟩

end PolicyLint.Html
