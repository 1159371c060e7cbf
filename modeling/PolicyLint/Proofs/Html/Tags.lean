/-
# Finding the tags of a page

Searching for the tags with a name takes each of them as a whole and passes over everything else:
text that opens no tag, and tags with other names.

* `Matcher.Forward` : matchers that look neither back nor at nothing;
* `Html.stripName?_append`, `Html.stripName?_other` : what is stripped of a name;
* `Html.spansFrom_tag`, `Html.spansFrom_other` : how a search goes on at a tag.
-/
import PolicyLint.Proofs.Html.Masking

namespace PolicyLint

/-! ## Searching forward -/

namespace Matcher

/-- A matcher that does not look at the character before a place, and matches at least one
character. -/
structure Forward (m : Matcher) : Prop where
  forgets : ∀ p cs, m ⟨p, cs⟩ = m ⟨none, cs⟩
  ne_zero : ∀ s, m s ≠ some 0
  nil : m ⟨none, []⟩ = none

variable {m : Matcher}

/-- Where a search that looks only forward goes on, it is no matter what came before. -/
theorem Forward.spansFrom_eq (hm : m.Forward) (offset : Nat) (fresh : Bool) (p : Option Char)
    (cs : List Char) :
    m.spansFrom offset fresh ⟨p, cs⟩ = m.spansFrom offset true ⟨none, cs⟩ := by
  cases cs with
  | nil =>
      rw [spansFrom, spansFrom, hm.forgets, hm.nil]
      simp
  | cons c cs =>
      rw [spansFrom, spansFrom, hm.forgets]
      cases h : m ⟨none, c :: cs⟩ with
      | none => rfl
      | some n =>
          cases n with
          | zero => exact absurd h (hm.ne_zero _)
          | succ n => rfl

/-- A search passes over a character where nothing is matched. -/
theorem Forward.spansFrom_cons (hm : m.Forward) {c : Char} {cs : List Char}
    (h : m ⟨none, c :: cs⟩ = none) (offset : Nat) :
    m.spansFrom offset true ⟨none, c :: cs⟩ =
      m.spansFrom (offset + c.utf8Size) true ⟨none, cs⟩ := by
  rw [spansFrom, h, hm.spansFrom_eq]

/-- A search takes what is matched, and goes on behind it. -/
theorem Forward.spansFrom_append (hm : m.Forward) {cs rest : List Char}
    (h : m ⟨none, cs ++ rest⟩ = some cs.length) (offset : Nat) :
    m.spansFrom offset true ⟨none, cs ++ rest⟩ =
      ⟨offset, cs⟩ :: m.spansFrom (offset + Text.size cs) true ⟨none, rest⟩ := by
  cases cs with
  | nil => exact absurd h (hm.ne_zero _)
  | cons c cs =>
      have htake : (c :: (cs ++ rest)).take (cs.length + 1) = c :: cs := by
        rw [List.take_succ_cons, List.take_left]
      have hskip : (Site.skip ⟨some c, cs ++ rest⟩ cs.length).rest = rest := by
        rw [Site.rest_skip, List.drop_left]
      rw [List.cons_append] at h ⊢
      rw [spansFrom, h]
      dsimp only [List.length_cons]
      rw [htake]
      -- behind the match the search remembers its last character, which has no part in what follows
      generalize Site.skip ⟨some c, cs ++ rest⟩ cs.length = s at hskip ⊢
      obtain ⟨p, behind⟩ := s
      rw [hm.spansFrom_eq]
      exact congrArg (fun cs => _ :: m.spansFrom _ true ⟨none, cs⟩) hskip

end Matcher

namespace Html

variable {name other : List Char}

/-! ## Names -/

/-- A letter is the same, as it is or capital. -/
theorem sameLetter_of_eq {l c : Char} (h : c = l ∨ c = l.toUpper) : sameLetter l c = true := by
  unfold sameLetter
  rcases h with rfl | rfl <;> simp

/-- Only a small k and a small s have more forms than themselves and the capital letter. -/
theorem sameLetter_iff {l c : Char} (hk : l ≠ 'k') (hs : l ≠ 's') :
    sameLetter l c = true ↔ c = l ∨ c = l.toUpper := by
  simp [sameLetter, hk, hs]

/-- **A name is stripped** however it is written. -/
theorem stripName?_append (w : Spelling name) (rest : List Char) :
    stripName? name (w.chars ++ rest) = some rest := by
  obtain ⟨cs, hcs⟩ := w
  show stripName? name (cs ++ rest) = some rest
  induction hcs with
  | nil => rfl
  | cons hletter _ ih => rw [List.cons_append, stripName?, if_pos (sameLetter_of_eq hletter), ih]

/-- Whether two names begin with different letters. -/
def apart : List Char → List Char → Bool
  | l :: _, m :: _ => !sameLetter l m && !sameLetter l m.toUpper
  | _, _ => false

/-- **A name is not stripped of another**, however the other is written. -/
theorem stripName?_other (h : apart name other = true) (w : Spelling other) (rest : List Char) :
    stripName? name (w.chars ++ rest) = none := by
  match name, other, h with
  | l :: ls, m :: ms, h =>
      obtain ⟨c, cs, hcs, hc⟩ := w.exists_cons rfl
      rw [apart, Bool.and_eq_true, Bool.not_eq_true', Bool.not_eq_true'] at h
      have hletter : sameLetter l c = false := by
        rcases hc with rfl | rfl
        · exact h.1
        · exact h.2
      rw [hcs, List.cons_append, stripName?, hletter]
      rfl

/-- A name has as many characters however it is written. -/
theorem Spelling.length_chars (w : Spelling name) : w.chars.length = name.length := by
  obtain ⟨cs, hcs⟩ := w
  show cs.length = name.length
  induction hcs with
  | nil => rfl
  | cons _ _ ih => rw [List.length_cons, List.length_cons, ih]

/-! ## Tags -/

/-- Nothing but an opening mark begins a tag. -/
theorem tag_eq_none {p : Option Char} {c : Char} {cs : List Char} (h : c ≠ '<') :
    tag name ⟨p, c :: cs⟩ = none := by
  unfold tag
  split
  · rename_i heq
    exact absurd (List.cons.inj heq).1 h
  · rfl

/-- What a tag has to have behind its opening mark. -/
theorem tag_open (p : Option Char) (cs : List Char) :
    tag name ⟨p, '<' :: cs⟩ =
      match stripName? name cs with
      | some (c :: rest) =>
          if !Text.isWord c && (c :: rest).contains '>' then
            some (1 + name.length + ((c :: rest).takeWhile (· ≠ '>')).length + 1)
          else none
      | _ => none := rfl

/-- Without its name a tag is not matched. -/
theorem tag_eq_none_of_stripName? {p : Option Char} {cs : List Char}
    (h : stripName? name cs = none) : tag name ⟨p, '<' :: cs⟩ = none := by
  rw [tag_open, h]

/-- The matcher of tags looks only forward. -/
theorem forward_tag (name : List Char) : (tag name).Forward := by
  refine ⟨fun p cs => rfl, ?_, rfl⟩
  intro s
  unfold tag
  split
  · split
    · split
      · intro h
        have hsize := Option.some.inj h
        omega
      · intro h
        cases h
    · intro h
      cases h
  · intro h
    cases h

/-- **A tag is matched** from its opening mark to the closing one. -/
theorem tag_eq_some {attributes : List Char} (w : Spelling name)
    (hspace : attributes.head? = some ' ') (hattributes : ∀ c ∈ attributes, Inner c)
    (rest : List Char) :
    tag name ⟨none, '<' :: (w.chars ++ attributes) ++ ['>'] ++ rest⟩ =
      some ('<' :: (w.chars ++ attributes) ++ ['>']).length := by
  obtain ⟨more, rfl⟩ := List.head?_eq_some_iff.mp hspace
  have hword : (!Text.isWord ' ') = true := by decide
  have hinner : ∀ c ∈ ' ' :: more, decide (c ≠ '>') = true := by
    intro c hc
    rw [decide_eq_true_eq]
    exact (hattributes c hc).2
  have htext : '<' :: (w.chars ++ ' ' :: more) ++ ['>'] ++ rest =
      '<' :: (w.chars ++ ' ' :: (more ++ '>' :: rest)) := by
    simp
  have htake : (' ' :: (more ++ '>' :: rest)).takeWhile (· ≠ '>') = ' ' :: more := by
    rw [← List.cons_append, List.takeWhile_append_of_pos hinner]
    simp
  have hcloses : (' ' :: (more ++ '>' :: rest)).contains '>' = true := by simp
  rw [htext, tag_open, stripName?_append]
  dsimp only
  rw [hword, hcloses, htake]
  simp [w.length_chars]
  omega

/-! ## Searching for tags -/

/-- **A search passes over text that opens no tag.** -/
theorem spansFrom_append_of_no_tag (cs rest : List Char) (h : '<' ∉ cs) (offset : Nat) :
    (tag name).spansFrom offset true ⟨none, cs ++ rest⟩ =
      (tag name).spansFrom (offset + Text.size cs) true ⟨none, rest⟩ := by
  induction cs generalizing offset with
  | nil => rfl
  | cons c cs ih =>
      rw [List.mem_cons, not_or] at h
      rw [List.cons_append, (forward_tag name).spansFrom_cons (tag_eq_none (Ne.symm h.1)), ih h.2,
        Text.size_cons, Nat.add_assoc]

/-- A search passes over a tag without the name. -/
theorem spansFrom_append_of_stripName? (cs rest : List Char) (h : '<' ∉ cs)
    (hname : stripName? name (cs ++ rest) = none) (offset : Nat) :
    (tag name).spansFrom offset true ⟨none, '<' :: cs ++ rest⟩ =
      (tag name).spansFrom (offset + Text.size ('<' :: cs)) true ⟨none, rest⟩ := by
  rw [List.cons_append, (forward_tag name).spansFrom_cons (tag_eq_none_of_stripName? hname),
    spansFrom_append_of_no_tag cs rest h, Text.size_cons, Nat.add_assoc]

/-- **A search takes a tag with the name.** -/
theorem spansFrom_tag {attributes : List Char} (w : Spelling name)
    (hspace : attributes.head? = some ' ') (hattributes : ∀ c ∈ attributes, Inner c)
    (rest : List Char) (offset : Nat) :
    (tag name).spansFrom offset true ⟨none, '<' :: (w.chars ++ attributes) ++ ['>'] ++ rest⟩ =
      ⟨offset, '<' :: (w.chars ++ attributes) ++ ['>']⟩ ::
        (tag name).spansFrom (offset + Text.size ('<' :: (w.chars ++ attributes) ++ ['>']))
          true ⟨none, rest⟩ :=
  (forward_tag name).spansFrom_append (tag_eq_some w hspace hattributes rest) offset

/-- **A search passes over a tag with another name.** -/
theorem spansFrom_other {attributes : List Char} (hother : Lettered other)
    (h : apart name other = true) (w : Spelling other) (hattributes : ∀ c ∈ attributes, Inner c)
    (rest : List Char) (offset : Nat) :
    (tag name).spansFrom offset true ⟨none, '<' :: (w.chars ++ attributes) ++ ['>'] ++ rest⟩ =
      (tag name).spansFrom (offset + Text.size ('<' :: (w.chars ++ attributes) ++ ['>']))
        true ⟨none, rest⟩ := by
  have hopens := not_mem_tag hother w hattributes
  have hname : stripName? name (w.chars ++ attributes ++ ['>'] ++ rest) = none := by
    rw [List.append_assoc, List.append_assoc]
    exact stripName?_other h w _
  exact spansFrom_append_of_stripName? _ rest hopens hname offset

end Html

end PolicyLint
