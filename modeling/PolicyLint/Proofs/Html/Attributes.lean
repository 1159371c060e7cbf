/-
# Reading the attributes of a tag

An attribute is read back from where it is written, with its value and the place of its value. The
search for it passes over characters that are no blanks and over attributes with other names.

* `Html.stripAssignment?_append`, `Html.quoted?_append` : the two halves of an attribute;
* `Html.attribute?_assign`, `Html.attribute?_other` : how the search goes on at an attribute;
* `Html.relatesImport_assign` : a text with an attribute that imports.
-/
import PolicyLint.Proofs.Html.Tags

namespace PolicyLint.Html

variable {name other : List Char}

/-! ## The pieces of an attribute -/

/-- No letter is a blank. -/
theorem isBlank_of_isAlpha {c : Char} (h : c.isAlpha = true) : Text.isBlank c = false := by
  have hrange : 65 ≤ c.toNat ∧ c.toNat ≤ 90 ∨ 97 ≤ c.toNat ∧ c.toNat ≤ 122 := by
    rcases Bool.or_eq_true_iff.mp h with hupper | hlower
    · left
      exact of_decide_eq_true hupper
    · right
      obtain ⟨hfirst, hlast⟩ := Bool.and_eq_true_iff.mp hlower
      exact ⟨of_decide_eq_true hfirst, of_decide_eq_true hlast⟩
  have hblank : ¬ Text.isBlank c = true := by
    intro hc
    simp [Text.isBlank] at hc
    omega
  exact Bool.eq_false_iff.mpr hblank

/-- A letter is no blank, in whatever form. -/
theorem isBlank_of_sameLetter {l c : Char} (hl : l.isAlpha = true ∧ l.toUpper.isAlpha = true)
    (h : sameLetter l c = true) : Text.isBlank c = false := by
  simp only [sameLetter, Bool.or_eq_true, Bool.and_eq_true, beq_iff_eq] at h
  rcases h with ((rfl | rfl) | ⟨-, rfl⟩) | ⟨-, rfl⟩
  · exact isBlank_of_isAlpha hl.1
  · exact isBlank_of_isAlpha hl.2
  · decide
  · decide

/-- A name of letters has no blank. -/
theorem Lettered.isBlank (hname : Lettered name) : ∀ c ∈ name, Text.isBlank c = false := by
  intro c hc
  exact isBlank_of_isAlpha (hname c hc).1

/-- No quote is a blank. -/
theorem Quote.isBlank (q : Quote) : Text.isBlank q.char = false := by
  rcases q.char_eq with h | h <;> rw [h] <;> decide

/-- A quote takes one byte. -/
theorem Quote.utf8Size (q : Quote) : q.char.utf8Size = 1 := by
  rcases q.char_eq with h | h <;> rw [h] <;> decide

/-- **The name of an attribute and the sign behind it are stripped** up to the quote. -/
theorem stripAssignment?_append (w : Spelling name) (q : Quote) (rest : List Char) :
    stripAssignment? name (w.chars ++ '=' :: q.char :: rest) = some (q.char :: rest) := by
  have hsign : ('=' :: q.char :: rest).dropWhile Text.isBlank = '=' :: q.char :: rest :=
    List.dropWhile_cons_of_neg (by decide)
  have hquote : (q.char :: rest).dropWhile Text.isBlank = q.char :: rest :=
    List.dropWhile_cons_of_neg (by rw [q.isBlank]; decide)
  simp only [stripAssignment?, stripName?_append, Option.bind_eq_bind, Option.bind_some, hsign,
    hquote]

/-- **The value of an attribute is read** up to the quote that ends it. -/
theorem quoted?_append (q : Quote) (v : Value) (rest : List Char) :
    quoted? (q.char :: (v.chars ++ q.char :: rest)) = some v.chars := by
  have hplain : ∀ c ∈ v.chars, (!isQuote c) = true := by
    intro c hc
    rw [(v.plain c hc).2.2]
    rfl
  have htake : (v.chars ++ q.char :: rest).takeWhile (fun c => !isQuote c) = v.chars := by
    rw [List.takeWhile_append_of_pos hplain, List.takeWhile_cons_of_neg, List.append_nil]
    rw [q.isQuote]
    decide
  have hne : v.chars.isEmpty = false := by
    rw [List.isEmpty_eq_false_iff]
    exact v.ne_nil
  have hends : (v.chars ++ q.char :: rest).any isQuote = true := by
    rw [List.any_append, List.any_cons, q.isQuote, Bool.true_or, Bool.or_true]
  unfold quoted?
  dsimp only
  rw [htake, hne, hends, q.isQuote]
  rfl

/-! ## Searching for an attribute -/

/-- The search for an attribute passes over a place where none begins. -/
theorem attribute?_cons {c : Char} {cs : List Char}
    (h : Text.isBlank c = false ∨ stripAssignment? name cs = none) (offset : Nat) :
    attribute? name offset (c :: cs) = attribute? name (offset + c.utf8Size) cs := by
  rw [attribute?]
  rcases h with h | h
  · rw [h]
    rfl
  · rw [h]
    cases Text.isBlank c <;> rfl

/-- The search for an attribute ends behind a blank where one begins. -/
theorem attribute?_eq_some {c : Char} {cs rest value : List Char} (hblank : Text.isBlank c = true)
    (hrest : stripAssignment? name cs = some rest) (hvalue : quoted? rest = some value)
    (offset : Nat) :
    attribute? name offset (c :: cs) =
      some ⟨offset + Text.size (c :: cs) - Text.size rest + 1, value⟩ := by
  rw [attribute?, hblank, hrest]
  simp [hvalue]

/-- The search for an attribute passes over text without blanks. -/
theorem attribute?_append (cs rest : List Char) (h : ∀ c ∈ cs, Text.isBlank c = false)
    (offset : Nat) :
    attribute? name offset (cs ++ rest) = attribute? name (offset + Text.size cs) rest := by
  induction cs generalizing offset with
  | nil => rfl
  | cons c cs ih =>
      rw [List.cons_append, attribute?_cons (.inl (h c List.mem_cons_self)),
        ih (fun d hd => h d (List.mem_cons_of_mem _ hd)), Text.size_cons, Nat.add_assoc]

/-- The search for an attribute passes over the name of a tag. -/
theorem attribute?_tag (hother : Lettered other) (w : Spelling other) (rest : List Char)
    (offset : Nat) :
    attribute? name offset ('<' :: w.chars ++ rest) =
      attribute? name (offset + Text.size ('<' :: w.chars)) rest := by
  apply attribute?_append
  intro c hc
  rcases List.mem_cons.mp hc with rfl | hc
  · decide
  · exact isBlank_of_isAlpha (w.isAlpha hother c hc)

/-- **An attribute is found** with its value, and with the place where the value stands. -/
theorem attribute?_assign (w : Spelling name) (q : Quote) (v : Value) (rest : List Char)
    (offset : Nat) :
    attribute? name offset (w.assign q v.chars ++ rest) =
      some ⟨offset + Text.size (w.opening q), v.chars⟩ := by
  have htext : w.assign q v.chars ++ rest =
      ' ' :: (w.chars ++ '=' :: q.char :: (v.chars ++ q.char :: rest)) := by
    simp [Spelling.assign, Spelling.opening]
  have hspace : Text.isBlank ' ' = true := by decide
  rw [htext, attribute?_eq_some hspace (stripAssignment?_append w q _) (quoted?_append q v rest)]
  -- the place is counted back from the end of the text to the quote, which takes one byte
  have hquote := q.utf8Size
  have hplace : ∀ n, offset + Text.size (' ' :: (w.chars ++ '=' :: q.char :: n)) -
      Text.size (q.char :: n) + 1 = offset + Text.size (w.opening q) := by
    intro n
    simp only [Spelling.opening, Text.size_cons, Text.size_append, Text.size_nil]
    omega
  rw [hplace]

/-- **The search for an attribute passes over one with another name** whose value has no blanks. -/
theorem attribute?_other (hother : Lettered other) (h : apart name other = true)
    (w : Spelling other) (q : Quote) {value : List Char}
    (hvalue : ∀ c ∈ value, Text.isBlank c = false) (rest : List Char) (offset : Nat) :
    attribute? name offset (w.assign q value ++ rest) =
      attribute? name (offset + Text.size (w.assign q value)) rest := by
  have hname : stripAssignment? name (w.chars ++ (['=', q.char] ++ value ++ [q.char]) ++ rest) =
      none := by
    unfold stripAssignment?
    rw [List.append_assoc, stripName?_other h]
    rfl
  have hblank : ∀ c ∈ w.chars ++ (['=', q.char] ++ value ++ [q.char]), Text.isBlank c = false := by
    intro c hc
    simp only [List.mem_append, List.mem_cons, List.not_mem_nil, or_false] at hc
    rcases hc with hc | ((rfl | rfl) | hc) | rfl
    · exact isBlank_of_isAlpha (w.isAlpha hother c hc)
    · decide
    · exact q.isBlank
    · exact hvalue c hc
    · exact q.isBlank
  have htext : w.assign q value = ' ' :: (w.chars ++ (['=', q.char] ++ value ++ [q.char])) := by
    simp [Spelling.assign, Spelling.opening]
  rw [htext, List.cons_append, attribute?_cons (.inr hname), attribute?_append _ rest hblank,
    Text.size_cons, Nat.add_assoc]

/-! ## Whether a tag imports -/

/-- A text imports if an end of it does. -/
theorem relatesImport_append (cs rest : List Char) (h : relatesImport rest = true) :
    relatesImport (cs ++ rest) = true := by
  induction cs with
  | nil => exact h
  | cons c cs ih => rw [List.cons_append, relatesImport, ih, Bool.or_true]

/-- **A text imports** if it begins with an attribute that says so. -/
theorem relatesImport_assign (w : Spelling "rel".toList) (q : Quote) (rest : List Char) :
    relatesImport (w.assign q "import".toList ++ rest) = true := by
  have htext : w.assign q "import".toList ++ rest =
      ' ' :: (w.chars ++ '=' :: q.char :: ("import".toList ++ q.char :: rest)) := by
    simp [Spelling.assign, Spelling.opening]
  have hspace : Text.isBlank ' ' = true := by decide
  have hbegins : beginsImport (q.char :: ("import".toList ++ q.char :: rest)) = true := by
    unfold beginsImport
    dsimp only
    rw [q.isQuote]
    rfl
  rw [htext, relatesImport, stripAssignment?_append, hspace, Option.any_some, hbegins]
  rfl

end PolicyLint.Html
