/-
# Color sequences in texts

A color sequence is an escape, a bracket, digits and semicolons, and the letter `m`. Taking all of
them out of a text, in one pass from the left, takes them out of two parts of it, as long as the
second part does not begin with a character that could go on with a sequence of the first.

* `Text.uncolored` : a text without its color sequences;
* `Text.uncolored_append` : texts that are put together;
* `Text.uncolored_between` : a text between sequences.
-/
import PolicyLint.Text.Basic

namespace PolicyLint.Text

/-! ## Taking sequences out -/

/-- Whether a character can stand between the bracket and the end of a color sequence. -/
def isParameter (c : Char) : Bool := c.isDigit || c == ';'

/-- What follows the end of a color sequence, if its parameters come first. -/
def afterParameters? : List Char → Option (List Char)
  | [] => none
  | c :: cs => if c = 'm' then some cs else if isParameter c then afterParameters? cs else none

/-- What follows a color sequence, if a text begins with one. -/
def afterSequence? : List Char → Option (List Char)
  | '\x1b' :: '[' :: cs => afterParameters? cs
  | _ => none

/-- What follows the parameters is shorter. -/
theorem length_of_afterParameters? {cs rest : List Char} (h : afterParameters? cs = some rest) :
    rest.length < cs.length := by
  induction cs with
  | nil => cases h
  | cons c cs ih =>
      rw [afterParameters?] at h
      split at h
      · cases h
        exact Nat.lt_succ_self _
      · split at h
        · exact Nat.lt_succ_of_lt (ih h)
        · cases h

/-- What follows a sequence is shorter. -/
theorem length_of_afterSequence? {cs rest : List Char} (h : afterSequence? cs = some rest) :
    rest.length < cs.length := by
  rw [afterSequence?.eq_def] at h
  split at h
  · exact Nat.lt_succ_of_lt (Nat.lt_succ_of_lt (length_of_afterParameters? h))
  · cases h

/-- The characters that stand in no color sequence, found in one pass from the left. -/
def dropSequences : List Char → List Char
  | [] => []
  | c :: cs =>
      match h : afterSequence? (c :: cs) with
      | some rest =>
          have := length_of_afterSequence? h
          dropSequences rest
      | none => c :: dropSequences cs
termination_by cs => cs.length
decreasing_by
  · assumption
  · exact Nat.lt_succ_self _

/-- A sequence in front of a text is taken out. -/
theorem dropSequences_of_some {cs rest : List Char} (h : afterSequence? cs = some rest) :
    dropSequences cs = dropSequences rest := by
  cases cs with
  | nil => cases h
  | cons c cs =>
      rw [dropSequences]
      split
      · rename_i other hother
        obtain rfl : other = rest := Option.some.inj (hother.symm.trans h)
        rfl
      · rename_i hnone
        cases hnone.symm.trans h

/-- A character that begins no sequence stays. -/
theorem dropSequences_of_none {c : Char} {cs : List Char} (h : afterSequence? (c :: cs) = none) :
    dropSequences (c :: cs) = c :: dropSequences cs := by
  rw [dropSequences]
  split
  · rename_i rest hsome
    cases hsome.symm.trans h
  · rfl

/-! ## Putting texts together -/

/-- Whether a character can go on with a color sequence. -/
def isInner (c : Char) : Bool := c == '[' || c == 'm' || isParameter c

/-- Whether a text does not go on with a color sequence in front of it. -/
def Stops (cs : List Char) : Prop := ∀ c ∈ cs.head?, isInner c = false

/-- Parameters end in front of a text that does not go on with them. -/
theorem afterParameters?_append (as : List Char) {bs : List Char} (h : Stops bs) :
    afterParameters? (as ++ bs) = (afterParameters? as).map (· ++ bs) := by
  induction as with
  | nil =>
      cases bs with
      | nil => rfl
      | cons b bs =>
          have hb := h b rfl
          simp only [isInner, Bool.or_eq_false_iff, beq_eq_false_iff_ne] at hb
          show afterParameters? (b :: bs) = none
          rw [afterParameters?, if_neg hb.1.2, hb.2]
          rfl
  | cons a as ih =>
      rw [List.cons_append, afterParameters?, afterParameters?, ih]
      split
      · rfl
      · split <;> rfl

/-- No sequence begins without an escape and a bracket. -/
theorem afterSequence?_eq_none {c d : Char} (h : c ≠ '\x1b' ∨ d ≠ '[') (cs : List Char) :
    afterSequence? (c :: d :: cs) = none := by
  rw [afterSequence?]
  intro ds hcons
  obtain ⟨hc, hrest⟩ := List.cons.inj hcons
  exact h.elim (absurd hc) (absurd (List.cons.inj hrest).1)

/-- So do sequences, from the first character on. -/
theorem afterSequence?_append (a : Char) (as : List Char) {bs : List Char} (h : Stops bs) :
    afterSequence? (a :: as ++ bs) = (afterSequence? (a :: as)).map (· ++ bs) := by
  have hone : afterSequence? [a] = none := by
    rw [afterSequence?]
    intro cs hcons
    cases (List.cons.inj hcons).2
  cases as with
  | nil =>
      rw [hone]
      cases bs with
      | nil => exact hone
      | cons b bs =>
          have hb := h b rfl
          simp only [isInner, Bool.or_eq_false_iff, beq_eq_false_iff_ne] at hb
          exact afterSequence?_eq_none (.inr hb.1.1) bs
  | cons c as =>
      by_cases hfront : a = '\x1b' ∧ c = '['
      · obtain ⟨rfl, rfl⟩ := hfront
        exact afterParameters?_append as h
      · have hne := Decidable.not_and_iff_not_or_not.mp hfront
        rw [List.cons_append, List.cons_append, afterSequence?_eq_none hne,
          afterSequence?_eq_none hne]
        rfl

/-- **Sequences are taken out of two parts of a text**, if the second does not go on with one of the
first. By induction along the pass over the first part. -/
theorem dropSequences_append (as : List Char) {bs : List Char} (h : Stops bs) :
    dropSequences (as ++ bs) = dropSequences as ++ dropSequences bs := by
  induction as using dropSequences.induct with
  | case1 => rw [dropSequences, List.nil_append, List.nil_append]
  | case2 a as rest hsome _ ih =>
      have happend := afterSequence?_append a as h
      rw [hsome, Option.map_some] at happend
      rw [dropSequences_of_some happend, dropSequences_of_some hsome, ih]
  | case3 a as hnone ih =>
      have happend := afterSequence?_append a as h
      rw [hnone, Option.map_none] at happend
      rw [List.cons_append] at happend ⊢
      rw [dropSequences_of_none happend, dropSequences_of_none hnone, ih]
      rfl

/-- A whole sequence in front of a text is taken out. -/
theorem dropSequences_sequence {ps : List Char} (h : ∀ c ∈ ps, isParameter c = true)
    (cs : List Char) : dropSequences ('\x1b' :: '[' :: (ps ++ 'm' :: cs)) = dropSequences cs := by
  apply dropSequences_of_some
  show afterParameters? (ps ++ 'm' :: cs) = some cs
  induction ps with
  | nil => rfl
  | cons p ps ih =>
      obtain ⟨hp, hps⟩ := List.forall_mem_cons.mp h
      have hm : p ≠ 'm' := by
        rintro rfl
        cases hp
      rw [List.cons_append, afterParameters?, if_neg hm, if_pos hp]
      exact ih hps

/-! ## Strings -/

/-- A text without its color sequences. -/
def uncolored (s : String) : String := String.ofList (dropSequences s.toList)

theorem uncolored_empty : uncolored "" = "" := by
  rw [uncolored, String.toList_empty, dropSequences]

/-- Whether a text begins with a character that goes on with no color sequence. -/
def StartsApart (s : String) : Prop := s.toList.head?.any (fun c => !isInner c) = true

instance (s : String) : Decidable (StartsApart s) :=
  inferInstanceAs (Decidable (s.toList.head?.any (fun c => !isInner c) = true))

/-- Such a text has a first character. -/
theorem StartsApart.exists_cons {s : String} (h : StartsApart s) :
    ∃ c cs, s.toList = c :: cs ∧ isInner c = false := by
  rw [StartsApart] at h
  rcases hs : s.toList with _ | ⟨c, cs⟩
  · rw [hs] at h
    cases h
  · rw [hs] at h
    exact ⟨c, cs, rfl, by simpa using h⟩

/-- How the text goes on does not matter. -/
theorem StartsApart.append {s : String} (h : StartsApart s) (t : String) : StartsApart (s ++ t) := by
  obtain ⟨c, cs, hs, hc⟩ := h.exists_cons
  rw [StartsApart, String.toList_append, hs]
  simp [hc]

/-- **Two texts lose their sequences each**, if the second starts apart. -/
theorem uncolored_append (s : String) {t : String} (h : StartsApart t) :
    uncolored (s ++ t) = uncolored s ++ uncolored t := by
  obtain ⟨c, cs, ht, hc⟩ := h.exists_cons
  have hstops : Stops t.toList := by
    intro d hd
    rw [ht] at hd
    cases hd
    exact hc
  rw [uncolored, String.toList_append, dropSequences_append _ hstops, String.ofList_append]
  rfl

/-- A blank is in no sequence, whatever follows it. -/
theorem uncolored_blank_append (t : String) : uncolored (" " ++ t) = " " ++ uncolored t := by
  have hnone : afterSequence? (' ' :: t.toList) = none := by
    rw [afterSequence?]
    intro cs hcons
    cases (List.cons.inj hcons).1
  rw [uncolored, String.toList_append]
  show String.ofList (dropSequences (' ' :: t.toList)) = _
  rw [dropSequences_of_none hnone]
  have hsplit : String.ofList ([' '] ++ dropSequences t.toList) = _ := String.ofList_append
  exact hsplit

/-- Whether a text is one color sequence. -/
def IsSequence (q : String) : Prop :=
  ∃ ps, q.toList = '\x1b' :: '[' :: (ps ++ ['m']) ∧ ps.all isParameter = true

/-- A sequence starts apart, and so does what it is put in front of. -/
theorem IsSequence.startsApart {q : String} (h : IsSequence q) : StartsApart q := by
  obtain ⟨ps, hq, -⟩ := h
  rw [StartsApart, hq]
  rfl

/-- A sequence in front of a text is taken out. -/
theorem uncolored_sequence_append {q : String} (h : IsSequence q) (t : String) :
    uncolored (q ++ t) = uncolored t := by
  obtain ⟨ps, hq, hps⟩ := h
  have htext : (q ++ t).toList = '\x1b' :: '[' :: (ps ++ 'm' :: t.toList) := by
    rw [String.toList_append, hq]
    simp
  rw [uncolored, htext, dropSequences_sequence (List.all_eq_true.mp hps)]
  rfl

/-- **Two sequences around a text are taken out**, whatever follows them. -/
theorem uncolored_between {front back : String} (hfront : IsSequence front)
    (hback : IsSequence back) (s t : String) :
    uncolored (front ++ s ++ back ++ t) = uncolored s ++ uncolored t := by
  rw [String.append_assoc, String.append_assoc, uncolored_sequence_append hfront,
    uncolored_append s (hback.startsApart.append t), uncolored_sequence_append hback]

end PolicyLint.Text
