/-
# Values read back

The compact text of a value is one of its texts, so it is read back as the value, whatever follows
it, as long as a number at its end is not gone on with. Neither the values in it nor the text have
control characters, so the text is one line.

* `Json.Written` : the values that are written, with natural numbers only;
* `Json.Written.writes` : their texts are those that the grammar has;
* `Json.Written.reads` : they are read back in front of any text;
* `Json.parse?_render` : they are read back as whole texts;
* `Json.Written.le_of_mem_print` : their texts have no control characters.
-/
import PolicyLint.Proofs.Json.Literal

namespace PolicyLint.Json

/-- The values that are written: natural numbers are the only numbers, and nothing is broken. -/
inductive Written : Json → Prop
  | null : Written .null
  | bool (b : Bool) : Written (.bool b)
  | number (n : Nat) : Written (.ofNat n)
  | string (s : String) : Written (.string s)
  | array {items : List Json} (items_written : ∀ v ∈ items, Written v) : Written (.array items)
  | object {members : List (String × Json)} (members_written : ∀ m ∈ members, Written m.2) :
      Written (.object members)

/-- Whether a value is read back from the front of a text, if the fuel suffices. -/
def Reads (v : Json) : Prop :=
  ∀ fuel rest, (print v).length ≤ fuel → Ends rest →
    readValue? fuel (print v ++ rest) = some (v, rest)

/-! ## Texts of the grammar -/

/-- The text of a number is its digits. -/
theorem print_ofNat (n : Nat) : print (.ofNat n) = Nat.toDigits 10 n := by
  rw [ofNat, print, toList_toString]

/-- There are no blanks where nothing stands. -/
theorem blanks_nil : Blanks [] := fun _ h => nomatch h

/-- The items of an array are written as the grammar has them if each of them is. By induction on
the items. -/
theorem writesItems_print {items : List Json} (hne : items ≠ [])
    (h : ∀ v ∈ items, Writes v (print v)) : WritesItems items (printItems items) := by
  induction items with
  | nil => exact absurd rfl hne
  | cons v vs ih =>
      have hv := h v List.mem_cons_self
      cases vs with
      | nil => simpa [printItems] using WritesItems.last blanks_nil hv blanks_nil
      | cons w vs =>
          have hrest := ih (List.cons_ne_nil w vs) fun u hu => h u (List.mem_cons_of_mem v hu)
          simpa [printItems] using WritesItems.more blanks_nil hv blanks_nil hrest

/-- A member is written as the grammar has it if its value is. -/
theorem writesMember_print {k : String} {v : Json} (h : Writes v (print v)) :
    WritesMember (k, v) (quote k ++ ':' :: print v) := by
  simpa using WritesMember.pair blanks_nil (writesString_quote k) blanks_nil blanks_nil h blanks_nil

/-- The members of an object are written as the grammar has them if their values are. By induction
on the members. -/
theorem writesMembers_print {members : List (String × Json)} (hne : members ≠ [])
    (h : ∀ m ∈ members, Writes m.2 (print m.2)) : WritesMembers members (printMembers members) := by
  induction members with
  | nil => exact absurd rfl hne
  | cons m ms ih =>
      have hm := writesMember_print (k := m.1) (h m List.mem_cons_self)
      cases ms with
      | nil => exact .last hm
      | cons m' ms =>
          have hrest := ih (List.cons_ne_nil m' ms) fun u hu => h u (List.mem_cons_of_mem m hu)
          simpa [printMembers] using WritesMembers.more hm hrest

/-- **A value is written as the grammar has it.** By induction on the value. -/
theorem Written.writes {v : Json} (h : Written v) : Writes v (print v) := by
  induction h with
  | null => exact .null
  | bool b =>
      cases b
      · exact .isFalse
      · exact .isTrue
  | number n =>
      refine .number ?_
      rw [toList_toString]
      exact isNumber_toDigits n
  | string s => exact .string (writesString_quote s)
  | @array items hw ih =>
      cases items with
      | nil => exact .emptyArray blanks_nil
      | cons v vs => exact .array (writesItems_print (List.cons_ne_nil v vs) ih)
  | @object members hw ih =>
      cases members with
      | nil => exact .emptyObject blanks_nil
      | cons m ms => exact .object (writesMembers_print (List.cons_ne_nil m ms) ih)

/-- **A value is read back from the front of a text.** -/
theorem Written.reads {v : Json} (h : Written v) : Reads v := fun fuel rest hfuel hrest =>
  (Json.reads fuel).1 v (print v) rest h.writes hfuel hrest

/-- The text of a value is one of its texts. -/
theorem Written.writesText_render {v : Json} (h : Written v) : WritesText v (render v) := by
  refine .around blanks_nil h.writes blanks_nil ?_
  rw [render, String.toList_ofList, List.nil_append, List.append_nil]

/-- **The text of a value is read back as the value.** -/
theorem parse?_render {v : Json} (h : Written v) : parse? (render v) = some v :=
  parse?_of_writesText h.writesText_render

/-! ## One line -/

/-- A string has no control characters between its quotes. -/
theorem le_of_mem_quote {s : String} {c : Char} (h : c ∈ quote s) : 32 ≤ c.toNat := by
  rw [quote, List.mem_cons, List.mem_append, List.mem_flatMap, List.mem_singleton] at h
  rcases h with rfl | ⟨d, -, hd⟩ | rfl
  · decide
  · exact le_of_mem_escape hd
  · decide

/-- The items of an array have no control characters if none of them has any. -/
theorem le_of_mem_printItems {items : List Json}
    (h : ∀ v ∈ items, ∀ c ∈ print v, 32 ≤ c.toNat) : ∀ c ∈ printItems items, 32 ≤ c.toNat := by
  intro c hc
  induction items with
  | nil => cases hc
  | cons v vs ih =>
      cases vs with
      | nil => exact h v List.mem_cons_self c hc
      | cons w vs =>
          rw [printItems, List.mem_append, List.mem_cons] at hc
          rcases hc with hc | rfl | hc
          · exact h v List.mem_cons_self c hc
          · decide
          · exact ih (fun u hu => h u (List.mem_cons_of_mem v hu)) hc

/-- The members of an object have no control characters if none of their values has any. -/
theorem le_of_mem_printMembers {members : List (String × Json)}
    (h : ∀ m ∈ members, ∀ c ∈ print m.2, 32 ≤ c.toNat) :
    ∀ c ∈ printMembers members, 32 ≤ c.toNat := by
  intro c hc
  induction members with
  | nil => cases hc
  | cons m ms ih =>
      obtain ⟨k, v⟩ := m
      cases ms with
      | nil =>
          rw [printMembers, List.mem_append, List.mem_cons] at hc
          rcases hc with hc | rfl | hc
          · exact le_of_mem_quote hc
          · decide
          · exact h (k, v) List.mem_cons_self c hc
      | cons m ms =>
          rw [printMembers, List.mem_append, List.mem_cons, List.mem_append, List.mem_cons] at hc
          rcases hc with hc | rfl | hc | rfl | hc
          · exact le_of_mem_quote hc
          · decide
          · exact h (k, v) List.mem_cons_self c hc
          · decide
          · exact ih (fun u hu => h u (List.mem_cons_of_mem _ hu)) hc

/-- **The text of a value has no control characters**, so it is one line. -/
theorem Written.le_of_mem_print {v : Json} (h : Written v) : ∀ c ∈ print v, 32 ≤ c.toNat := by
  induction h with
  | null => simp [print]
  | bool b => cases b <;> simp [print]
  | number n =>
      intro c hc
      rw [print_ofNat] at hc
      have hdigit := isDigit_toDigits c hc
      simp only [Char.isDigit, Bool.and_eq_true, decide_eq_true_eq, UInt32.le_iff_toNat_le] at hdigit
      exact Nat.le_trans (by decide) hdigit.1
  | string s =>
      intro c hc
      exact le_of_mem_quote hc
  | array hw ih =>
      intro c hc
      rw [print, List.mem_cons, List.mem_append, List.mem_singleton] at hc
      rcases hc with rfl | hc | rfl
      · decide
      · exact le_of_mem_printItems ih c hc
      · decide
  | object hw ih =>
      intro c hc
      rw [print, List.mem_cons, List.mem_append, List.mem_singleton] at hc
      rcases hc with rfl | hc | rfl
      · decide
      · exact le_of_mem_printMembers ih c hc
      · decide

end PolicyLint.Json
