/-
# Literals as they are written

A string is written with an escape for each character that needs one, which is one of the forms of
the character. A natural number is written with its digits, without a zero in front, which is the
literal of a number.

* `Json.form_escape`, `Json.writesString_quote` : strings are written as the grammar has them;
* `Json.isNumber_toDigits` : and so are natural numbers;
* `Json.natural?_ofNat` : the value of a number below `UInt64.size` is the number.
-/
import PolicyLint.Proofs.Json.Reading

namespace PolicyLint.Json

/-! ## Strings -/

/-- The characters that have an escape of one letter. -/
def shortEscaped : List Char := ['"', '\\', '\n', '\r', '\t', '\x08', '\x0c']

/-- The form of a character: an escape of one letter, the escape of a control character, or the
character itself. -/
theorem escape_cases (c : Char) :
    (∃ e, escape c = ['\\', e] ∧ (e, c) ∈ shortForms ∧ 32 ≤ e.toNat) ∨
    (escape c = ['\\', 'u', '0', '0', hexDigit (c.toNat / 16), hexDigit (c.toNat % 16)] ∧
      c.toNat < 32) ∨
    (escape c = [c] ∧ c ≠ '"' ∧ c ≠ '\\' ∧ 32 ≤ c.toNat) := by
  by_cases hshort : c ∈ shortEscaped
  · simp only [shortEscaped, List.mem_cons, List.not_mem_nil, or_false] at hshort
    rcases hshort with rfl | rfl | rfl | rfl | rfl | rfl | rfl
    all_goals exact .inl ⟨_, rfl, by decide, by decide⟩
  · simp only [shortEscaped, List.mem_cons, List.not_mem_nil, or_false, not_or] at hshort
    obtain ⟨hquote, hslash, hn, hr, ht, hb, hf⟩ := hshort
    rw [escape, if_neg hquote, if_neg hslash, if_neg hn, if_neg hr, if_neg ht, if_neg hb, if_neg hf]
    by_cases hcontrol : c.toNat < 32
    · rw [if_pos hcontrol]
      exact .inr (.inl ⟨rfl, hcontrol⟩)
    · rw [if_neg hcontrol]
      exact .inr (.inr ⟨rfl, hquote, hslash, Nat.le_of_not_lt hcontrol⟩)

/-- The hexadecimal digits of a control character, the first two of which are zeros. -/
theorem hexDigit_control : ∀ n < 32,
    hexDigit (n / 4096) = '0' ∧ hexDigit (n / 256 % 16) = '0' ∧ n / 16 % 16 = n / 16 ∧
      32 ≤ (hexDigit (n / 16)).toNat ∧ 32 ≤ (hexDigit (n % 16)).toNat := by
  decide

/-- **A character is written in one of its forms.** -/
theorem form_escape (c : Char) : Form c (escape c) := by
  rcases escape_cases c with ⟨e, hescape, hshort, -⟩ | ⟨hescape, hcontrol⟩ |
    ⟨hescape, hquote, hslash, hcontrol⟩
  · rw [hescape]
    exact .short hshort
  · obtain ⟨hfirst, hsecond, hthird, -, -⟩ := hexDigit_control c.toNat hcontrol
    rw [hescape]
    refine .unit (by omega) (.digits (.inl hfirst.symm) (.inl hsecond.symm) (.inl ?_) (.inl rfl))
    rw [hthird]
  · rw [hescape]
    exact .plain hquote hslash hcontrol

/-- A string is written as a text of the string. -/
theorem writesString_quote (s : String) : WritesString s (quote s) := by
  have hspells : ∀ cs : List Char, Spells cs (cs.flatMap escape) := by
    intro cs
    induction cs with
    | nil => exact .nil
    | cons c cs ih => exact .cons (form_escape c) ih
  exact .quoted (hspells s.toList)

/-- The form of a character has no control characters. -/
theorem le_of_mem_escape {c d : Char} (h : d ∈ escape c) : 32 ≤ d.toNat := by
  rcases escape_cases c with ⟨e, hescape, -, he⟩ | ⟨hescape, hcontrol⟩ | ⟨hescape, -, -, hc⟩
  · rw [hescape] at h
    simp only [List.mem_cons, List.not_mem_nil, or_false] at h
    rcases h with rfl | rfl
    · decide
    · exact he
  · obtain ⟨-, -, -, hhigh, hlow⟩ := hexDigit_control c.toNat hcontrol
    rw [hescape] at h
    simp only [List.mem_cons, List.not_mem_nil, or_false] at h
    rcases h with rfl | rfl | rfl | rfl | rfl | rfl
    · decide
    · decide
    · decide
    · decide
    · exact hhigh
    · exact hlow
  · rw [hescape, List.mem_singleton] at h
    rw [h]
    exact hc

/-! ## Digits -/

/-- The digits of a number. -/
theorem toList_toString (n : Nat) : (toString n).toList = Nat.toDigits 10 n := by
  rw [Nat.toString_eq_ofList_toDigits, String.toList_ofList]

/-- The digits of a number are digits. -/
theorem isDigit_toDigits {n : Nat} : ∀ c ∈ Nat.toDigits 10 n, c.isDigit = true := fun _ =>
  Nat.isDigit_of_mem_toDigits (by decide) (by decide)

/-- A number with more than one digit does not begin with a zero. -/
theorem toDigits_ne_zero_cons (n : Nat) (d : Char) (ds : List Char) :
    Nat.toDigits 10 n ≠ '0' :: d :: ds := by
  induction n using Nat.strongRecOn generalizing d ds with
  | ind n ih =>
      intro h
      by_cases hn : n < 10
      · rw [Nat.toDigits_of_lt_base hn] at h
        cases (List.cons.inj h).2
      · -- all digits but the last are those of the tenth part, which is not zero
        rw [Nat.toDigits_of_base_le (by decide) (by omega)] at h
        rcases hfront : Nat.toDigits 10 (n / 10) with _ | ⟨c, _ | ⟨e, es⟩⟩
        · exact Nat.toDigits_ne_nil hfront
        · rw [hfront] at h
          obtain ⟨rfl, -⟩ := List.cons.inj h
          have hzero := @Nat.ofDigitChars_ten_toDigits (n / 10)
          have hvalue : Nat.ofDigitChars 10 ['0'] 0 = 0 := by decide
          rw [hfront, hvalue] at hzero
          omega
        · rw [hfront] at h
          obtain ⟨rfl, -⟩ := List.cons.inj h
          exact ih (n / 10) (by omega) e es hfront

/-! ## Numbers -/

/-- **The digits of a number are the literal of a number.** -/
theorem isNumber_toDigits (n : Nat) : IsNumber (Nat.toDigits 10 n) := by
  have hdigits : IsDigits (Nat.toDigits 10 n) := ⟨Nat.toDigits_ne_nil, isDigit_toDigits⟩
  have hwhole : IsWhole (Nat.toDigits 10 n) := by
    rcases hn : Nat.toDigits 10 n with _ | ⟨d, ds⟩
    · exact absurd hn Nat.toDigits_ne_nil
    · by_cases hzero : d = '0'
      · rcases ds with _ | ⟨e, es⟩
        · rw [hzero]
          exact .zero
        · exact absurd (hzero ▸ hn) (toDigits_ne_zero_cons n e es)
      · exact .digits hzero (hn ▸ hdigits)
  have hunsigned := IsUnsigned.parts hwhole .none .none
  rw [List.append_nil, List.append_nil] at hunsigned
  exact .positive hunsigned

/-- The value of the digits of a number is the number. -/
theorem digitsValue_toDigits (n : Nat) : digitsValue (Nat.toDigits 10 n) = n := by
  have h := @Nat.ofDigitChars_ten_toDigits n
  rw [Nat.ofDigitChars_eq_foldl] at h
  exact h

/-- **The value of a number is the number**, if it is small enough. -/
theorem natural?_ofNat {n : Nat} (h : n < UInt64.size) : (ofNat n).natural? = some n := by
  have hall : (Nat.toDigits 10 n).all Char.isDigit = true := List.all_eq_true.mpr isDigit_toDigits
  simp only [ofNat, natural?, toList_toString, digitsValue_toDigits, hall, decide_eq_true h,
    Bool.and_self, if_true]

end PolicyLint.Json
