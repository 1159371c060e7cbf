/-
# The bytes of a text

The bytes of a text are those of its characters in UTF-8, one after the other. A line feed is a byte
of its own, and no other character has that byte among its own, so lines can be counted in bytes.

* `Text.bytes` : the bytes of a text;
* `Text.feed_mem_utf8EncodeChar_iff` : a line feed is no part of another character;
* `Position.line_ofOffset` : the line of an offset, counted in bytes.
-/
import PolicyLint.Proofs.Text.Lines

namespace PolicyLint

namespace Text

/-- The byte of a line feed. -/
def feed : UInt8 := 10

/-- The byte of a space. -/
def space : UInt8 := 32

/-- The bytes of a text in UTF-8. -/
def bytes (text : List Char) : List UInt8 := text.flatMap String.utf8EncodeChar

theorem bytes_cons (c : Char) (cs : List Char) :
    bytes (c :: cs) = String.utf8EncodeChar c ++ bytes cs := List.flatMap_cons

theorem bytes_append (as bs : List Char) : bytes (as ++ bs) = bytes as ++ bytes bs :=
  List.flatMap_append

/-- There are as many of them as the size of the text says. -/
theorem length_bytes (text : List Char) : (bytes text).length = size text := by
  induction text with
  | nil => rfl
  | cons c cs ih =>
      rw [bytes_cons, List.length_append, String.length_utf8EncodeChar, ih, size_cons]

/-- **A line feed is no part of another character.** The bytes of a character of several bytes are
all greater. -/
theorem feed_mem_utf8EncodeChar_iff (c : Char) : feed ∈ String.utf8EncodeChar c ↔ c = '\n' := by
  constructor
  · intro h
    have hnat : ∀ n, feed = UInt8.ofNat n → n % 256 = 10 := by
      intro n hn
      have := congrArg UInt8.toNat hn
      rw [UInt8.toNat_ofNat'] at this
      exact this.symm
    have hpoint : c.toNat = 10 := by
      unfold String.utf8EncodeChar at h
      show c.val.toNat = 10
      simp only at h
      split at h
      · have := hnat _ (List.mem_singleton.mp h)
        omega
      · -- a byte at least 128 is none of a line feed
        exfalso
        split at h
        · simp only [List.mem_cons, List.not_mem_nil, or_false] at h
          rcases h with h | h <;> exact absurd (hnat _ h) (by omega)
        · split at h
          · simp only [List.mem_cons, List.not_mem_nil, or_false] at h
            rcases h with h | h | h <;> exact absurd (hnat _ h) (by omega)
          · simp only [List.mem_cons, List.not_mem_nil, or_false] at h
            rcases h with h | h | h | h <;> exact absurd (hnat _ h) (by omega)
    rw [← Char.ofNat_toNat c, hpoint]
  · rintro rfl
    decide

/-- A line feed is one byte. -/
theorem utf8EncodeChar_feed : String.utf8EncodeChar '\n' = [feed] := by decide

/-- The line feeds among the first bytes of a text are those of the characters that end there or
before. -/
theorem count_take_bytes (text : List Char) (n : Nat) :
    ((bytes text).take n).count feed = (before text n).count '\n' := by
  induction text generalizing n with
  | nil => rw [before_nil, bytes, List.flatMap_nil, List.take_nil]; rfl
  | cons c cs ih =>
      rw [bytes_cons, before]
      by_cases hc : c = '\n'
      · subst hc
        rw [utf8EncodeChar_feed]
        cases n with
        | zero => rfl
        | succ n =>
            have hsize : '\n'.utf8Size = 1 := by decide
            rw [hsize, if_pos (Nat.le_add_left 1 n), List.singleton_append, List.take_succ_cons,
              List.count_cons_self, List.count_cons_self, ih, Nat.add_sub_cancel]
      · have hnone : feed ∉ String.utf8EncodeChar c := mt (feed_mem_utf8EncodeChar_iff c).mp hc
        have hcount (k : Nat) : ((String.utf8EncodeChar c).take k).count feed = 0 :=
          List.count_eq_zero.mpr fun h => hnone (List.mem_of_mem_take h)
        rw [List.take_append, List.count_append, hcount, Nat.zero_add, String.length_utf8EncodeChar,
          ih]
        split
        · rw [List.count_cons_of_ne hc]
        · rw [Nat.sub_eq_zero_of_le (by omega), before_zero]

end Text

/-- **The line of an offset counts the line feeds among the bytes before it.** -/
theorem Position.line_ofOffset (text : List Char) (n : Nat) :
    (ofOffset text n).line = ((Text.bytes text).take n).count Text.feed + 1 := by
  rw [ofOffset, line_after, Text.count_take_bytes]

end PolicyLint
