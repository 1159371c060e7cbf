/-
# Texts of JSON are read

Every text that the grammar gives a value is read as that value: each character of a string is read
from one piece or two, a number up to where it ends, and arrays and objects item by item. The fuel
suffices because each value takes at least one character.

* `Json.exists_pieces_spells` : strings;
* `Json.number?_append` : numbers, unless what follows goes on with them;
* `Json.reads` : values, items and members;
* `Json.parse?_of_writesText` : whole texts.
-/
import PolicyLint.Json.Parser
import PolicyLint.Proofs.Json.Grammar

namespace PolicyLint.Json

/-! ## Strings -/

/-- A hexadecimal digit has its value. -/
theorem hexValue?_of_isHexDigit {n : Nat} {c : Char} (hn : n < 16) (h : IsHexDigit n c) :
    Text.hexValue? c = some n := by
  have hall : ∀ n < 16, Text.hexValue? (hexDigit n) = some n ∧
      Text.hexValue? (hexDigit n).toUpper = some n := by decide
  rcases h with rfl | rfl
  · exact (hall n hn).1
  · exact (hall n hn).2

/-- The escape of a unit is read as the unit. -/
theorem pieces_unitForm {n : Nat} {f : List Char} (hn : n < 0x10000) (h : UnitForm n f)
    (cs : List Char) :
    pieces (f ++ cs) = (pieces cs).map fun x => (.unit n :: x.1, x.2) := by
  obtain ⟨ha, hb, hc, hd⟩ := h
  rename_i a b c d
  have hnumber : Text.hexNumber? 4 [a, b, c, d] = some n := by
    have hvalue : 16 * (16 * (16 * (16 * 0 + n / 4096) + n / 256 % 16) + n / 16 % 16) + n % 16 = n := by
      omega
    simp [Text.hexNumber?, hexValue?_of_isHexDigit (by omega) ha,
      hexValue?_of_isHexDigit (by omega) hb, hexValue?_of_isHexDigit (by omega) hc,
      hexValue?_of_isHexDigit (by omega) hd]
    omega
  simp only [List.cons_append, List.nil_append]
  rw [pieces, hnumber]
  cases pieces cs <;> rfl

/-- **Each form of a character is read as pieces that spell the character.** -/
theorem exists_pieces_form {c : Char} {f : List Char} (h : Form c f) (cs : List Char) :
    ∃ ps, pieces (f ++ cs) = (pieces cs).map (fun x => (ps ++ x.1, x.2)) ∧
      ∀ qs, spell? (ps ++ qs) = (spell? qs).map (c :: ·) := by
  cases h with
  | plain notQuote notSlash notControl =>
      refine ⟨[.char c], ?_, fun _ => rfl⟩
      have hplain : ¬ (c = '\\' ∨ c.toNat < 32) := not_or.mpr ⟨notSlash, Nat.not_lt.mpr notControl⟩
      rw [List.cons_append, List.nil_append, pieces, if_neg hplain]
      · cases pieces cs <;> rfl
      · exact notQuote
      · intro a b d e rest hc _
        exact notSlash hc
      · intro d rest hc _
        exact notSlash hc
  | short isShort =>
      rename_i e
      have hall : ∀ p ∈ shortForms, shortEscape? p.1 = some p.2 ∧ p.1 ≠ 'u' := by decide
      obtain ⟨hshort, hletter⟩ := hall _ isShort
      refine ⟨[.char c], ?_, fun _ => rfl⟩
      rw [List.cons_append, List.cons_append, List.nil_append, pieces, hshort]
      · cases pieces cs <;> rfl
      · rintro a b d f rest rfl
        exact fun _ => hletter rfl
  | unit isSmall digits =>
      refine ⟨[.unit c.toNat], pieces_unitForm isSmall digits cs, fun qs => ?_⟩
      -- the only unit of a character is no half of a pair
      have hvalid : c.toNat < 0xD800 ∨ 0xDFFF < c.toNat ∧ c.toNat < 0x110000 := c.valid
      rw [List.singleton_append, spell?.eq_def]
      dsimp only
      rw [if_neg (by omega), if_neg (by omega), Char.ofNat_toNat]
  | pair isLarge highDigits lowDigits =>
      rename_i high low
      have hvalid : c.toNat < 0xD800 ∨ 0xDFFF < c.toNat ∧ c.toNat < 0x110000 := c.valid
      refine ⟨[.unit (0xD800 + (c.toNat - 0x10000) / 1024),
        .unit (0xDC00 + (c.toNat - 0x10000) % 1024)], ?_, fun qs => ?_⟩
      · rw [List.append_assoc, pieces_unitForm (by omega) highDigits,
          pieces_unitForm (by omega) lowDigits]
        cases pieces cs <;> rfl
      · have hvalue : 0x10000 +
            (0xD800 + (c.toNat - 0x10000) / 1024 - 0xD800) * 1024 +
            (0xDC00 + (c.toNat - 0x10000) % 1024 - 0xDC00) = c.toNat := by
          omega
        rw [List.cons_append, List.singleton_append, spell?.eq_def]
        dsimp only
        rw [if_pos (by omega), if_pos (by omega), hvalue, Char.ofNat_toNat]

/-- **A string is read back** from each way to spell it, up to its closing quote. By induction on
the characters. -/
theorem exists_pieces_spells {cs t : List Char} (h : Spells cs t) (rest : List Char) :
    ∃ ps, pieces (t ++ '"' :: rest) = some (ps, rest) ∧ spell? ps = some cs := by
  induction h with
  | nil => exact ⟨[], by rw [List.nil_append, pieces], rfl⟩
  | @cons c cs f t first _ ih =>
      obtain ⟨qs, hqs, hspell⟩ := ih
      obtain ⟨ps, hps, hc⟩ := exists_pieces_form first (t ++ '"' :: rest)
      refine ⟨ps ++ qs, ?_, ?_⟩
      · rw [List.append_assoc, hps, hqs]
        rfl
      · rw [hc, hspell]
        rfl

/-- A string is read as a value. -/
theorem stringValue?_spells {s : String} {t : List Char} (h : Spells s.toList t)
    (rest : List Char) : stringValue? (t ++ '"' :: rest) = some (.string s, rest) := by
  obtain ⟨ps, hps, hspell⟩ := exists_pieces_spells h rest
  simp only [stringValue?, hps, Option.bind_eq_bind, Option.bind_some, hspell, String.ofList_toList]
  rfl

/-- The name of a member is read. -/
theorem name?_spells {s : String} {t : List Char} (h : Spells s.toList t) (rest : List Char) :
    name? (t ++ '"' :: rest) = some (some s, rest) := by
  obtain ⟨ps, hps, hspell⟩ := exists_pieces_spells h rest
  simp only [name?, hps, Option.bind_eq_bind, Option.bind_some, hspell, Option.map_some,
    String.ofList_toList]
  rfl

/-! ## Numbers -/

/-- Whether a character goes on with a number. -/
def isNumeric (c : Char) : Bool := c.isDigit || c == '.' || c == 'e' || c == 'E'

/-- Whether a number ends before a text. -/
def Ends (rest : List Char) : Prop := ∀ c ∈ rest.head?, isNumeric c = false

/-- A run of digits ends before what does not begin with a digit. -/
theorem digits1?_append {ds rest : List Char} (h : IsDigits ds)
    (hrest : ∀ c ∈ rest.head?, c.isDigit = false) : digits1? (ds ++ rest) = some (ds, rest) := by
  have hstops : rest.takeWhile Char.isDigit = [] ∧ rest.dropWhile Char.isDigit = rest := by
    cases rest with
    | nil => exact ⟨rfl, rfl⟩
    | cons c cs =>
        have hc := hrest c rfl
        exact ⟨List.takeWhile_cons_of_neg (by simp [hc]), List.dropWhile_cons_of_neg (by simp [hc])⟩
  rw [digits1?, List.takeWhile_append_of_pos h.2, List.dropWhile_append_of_pos h.2, hstops.1,
    hstops.2, List.append_nil]
  obtain ⟨d, ds, rfl⟩ := List.exists_cons_of_ne_nil h.1
  rfl

/-- The whole part of a number is read up to what does not begin with a digit. -/
theorem wholePart?_append {w rest : List Char} (h : IsWhole w)
    (hrest : ∀ c ∈ rest.head?, c.isDigit = false) : wholePart? (w ++ rest) = some (w, rest) := by
  cases h with
  | zero =>
      have hzero : IsDigits ['0'] := ⟨List.cons_ne_nil _ _, List.forall_mem_singleton.mpr rfl⟩
      rw [wholePart?, digits1?_append hzero hrest]
      rfl
  | digits notZero digits =>
      rw [wholePart?, digits1?_append digits hrest]
      split
      · rename_i heq
        exact absurd (List.cons.inj (Prod.mk.inj (Option.some.inj heq)).1).1 notZero
      · rfl

/-- The fraction is read up to the exponent, or to where the number ends. -/
theorem fraction?_append {f rest : List Char} (h : IsFraction f)
    (hrest : ∀ c ∈ rest.head?, c.isDigit = false ∧ c ≠ '.') :
    fraction? (f ++ rest) = some (f, rest) := by
  cases h with
  | none =>
      rw [List.nil_append, fraction?]
      rintro cs rfl
      exact (hrest '.' rfl).2 rfl
  | point digits =>
      rw [List.cons_append, fraction?, digits1?_append digits fun c hc => (hrest c hc).1]
      rfl

/-- The exponent is read up to where the number ends. -/
theorem exponent?_append {e rest : List Char} (h : IsExponent e) (hrest : Ends rest) :
    exponent? (e ++ rest) = some (e, rest) := by
  have hdigit : ∀ c ∈ rest.head?, c.isDigit = false := by
    intro c hc
    have hstop := hrest c hc
    simp only [isNumeric, Bool.or_eq_false_iff] at hstop
    exact hstop.1.1.1
  cases h with
  | none =>
      cases rest with
      | nil => rfl
      | cons c cs =>
          have hc := hrest c rfl
          simp only [isNumeric, Bool.or_eq_false_iff, beq_eq_false_iff_ne] at hc
          exact if_neg (by simp [hc])
  | @unsigned e ds isLetter digits =>
      -- a digit is no sign
      have hsign : ∀ s ∈ ['+', '-'], ∀ more, ds ++ rest ≠ s :: more := by
        rintro s hs more heq
        obtain ⟨d, ds, rfl⟩ := List.exists_cons_of_ne_nil digits.1
        have hd := digits.2 d List.mem_cons_self
        rw [(List.cons.inj heq).1] at hd
        simp only [List.mem_cons, List.not_mem_nil, or_false] at hs
        rcases hs with rfl | rfl
        · cases hd
        · cases hd
      rw [List.cons_append, exponent?, if_pos isLetter, digits1?_append digits hdigit]
      · rfl
      · exact hsign '+' (by decide)
      · exact hsign '-' (by decide)
  | signed isLetter isSign digits =>
      rcases isSign with rfl | rfl
      · rw [List.cons_append, List.cons_append, exponent?, if_pos isLetter,
          digits1?_append digits hdigit]
        rfl
      · rw [List.cons_append, List.cons_append, exponent?, if_pos isLetter,
          digits1?_append digits hdigit]
        rfl

/-- What begins with an exponent, or stops a number, begins neither with a digit nor with a point. -/
theorem head?_exponent_append {e rest : List Char} (h : IsExponent e) (hrest : Ends rest) :
    ∀ c ∈ (e ++ rest).head?, c.isDigit = false ∧ c ≠ '.' := by
  intro c hc
  cases h with
  | none =>
      have hstop := hrest c hc
      simp only [isNumeric, Bool.or_eq_false_iff, beq_eq_false_iff_ne] at hstop
      exact ⟨hstop.1.1.1, hstop.1.1.2⟩
  | unsigned isLetter digits =>
      cases hc
      rcases isLetter with rfl | rfl
      · decide
      · decide
  | signed isLetter isSign digits =>
      cases hc
      rcases isLetter with rfl | rfl
      · decide
      · decide

/-- A number without a sign is read part by part. -/
theorem unsigned?_append {cs rest : List Char} (h : IsUnsigned cs) (hrest : Ends rest) :
    unsigned? (cs ++ rest) = some (cs, rest) := by
  obtain ⟨whole, fraction, exponent⟩ := h
  rename_i w f e
  have hexponent := head?_exponent_append exponent hrest
  have hfraction : ∀ c ∈ (f ++ (e ++ rest)).head?, c.isDigit = false := by
    intro c hc
    cases fraction with
    | none => exact (hexponent c hc).1
    | point digits =>
        cases hc
        decide
  rw [List.append_assoc, List.append_assoc]
  simp only [unsigned?, wholePart?_append whole hfraction, fraction?_append fraction hexponent,
    exponent?_append exponent hrest, Option.bind_eq_bind, Option.bind_some]
  rfl

/-- A number without a sign begins with a digit. -/
theorem IsUnsigned.exists_cons {cs : List Char} (h : IsUnsigned cs) :
    ∃ d ds, cs = d :: ds ∧ d.isDigit = true := by
  obtain ⟨whole, -, -⟩ := h
  rename_i w f e
  cases whole with
  | zero => exact ⟨'0', f ++ e, by simp, rfl⟩
  | @digits d ds notZero digits =>
      exact ⟨d, ds ++ f ++ e, by simp, digits.2 d List.mem_cons_self⟩

/-- **A number is read**, unless what follows goes on with it. -/
theorem number?_append {cs rest : List Char} (h : IsNumber cs) (hrest : Ends rest) :
    number? (cs ++ rest) = some (cs, rest) := by
  cases h with
  | positive unsigned =>
      rw [number?, unsigned?_append unsigned hrest]
      -- a number does not begin with its sign
      obtain ⟨d, ds, rfl, hd⟩ := unsigned.exists_cons
      rintro cs heq
      rw [(List.cons.inj heq).1] at hd
      cases hd
  | negative unsigned =>
      rw [List.cons_append, number?, unsigned?_append unsigned hrest]
      rfl

/-- A number begins with a digit or a sign. -/
theorem IsNumber.exists_cons {cs : List Char} (h : IsNumber cs) :
    ∃ d ds, cs = d :: ds ∧ (d.isDigit = true ∨ d = '-') := by
  cases h with
  | positive unsigned =>
      obtain ⟨d, ds, rfl, hd⟩ := unsigned.exists_cons
      exact ⟨d, ds, rfl, .inl hd⟩
  | negative unsigned => exact ⟨'-', _, rfl, .inr rfl⟩

/-! ## Blanks -/

/-- Blanks in front of a text are passed over. -/
theorem skipGap_append {g : List Char} (h : Blanks g) (cs : List Char) :
    skipGap (g ++ cs) = skipGap cs := by
  refine List.dropWhile_append_of_pos fun c hc => ?_
  have hblank := h c hc
  simp only [List.mem_cons, List.not_mem_nil, or_false] at hblank
  rcases hblank with rfl | rfl | rfl | rfl <;> rfl

/-- Nothing is passed over where no blank stands. -/
theorem skipGap_cons {c : Char} {cs : List Char} (h : isGap c = false) :
    skipGap (c :: cs) = c :: cs :=
  List.dropWhile_cons_of_neg (Bool.eq_false_iff.mp h)

/-- Behind blanks a mark stops a number. -/
theorem ends_append {g : List Char} (h : Blanks g) {c : Char}
    (hc : isNumeric c = false) (cs : List Char) : Ends (g ++ c :: cs) := by
  intro d hd
  cases g with
  | nil =>
      cases hd
      exact hc
  | cons b g =>
      cases hd
      have hblank := h d List.mem_cons_self
      simp only [List.mem_cons, List.not_mem_nil, or_false] at hblank
      rcases hblank with rfl | rfl | rfl | rfl <;> rfl

/-! ## Values -/

/-- A digit or a sign begins nothing but a number, and no blank or mark. -/
theorem IsNumber.head {cs : List Char} (h : IsNumber cs) :
    ∃ c ds, cs = c :: ds ∧ isGap c = false ∧ c ∉ ['"', '[', '{', 'n', 't', 'f', ']'] := by
  obtain ⟨d, ds, rfl, hd⟩ := h.exists_cons
  refine ⟨d, ds, rfl, ?_⟩
  rcases hd with hd | rfl
  · constructor
    · rw [Bool.eq_false_iff]
      intro hgap
      simp only [isGap, Bool.or_eq_true, decide_eq_true_eq] at hgap
      rcases hgap with ((rfl | rfl) | rfl) | rfl
      all_goals cases hd
    · intro hmark
      simp only [List.mem_cons, List.not_mem_nil, or_false] at hmark
      rcases hmark with rfl | rfl | rfl | rfl | rfl | rfl | rfl
      all_goals cases hd
  · decide

/-- A value begins neither with a blank nor with the end of an array. -/
theorem Writes.exists_cons {v : Json} {t : List Char} (h : Writes v t) :
    ∃ c cs, t = c :: cs ∧ isGap c = false ∧ c ≠ ']' := by
  cases h with
  | null => exact ⟨'n', _, rfl, by decide, by decide⟩
  | isTrue => exact ⟨'t', _, rfl, by decide, by decide⟩
  | isFalse => exact ⟨'f', _, rfl, by decide, by decide⟩
  | number isNumber =>
      obtain ⟨c, ds, heq, hgap, hmark⟩ := isNumber.head
      exact ⟨c, ds, heq, hgap, (ne_of_mem_of_not_mem (by decide) hmark).symm⟩
  | string quoted =>
      obtain ⟨-⟩ := quoted
      exact ⟨'"', _, rfl, by decide, by decide⟩
  | emptyArray | array => exact ⟨'[', _, rfl, by decide, by decide⟩
  | emptyObject | object => exact ⟨'{', _, rfl, by decide, by decide⟩

/-- A member begins, behind its blanks, with the quote of its name. -/
theorem WritesMember.exists_skipGap {m : String × Json} {t : List Char} (h : WritesMember m t)
    (rest : List Char) : ∃ cs, skipGap (t ++ rest) = '"' :: cs := by
  obtain ⟨before, ⟨-⟩, -, -, -, -⟩ := h
  simp only [List.append_assoc, List.cons_append]
  rw [skipGap_append before, skipGap_cons (by decide)]
  exact ⟨_, rfl⟩

/-- Whether the texts of values are read, if the fuel suffices. -/
def ReadsValues (fuel : Nat) : Prop :=
  ∀ v t rest, Writes v t → t.length ≤ fuel → Ends rest →
    readValue? fuel (t ++ rest) = some (v, rest)

/-- Whether the texts of the items of arrays are read, up to the closing bracket. -/
def ReadsItems (fuel : Nat) : Prop :=
  ∀ vs t rest, WritesItems vs t → t.length + 1 ≤ fuel →
    readItems? fuel (skipGap (t ++ ']' :: rest)) = some (vs, rest)

/-- Whether the texts of the members of objects are read, up to the closing brace. -/
def ReadsMembers (fuel : Nat) : Prop :=
  ∀ ms t rest, WritesMembers ms t → t.length + 1 ≤ fuel →
    readMembers? fuel (skipGap (t ++ '}' :: rest)) = some (ms.map fun m => (some m.1, m.2), rest)

variable {fuel : Nat}

/-- A value between blanks is read up to the mark behind it. -/
theorem ReadsValues.between (h : ReadsValues fuel) {v : Json} {g t g' : List Char}
    (before : Blanks g) (value : Writes v t) (after : Blanks g') (hfuel : t.length ≤ fuel)
    {c : Char} (hc : isNumeric c = false) (hgap : isGap c = false) (rest : List Char) :
    ∃ cs, readValue? fuel (skipGap (g ++ (t ++ (g' ++ c :: rest)))) = some (v, cs) ∧
      skipGap cs = c :: rest := by
  refine ⟨g' ++ c :: rest, ?_, ?_⟩
  · obtain ⟨d, ds, rfl, hd, -⟩ := value.exists_cons
    rw [skipGap_append before, List.cons_append, skipGap_cons hd]
    exact h v (d :: ds) _ value hfuel (ends_append after hc rest)
  · rw [skipGap_append after, skipGap_cons hgap]

/-- The items of an array are read if values and shorter lists of items are. -/
theorem readsItems_succ (hvalues : ReadsValues fuel) (hitems : ReadsItems fuel) :
    ReadsItems (fuel + 1) := by
  intro vs t rest h hfuel
  cases h with
  | last before value after =>
      rename_i v g t g'
      simp only [List.length_append] at hfuel
      obtain ⟨cs, hread, hskip⟩ :=
        hvalues.between before value after (by omega) (c := ']') (by decide) (by decide) rest
      simp only [List.append_assoc]
      rw [readItems?, hread]
      simp only [Option.bind_eq_bind, Option.bind_some, hskip]
      rfl
  | more before value after items =>
      rename_i v vs g t g' ts
      simp only [List.length_append, List.length_cons] at hfuel
      obtain ⟨cs, hread, hskip⟩ :=
        hvalues.between before value after (by omega) (c := ',') (by decide) (by decide)
          (ts ++ ']' :: rest)
      simp only [List.append_assoc, List.cons_append]
      rw [readItems?, hread]
      simp only [Option.bind_eq_bind, Option.bind_some, hskip,
        hitems vs ts rest items (by omega)]
      rfl

/-- A member is read up to the mark behind it: its name, and the value after its colon. -/
theorem exists_of_writesMember (hvalues : ReadsValues fuel) {m : String × Json} {t : List Char}
    (h : WritesMember m t) (hfuel : t.length ≤ fuel) {c : Char} (hc : isNumeric c = false)
    (hgap : isGap c = false) (rest : List Char) :
    ∃ cs name behind cs', skipGap (t ++ c :: rest) = '"' :: cs ∧
      name? cs = some (some m.1, name) ∧ skipGap name = ':' :: behind ∧
      readValue? fuel (skipGap behind) = some (m.2, cs') ∧ skipGap cs' = c :: rest := by
  obtain ⟨before, ⟨spelled⟩, behindName, beforeValue, value, after⟩ := h
  rename_i k v g₁ g₂ g₃ t g₄ n
  simp only [List.length_append, List.length_cons] at hfuel
  obtain ⟨cs', hread, hskip⟩ :=
    hvalues.between beforeValue value after (by omega) hc hgap rest
  simp only [List.append_assoc, List.cons_append, List.nil_append]
  refine ⟨_, g₂ ++ ':' :: (g₃ ++ (t ++ (g₄ ++ c :: rest))), _, cs', ?_, name?_spells spelled _, ?_,
    hread, hskip⟩
  · rw [skipGap_append before, skipGap_cons (by decide)]
  · rw [skipGap_append behindName, skipGap_cons (by decide)]

/-- The members of an object are read if values and shorter lists of members are. -/
theorem readsMembers_succ (hvalues : ReadsValues fuel) (hmembers : ReadsMembers fuel) :
    ReadsMembers (fuel + 1) := by
  intro ms t rest h hfuel
  cases h with
  | last member =>
      obtain ⟨cs, name, behind, cs', hstart, hname, hcolon, hread, hskip⟩ :=
        exists_of_writesMember hvalues member (by omega) (c := '}') (by decide) (by decide) rest
      rw [hstart, readMembers?, hname]
      simp only [Option.bind_eq_bind, Option.bind_some, hcolon, hread, hskip]
      rfl
  | more member members =>
      rename_i m ms t ts
      simp only [List.length_append, List.length_cons] at hfuel
      obtain ⟨cs, name, behind, cs', hstart, hname, hcolon, hread, hskip⟩ :=
        exists_of_writesMember hvalues member (by omega) (c := ',') (by decide) (by decide)
          (ts ++ '}' :: rest)
      simp only [List.append_assoc, List.cons_append]
      rw [hstart, readMembers?, hname]
      simp only [Option.bind_eq_bind, Option.bind_some, hcolon, hread, hskip,
        hmembers ms ts rest members (by omega)]
      rfl

/-- An object whose names are all read is the object of its members. -/
theorem objectValue_some (members : List (String × Json)) :
    objectValue (members.map fun m => (some m.1, m.2)) = .object members := by
  have hall : (members.map fun m => (some m.1, m.2)).mapM
      (fun x => x.1.map fun k => (k, x.2)) = some members := by
    rw [List.mapM_map]
    exact List.mapM_pure.trans (congrArg some (List.map_id members))
  rw [objectValue]
  split
  · rename_i named hnamed
    rw [Option.some.inj (hnamed.symm.trans hall)]
  · rename_i hnamed
    cases hnamed.symm.trans hall

/-- The items of an array begin, behind their blanks, with no closing bracket. -/
theorem WritesItems.skipGap_ne {vs : List Json} {t : List Char} (h : WritesItems vs t)
    (rest cs : List Char) : skipGap (t ++ rest) ≠ ']' :: cs := by
  have hfirst : ∀ {v : Json} {g u : List Char} (more : List Char), Blanks g → Writes v u →
      skipGap (g ++ (u ++ more)) ≠ ']' :: cs := by
    intro v g u more before value heq
    obtain ⟨d, ds, rfl, hgap, hbracket⟩ := value.exists_cons
    rw [skipGap_append before, List.cons_append, skipGap_cons hgap] at heq
    exact hbracket (List.cons.inj heq).1
  cases h with
  | last before value after =>
      simp only [List.append_assoc]
      exact hfirst _ before value
  | more before value after items =>
      simp only [List.append_assoc]
      exact hfirst _ before value

/-- The members of an object begin, behind their blanks, with no closing brace. -/
theorem WritesMembers.skipGap_ne {ms : List (String × Json)} {t : List Char}
    (h : WritesMembers ms t) (rest cs : List Char) : skipGap (t ++ rest) ≠ '}' :: cs := by
  cases h with
  | last member =>
      obtain ⟨ds, hstart⟩ := member.exists_skipGap rest
      rw [hstart]
      exact fun heq => nomatch (List.cons.inj heq).1
  | more member members =>
      rename_i m ms t ts
      obtain ⟨ds, hstart⟩ := member.exists_skipGap (',' :: ts ++ rest)
      rw [List.append_assoc, hstart]
      exact fun heq => nomatch (List.cons.inj heq).1

/-- Values are read if shorter lists of items and members are: each form by its first character. -/
theorem readsValues_succ (hitems : ReadsItems fuel) (hmembers : ReadsMembers fuel) :
    ReadsValues (fuel + 1) := by
  intro v t rest h hfuel hrest
  cases h with
  | null | isTrue | isFalse => exact readValue?.eq_def _ _
  | number isNumber =>
      rename_i literal
      obtain ⟨d, ds, heq, -, hmark⟩ := isNumber.head
      have hread := number?_append isNumber hrest
      rw [heq, List.cons_append] at hread ⊢
      have hliteral : String.ofList (d :: ds) = literal := by rw [← heq, String.ofList_toList]
      rw [readValue?, hread, Option.map_some]
      · exact congrArg (fun s => some (Json.number s, rest)) hliteral
      all_goals
        intros
        rename_i hstart
        rw [(List.cons.inj hstart).1] at hmark
        exact hmark (by decide)
  | string quoted =>
      obtain ⟨spelled⟩ := quoted
      rw [List.cons_append, List.append_assoc, List.singleton_append, readValue?]
      exact stringValue?_spells spelled rest
  | emptyArray blanks =>
      rw [List.cons_append, List.append_assoc, List.singleton_append, readValue?,
        skipGap_append blanks, skipGap_cons (by decide)]
      rfl
  | array items =>
      rename_i vs t
      simp only [List.length_cons, List.length_append, List.length_nil] at hfuel
      rw [List.cons_append, List.append_assoc, List.singleton_append, readValue?]
      -- the array is not taken for the empty one
      split
      · rename_i heq
        exact absurd heq (items.skipGap_ne _ _)
      · rw [hitems vs t rest items (by omega)]
        rfl
  | emptyObject blanks =>
      rw [List.cons_append, List.append_assoc, List.singleton_append, readValue?,
        skipGap_append blanks, skipGap_cons (by decide)]
      rfl
  | object members =>
      rename_i ms t
      simp only [List.length_cons, List.length_append, List.length_nil] at hfuel
      rw [List.cons_append, List.append_assoc, List.singleton_append, readValue?]
      split
      · rename_i heq
        exact absurd heq (members.skipGap_ne _ _)
      · rw [hmembers ms t rest members (by omega)]
        exact congrArg (fun v => some (v, rest)) (objectValue_some ms)

/-- **Values, items and members are read** if the fuel suffices. By induction on the fuel. -/
theorem reads : ∀ fuel, ReadsValues fuel ∧ ReadsItems fuel ∧ ReadsMembers fuel
  | 0 => by
      refine ⟨fun v t rest h hfuel _ => ?_, fun _ t _ _ hfuel => ?_, fun _ t _ _ hfuel => ?_⟩
      · obtain ⟨c, cs, rfl, -⟩ := h.exists_cons
        exact absurd hfuel (Nat.not_succ_le_zero _)
      · exact absurd hfuel (Nat.not_succ_le_zero _)
      · exact absurd hfuel (Nat.not_succ_le_zero _)
  | fuel + 1 => by
      obtain ⟨hvalues, hitems, hmembers⟩ := reads fuel
      exact ⟨readsValues_succ hitems hmembers, readsItems_succ hvalues hitems,
        readsMembers_succ hvalues hmembers⟩

/-- **Main.** Each text of a value is read as the value. -/
theorem parse?_of_writesText {v : Json} {text : String} (h : WritesText v text) :
    parse? text = some v := by
  obtain ⟨before, value, after, isText⟩ := h
  rename_i g t g'
  have hlength : t.length ≤ text.toList.length + 1 := by
    rw [isText, List.length_append, List.length_append]
    omega
  have hends : Ends g' := by
    intro c hc
    have hblank := after c (List.mem_of_mem_head? hc)
    simp only [List.mem_cons, List.not_mem_nil, or_false] at hblank
    rcases hblank with rfl | rfl | rfl | rfl <;> rfl
  have hread : readValue? (text.toList.length + 1) (skipGap text.toList) = some (v, g') := by
    obtain ⟨d, ds, rfl, hd, -⟩ := value.exists_cons
    have hskip : skipGap text.toList = d :: ds ++ g' := by
      rw [isText, List.append_assoc, skipGap_append before, List.cons_append, skipGap_cons hd]
    rw [hskip]
    exact (reads _).1 v (d :: ds) g' value hlength hends
  have hrest : skipGap g' = [] := by
    have hskip := skipGap_append after []
    rwa [List.append_nil] at hskip
  simp only [parse?, hread, Option.bind_eq_bind, Option.bind_some, hrest]
  rfl

end PolicyLint.Json
