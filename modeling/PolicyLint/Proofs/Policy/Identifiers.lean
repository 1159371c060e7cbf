/-
# Where identifiers are banned

Identifiers are made of word characters and dollar signs, but words end at a dollar sign. So a
banned identifier that begins and ends with a word character is found wherever it stands as a whole
identifier, and one with a dollar sign at an end of it, where the search asks for a boundary, is
found nowhere as a whole identifier: not as a name if either end is a dollar sign, and not as a
property if the last is.

* `Text.IsWholeIdentifierAt`, `Text.IsBehindDot` : where identifiers stand;
* `Rule.mem_offsets_wholeWord_identifier_iff`, `Rule.mem_offsets_property_identifier_iff` : which of
  these places are hits;
* `Requirement.mem_hits_identifier_iff` : which identifiers are found;
* `Requirement.hits_dollar` : two that are not.
-/
import PolicyLint.Proofs.Policy.WholeWords

namespace PolicyLint

/-! ## Identifiers -/

namespace Text

/-- Whether identifiers can have a character. -/
def isIdentifierPart (c : Char) : Bool := isWord c || c == '$'

/-- Whether such a character stands at the given place, if anything does. -/
def isIdentifierAt (c : Option Char) : Bool := c.any isIdentifierPart

/-- Whether a value is made of the characters of identifiers, of at least one. -/
structure IsIdentifier (value : List Char) : Prop where
  ne_nil : value ≠ []
  isPart : ∀ c ∈ value, isIdentifierPart c = true

/-- Whether a value stands at an offset of a text as a whole identifier: with no character of
identifiers directly before or behind it. -/
def IsWholeIdentifierAt (value text : List Char) (n : Nat) : Prop :=
  ∃ before behind, text = before ++ value ++ behind ∧ size before = n ∧
    isIdentifierAt before.getLast? = false ∧ isIdentifierAt behind.head? = false

/-- Whether a dot stands in front of an offset of a text, with nothing but blanks between them. -/
def IsBehindDot (text : List Char) (n : Nat) : Prop :=
  ∃ before blanks behind, text = before ++ '.' :: blanks ++ behind ∧
    (∀ c ∈ blanks, isBlank c = true) ∧ size (before ++ '.' :: blanks) = n

/-- An identifier has neither dots nor blanks. -/
theorem IsIdentifier.isSolid {value : List Char} (h : IsIdentifier value) : IsSolid value := by
  refine isSolid_of_forall h.ne_nil h.isPart (by decide) ?_
  intro c hc
  rw [isIdentifierPart, isWord_eq_false_of_isBlank c hc, Bool.false_or, beq_eq_false_iff_ne]
  rintro rfl
  exact absurd hc (by decide)

/-- Beside an identifier no word goes on. -/
theorem isWordAt_of_isIdentifierAt {c : Option Char} (h : isIdentifierAt c = false) :
    isWordAt c = false := by
  cases c with
  | none => rfl
  | some c => exact (Bool.or_eq_false_iff.mp h).1

/-- In front of an identifier a boundary is where its first character is one of words. -/
theorem isBoundary_of_isIdentifierAt_left {previous next : Option Char}
    (h : isIdentifierAt previous = false) : isBoundary previous next = isWordAt next := by
  rw [isBoundary, isWordAt_of_isIdentifierAt h, Bool.false_bne]

/-- Behind an identifier a boundary is where its last character is one of words. -/
theorem isBoundary_of_isIdentifierAt_right {previous next : Option Char}
    (h : isIdentifierAt next = false) : isBoundary previous next = isWordAt previous := by
  rw [isBoundary, isWordAt_of_isIdentifierAt h, Bool.bne_false]

end Text

/-! ## Hits -/

namespace Rule

open Text

variable {value : String} {text : List Char} {n : Nat}

/-- A whole identifier is found as a name if words have its first and its last character, since no
match reaches into it. -/
theorem mem_spans_wholeWord_identifier (h : IsIdentifier value.toList) {before behind : List Char}
    (hbefore : isIdentifierAt before.getLast? = false)
    (hbehind : isIdentifierAt behind.head? = false)
    (hfirst : isWordAt value.toList.head? = true) (hlast : isWordAt value.toList.getLast? = true) :
    ⟨size before, value.toList⟩ ∈
      (Matcher.wholeWord value.toList).spans (before ++ value.toList ++ behind) := by
  have hmatch : Matcher.wholeWord value.toList ⟨before.getLast?, value.toList ++ behind⟩ =
      some value.toList.length := by
    rw [Matcher.wholeWord_eq_some_iff_boundary h.ne_nil]
    refine ⟨behind, rfl, ?_, ?_, rfl⟩
    · rw [isBoundary_of_isIdentifierAt_left hbefore, hfirst]
    · rw [isBoundary_of_isIdentifierAt_right hbehind, hlast]
  refine Matcher.mem_spans_of_match_of_clear h.ne_nil hmatch List.take_left ?_
  intro p cs j a b hj htake ha _ hsame _
  -- in front of the identifier would stand a character of the identifier
  obtain ⟨rest, rfl, -, -, rfl⟩ := (Matcher.wholeWord_eq_some_iff_boundary h.ne_nil).mp hj
  rw [List.take_left] at htake
  have hpart : isIdentifierPart (a.getLast ha) = true :=
    h.isPart _ (htake ▸ List.mem_append_left b (List.getLast_mem ha))
  rw [← hsame, List.getLast?_eq_some_getLast ha, isIdentifierAt, Option.any_some, hpart] at hbefore
  cases hbefore

/-- **A whole identifier is a hit of the name exactly if words have its first and its last
character.** -/
theorem mem_offsets_wholeWord_identifier_iff (h : IsIdentifier value.toList)
    (hat : IsWholeIdentifierAt value.toList text n) :
    n ∈ (valueHits .name value (.wholeWord value.toList) text).map (·.offset) ↔
      isWordAt value.toList.head? = true ∧ isWordAt value.toList.getLast? = true := by
  obtain ⟨before, behind, rfl, rfl, hbefore, hbehind⟩ := hat
  refine mem_offsets_wholeWord_iff.trans ⟨?_, ?_⟩
  · rintro ⟨s, hs, hoffset⟩
    obtain ⟨-, before', behind', htext, hsize, hstart, hend⟩ :=
      exists_of_mem_spans_wholeWord h.ne_nil hs
    -- the hit is where the identifier is
    rw [List.append_assoc, List.append_assoc] at htext
    obtain ⟨rfl, hrest⟩ := append_inj_of_size_eq htext (hoffset.symm.trans hsize.symm)
    obtain rfl := List.append_cancel_left hrest
    rw [isBoundary_of_isIdentifierAt_left hbefore] at hstart
    rw [isBoundary_of_isIdentifierAt_right hbehind] at hend
    exact ⟨hstart, hend⟩
  · rintro ⟨hfirst, hlast⟩
    exact ⟨_, mem_spans_wholeWord_identifier h hbefore hbehind hfirst hlast, rfl⟩

/-- **A whole identifier behind a dot is a hit of the property exactly if words have its last
character.** -/
theorem mem_offsets_property_identifier_iff (h : IsIdentifier value.toList)
    (hat : IsWholeIdentifierAt value.toList text n) (hdot : IsBehindDot text n) :
    n ∈ (valueHits .property value (.property value.toList) text).map (·.offset) ↔
      isWordAt value.toList.getLast? = true := by
  obtain ⟨before, behind, rfl, rfl, -, hbehind⟩ := hat
  rw [(offsets_valueHits_property_boundary h.isSolid _).2]
  constructor
  · rintro ⟨front, blanks, behind', htext, -, hsize, hend⟩
    rw [List.append_assoc, List.append_assoc] at htext
    obtain ⟨-, hrest⟩ := append_inj_of_size_eq htext hsize.symm
    obtain rfl := List.append_cancel_left hrest
    rwa [isBoundary_of_isIdentifierAt_right hbehind] at hend
  · intro hlast
    obtain ⟨front, blanks, rest, htext, hblanks, hsize⟩ := hdot
    rw [List.append_assoc] at htext
    obtain ⟨rfl, rfl⟩ := append_inj_of_size_eq htext hsize.symm
    refine ⟨front, blanks, behind, rfl, hblanks, rfl, ?_⟩
    rw [isBoundary_of_isIdentifierAt_right hbehind, hlast]

end Rule

/-! ## Requirements -/

namespace Requirement

open Text

/-- **Which identifiers are found.** Let a requirement ban a single identifier. If it bans the
identifier as a name, it is a rule, provided that it is well-formed, and each place where the
identifier stands as a whole is a hit of the rule if the identifier begins and ends with characters
of words, and none is if it begins or ends with a dollar sign. If it bans the identifier as a
property, the same holds of the places behind a dot, and of the last character alone. -/
theorem mem_hits_identifier_iff (index : Nat) (r : Requirement) (value : String)
    (h : IsIdentifier value.toList) (hvalues : r.values = [value]) :
    (RuleKind.ofType? r.kind = some .name →
      ((∃ rule, r.toRule index = .ok rule) ↔ r.IsWellFormed) ∧
      ∀ rule, r.toRule index = .ok rule → ∀ text n, IsWholeIdentifierAt value.toList text n →
        (n ∈ (rule.hits text).map (·.offset) ↔
          isWordAt value.toList.head? = true ∧ isWordAt value.toList.getLast? = true)) ∧
    (RuleKind.ofType? r.kind = some .property →
      ((∃ rule, r.toRule index = .ok rule) ↔ r.IsWellFormed) ∧
      ∀ rule, r.toRule index = .ok rule → ∀ text n, IsWholeIdentifierAt value.toList text n →
        IsBehindDot text n →
        (n ∈ (rule.hits text).map (·.offset) ↔ isWordAt value.toList.getLast? = true)) := by
  constructor
  · intro hkind
    have hmatcher := Matcher.ofValue_name Pattern.readsPlain_engine value
    refine ⟨exists_toRule_iff hkind hvalues hmatcher, fun rule hrule text n hat => ?_⟩
    obtain ⟨fatal, whitelist, -, -, rfl⟩ :=
      (toRule_singleton_eq_ok_iff hkind hvalues hmatcher).mp hrule
    rw [Rule.hits_singleton]
    exact Rule.mem_offsets_wholeWord_identifier_iff h hat
  · intro hkind
    have hmatcher := Matcher.ofValue_property Pattern.readsPlain_engine value
    refine ⟨exists_toRule_iff hkind hvalues hmatcher, fun rule hrule text n hat hdot => ?_⟩
    obtain ⟨fatal, whitelist, -, -, rfl⟩ :=
      (toRule_singleton_eq_ok_iff hkind hvalues hmatcher).mp hrule
    rw [Rule.hits_singleton]
    exact Rule.mem_offsets_property_identifier_iff h hat hdot

/-- An identifier with a dollar sign inside of it is found as a name, and one with a dollar sign in
front of it as a property. -/
theorem mem_hits_identifier_inner :
    let asName : Requirement := { kind := "BANNED_NAME", values := ["a$b"] }
    let asProperty : Requirement := { kind := "BANNED_PROPERTY", values := ["$b"] }
    (∃ rule, asName.toRule 0 = .ok rule ∧ 3 ∈ (rule.hits "é(a$b)".toList).map (·.offset)) ∧
    ∃ rule, asProperty.toRule 0 = .ok rule ∧ 3 ∈ (rule.hits "x. $b".toList).map (·.offset) := by
  intro asName asProperty
  have hinner : IsIdentifier "a$b".toList := ⟨by decide, List.all_eq_true.mp (by decide)⟩
  have hfront : IsIdentifier "$b".toList := ⟨by decide, List.all_eq_true.mp (by decide)⟩
  obtain ⟨hname, -⟩ := mem_hits_identifier_iff 0 asName "a$b" hinner rfl
  obtain ⟨-, hproperty⟩ := mem_hits_identifier_iff 0 asProperty "$b" hfront rfl
  obtain ⟨hnameRule, hnameHits⟩ := hname (by decide +kernel)
  obtain ⟨hpropertyRule, hpropertyHits⟩ := hproperty (by decide +kernel)
  obtain ⟨rule, hrule⟩ := hnameRule.mpr ⟨rfl, [], rfl⟩
  obtain ⟨rule', hrule'⟩ := hpropertyRule.mpr ⟨rfl, [], rfl⟩
  constructor
  · refine ⟨rule, hrule, (hnameHits rule hrule _ 3 ?_).mpr (by decide)⟩
    exact ⟨"é(".toList, ")".toList, by decide, by decide, by decide, by decide⟩
  · refine ⟨rule', hrule', (hpropertyHits rule' hrule' _ 3 ?_ ?_).mpr (by decide)⟩
    · exact ⟨"x. ".toList, [], by decide, by decide, by decide, by decide⟩
    · exact ⟨"x".toList, [' '], "$b".toList, by decide, List.forall_mem_singleton.mpr (by decide),
        by decide⟩

/-- **Two identifiers that are not found.** A text that is nothing but an identifier with a dollar
sign in front of it has no hit of it as a name, and a member that ends with a dollar sign is no hit
of the property. -/
theorem hits_dollar :
    let asName : Requirement := { kind := "BANNED_NAME", values := ["$foo"] }
    let asProperty : Requirement := { kind := "BANNED_PROPERTY", values := ["foo$"] }
    (IsIdentifier "$foo".toList ∧ IsWholeIdentifierAt "$foo".toList "$foo".toList 0 ∧
      ∃ rule, asName.toRule 0 = .ok rule ∧ rule.hits "$foo".toList = []) ∧
    IsIdentifier "foo$".toList ∧ IsWholeIdentifierAt "foo$".toList "x.foo$".toList 2 ∧
      IsBehindDot "x.foo$".toList 2 ∧
      ∃ rule, asProperty.toRule 0 = .ok rule ∧ rule.hits "x.foo$".toList = [] := by
  intro asName asProperty
  refine ⟨⟨⟨by decide, List.all_eq_true.mp (by decide)⟩, ⟨[], [], ?_⟩,
    ⟨.name, [("$foo", .wholeWord "$foo".toList)], none, [], true⟩, ?_, ?_⟩,
    ⟨by decide, List.all_eq_true.mp (by decide)⟩, ⟨"x.".toList, [], ?_⟩, ?_,
    ⟨.property, [("foo$", .property "foo$".toList)], none, [], true⟩, ?_, ?_⟩
  · decide
  · have hmatcher := Matcher.ofValue_name Pattern.readsPlain_engine "$foo"
    exact (toRule_singleton_eq_ok_iff (by decide +kernel) rfl hmatcher).mpr
      ⟨true, [], rfl, rfl, rfl⟩
  · decide +kernel
  · decide
  · exact ⟨"x".toList, [], "foo$".toList, by decide, List.forall_mem_nil _, by decide⟩
  · have hmatcher := Matcher.ofValue_property Pattern.readsPlain_engine "foo$"
    exact (toRule_singleton_eq_ok_iff (by decide +kernel) rfl hmatcher).mpr
      ⟨true, [], rfl, rfl, rfl⟩
  · decide +kernel

end Requirement

end PolicyLint
