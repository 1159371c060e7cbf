/-
# Where words are banned

A banned name that is a word is found exactly where it stands as a whole word, and a banned property
exactly where it stands behind a dot, with any blanks between, and ends there. No match begins
inside another, so nothing is missed, and the hits stand in the order of their offsets.

* `Rule.exists_of_mem_spans_wholeWord`, `Rule.offsets_valueHits_property_boundary` : the hits of
  other values;
* `Rule.offsets_valueHits_wholeWord`, `Rule.offsets_valueHits_property` : the hits of a word value;
* `Requirement.toRule_singleton_eq_ok_iff` : when a requirement with one value is a rule;
* `Requirement.offsets_hits_toRule` : where the hits of a requirement stand.
-/
import PolicyLint.Proofs.Policy.Conversion
import PolicyLint.Proofs.Policy.Hits
import PolicyLint.Proofs.Policy.WordMatchers

namespace PolicyLint

/-! ## Hits -/

namespace Rule

open Text

variable {kind : RuleKind} {value : String} {m : Matcher} {text : List Char}

/-- A solid value stands in what its property matcher finds behind the dot and the blanks. -/
theorem shift_property (h : IsSolid value.toList) {blanks : List Char}
    (hblanks : ∀ c ∈ blanks, isBlank c = true) :
    shift .property value.toList ('.' :: blanks ++ value.toList) = size ('.' :: blanks) := by
  obtain ⟨c, cs, hvalue⟩ := List.exists_cons_of_ne_nil h.ne_nil
  have hc : c ∈ value.toList := hvalue ▸ List.mem_cons_self
  have hfind (front : List Char) (hfront : c ∉ front) :
      Text.find? value.toList (front ++ value.toList) = some (size front) := by
    rw [hvalue]
    induction front with
    | nil =>
        have hstarts : (c :: cs).isPrefixOf (c :: cs) = true :=
          List.isPrefixOf_iff_prefix.mpr List.prefix_rfl
        rw [List.nil_append, Text.find?, if_pos hstarts]
        rfl
    | cons d front ih =>
        rw [List.mem_cons, not_or] at hfront
        have hstarts : ¬ (c :: cs).isPrefixOf (d :: (front ++ c :: cs)) = true := by
          rw [List.isPrefixOf_iff_prefix, List.cons_prefix_cons]
          exact fun hin => hfront.1 hin.1
        rw [List.cons_append, Text.find?, if_neg hstarts, ih hfront.2]
        rfl
  -- the value does not begin within the dot and the blanks
  have hfront : c ∉ '.' :: blanks := by
    rw [List.mem_cons, not_or]
    refine ⟨h.ne_dot c hc, fun hmem => ?_⟩
    have hblank := h.not_blank c hc
    rw [hblanks c hmem] at hblank
    cases hblank
  rw [shift, hfind _ hfront, Option.getD_some]

/-- What is found of a name is the name itself, with a boundary on both sides of it. -/
theorem exists_of_mem_spans_wholeWord {s : Span} (hne : value.toList ≠ [])
    (hs : s ∈ (Matcher.wholeWord value.toList).spans text) :
    s.text = value.toList ∧ ∃ before behind, text = before ++ value.toList ++ behind ∧
      size before = s.offset ∧ isBoundary before.getLast? value.toList.head? = true ∧
      isBoundary value.toList.getLast? behind.head? = true := by
  obtain ⟨before, behind, htext, hoffset, k, hk, htake⟩ := Matcher.exists_match_of_mem_spans hs
  obtain ⟨rest, hrest, hstart, hend, rfl⟩ := (Matcher.wholeWord_eq_some_iff_boundary hne).mp hk
  have hvalue : s.text = value.toList := by rw [← htake, hrest, List.take_left]
  rw [hvalue] at hrest htext
  obtain rfl := List.append_cancel_left hrest
  exact ⟨hvalue, before, behind, htext, hoffset.symm, hstart, hend⟩

/-- A hit of a banned name is where the name is found. -/
theorem mem_offsets_wholeWord_iff {n : Nat} :
    n ∈ (valueHits .name value (.wholeWord value.toList) text).map (·.offset) ↔
      ∃ s ∈ (Matcher.wholeWord value.toList).spans text, s.offset = n := by
  rw [valueHits, List.map_map, List.mem_map]
  rfl

/-- The hits of a banned name that is a word stand in increasing order, and exactly where it stands
as a whole word. -/
theorem offsets_valueHits_wholeWord (h : IsWordValue value.toList) (text : List Char) :
    let offsets := (valueHits .name value (.wholeWord value.toList) text).map (·.offset)
    offsets.Pairwise (· < ·) ∧ ∀ n, n ∈ offsets ↔ IsWholeWordAt value.toList text n := by
  intro offsets
  refine ⟨pairwise_valueHits .name value _ text, fun n => ?_⟩
  refine mem_offsets_wholeWord_iff.trans ⟨?_, ?_⟩
  · rintro ⟨s, hs, rfl⟩
    obtain ⟨-, before, behind, htext, hsize, hstart, hend⟩ :=
      exists_of_mem_spans_wholeWord h.ne_nil hs
    exact ⟨before, behind, htext, hsize, (Matcher.isBoundary_head?_iff h).mp hstart,
      (Matcher.isBoundary_getLast?_iff h).mp hend⟩
  · rintro ⟨before, behind, rfl, rfl, hstart, hend⟩
    have hmatch := (Matcher.wholeWord_eq_some_iff h).mpr ⟨behind, rfl, hstart, hend, rfl⟩
    exact ⟨_, Matcher.mem_spans_of_match (Matcher.separate_wholeWord h) h.ne_nil hmatch
      List.take_left, rfl⟩

/-- The hits of a banned property that is solid stand in increasing order, and exactly where it
stands behind a dot and any blanks, and a word starts or ends behind it. -/
theorem offsets_valueHits_property_boundary (h : IsSolid value.toList) (text : List Char) :
    let offsets := (valueHits .property value (.property value.toList) text).map (·.offset)
    offsets.Pairwise (· < ·) ∧ ∀ n, n ∈ offsets ↔ ∃ before blanks behind,
      text = before ++ '.' :: blanks ++ value.toList ++ behind ∧
      (∀ c ∈ blanks, isBlank c = true) ∧ size (before ++ '.' :: blanks) = n ∧
      isBoundary value.toList.getLast? behind.head? = true := by
  have hfound {s : Span} (hs : s ∈ (Matcher.property value.toList).spans text) :
      ∃ before blanks behind, s.text = '.' :: blanks ++ value.toList ∧
        text = before ++ '.' :: blanks ++ value.toList ++ behind ∧
        (∀ c ∈ blanks, isBlank c = true) ∧
        size (before ++ '.' :: blanks) = s.offset + size ('.' :: blanks) ∧
        isBoundary value.toList.getLast? behind.head? = true := by
    obtain ⟨before, behind, htext, hoffset, k, hk, htake⟩ := Matcher.exists_match_of_mem_spans hs
    obtain ⟨blanks, rest, hrest, hblanks, hend, rfl⟩ :=
      (Matcher.property_eq_some_iff_boundary h).mp hk
    have hvalue : s.text = '.' :: blanks ++ value.toList := by rw [← htake, hrest, List.take_left]
    rw [hvalue] at hrest htext
    obtain rfl := List.append_cancel_left hrest
    refine ⟨before, blanks, behind, hvalue, ?_, hblanks, ?_, hend⟩
    · rw [htext]
      simp only [List.append_assoc]
    · rw [size_append, hoffset]
  intro offsets
  refine ⟨pairwise_valueHits .property value _ text, fun n => ?_⟩
  show n ∈ ((Matcher.spans _ text).map _).map _ ↔ _
  rw [List.map_map, List.mem_map]
  constructor
  · rintro ⟨s, hs, rfl⟩
    obtain ⟨before, blanks, behind, hvalue, htext, hblanks, hsize, hend⟩ := hfound hs
    refine ⟨before, blanks, behind, htext, hblanks, hsize.trans ?_, hend⟩
    show _ = s.offset + shift .property value.toList s.text
    rw [hvalue, shift_property h hblanks]
  · rintro ⟨before, blanks, behind, rfl, hblanks, rfl, hend⟩
    have hmatch : Matcher.property value.toList
        ⟨before.getLast?, '.' :: blanks ++ value.toList ++ behind⟩ =
          some ('.' :: blanks ++ value.toList).length :=
      (Matcher.property_eq_some_iff_boundary h).mpr ⟨blanks, behind, rfl, hblanks, hend, rfl⟩
    have hne : '.' :: blanks ++ value.toList ≠ [] := List.cons_ne_nil _ _
    have hmem := Matcher.mem_spans_of_match (Matcher.separate_property h) hne hmatch
      List.take_left
    rw [← List.append_assoc] at hmem
    refine ⟨_, hmem, ?_⟩
    show size before + shift .property value.toList ('.' :: blanks ++ value.toList) = _
    rw [shift_property h hblanks, size_append]

/-- The hits of a banned property that is a word stand in increasing order, and exactly where it
stands behind a dot and any blanks. -/
theorem offsets_valueHits_property (h : IsWordValue value.toList) (text : List Char) :
    let offsets := (valueHits .property value (.property value.toList) text).map (·.offset)
    offsets.Pairwise (· < ·) ∧ ∀ n, n ∈ offsets ↔ IsPropertyAt value.toList text n := by
  intro offsets
  obtain ⟨hpairwise, hmem⟩ := offsets_valueHits_property_boundary h.isSolid text
  refine ⟨hpairwise, fun n => (hmem n).trans ?_⟩
  simp only [Matcher.isBoundary_getLast?_iff h]
  rfl

end Rule

namespace Requirement

open Text

/-- A requirement with a single value that is no pattern is a rule, unless its level is none or one
of its globs has a fault. -/
theorem toRule_singleton_eq_ok_iff {index : Nat} {r : Requirement} {kind : RuleKind}
    {value : String} {m : Matcher} {rule : Rule} (hkind : RuleKind.ofType? r.kind = some kind)
    (hvalues : r.values = [value])
    (hmatcher : Matcher.ofValue Pattern.engine kind value = .ok m) :
    r.toRule index = .ok rule ↔ ∃ fatal whitelist, isFatal? r.level = some fatal ∧
      globs r.whitelist = .ok whitelist ∧
      rule = ⟨kind, [(value, m)], r.errorMessage, whitelist, fatal⟩ := by
  have hmatchers : matchers Pattern.engine kind [value] = .ok [(value, m)] := by
    rw [matchers, hmatcher]
    rfl
  rw [toRule_eq, hkind, hvalues]
  dsimp only
  rw [hmatchers]
  cases isFatal? r.level with
  | none => simp
  | some fatal => cases globs r.whitelist <;> simp [eq_comm]

/-- Whether the level of a requirement is one, if it has any, and its globs are without fault. -/
def IsWellFormed (r : Requirement) : Prop :=
  (isFatal? r.level).isSome = true ∧ ∃ whitelist, globs r.whitelist = .ok whitelist

/-- A requirement with a single value that is no pattern is a rule exactly if it is well-formed. -/
theorem exists_toRule_iff {index : Nat} {r : Requirement} {kind : RuleKind} {value : String}
    {m : Matcher} (hkind : RuleKind.ofType? r.kind = some kind) (hvalues : r.values = [value])
    (hmatcher : Matcher.ofValue Pattern.engine kind value = .ok m) :
    (∃ rule, r.toRule index = .ok rule) ↔ r.IsWellFormed := by
  constructor
  · rintro ⟨rule, hrule⟩
    obtain ⟨fatal, whitelist, hfatal, hglobs, -⟩ :=
      (toRule_singleton_eq_ok_iff hkind hvalues hmatcher).mp hrule
    exact ⟨by rw [hfatal]; rfl, whitelist, hglobs⟩
  · rintro ⟨hlevel, whitelist, hglobs⟩
    obtain ⟨fatal, hfatal⟩ := Option.isSome_iff_exists.mp hlevel
    exact ⟨_, (toRule_singleton_eq_ok_iff hkind hvalues hmatcher).mpr
      ⟨fatal, whitelist, hfatal, hglobs, rfl⟩⟩

/-- **Where a word is banned.** Let a requirement ban a single value of word characters. If it bans
the value as a name, it is a rule, provided that it is well-formed, and the hits of the rule stand
in increasing order at the offsets where the value stands as a whole word, once at each and nowhere
else. If it bans the value as a property, the same holds with the offsets where the value stands
behind a dot and any blanks, and ends as a word. -/
theorem offsets_hits_toRule (index : Nat) (r : Requirement) (value : String)
    (h : IsWordValue value.toList) (hvalues : r.values = [value]) :
    (RuleKind.ofType? r.kind = some .name →
      ((∃ rule, r.toRule index = .ok rule) ↔ r.IsWellFormed) ∧
      ∀ rule, r.toRule index = .ok rule → ∀ text,
        ((rule.hits text).map (·.offset)).Pairwise (· < ·) ∧
        ∀ n, n ∈ (rule.hits text).map (·.offset) ↔ IsWholeWordAt value.toList text n) ∧
    (RuleKind.ofType? r.kind = some .property →
      ((∃ rule, r.toRule index = .ok rule) ↔ r.IsWellFormed) ∧
      ∀ rule, r.toRule index = .ok rule → ∀ text,
        ((rule.hits text).map (·.offset)).Pairwise (· < ·) ∧
        ∀ n, n ∈ (rule.hits text).map (·.offset) ↔ IsPropertyAt value.toList text n) := by
  constructor
  · intro hkind
    have hmatcher := Matcher.ofValue_name Pattern.readsPlain_engine value
    refine ⟨exists_toRule_iff hkind hvalues hmatcher, fun rule hrule text => ?_⟩
    obtain ⟨fatal, whitelist, -, -, rfl⟩ :=
      (toRule_singleton_eq_ok_iff hkind hvalues hmatcher).mp hrule
    rw [Rule.hits_singleton]
    exact Rule.offsets_valueHits_wholeWord h text
  · intro hkind
    have hmatcher := Matcher.ofValue_property Pattern.readsPlain_engine value
    refine ⟨exists_toRule_iff hkind hvalues hmatcher, fun rule hrule text => ?_⟩
    obtain ⟨fatal, whitelist, -, -, rfl⟩ :=
      (toRule_singleton_eq_ok_iff hkind hvalues hmatcher).mp hrule
    rw [Rule.hits_singleton]
    exact Rule.offsets_valueHits_property h text

/-- A banned name is found before a parenthesis, and a banned property behind a dot and a blank. -/
theorem offsets_hits_toRule_eval :
    let asName : Requirement := { kind := "BANNED_NAME", values := ["eval"] }
    let asProperty : Requirement := { kind := "BANNED_PROPERTY", values := ["eval"] }
    (∃ rule, asName.toRule 0 = .ok rule ∧ 3 ∈ (rule.hits "é.eval(x)".toList).map (·.offset)) ∧
    ∃ rule, asProperty.toRule 0 = .ok rule ∧ 4 ∈ (rule.hits "é. eval".toList).map (·.offset) := by
  intro asName asProperty
  have hword : IsWordValue "eval".toList := ⟨by decide, List.all_eq_true.mp (by decide)⟩
  obtain ⟨hname, -⟩ := offsets_hits_toRule 0 asName "eval" hword rfl
  obtain ⟨-, hproperty⟩ := offsets_hits_toRule 0 asProperty "eval" hword rfl
  obtain ⟨hnameRule, hnameHits⟩ := hname (by decide +kernel)
  obtain ⟨hpropertyRule, hpropertyHits⟩ := hproperty (by decide +kernel)
  obtain ⟨rule, hrule⟩ := hnameRule.mpr ⟨rfl, [], rfl⟩
  obtain ⟨rule', hrule'⟩ := hpropertyRule.mpr ⟨rfl, [], rfl⟩
  constructor
  · refine ⟨rule, hrule, ((hnameHits rule hrule _).2 3).mpr ?_⟩
    exact ⟨"é.".toList, "(x)".toList, by decide, by decide, by decide, by decide⟩
  · refine ⟨rule', hrule', ((hpropertyHits rule' hrule' _).2 4).mpr ?_⟩
    exact ⟨"é".toList, [' '], [], by decide, List.forall_mem_singleton.mpr (by decide), by decide,
      by decide⟩

end Requirement

end PolicyLint
