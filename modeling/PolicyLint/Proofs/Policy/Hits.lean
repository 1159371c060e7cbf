/-
# Where hits stand

A rule finds its values with searches of the whole text, and moves a hit of a property from the dot
to the name. Either way a hit stands at a place of the text, and inside of the match: so the hits of
one value stand in the order of the matches.

* `Rule.pairwise_valueHits` : the hits of one value stand in increasing order;
* `Rule.isPlace_of_mem_hits` : every hit stands at a place;
* `Policy.rulesOf` : the rules of a policy that may be missing.
-/
import PolicyLint.Proofs.Text.Sweep
import PolicyLint.Policy.Basic

namespace PolicyLint

/-! ## Parts of texts -/

namespace Text

variable {part text : List Char} {n : Nat}

/-- A part is found where it stands. -/
theorem exists_of_find? (h : find? part text = some n) :
    ∃ before behind, text = before ++ part ++ behind ∧ size before = n := by
  induction text generalizing n with
  | nil =>
      rw [find?] at h
      split at h
      · rename_i hnil
        cases h
        rw [List.isEmpty_iff.mp hnil]
        exact ⟨[], [], rfl, rfl⟩
      · cases h
  | cons c cs ih =>
      rw [find?] at h
      split at h
      · rename_i hstarts
        cases h
        obtain ⟨behind, hbehind⟩ := List.isPrefixOf_iff_prefix.mp hstarts
        exact ⟨[], behind, hbehind.symm, rfl⟩
      · obtain ⟨k, hk, rfl⟩ := Option.map_eq_some_iff.mp h
        obtain ⟨before, behind, rfl, rfl⟩ := ih hk
        exact ⟨c :: before, behind, rfl, rfl⟩

/-- A part is found at a place. -/
theorem isPlace_of_find? (h : find? part text = some n) : IsPlace text n := by
  obtain ⟨before, behind, rfl, rfl⟩ := exists_of_find? h
  exact ⟨before, part ++ behind, List.append_assoc _ _ _, rfl⟩

/-- Nothing is found where the text begins. -/
theorem find?_nil_left (text : List Char) : find? [] text = some 0 := by
  cases text <;> rfl

end Text

/-! ## Hits in a text -/

namespace Rule

/-- The value of a rule stands at a place of what its matcher found. -/
theorem isPlace_shift (kind : RuleKind) (value text : List Char) :
    Text.IsPlace text (shift kind value text) := by
  have hstart : Text.IsPlace text 0 := Text.isPlace_size_append [] text
  cases kind with
  | name => exact hstart
  | pattern => exact hstart
  | property =>
      -- from the dot to the name, if the name is there
      rw [shift]
      cases hfind : Text.find? value text with
      | none => exact hstart
      | some n => exact Text.isPlace_of_find? hfind

/-- The value of a rule begins inside of what its matcher found, if it is not where that begins. -/
theorem shift_lt_size_or_eq_zero (kind : RuleKind) (value text : List Char) :
    shift kind value text < Text.size text ∨ shift kind value text = 0 := by
  cases kind with
  | name => exact .inr rfl
  | pattern => exact .inr rfl
  | property =>
      rw [shift]
      cases hfind : Text.find? value text with
      | none => exact .inr rfl
      | some n =>
          rw [Option.getD_some]
          rcases value with _ | ⟨c, cs⟩
          · rw [Text.find?_nil_left] at hfind
            cases hfind
            exact .inr rfl
          · obtain ⟨before, behind, rfl, rfl⟩ := Text.exists_of_find? hfind
            have hc := c.utf8Size_pos
            rw [Text.size_append, Text.size_append, Text.size_cons]
            exact .inl (by omega)

/-- **The hits of a value stand in increasing order**: a hit begins where a match begins or inside
of it, and the matches stand one after the other. -/
theorem pairwise_valueHits (kind : RuleKind) (value : String) (m : Matcher) (text : List Char) :
    ((valueHits kind value m text).map (·.offset)).Pairwise (· < ·) := by
  rw [valueHits, List.map_map, List.pairwise_map]
  refine (m.isSweep_spans text).apart.imp fun {s t} ⟨hlt, hclear⟩ => ?_
  have hle := hclear.le
  rw [Span.stop] at hle
  have hshift := shift_lt_size_or_eq_zero kind value.toList s.text
  show s.offset + shift kind value.toList s.text < t.offset + shift kind value.toList t.text
  omega

/-- A rule with a single value has the hits of the value. -/
theorem hits_singleton {kind : RuleKind} {value : String} {m : Matcher} {text : List Char}
    {message : Option String} {whitelist : List (List Glob.Token)} {fatal : Bool} :
    hits ⟨kind, [(value, m)], message, whitelist, fatal⟩ text = valueHits kind value m text := by
  rw [hits, List.flatMap_singleton]
  apply List.mergeSort_of_pairwise
  have hlt := List.pairwise_map.mp (pairwise_valueHits kind value m text)
  exact hlt.imp fun h => decide_eq_true (Nat.le_of_lt h)

/-- **Every hit stands at a place of the text.** -/
theorem isPlace_of_mem_hits {r : Rule} {text : List Char} {h : Hit} (hh : h ∈ r.hits text) :
    Text.IsPlace text h.offset := by
  rw [hits, List.mem_mergeSort, List.mem_flatMap] at hh
  obtain ⟨⟨value, m⟩, -, hh⟩ := hh
  obtain ⟨s, hs, rfl⟩ := List.mem_map.mp hh
  exact (m.standsIn_of_mem_spans hs).isPlace_add (isPlace_shift _ _ _)

end Rule

/-- The rules of a policy; without a policy there are none. -/
def Policy.rulesOf (policy : Option Policy) : List Rule := (policy.map Policy.rules).getD []

end PolicyLint
