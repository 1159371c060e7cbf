/-
# What a search passes over

A search takes the leftmost match again and again. So what it finds does not overlap, and the only
matches that it passes over begin inside one that it has found.

* `Matcher.pairwise_spans` : what is found stands one after the other;
* `Matcher.exists_of_match` : a match begins where something is found, or inside of it;
* `Matcher.mem_spans_of_match_of_clear` : a match that does not begin inside another is found;
* `Matcher.mem_spans_of_match` : where no match begins inside another, all of them are found.
-/
import PolicyLint.Proofs.Text.Sweep

namespace PolicyLint

namespace Matcher

variable {m : Matcher} {text : List Char} {s : Span}

/-- **What is found in a text stands one after the other.** -/
theorem pairwise_spans (m : Matcher) (text : List Char) :
    (m.spans text).Pairwise fun s t => s.stop ≤ t.offset :=
  (m.isSweep_spans text).apart.imp fun h => h.2.le

/-- **A match in a text begins where something is found, or inside of it.** -/
theorem exists_of_match {before rest : List Char} {n : Nat} (hrest : rest ≠ [])
    (hmatch : m ⟨before.getLast?, rest⟩ = some (n + 1)) :
    ∃ s ∈ m.spans (before ++ rest), s.offset ≤ Text.size before ∧ Text.size before < s.stop := by
  let t : Span := ⟨Text.size before, rest.take (n + 1)⟩
  have hmatches : m.MatchesAt (before ++ rest) t := by
    refine ⟨before, rest.drop (n + 1), ?_, rfl, n + 1, ?_, ?_⟩
    · rw [List.append_assoc, List.take_append_drop]
    · rw [List.take_append_drop]
      exact hmatch
    · rw [List.take_append_drop]
  have hne : t.text ≠ [] := by
    obtain ⟨c, cs, rfl⟩ := List.exists_cons_of_ne_nil hrest
    exact List.cons_ne_nil _ _
  rcases (m.isSweep_spans _).passed t hmatches with ht | ⟨s, hs, hlt, hclear⟩
  · exact ⟨t, ht, Nat.le_refl _, Nat.lt_add_of_pos_right (Nat.pos_of_ne_zero
      (mt (Text.size_eq_zero_iff _).mp hne))⟩
  · obtain ⟨hbehind, hend⟩ := not_or.mp hclear
    refine ⟨s, hs, Nat.le_of_lt hlt, Nat.lt_of_le_of_ne (Nat.le_of_not_lt hbehind) ?_⟩
    exact fun heq => hend ⟨heq.symm, hne⟩

/-- Whether no match of a matcher begins inside another. -/
def Separate (m : Matcher) : Prop :=
  ∀ p cs k, m ⟨p, cs⟩ = some k → ∀ a b, cs.take k = a ++ b → a ≠ [] → b ≠ [] →
    m ⟨a.getLast?, b ++ cs.drop k⟩ = none

/-- **A match that does not begin inside another is found.** -/
theorem mem_spans_of_match_of_clear {before found behind : List Char} {k : Nat}
    (hfound : found ≠ []) (hmatch : m ⟨before.getLast?, found ++ behind⟩ = some k)
    (htake : (found ++ behind).take k = found)
    (hclear : ∀ p cs j a b, m ⟨p, cs⟩ = some j → cs.take j = a ++ b → a ≠ [] → b ≠ [] →
      a.getLast? = before.getLast? → b ++ cs.drop j ≠ found ++ behind) :
    ⟨Text.size before, found⟩ ∈ m.spans (before ++ found ++ behind) := by
  obtain ⟨n, rfl⟩ : ∃ n, k = n + 1 := by
    apply Nat.exists_eq_succ_of_ne_zero
    rintro rfl
    exact hfound htake.symm
  have hrest : found ++ behind ≠ [] := mt (fun h => (List.append_eq_nil_iff.mp h).1) hfound
  suffices hmem : ⟨Text.size before, (found ++ behind).take (n + 1)⟩ ∈
      m.spans (before ++ (found ++ behind)) by
    rwa [htake, ← List.append_assoc] at hmem
  clear htake
  generalize found ++ behind = rest at hmatch hrest hclear ⊢
  obtain ⟨s, hs, hstart, hstop⟩ := exists_of_match hrest hmatch
  obtain ⟨front, behind, htext, hoffset, k, hk, htake⟩ := exists_match_of_mem_spans hs
  have hdrop : (s.text ++ behind).drop k = behind := by
    have h := List.take_append_drop k (s.text ++ behind)
    rw [htake] at h
    exact List.append_cancel_left h
  have hsame (heq : front = before) : ⟨Text.size before, rest.take (n + 1)⟩ ∈ m.spans
      (before ++ rest) := by
    subst heq
    rw [List.append_assoc] at htext
    have hrest := List.append_cancel_left htext
    rw [← hrest, hmatch] at hk
    cases hk
    rw [hrest, htake, ← hoffset]
    exact hrest ▸ hs
  rw [Span.stop, hoffset] at hstop
  rw [hoffset] at hstart
  rw [List.append_assoc] at htext
  rcases List.append_eq_append_iff.mp htext with ⟨a, hfront, ha⟩ | ⟨a, hbefore, ha⟩
  · -- the match would begin before what is found
    rw [hfront, Text.size_append] at hstart
    have hnil : a = [] := (Text.size_eq_zero_iff a).mp (by omega)
    rw [hnil, List.append_nil] at hfront
    exact hsame hfront
  · by_cases hnil : a = []
    · rw [hnil, List.append_nil] at hbefore
      exact hsame hbefore.symm
    · -- the match begins inside of it
      exfalso
      rcases List.append_eq_append_iff.mp ha with ⟨b, hb, -⟩ | ⟨b, htextb, hb⟩
      · rw [hbefore, hb, Text.size_append, Text.size_append] at hstop
        omega
      · have hne : b ≠ [] := by
          rintro rfl
          rw [htextb, List.append_nil, hbefore, Text.size_append] at hstop
          omega
        have hlast : a.getLast? = before.getLast? := by
          rw [hbefore, List.getLast?_append, List.getLast?_eq_some_getLast hnil, Option.some_or]
        apply hclear _ _ k a b hk (htake.trans htextb) hnil hne hlast
        rw [hdrop, hb]

/-- **Where no match begins inside another, all of them are found.** -/
theorem mem_spans_of_match (hm : m.Separate) {before found behind : List Char} {k : Nat}
    (hfound : found ≠ []) (hmatch : m ⟨before.getLast?, found ++ behind⟩ = some k)
    (htake : (found ++ behind).take k = found) :
    ⟨Text.size before, found⟩ ∈ m.spans (before ++ found ++ behind) := by
  refine mem_spans_of_match_of_clear hfound hmatch htake ?_
  intro p cs j a b hj htake ha hb hlast hrest
  have hnone := hm p cs j hj a b htake ha hb
  rw [hlast, hrest, hmatch] at hnone
  cases hnone

end Matcher

end PolicyLint
