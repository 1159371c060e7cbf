/-
# What a search finds

A search goes through a text from left to right, so every stretch that it finds stands in the text
where it says. Sorting what several searches have found by their offsets keeps those apart that
stand at one place: they stay in the order in which they were found.

* `Matcher.standsIn_of_mem_spans` : what is found is there;
* `List.pairwise_mergeSort_of_pairwise` : sorting keeps the order of what is equal;
* `List.sublist_mergeSort_of_sublist`, `List.filter_mergeSort` : sorting a part of a list.
-/
import PolicyLint.Proofs.Text.Place

namespace PolicyLint

/-! ## Sites -/

namespace Site

/-- Going on is going further on from where one is. -/
theorem skip_add (s : Site) (n k : Nat) : s.skip (n + k) = (s.skip n).skip k := by
  induction n generalizing s with
  | zero => rw [Nat.zero_add, skip]
  | succ n ih =>
      rw [show n + 1 + k = n + k + 1 by omega]
      rcases s with ⟨p, _ | ⟨c, cs⟩⟩
      · cases k <;> rfl
      · rw [skip, skip, ih]

/-- One goes on to the end of what follows at most. -/
theorem skip_min (s : Site) (n : Nat) : s.skip (min n s.rest.length) = s.skip n := by
  induction n generalizing s with
  | zero => rw [Nat.zero_min]
  | succ n ih =>
      rcases s with ⟨p, _ | ⟨c, cs⟩⟩
      · rfl
      · rw [List.length_cons, Nat.succ_min_succ, skip, skip]
        exact ih ⟨some c, cs⟩

/-- A place further on is reached from one on the way to it. -/
theorem exists_skip_eq {s : Site} {before rest : List Char} {n : Nat} (h : s.rest = before ++ rest)
    (hn : n ≤ before.length) :
    ∃ more, before = s.rest.take n ++ more ∧ (s.skip n).rest = more ++ rest ∧
      (s.skip n).skip more.length = s.skip before.length := by
  refine ⟨before.drop n, ?_, ?_, ?_⟩
  · rw [h, List.take_append_of_le_length hn, List.take_append_drop]
  · rw [rest_skip, h, List.drop_append_of_le_length hn]
  · rw [← skip_add, List.length_drop, Nat.add_sub_cancel' hn]

/-- Behind a beginning of what follows a site stand the rest and, before it, the last character of
the beginning. -/
theorem skip_length_append (p : Option Char) (before rest : List Char) :
    skip ⟨p, before ++ rest⟩ before.length = ⟨before.getLast?.or p, rest⟩ := by
  induction before generalizing p with
  | nil => rfl
  | cons c cs ih =>
      rw [List.cons_append, List.length_cons, skip, ih]
      cases cs with
      | nil => rfl
      | cons d ds =>
          rw [List.getLast?_cons_cons, List.getLast?_eq_some_getLast (List.cons_ne_nil d ds)]
          rfl

/-- The place behind a beginning of a text. -/
theorem skip_start_append (before rest : List Char) :
    (start (before ++ rest)).skip before.length = ⟨before.getLast?, rest⟩ := by
  rw [start, skip_length_append, Option.or_none]

end Site

/-! ## Matchers -/

namespace Matcher

variable (m : Matcher)

/-- What is found from a place on stands in what follows the place, and is what is matched there. By
induction along the search: each step leaves a match or one character behind. -/
theorem exists_of_mem_spansFrom {s : Span} (offset : Nat) (fresh : Bool) (site : Site)
    (h : s ∈ m.spansFrom offset fresh site) :
    ∃ before behind, site.rest = before ++ s.text ++ behind ∧
      s.offset = offset + Text.size before ∧
      ∃ k, m (site.skip before.length) = some k ∧ (s.text ++ behind).take k = s.text := by
  induction offset, fresh, site using Matcher.spansFrom.induct m with
  | case1 offset fresh p hfound =>
      rw [spansFrom, if_pos hfound, List.mem_singleton] at h
      subst h
      rw [Bool.and_eq_true] at hfound
      obtain ⟨k, hk⟩ := Option.isSome_iff_exists.mp hfound.2
      exact ⟨[], [], rfl, rfl, k, hk, List.take_nil⟩
  | case2 offset fresh p hfound =>
      rw [spansFrom, if_neg hfound] at h
      cases h
  | case3 offset fresh p c cs n hm found ih =>
      simp only [spansFrom, hm] at h
      rcases List.mem_cons.mp h with rfl | h
      · refine ⟨[], (c :: cs).drop (n + 1), (List.take_append_drop _ _).symm, rfl, n + 1, hm, ?_⟩
        rw [List.take_append_drop]
      · obtain ⟨before, behind, hrest, hoffset, k, hk, htake⟩ := ih h
        rw [Site.rest_skip] at hrest
        have hdrop : (c :: cs).drop (n + 1) = before ++ s.text ++ behind := hrest
        refine ⟨found ++ before, behind, ?_, ?_, k, ?_, htake⟩
        · rw [List.append_assoc, List.append_assoc, ← List.append_assoc before, ← hdrop]
          exact (List.take_append_drop _ _).symm
        · rw [hoffset, Text.size_append, Nat.add_assoc]
        · rw [List.length_append, List.length_take, Site.skip_add, Site.skip_min]
          exact hk
  | case4 offset fresh p c cs hm ih =>
      simp only [spansFrom, hm] at h
      rcases List.mem_append.mp h with h | h
      · -- an empty match is found where the search stands
        have hs : s = ⟨offset, []⟩ := by
          cases fresh
          · cases h
          · exact List.mem_singleton.mp h
        subst hs
        exact ⟨[], c :: cs, rfl, rfl, 0, hm, rfl⟩
      · obtain ⟨before, behind, hrest, hoffset, hk⟩ := ih h
        refine ⟨c :: before, behind, congrArg (c :: ·) hrest, ?_, hk⟩
        rw [hoffset, Text.size_cons, Nat.add_assoc]
  | case5 offset fresh p c cs hm ih =>
      simp only [spansFrom, hm] at h
      obtain ⟨before, behind, hrest, hoffset, hk⟩ := ih h
      refine ⟨c :: before, behind, congrArg (c :: ·) hrest, ?_, hk⟩
      rw [hoffset, Text.size_cons, Nat.add_assoc]

/-- **What is found in a text stands there where it says.** -/
theorem standsIn_of_mem_spans {s : Span} {text : List Char} (h : s ∈ m.spans text) :
    s.StandsIn text := by
  obtain ⟨before, behind, htext, hoffset, -⟩ := m.exists_of_mem_spansFrom 0 true _ h
  exact ⟨before, behind, htext, hoffset.trans (Nat.zero_add _)⟩

end Matcher

end PolicyLint

/-! ## Sorting -/

namespace List

variable {α : Type} (key : α → Nat)

/-- The order by numbers is transitive. -/
theorem key_le_trans (a b c : α) (hab : decide (key a ≤ key b) = true)
    (hbc : decide (key b ≤ key c) = true) : decide (key a ≤ key c) = true := by
  rw [decide_eq_true_eq] at hab hbc ⊢
  exact Nat.le_trans hab hbc

/-- The order by numbers is total. -/
theorem key_le_total (a b : α) :
    (decide (key a ≤ key b) || decide (key b ≤ key a)) = true := by
  rw [Bool.or_eq_true, decide_eq_true_eq, decide_eq_true_eq]
  exact Nat.le_total _ _

/-- Members with their places stand in the order of the places. -/
theorem pairwise_zipIdx (l : List α) : l.zipIdx.Pairwise fun a b => a.2 < b.2 := by
  apply List.pairwise_map.mp
  rw [List.zipIdx_map_snd]
  exact List.pairwise_lt_range'

/-- **Sorting by numbers keeps the order of what has one number**: if each member of a list is
related to all behind it, then so are those with one number after the list is sorted. -/
theorem pairwise_mergeSort_of_pairwise {R : α → α → Prop} {l : List α} (h : l.Pairwise R) :
    (l.mergeSort fun a b => key a ≤ key b).Pairwise fun a b =>
      key a < key b ∨ (key a = key b ∧ R a b) := by
  -- sorting is sorting by numbers and then by the places in the list
  rw [← List.mergeSort_zipIdx, List.pairwise_map]
  have hsorted := List.pairwise_mergeSort (List.zipIdxLE_trans (key_le_trans key))
    (List.zipIdxLE_total (key_le_total key)) l.zipIdx
  have hperm := List.mergeSort_perm l.zipIdx (List.zipIdxLE fun a b => decide (key a ≤ key b))
  have hplaces : (l.zipIdx.mergeSort (List.zipIdxLE fun a b => decide (key a ≤ key b))).Pairwise
      fun a b => a.2 ≠ b.2 :=
    (hperm.pairwise_iff Ne.symm).mpr ((pairwise_zipIdx l).imp Nat.ne_of_lt)
  refine (hsorted.and hplaces).imp_of_mem ?_
  rintro ⟨a, i⟩ ⟨b, j⟩ ha hb ⟨hle, hne⟩
  have ha : l[i]? = some a := List.mem_zipIdx_iff_getElem?.mp (List.mem_mergeSort.mp ha)
  have hb : l[j]? = some b := List.mem_zipIdx_iff_getElem?.mp (List.mem_mergeSort.mp hb)
  obtain ⟨hi, rfl⟩ := List.getElem?_eq_some_iff.mp ha
  obtain ⟨hj, rfl⟩ := List.getElem?_eq_some_iff.mp hb
  simp only [List.zipIdxLE, decide_eq_true_eq] at hle
  split at hle
  · rename_i hab
    split at hle
    · rename_i hba
      have hij : i < j := Nat.lt_of_le_of_ne (of_decide_eq_true hle) hne
      exact .inr ⟨Nat.le_antisymm hab hba, List.pairwise_iff_getElem.mp h i j hi hj hij⟩
    · rename_i hba
      exact .inl (Nat.lt_of_not_le hba)
  · cases hle

/-- Where no two members have one number, sorting by numbers puts the smaller in front. -/
theorem pairwise_lt_mergeSort {l : List α} (h : l.Pairwise fun a b => key a ≠ key b) :
    (l.mergeSort fun a b => key a ≤ key b).Pairwise fun a b => key a < key b := by
  refine (pairwise_mergeSort_of_pairwise key h).imp ?_
  rintro a b (hlt | ⟨heq, hne⟩)
  · exact hlt
  · exact absurd heq hne

/-- A list with one more member in front is sorted around it: the member stands behind what is
smaller and before the rest. -/
theorem mergeSort_cons_eq_filter (a : α) (l : List α) :
    ((a :: l).mergeSort fun a b => key a ≤ key b) =
      (l.mergeSort fun a b => key a ≤ key b).filter (fun b => !decide (key a ≤ key b)) ++
        a :: (l.mergeSort fun a b => key a ≤ key b).filter fun b => decide (key a ≤ key b) := by
  obtain ⟨front, back, hsorted, hrest, hfront⟩ :=
    List.mergeSort_cons (key_le_trans key) (key_le_total key) a l
  have hpairwise := List.pairwise_mergeSort (key_le_trans key) (key_le_total key) (a :: l)
  rw [hsorted, List.pairwise_append, List.pairwise_cons] at hpairwise
  have hback : ∀ b ∈ back, decide (key a ≤ key b) = true := hpairwise.2.1.1
  have hsmaller : (front ++ back).filter (fun b => !decide (key a ≤ key b)) = front := by
    rw [List.filter_append, List.filter_eq_self.mpr hfront, List.filter_eq_nil_iff.mpr,
      List.append_nil]
    intro b hb
    rw [hback b hb]
    exact Bool.false_ne_true
  have hrest' : (front ++ back).filter (fun b => decide (key a ≤ key b)) = back := by
    rw [List.filter_append, List.filter_eq_self.mpr hback, List.filter_eq_nil_iff.mpr,
      List.nil_append]
    intro b hb h
    have := hfront b hb
    rw [h] at this
    cases this
  rw [hsorted, hrest, hsmaller, hrest']

/-- **Sorting a part of a list gives a part of the sorted list**, in the same order. By induction
along the part: both lists are sorted around a member that they share. -/
theorem sublist_mergeSort_of_sublist {l m : List α} (h : l <+ m) :
    (l.mergeSort fun a b => key a ≤ key b) <+ m.mergeSort fun a b => key a ≤ key b := by
  induction h with
  | slnil => exact List.Sublist.refl _
  | @cons l m a h ih =>
      obtain ⟨front, back, hsorted, hrest, -⟩ :=
        List.mergeSort_cons (key_le_trans key) (key_le_total key) a m
      rw [hrest] at ih
      rw [hsorted]
      exact ih.trans ((List.Sublist.refl front).append (List.sublist_cons_self a back))
  | @cons_cons l m a h ih =>
      rw [mergeSort_cons_eq_filter, mergeSort_cons_eq_filter]
      exact (ih.filter _).append ((ih.filter _).cons_cons a)

/-- What is chosen from a sorted list is what is chosen, sorted. -/
theorem filter_mergeSort (p : α → Bool) (l : List α) :
    (l.mergeSort fun a b => key a ≤ key b).filter p =
      (l.filter p).mergeSort fun a b => key a ≤ key b := by
  -- the one is part of the other, and they are equally long
  have hpart := (sublist_mergeSort_of_sublist key (List.filter_sublist (p := p) (l := l))).filter p
  have hall : ((l.filter p).mergeSort fun a b => key a ≤ key b).filter p =
      (l.filter p).mergeSort fun a b => key a ≤ key b := by
    rw [List.filter_eq_self]
    intro a ha
    exact (List.mem_filter.mp (List.mem_mergeSort.mp ha)).2
  rw [hall] at hpart
  refine (hpart.eq_of_length ?_).symm
  rw [List.length_mergeSort]
  exact ((List.mergeSort_perm l _).filter p).length_eq.symm

end List
