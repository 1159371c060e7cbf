/-
# Searches told without searching

What a search finds can be told by the matches of the text alone. What is found is matched where it
stands; it stands one after the other, and an empty match does not stand right at the end of the one
before it; and a match is only passed over if it would stand otherwise behind one that is found and
begins before it. A text has one such list of matches only, and a search finds it.

* `Matcher.MatchesAt` : the matches of a text;
* `Span.ClearOf` : matches that stand one after the other;
* `Matcher.IsSweep`, `Matcher.IsSweep.unique` : the matches that count;
* `Matcher.isSweep_spans` : they are found.
-/
import PolicyLint.Proofs.Text.Search

namespace PolicyLint

/-- Whether a stretch begins behind another, or at its end if it is not empty. -/
def Span.ClearOf (t s : Span) : Prop := s.stop < t.offset ∨ (s.stop = t.offset ∧ t.text ≠ [])

theorem Span.ClearOf.le {t s : Span} (h : t.ClearOf s) : s.stop ≤ t.offset :=
  h.elim Nat.le_of_lt fun h => Nat.le_of_eq h.1

namespace Matcher

/-- Whether a stretch of a text is matched where it stands. -/
def MatchesAt (m : Matcher) (text : List Char) (s : Span) : Prop :=
  ∃ before behind, text = before ++ s.text ++ behind ∧ s.offset = Text.size before ∧
    ∃ k, m ⟨before.getLast?, s.text ++ behind⟩ = some k ∧ (s.text ++ behind).take k = s.text

/-- Whether some stretches are the matches of a text that count, from left to right. -/
structure IsSweep (m : Matcher) (text : List Char) (ss : List Span) : Prop where
  matched : ∀ s ∈ ss, m.MatchesAt text s
  apart : ss.Pairwise fun s t => s.offset < t.offset ∧ t.ClearOf s
  passed : ∀ t, m.MatchesAt text t → t ∈ ss ∨ ∃ s ∈ ss, s.offset < t.offset ∧ ¬ t.ClearOf s

variable {m : Matcher} {text : List Char} {ss ss' : List Span}

/-! ## There is one sweep -/

/-- Of two stretches of a sweep one stands behind the other. -/
theorem IsSweep.clearOf {s t : Span} (h : m.IsSweep text ss) (hs : s ∈ ss) (ht : t ∈ ss)
    (hlt : s.offset < t.offset) : t.ClearOf s := by
  obtain ⟨i, hi, rfl⟩ := List.mem_iff_getElem.mp hs
  obtain ⟨j, hj, rfl⟩ := List.mem_iff_getElem.mp ht
  have hapart := List.pairwise_iff_getElem.mp h.apart
  rcases Nat.lt_trichotomy i j with hij | rfl | hij
  · exact (hapart i j hi hj hij).2
  · exact absurd hlt (Nat.lt_irrefl _)
  · exact absurd hlt (Nat.lt_asymm (hapart j i hj hi hij).1)

/-- The stretches of a sweep are among those of another. By induction on where they begin: what
passes one of them over in the other sweep is among the first as well. -/
theorem IsSweep.mem_of_mem (h : m.IsSweep text ss) (h' : m.IsSweep text ss') (n : Nat) :
    ∀ s, s.offset = n → s ∈ ss → s ∈ ss' := by
  induction n using Nat.strongRecOn generalizing ss ss' with
  | ind n ih =>
      intro s hn hs
      rcases h'.passed s (h.matched s hs) with hs' | ⟨r, hr, hlt, hclear⟩
      · exact hs'
      · have hmem : r ∈ ss := ih r.offset (hn ▸ hlt) h' h r rfl hr
        exact absurd (h.clearOf hmem hs hlt) hclear

/-- **A text has one sweep only.** -/
theorem IsSweep.unique (h : m.IsSweep text ss) (h' : m.IsSweep text ss') : ss = ss' := by
  have hirrefl {s t : Span} (hlt : s.offset < t.offset) : s ≠ t := by
    rintro rfl
    exact Nat.lt_irrefl _ hlt
  have hperm : ss.Perm ss' := by
    rw [List.perm_ext_iff_of_nodup (h.apart.imp fun hlt => hirrefl hlt.1)
      (h'.apart.imp fun hlt => hirrefl hlt.1)]
    exact fun s => ⟨h.mem_of_mem h' _ s rfl, h'.mem_of_mem h _ s rfl⟩
  exact hperm.eq_of_pairwise (fun s t _ _ hst hts => absurd hst.1 (Nat.lt_asymm hts.1))
    h.apart h'.apart

/-! ## A search sweeps -/

/-- What is found is matched where it stands. -/
theorem exists_match_of_mem_spans (h : s ∈ m.spans text) :
    ∃ before behind, text = before ++ s.text ++ behind ∧ s.offset = Text.size before ∧
      ∃ k, m ⟨before.getLast?, s.text ++ behind⟩ = some k ∧ (s.text ++ behind).take k = s.text := by
  obtain ⟨before, behind, htext, hoffset, k, hk, htake⟩ := m.exists_of_mem_spansFrom 0 true _ h
  have htext : text = before ++ (s.text ++ behind) := by
    rw [← List.append_assoc]
    exact htext
  rw [htext, Site.skip_start_append] at hk
  exact ⟨before, behind, by rw [htext, List.append_assoc], by rw [hoffset, Nat.zero_add], k, hk,
    htake⟩

/-- What is found from a place on does not stand before the place. -/
theorem le_offset_of_mem_spansFrom {offset : Nat} {fresh : Bool} {site : Site}
    (h : s ∈ m.spansFrom offset fresh site) : offset ≤ s.offset := by
  obtain ⟨before, behind, -, hoffset, -⟩ := m.exists_of_mem_spansFrom offset fresh site h
  rw [hoffset]
  exact Nat.le_add_right _ _

/-- What is found where a match has just ended begins behind it, or is not empty. -/
theorem lt_offset_or_ne_nil {offset : Nat} {site : Site} {t : Span}
    (h : t ∈ m.spansFrom offset false site) : offset < t.offset ∨ t.text ≠ [] := by
  rcases site with ⟨p, _ | ⟨c, cs⟩⟩
  · rw [spansFrom] at h
    cases h
  · have hc := c.utf8Size_pos
    rw [spansFrom] at h
    split at h
    · rcases List.mem_cons.mp h with rfl | h
      · exact .inr (List.cons_ne_nil _ _)
      · have hle := le_offset_of_mem_spansFrom h
        rw [List.take_succ_cons, Text.size_cons] at hle
        exact .inl (by omega)
    · have hle := le_offset_of_mem_spansFrom h
      exact .inl (by omega)
    · have hle := le_offset_of_mem_spansFrom h
      exact .inl (by omega)

/-- What is found stands apart. By induction along the search. -/
theorem apart_spansFrom (m : Matcher) (offset : Nat) (fresh : Bool) (site : Site) :
    (m.spansFrom offset fresh site).Pairwise fun s t => s.offset < t.offset ∧ t.ClearOf s := by
  induction offset, fresh, site using Matcher.spansFrom.induct m with
  | case1 offset fresh p hfound =>
      rw [spansFrom, if_pos hfound]
      exact List.pairwise_singleton _ _
  | case2 offset fresh p hfound =>
      rw [spansFrom, if_neg hfound]
      exact .nil
  | case3 offset fresh p c cs n hm found ih =>
      simp only [spansFrom, hm]
      refine List.pairwise_cons.mpr ⟨fun t ht => ?_, ih⟩
      have hc := c.utf8Size_pos
      have hfound : 0 < Text.size found := by
        rw [show found = c :: cs.take n from rfl, Text.size_cons]
        omega
      have hle : offset + Text.size found ≤ t.offset := le_offset_of_mem_spansFrom ht
      refine ⟨show offset < t.offset by omega, ?_⟩
      rcases lt_offset_or_ne_nil ht with hlt | hne
      · exact .inl hlt
      · exact (Nat.lt_or_eq_of_le hle).imp id fun heq => ⟨heq, hne⟩
  | case4 offset fresh p c cs hm ih =>
      simp only [spansFrom, hm]
      rw [List.pairwise_append]
      refine ⟨by cases fresh <;> simp, ih, fun s hs t ht => ?_⟩
      -- an empty match ends where it begins, and the search goes on behind the next character
      have hs : s = ⟨offset, []⟩ := by
        cases fresh
        · cases hs
        · exact List.mem_singleton.mp hs
      have hc := c.utf8Size_pos
      have hle := le_offset_of_mem_spansFrom ht
      rw [hs]
      exact ⟨show offset < t.offset by omega, .inl (show offset < t.offset by omega)⟩
  | case5 offset fresh p c cs hm ih =>
      simp only [spansFrom, hm]
      exact ih

/-- What begins inside of a stretch is not clear of it, and neither is nothing at its end. -/
theorem not_clearOf_of_text_eq {s : Span} {before rest : List Char} {j : Nat}
    (hs : s.text = before ++ rest.take (j + 1)) (k : Nat) :
    ¬ Span.ClearOf ⟨s.offset + Text.size before, rest.take k⟩ s := by
  have hstop : s.stop = s.offset + Text.size before + Text.size (rest.take (j + 1)) := by
    rw [Span.stop, hs, Text.size_append, Nat.add_assoc]
  rintro (hlt | ⟨heq, hne⟩)
  · rw [hstop] at hlt
    exact absurd hlt (Nat.not_lt_of_le (Nat.le_add_right _ _))
  · -- the stretch ends where the match begins, so nothing follows
    have hsize : Text.size (rest.take (j + 1)) = 0 := by
      rw [hstop] at heq
      exact Nat.add_left_cancel heq
    rcases rest with _ | ⟨c, cs⟩
    · exact hne List.take_nil
    · have hnil := (Text.size_eq_zero_iff _).mp hsize
      rw [List.take_succ_cons] at hnil
      cases hnil

/-- Whether a stretch is among some, or one of these begins before it and it does not stand clear of
that one. -/
def IsMet (ss : List Span) (t : Span) : Prop :=
  t ∈ ss ∨ ∃ s ∈ ss, s.offset < t.offset ∧ ¬ t.ClearOf s

/-- A stretch is met by more, too. -/
theorem IsMet.mono {t : Span} (h : IsMet ss t) (hsub : ss ⊆ ss') : IsMet ss' t :=
  h.imp (fun ht => hsub ht) fun ⟨s, hs, hpassed⟩ => ⟨s, hsub hs, hpassed⟩

/-- What begins inside of a stretch, or has no characters and stands at its end, is met by it. -/
theorem isMet_of_text_eq {offset j : Nat} {found before rest : List Char}
    (hfound : found = before ++ rest.take (j + 1)) (hne : before ≠ []) (k : Nat)
    (ss : List Span) :
    IsMet (⟨offset, found⟩ :: ss) ⟨offset + Text.size before, rest.take k⟩ := by
  refine .inr ⟨_, List.mem_cons_self, ?_, not_clearOf_of_text_eq hfound k⟩
  exact Nat.lt_add_of_pos_right (Nat.pos_of_ne_zero (mt (Text.size_eq_zero_iff _).mp hne))

/-- A match behind a place is met by what is found from the place on, unless it is an empty one where
a match has just ended. By induction along the search. -/
theorem isMet_spansFrom {before rest : List Char} {k : Nat} (offset : Nat) (fresh : Bool)
    (site : Site) (hsite : site.rest = before ++ rest)
    (hmatch : m (site.skip before.length) = some k) :
    let t : Span := ⟨offset + Text.size before, rest.take k⟩
    (fresh = false ∧ before = [] ∧ t.text = []) ∨ IsMet (m.spansFrom offset fresh site) t := by
  induction offset, fresh, site using Matcher.spansFrom.induct m generalizing before with
  | case1 offset fresh p hfound =>
      obtain ⟨rfl, rfl⟩ := List.append_eq_nil_iff.mp hsite.symm
      rw [spansFrom, if_pos hfound, List.take_nil]
      exact .inr (.inl List.mem_cons_self)
  | case2 offset fresh p hfound =>
      obtain ⟨rfl, rfl⟩ := List.append_eq_nil_iff.mp hsite.symm
      have hm : m ⟨p, []⟩ = some k := hmatch
      rw [hm, Option.isSome_some, Bool.and_true, Bool.not_eq_true] at hfound
      exact .inl ⟨hfound, rfl, List.take_nil⟩
  | case3 offset fresh p c cs n hm found =>
      rename_i ih
      have hcs : c :: cs = before ++ rest := hsite
      simp only [spansFrom, hm]
      refine .inr ?_
      by_cases hlength : before.length < n + 1
      · rcases before with _ | ⟨d, ds⟩
        · -- the match is the one that is found first
          have hk : some (n + 1) = some k := hm.symm.trans hmatch
          cases hk
          rw [← show c :: cs = rest from hcs]
          exact .inl List.mem_cons_self
        · -- the match begins inside of it, or is empty and stands at its end
          obtain ⟨j, hj⟩ := Nat.exists_eq_add_of_lt hlength
          have hfound : found = d :: ds ++ rest.take (j + 1) := by
            show (c :: cs).take (n + 1) = _
            rw [hcs, hj, List.take_append, List.take_of_length_le (by omega)]
            congr 2
            omega
          exact isMet_of_text_eq hfound (List.cons_ne_nil d ds) k _
      · -- it begins behind
        obtain ⟨more, hbefore, hskip, hsame⟩ :=
          Site.exists_skip_eq hsite (Nat.le_of_not_lt hlength)
        have hsize : Text.size before = Text.size found + Text.size more := by
          rw [hbefore, Text.size_append]
        rw [← hsame] at hmatch
        rw [hsize, ← Nat.add_assoc]
        rcases ih hskip hmatch with ⟨-, rfl, htext⟩ | hmet
        · -- it is empty and stands right at the end of what is found
          have hend : found = found ++ List.take (0 + 1) [] := (List.append_nil _).symm
          rw [show rest.take k = [] from htext]
          exact isMet_of_text_eq hend (List.cons_ne_nil c _) 0 _
        · exact hmet.mono (List.subset_cons_self _ _)
  | case4 offset fresh p c cs hm ih =>
      simp only [spansFrom, hm]
      rcases before with _ | ⟨d, ds⟩
      · have hk : some 0 = some k := hm.symm.trans hmatch
        cases hk
        cases fresh
        · exact .inl ⟨rfl, rfl, rfl⟩
        · exact .inr (.inl (List.mem_append_left _ (List.mem_singleton.mpr rfl)))
      · obtain ⟨rfl, hcs⟩ := List.cons.inj hsite
        have hmet := (ih hcs hmatch).resolve_left fun h => Bool.noConfusion h.1
        rw [Text.size_cons, ← Nat.add_assoc]
        exact .inr (hmet.mono (List.subset_append_right _ _))
  | case5 offset fresh p c cs hm ih =>
      simp only [spansFrom, hm]
      rcases before with _ | ⟨d, ds⟩
      · rw [List.length_nil, Site.skip, hm] at hmatch
        cases hmatch
      · obtain ⟨rfl, hcs⟩ := List.cons.inj hsite
        rw [Text.size_cons, ← Nat.add_assoc]
        exact .inr ((ih hcs hmatch).resolve_left fun h => Bool.noConfusion h.1)

/-- **A search finds the matches that count.** -/
theorem isSweep_spans (m : Matcher) (text : List Char) : m.IsSweep text (m.spans text) where
  matched _ hs := exists_match_of_mem_spans hs
  apart := apart_spansFrom m 0 true _
  passed := by
    rintro ⟨offset, found⟩ ⟨before, behind, rfl, rfl, k, hk, htake⟩
    rw [List.append_assoc]
    rw [← Site.skip_start_append] at hk
    have hmet := (isMet_spansFrom 0 true _ rfl hk).resolve_left fun h => Bool.noConfusion h.1
    rw [htake, Nat.zero_add] at hmet
    exact hmet

end Matcher

end PolicyLint
