/-
# The hits of several values

Each value of a rule is searched for on its own. The hits of all of them are merged by their
offsets, and those at one offset stand in the order of the values. A value may stand in a rule
twice, so a hit does not say which value it belongs to: merged hits are hits that can be given the
numbers of their lists, such that they are ordered by offsets and numbers, and those with the number
of a list are the list.

* `Hit.IsPlacement`, `Hit.IsMerge` : merged hits, with the numbers of their lists and without;
* `Hit.IsPlacement.unique`, `Hit.isMerge_iff_mergeSort` : lists are merged in one way only, which
  sorting them finds;
* `Rule.IsHitsOf` : the hits of a value, told by its matches;
* `Requirement.isMerge_iff_eq_hits` : what a rule finds.
-/
import PolicyLint.Proofs.Policy.Conversion
import PolicyLint.Proofs.Policy.Hits

namespace PolicyLint

/-! ## Merged hits -/

namespace Hit

/-- Whether hits with numbers stand in the order of their offsets, and at one offset in the order of
their numbers. -/
def Precedes (a b : Nat × Hit) : Prop :=
  a.2.offset < b.2.offset ∨ (a.2.offset = b.2.offset ∧ a.1 < b.1)

/-- Whether some hits with numbers are in order and are those of some lists, each with the number of
its list. -/
structure IsPlacement (lists : List (List Hit)) (placed : List (Nat × Hit)) : Prop where
  ordered : placed.Pairwise Precedes
  parts : ∀ i, (placed.filter (·.1 = i)).map (·.2) = lists[i]?.getD []

/-- Whether some hits are those of some lists, merged. -/
def IsMerge (lists : List (List Hit)) (hits : List Hit) : Prop :=
  ∃ placed, IsPlacement lists placed ∧ placed.map (·.2) = hits

variable {lists : List (List Hit)} {placed placed' : List (Nat × Hit)}

theorem Precedes.asymm {a b : Nat × Hit} (hab : Precedes a b) : ¬ Precedes b a := by
  rintro (hba | ⟨hba, hlt⟩)
  · rcases hab with hab | ⟨hab, -⟩ <;> omega
  · rcases hab with hab | ⟨-, hab⟩ <;> omega

/-- A hit is placed with the number of its list. -/
theorem IsPlacement.mem_iff (h : IsPlacement lists placed) {a : Nat × Hit} :
    a ∈ placed ↔ a.2 ∈ lists[a.1]?.getD [] := by
  rw [← h.parts, List.mem_map]
  constructor
  · intro ha
    exact ⟨a, List.mem_filter.mpr ⟨ha, decide_eq_true rfl⟩, rfl⟩
  · rintro ⟨b, hb, hval⟩
    obtain ⟨hb, hnumber⟩ := List.mem_filter.mp hb
    rwa [← show b = a from Prod.ext (of_decide_eq_true hnumber) hval]

/-- **Lists of hits are merged in one way only.** -/
theorem IsPlacement.unique (h : IsPlacement lists placed) (h' : IsPlacement lists placed') :
    placed = placed' := by
  have hnodup {l : List (Nat × Hit)} (hl : l.Pairwise Precedes) : l.Nodup := by
    refine hl.imp ?_
    rintro a _ hab rfl
    exact hab.asymm hab
  have hperm : placed.Perm placed' := by
    rw [List.perm_ext_iff_of_nodup (hnodup h.ordered) (hnodup h'.ordered)]
    exact fun a => h.mem_iff.trans h'.mem_iff.symm
  exact hperm.eq_of_pairwise (fun a b _ _ hab hba => absurd hba hab.asymm) h.ordered h'.ordered

/-- Merged hits stand in the order of their offsets. -/
theorem IsMerge.pairwise_offset_le {hits : List Hit} (h : IsMerge lists hits) :
    hits.Pairwise fun a b => a.offset ≤ b.offset := by
  obtain ⟨placed, hplaced, rfl⟩ := h
  rw [List.pairwise_map]
  exact hplaced.ordered.imp fun hab => hab.elim Nat.le_of_lt fun heq => Nat.le_of_eq heq.1

/-! ### Sorting -/

/-- The hits of some lists, each with the number of its list; `k` lists stand before them. -/
def numberedFrom (k : Nat) : List (List Hit) → List (Nat × Hit)
  | [] => []
  | hits :: lists => hits.map (k, ·) ++ numberedFrom (k + 1) lists

theorem map_snd_numberedFrom (k : Nat) (lists : List (List Hit)) :
    (numberedFrom k lists).map (·.2) = lists.flatten := by
  induction lists generalizing k with
  | nil => rfl
  | cons hits lists ih =>
      rw [numberedFrom, List.map_append, ih, List.map_map, List.flatten_cons]
      congr 1
      exact List.map_id _

theorem le_of_mem_numberedFrom {k : Nat} {a : Nat × Hit} (h : a ∈ numberedFrom k lists) :
    k ≤ a.1 := by
  induction lists generalizing k with
  | nil => cases h
  | cons hits lists ih =>
      rcases List.mem_append.mp h with h | h
      · obtain ⟨_, -, rfl⟩ := List.mem_map.mp h
        exact Nat.le_refl _
      · exact Nat.le_of_succ_le (ih h)

/-- The hits with the number of a list are the list. -/
theorem filter_numberedFrom (k i : Nat) (lists : List (List Hit)) :
    (numberedFrom k lists).filter (·.1 = k + i) = (lists[i]?.getD []).map (k + i, ·) := by
  induction lists generalizing k i with
  | nil => rfl
  | cons hits lists ih =>
      rw [numberedFrom, List.filter_append]
      cases i with
      | zero =>
          have hrest : (numberedFrom (k + 1) lists).filter (·.1 = k + 0) = [] := by
            rw [List.filter_eq_nil_iff]
            intro a ha hnumber
            have hle := le_of_mem_numberedFrom ha
            have hnumber : a.1 = k := of_decide_eq_true hnumber
            omega
          rw [hrest, List.append_nil, List.filter_eq_self.mpr]
          · rfl
          · intro a ha
            obtain ⟨_, -, rfl⟩ := List.mem_map.mp ha
            exact decide_eq_true rfl
      | succ i =>
          have hfirst : (hits.map (k, ·)).filter (·.1 = k + (i + 1)) = [] := by
            rw [List.filter_eq_nil_iff]
            intro a ha hnumber
            obtain ⟨_, -, rfl⟩ := List.mem_map.mp ha
            have hnumber : k = k + (i + 1) := of_decide_eq_true hnumber
            omega
          rw [hfirst, List.nil_append, show k + (i + 1) = k + 1 + i by omega, ih]
          rfl

/-- Lists that are in order stay so side by side: a hit of another list has another number. -/
theorem pairwise_numberedFrom (k : Nat)
    (h : ∀ hits ∈ lists, hits.Pairwise fun a b => a.offset < b.offset) :
    (numberedFrom k lists).Pairwise fun a b =>
      a.1 < b.1 ∨ (a.1 = b.1 ∧ a.2.offset < b.2.offset) := by
  induction lists generalizing k with
  | nil => exact .nil
  | cons hits lists ih =>
      rw [numberedFrom, List.pairwise_append]
      refine ⟨?_, ih (k + 1) fun l hl => h l (List.mem_cons_of_mem _ hl), ?_⟩
      · exact List.pairwise_map.mpr ((h hits List.mem_cons_self).imp fun hlt => .inr ⟨rfl, hlt⟩)
      · intro a ha b hb
        obtain ⟨_, -, rfl⟩ := List.mem_map.mp ha
        exact .inl (le_of_mem_numberedFrom hb)

/-- Sorting numbered hits places them. -/
theorem isPlacement_mergeSort
    (h : ∀ hits ∈ lists, hits.Pairwise fun a b => a.offset < b.offset) :
    IsPlacement lists ((numberedFrom 0 lists).mergeSort fun a b => a.2.offset ≤ b.2.offset) where
  ordered := by
    have hsorted := List.pairwise_mergeSort_of_pairwise (·.2.offset) (pairwise_numberedFrom 0 h)
    refine hsorted.imp ?_
    rintro a b (hlt | ⟨heq, hlt | ⟨-, hlt⟩⟩)
    · exact .inl hlt
    · exact .inr ⟨heq, hlt⟩
    · exact absurd heq (Nat.ne_of_lt hlt)
  parts i := by
    have hpart := filter_numberedFrom 0 i lists
    rw [Nat.zero_add] at hpart
    -- the hits of one list are in order already
    have hlist : (lists[i]?.getD []).Pairwise fun a b => a.offset < b.offset := by
      cases hi : lists[i]? with
      | none => exact .nil
      | some hits => exact h hits (List.mem_of_getElem? hi)
    rw [List.filter_mergeSort, hpart, List.mergeSort_of_pairwise, List.map_map]
    · exact List.map_id _
    · exact List.pairwise_map.mpr (hlist.imp fun hlt => decide_eq_true (Nat.le_of_lt hlt))

/-- **Hits are merged by sorting them.** -/
theorem isMerge_iff_mergeSort (h : ∀ hits ∈ lists, hits.Pairwise fun a b => a.offset < b.offset)
    (hits : List Hit) :
    IsMerge lists hits ↔ hits = lists.flatten.mergeSort fun a b => a.offset ≤ b.offset := by
  have hplaced := isPlacement_mergeSort h
  have hhits : ((numberedFrom 0 lists).mergeSort fun a b => a.2.offset ≤ b.2.offset).map (·.2) =
      lists.flatten.mergeSort fun a b => a.offset ≤ b.offset := by
    rw [← map_snd_numberedFrom 0, List.map_mergeSort]
    intro a _ b _
    rfl
  constructor
  · rintro ⟨placed, hplaced', rfl⟩
    rw [hplaced'.unique hplaced, hhits]
  · rintro rfl
    exact ⟨_, hplaced, hhits⟩

end Hit

/-! ## The hits of rules -/

namespace Rule

/-- Whether some hits are those of a value in a text: one for each match that counts, in their
order, at the place where the value stands in the match. -/
def IsHitsOf (engine : Pattern.Engine) (kind : RuleKind) (text : List Char) (value : String)
    (hits : List Hit) : Prop :=
  ∃ m ss, Matcher.ofValue engine kind value = .ok m ∧ m.IsSweep text ss ∧
    hits = ss.map fun s => ⟨s.offset + shift kind value.toList s.text, value⟩

/-- A search has the hits of its value. -/
theorem isHitsOf_valueHits {engine : Pattern.Engine} {kind : RuleKind} {value : String} {m : Matcher}
    (h : Matcher.ofValue engine kind value = .ok m) (text : List Char) :
    IsHitsOf engine kind text value (valueHits kind value m text) :=
  ⟨m, m.spans text, h, m.isSweep_spans text, rfl⟩

/-- The hits of a value are no others. -/
theorem IsHitsOf.unique {engine : Pattern.Engine} {kind : RuleKind} {text : List Char}
    {value : String} {hits hits' : List Hit} (h : IsHitsOf engine kind text value hits)
    (h' : IsHitsOf engine kind text value hits') : hits = hits' := by
  obtain ⟨m, ss, hm, hss, rfl⟩ := h
  obtain ⟨m', ss', hm', hss', rfl⟩ := h'
  cases hm.symm.trans hm'
  rw [hss.unique hss']

end Rule

/-- **What a rule finds**, whatever engine makes its matchers. Each value of a requirement has hits
of its own, one for each match that counts, and they stand in increasing order. The rule of the
requirement finds the hits of its values merged, and so none twice, in the order of their offsets. -/
theorem Requirement.isMerge_iff_eq_hits {engine : Pattern.Engine} {q : Requirement} {index : Nat}
    {r : Rule} (h : q.toRule index engine = .ok r) (text : List Char) :
    ∃ found : List (List Hit),
      (∀ lists, List.Forall₂ (Rule.IsHitsOf engine r.kind text) q.values lists ↔ lists = found) ∧
      (∀ hits ∈ found, hits.Pairwise fun a b => a.offset < b.offset) ∧
      (∀ hits, Hit.IsMerge found hits ↔ hits = r.hits text) ∧
      (r.hits text).Pairwise fun a b => a.offset ≤ b.offset := by
  let found := r.matchers.map fun p => Rule.valueHits r.kind p.1 p.2 text
  have hfound : List.Forall₂ (Rule.IsHitsOf engine r.kind text) q.values found := by
    have hvalues := (toRule_eq_ok_iff.mp h).2.values
    rw [List.forall₂_map_right_iff]
    refine hvalues.imp fun v p hp => ?_
    rw [← hp.1]
    exact Rule.isHitsOf_valueHits (hp.1 ▸ hp.2) text
  have hincreasing : ∀ hits ∈ found, hits.Pairwise fun a b => a.offset < b.offset := by
    intro hits hhits
    obtain ⟨p, -, rfl⟩ := List.mem_map.mp hhits
    exact List.pairwise_map.mp (Rule.pairwise_valueHits r.kind p.1 p.2 text)
  have hmerge : ∀ hits, Hit.IsMerge found hits ↔ hits = r.hits text := by
    intro hits
    rw [Hit.isMerge_iff_mergeSort hincreasing, Rule.hits, List.flatMap_def]
  refine ⟨found, fun lists => ⟨fun hlists => ?_, ?_⟩, hincreasing, hmerge, ?_⟩
  · exact List.right_unique_forall₂' (fun _ _ _ hits hits' => hits.unique hits') hlists hfound
  · rintro rfl
    exact hfound
  · exact ((hmerge _).mpr rfl).pairwise_offset_le

/-- A property that is banned twice is found twice at each of its places. -/
theorem Requirement.isMerge_hits_of_repeated_values :
    let q : Requirement := { kind := "BANNED_PROPERTY", values := ["b", "b"] }
    ∃ r, q.toRule 0 = .ok r ∧
      r.hits ". b.b".toList = [⟨2, "b"⟩, ⟨2, "b"⟩, ⟨4, "b"⟩, ⟨4, "b"⟩] := by
  intro q
  let b := Matcher.property ['b']
  have hrule : q.toRule 0 = .ok ⟨.property, [("b", b), ("b", b)], none, [], true⟩ := by
    have hmatcher := Matcher.ofValue_property Pattern.readsPlain_engine "b"
    rw [toRule_eq, show RuleKind.ofType? q.kind = some .property by decide +kernel]
    simp only [q, matchers, hmatcher]
    rfl
  obtain ⟨found, hfound, -, hmerge, -⟩ := isMerge_iff_eq_hits hrule ". b.b".toList
  refine ⟨_, hrule, ((hmerge _).mp ?_).symm⟩
  have hits : Rule.IsHitsOf Pattern.engine .property ". b.b".toList "b" [⟨2, "b"⟩, ⟨4, "b"⟩] := by
    have heq : Rule.valueHits .property "b" b ". b.b".toList = [⟨2, "b"⟩, ⟨4, "b"⟩] := by
      decide +kernel
    rw [← heq]
    exact Rule.isHitsOf_valueHits (Matcher.ofValue_property Pattern.readsPlain_engine "b") _
  rw [← (hfound _).mp (.cons hits (.cons hits .nil))]
  refine ⟨[(0, ⟨2, "b"⟩), (1, ⟨2, "b"⟩), (0, ⟨4, "b"⟩), (1, ⟨4, "b"⟩)], ⟨?_, ?_⟩, rfl⟩
  · simp [Hit.Precedes]
  · rintro (_ | _ | i) <;> simp

end PolicyLint
