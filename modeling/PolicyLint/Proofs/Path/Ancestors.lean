/-
# Above a path

Going up from a path takes its last step away, again and again. What is left is spelled with the
first pieces of the path, so it starts from where the path does and takes the first of its steps.
Each time one step fewer is left; so the way up ends, and the ancestors of a path are all that it
passes.

* `Path.rungs` : the pieces of a path that are taken away on the way up;
* `Path.exists_of_parent?` : a path and the one above it;
* `Path.ancestors_of_some` : the ancestors of a path, and of the one above it;
* `Path.GoesUp` : the way up from a path, and `Path.goesUp_ancestors`;
* `Path.pairwise_ancestors` : what is farther up takes the first steps of what is nearer.
-/
import Mathlib.Data.List.Chain
import PolicyLint.Proofs.Path.Dotted
import PolicyLint.Proofs.Path.Reach

/-- Members with their places: up to one of those that are kept, these are kept too. -/
theorem List.filter_zipIdx_take {α : Type} {l : List α} {keep : α × Nat → Bool} {x : α} {i : Nat}
    {front back : List (α × Nat)} (h : l.zipIdx.filter keep = front ++ (x, i) :: back) :
    (l.take (i + 1)).zipIdx.filter keep = front ++ [(x, i)] := by
  obtain ⟨before, rest, hsplit, hbefore, hrest⟩ := List.filter_eq_append_iff.mp h
  obtain ⟨dropped, behind, rfl, hdropped, hkept, -⟩ := List.filter_eq_cons_iff.mp hrest
  have hall : l.zipIdx = before ++ dropped ++ [(x, i)] ++ behind := by
    rw [hsplit]
    simp
  have hplace : l[(before ++ dropped).length]? = some x ∧ i = (before ++ dropped).length := by
    have hat : l.zipIdx[(before ++ dropped).length]? = some (x, i) := by
      rw [hall, List.append_assoc, List.getElem?_append_right (Nat.le_refl _), Nat.sub_self]
      rfl
    rw [List.getElem?_zipIdx, Option.map_eq_some_iff] at hat
    obtain ⟨y, hy, heq⟩ := hat
    obtain ⟨rfl, rfl⟩ := Prod.mk.inj heq
    exact ⟨hy, Nat.zero_add _⟩
  have hlength : (l.take (i + 1)).zipIdx.length = (before ++ dropped ++ [(x, i)]).length := by
    obtain ⟨hlt, -⟩ := List.getElem?_eq_some_iff.mp hplace.1
    rw [List.length_zipIdx, List.length_take, List.length_append, ← hplace.2]
    rw [← hplace.2] at hlt
    exact Nat.min_eq_left hlt
  have htake : (l.take (i + 1)).zipIdx = before ++ dropped ++ [(x, i)] := by
    rw [← List.take_append_drop (i + 1) l, List.zipIdx_append] at hall
    exact (List.append_inj hall hlength).1
  rw [htake, List.filter_append, List.filter_append, hbefore, List.filter_eq_nil_iff.mpr hdropped,
    List.append_nil, List.filter_cons_of_pos hkept]
  rfl

namespace PolicyLint.Path

variable {p up : String}

/-! ## Pieces -/

/-- **The pieces of a text that is spelled with pieces** are these pieces. -/
theorem pieces_unpieces {ps : List (List Char)} (hne : ps ≠ []) (hps : ∀ q ∈ ps, '/' ∉ q) :
    pieces (unpieces ps) = ps := by
  induction ps with
  | nil => exact absurd rfl hne
  | cons q qs ih =>
      rw [List.forall_mem_cons] at hps
      cases qs with
      | nil => exact Text.splitAt_of_not_mem hps.1
      | cons r rs =>
          rw [unpieces, pieces, Text.splitAt_append, Text.splitAt_of_not_mem hps.1, ← pieces,
            ih (List.cons_ne_nil r rs) hps.2]
          rfl

/-- A path is absolute exactly if an empty piece stands in front of others. -/
theorem isAbsolute_iff : isAbsolute p = true ↔ ∃ q qs, pieces p.toList = [] :: q :: qs := by
  constructor
  · intro h
    obtain ⟨cs, hcs⟩ := exists_pieces_of_isAbsolute h
    obtain ⟨q, qs, hq⟩ := List.exists_cons_of_ne_nil (Text.splitAt_ne_nil '/' cs)
    exact ⟨q, qs, hcs.trans (congrArg _ hq)⟩
  · rintro ⟨q, qs, h⟩
    cases habsolute : isAbsolute p with
    | true => rfl
    | false =>
        by_cases hne : p = ""
        · rw [hne] at h
          cases h
        · obtain ⟨first, rest, hpieces, hfirst⟩ := exists_pieces_eq habsolute hne
          rw [hpieces] at h
          exact absurd (List.cons.inj h).1 hfirst

/-! ## One step up -/

/-- The pieces of a path that are taken away one by one on the way up, each with its place. -/
def rungs (path : String) : List (List Char × Nat) :=
  (pieces path.toList).zipIdx.filter fun q => isStep (isAbsolute path) q.2 q.1

/-- The path above one ends with the last rung but one. -/
theorem parent?_eq_rungs (p : String) : parent? p = match (rungs p).reverse with
    | [] => none
    | [_] => some (if isAbsolute p then "/" else "")
    | _ :: (_, i) :: _ => some (String.ofList (unpieces ((pieces p.toList).take (i + 1)))) := rfl

/-- Where rungs are left, the pieces up to the last of them are a path that starts where the path
does. -/
theorem isAbsolute_take {i : Nat} {q : List Char} (hi : (q, i) ∈ rungs p)
    (hup : pieces up.toList = (pieces p.toList).take (i + 1)) : isAbsolute up = isAbsolute p := by
  rw [Bool.eq_iff_iff, isAbsolute_iff, isAbsolute_iff, hup]
  constructor
  · rintro ⟨r, rs, h⟩
    have hfront := List.take_prefix (i + 1) (pieces p.toList)
    rw [h] at hfront
    obtain ⟨more, hmore⟩ := hfront
    exact ⟨r, rs ++ more, hmore.symm⟩
  · rintro ⟨r, rs, h⟩
    -- in an absolute path the first piece is no rung
    have hplace : i ≠ 0 := by
      rintro rfl
      have hstep := (List.mem_filter.mp hi).2
      rw [isAbsolute_iff.mpr ⟨r, rs, h⟩] at hstep
      cases hstep
    obtain ⟨j, rfl⟩ := Nat.exists_eq_succ_of_ne_zero hplace
    exact ⟨r, rs.take j, by rw [h]; rfl⟩

/-- **A path and the one above it.** The latter is absolute if the path is, takes the first of its
steps, and has all its rungs but the last. -/
theorem exists_of_parent? (h : parent? p = some up) :
    isAbsolute up = isAbsolute p ∧ steps up.toList <+: steps p.toList ∧
      ∃ last, rungs p = rungs up ++ [last] := by
  rw [parent?_eq_rungs] at h
  split at h
  · cases h
  · -- there is one rung
    rename_i last hrungs
    have hrungs : rungs p = [last] := List.reverse_eq_iff.mp hrungs
    cases h
    cases isAbsolute p with
    | false => exact ⟨rfl, List.nil_prefix, last, hrungs⟩
    | true => exact ⟨rfl, List.nil_prefix, last, hrungs⟩
  · rename_i last q i more hrungs
    cases h
    have hrungs : rungs p = more.reverse ++ (q, i) :: [last] := by
      rw [List.reverse_eq_iff.mp hrungs]
      simp
    have hmem : (q, i) ∈ rungs p := by
      rw [hrungs]
      exact List.mem_append_right _ List.mem_cons_self
    have hne : (pieces p.toList).take (i + 1) ≠ [] := by
      rw [Ne, List.take_eq_nil_iff]
      exact not_or.mpr ⟨Nat.succ_ne_zero i, Text.splitAt_ne_nil '/' p.toList⟩
    have hpieces : pieces (String.ofList (unpieces ((pieces p.toList).take (i + 1)))).toList =
        (pieces p.toList).take (i + 1) := by
      rw [String.toList_ofList]
      exact pieces_unpieces hne fun r hr => Text.not_mem_of_mem_splitAt (List.mem_of_mem_take hr)
    have habsolute := isAbsolute_take hmem hpieces
    refine ⟨habsolute, ?_, last, ?_⟩
    · rw [steps, steps, hpieces]
      exact (List.take_prefix (i + 1) (pieces p.toList)).filterMap step?
    · have hup : rungs (String.ofList (unpieces ((pieces p.toList).take (i + 1)))) =
          more.reverse ++ [(q, i)] := by
        rw [rungs, hpieces, habsolute]
        exact List.filter_zipIdx_take hrungs
      rw [hup, hrungs, List.append_assoc]
      rfl

/-- **There is nothing above** the empty path, nor above an absolute one without steps. -/
theorem eq_of_parent?_eq_none (h : parent? p = none) :
    p = "" ∨ isAbsolute p = true ∧ steps p.toList = [] := by
  have hrungs : rungs p = [] := by
    rw [parent?_eq_rungs] at h
    split at h
    · rename_i hrungs
      exact List.reverse_eq_nil_iff.mp hrungs
    · cases h
    · cases h
  rw [rungs, List.filter_eq_nil_iff] at hrungs
  refine or_iff_not_imp_left.mpr fun hne => ?_
  cases habsolute : isAbsolute p with
  | false =>
      -- the first piece of a relative path is a rung
      obtain ⟨first, rest, hpieces, hfirst⟩ := exists_pieces_eq habsolute hne
      rw [hpieces, List.zipIdx_cons, List.forall_mem_cons, habsolute] at hrungs
      exact absurd (by simpa [isStep] using hfirst) hrungs.1
  | true =>
      obtain ⟨q, qs, hpieces⟩ := isAbsolute_iff.mp habsolute
      refine ⟨rfl, ?_⟩
      rw [steps, List.filterMap_eq_nil_iff]
      intro r hr
      obtain ⟨i, hi⟩ := List.mem_iff_getElem?.mp hr
      have hrung := hrungs (r, i) (List.mem_zipIdx_iff_getElem?.mpr hi)
      cases i with
      | zero =>
          rw [hpieces] at hi
          cases hi
          rfl
      | succ i =>
          rw [habsolute, isStep, if_neg (Nat.succ_ne_zero i), Bool.not_eq_true,
            Option.isSome_eq_false_iff, Option.isNone_iff_eq_none] at hrung
          exact hrung

/-- Above a path one rung is missing. -/
theorem length_rungs_of_parent? (h : parent? p = some up) :
    (rungs p).length = (rungs up).length + 1 := by
  obtain ⟨-, -, last, hrungs⟩ := exists_of_parent? h
  rw [hrungs, List.length_append]
  rfl

/-- **What holds of a path if it holds of the one above it**, when there is one, holds of all. -/
theorem parent?_induction {P : String → Prop} (h : ∀ p, (∀ up, parent? p = some up → P up) → P p)
    (p : String) : P p := by
  induction hn : (rungs p).length generalizing p with
  | zero =>
      refine h p fun up hup => ?_
      rw [length_rungs_of_parent? hup] at hn
      cases hn
  | succ n ih =>
      refine h p fun up hup => ih up ?_
      rw [length_rungs_of_parent? hup] at hn
      exact Nat.succ.inj hn

/-! ## The way up -/

theorem ancestorsFrom_of_none (h : parent? p = none) (n : Nat) : ancestorsFrom n p = [p] := by
  cases n with
  | zero => rfl
  | succ n => rw [ancestorsFrom, h]

theorem ancestorsFrom_of_some (h : parent? p = some up) (n : Nat) :
    ancestorsFrom (n + 1) p = p :: ancestorsFrom n up := by
  rw [ancestorsFrom, h]

/-- So many times as a path has rungs one can go up, and then no more. -/
theorem ancestorsFrom_eq {n m : Nat} (hn : (rungs p).length ≤ n) (hm : (rungs p).length ≤ m) :
    ancestorsFrom n p = ancestorsFrom m p := by
  induction p using parent?_induction generalizing n m with
  | h p ih =>
      cases hup : parent? p with
      | none => rw [ancestorsFrom_of_none hup, ancestorsFrom_of_none hup]
      | some up =>
          rw [length_rungs_of_parent? hup] at hn hm
          obtain ⟨k, rfl⟩ := Nat.exists_eq_add_of_lt hn
          obtain ⟨l, rfl⟩ := Nat.exists_eq_add_of_lt hm
          rw [ancestorsFrom_of_some hup, ancestorsFrom_of_some hup]
          exact congrArg _ (ih up hup (by omega) (by omega))

/-- A path has no more rungs than pieces. -/
theorem length_rungs_le (p : String) : (rungs p).length ≤ (pieces p.toList).length := by
  rw [rungs, ← List.length_zipIdx (l := pieces p.toList)]
  exact List.length_filter_le _ _

/-- Where there is nothing above a path, it is its only ancestor. -/
theorem ancestors_of_none (h : parent? p = none) : ancestors p = [p] := ancestorsFrom_of_none h _

/-- **The ancestors of a path** are the path and those of the path above it. -/
theorem ancestors_of_some (h : parent? p = some up) : ancestors p = p :: ancestors up := by
  have hlength := length_rungs_le p
  rw [length_rungs_of_parent? h] at hlength
  rw [ancestors, ancestors, ← ancestorsFrom_of_some h]
  apply ancestorsFrom_eq
  · exact length_rungs_le p
  · rw [length_rungs_of_parent? h]
    exact Nat.succ_le_succ (length_rungs_le up)

/-- Whether a list is the way up from a path: it begins with the path, each is followed by the one
above it, and above the last there is none. -/
structure GoesUp (p : String) (chain : List String) : Prop where
  head : chain.head? = some p
  next : chain.IsChain fun a b => parent? a = some b
  last : ∀ a ∈ chain.getLast?, parent? a = none

/-- **The ancestors of a path are the way up from it.** -/
theorem goesUp_ancestors (p : String) : GoesUp p (ancestors p) := by
  induction p using parent?_induction with
  | h p ih =>
      cases hup : parent? p with
      | none =>
          rw [ancestors_of_none hup]
          refine ⟨rfl, List.isChain_singleton p, ?_⟩
          rintro _ ⟨⟩
          exact hup
      | some up =>
          obtain ⟨hhead, hnext, hlast⟩ := ih up hup
          rw [ancestors_of_some hup]
          obtain ⟨rest, hrest⟩ := List.head?_eq_some_iff.mp hhead
          rw [hrest] at hnext hlast ⊢
          exact ⟨rfl, List.isChain_cons_cons.mpr ⟨hup, hnext⟩, hlast⟩

/-- An ancestor of a path is absolute if the path is, and takes the first of its steps. -/
theorem prefix_of_mem_ancestors {a : String} (ha : a ∈ ancestors p) :
    isAbsolute a = isAbsolute p ∧ steps a.toList <+: steps p.toList := by
  induction p using parent?_induction with
  | h p ih =>
      cases hup : parent? p with
      | none =>
          rw [ancestors_of_none hup, List.mem_singleton] at ha
          rw [ha]
          exact ⟨rfl, List.prefix_rfl⟩
      | some up =>
          rw [ancestors_of_some hup] at ha
          rcases List.mem_cons.mp ha with rfl | ha
          · exact ⟨rfl, List.prefix_rfl⟩
          · obtain ⟨habsolute, hsteps, -⟩ := exists_of_parent? hup
            obtain ⟨habsolute', hsteps'⟩ := ih up hup ha
            exact ⟨habsolute'.trans habsolute, hsteps'.trans hsteps⟩

/-- **What is farther up takes the first steps of what is nearer**, from the same start. -/
theorem pairwise_ancestors (p : String) : (ancestors p).Pairwise fun a b =>
    isAbsolute b = isAbsolute a ∧ steps b.toList <+: steps a.toList := by
  induction p using parent?_induction with
  | h p ih =>
      cases hup : parent? p with
      | none =>
          rw [ancestors_of_none hup]
          exact List.pairwise_singleton _ _
      | some up =>
          rw [ancestors_of_some hup]
          refine List.pairwise_cons.mpr ⟨fun a ha => ?_, ih up hup⟩
          apply prefix_of_mem_ancestors
          rw [ancestors_of_some hup]
          exact List.mem_cons_of_mem p ha

end PolicyLint.Path
