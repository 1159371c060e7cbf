/-
# Lists taken one after the other

A list whose members each give a value or fail gives the values of all of them, in their order, or
fails as the first of its members that does. A list whose repetitions are erased is what remains of
it if each member is compared with the last one that was kept.

* `List.mapM_eq_some_iff`, `List.mapM_eq_ok_iff`, `List.mapM_eq_error_iff` : what a list comes to;
* `List.foldlM_induction` : what is kept from one member to the next;
* `List.eraseRepsBy_eq_destutter`, `List.mem_eraseRepsBy_iff` : what is kept of a list;
* `List.pairwise_strict_of_isChain` : the order of what is kept of a sorted list.
-/
import Mathlib.Data.List.Destutter
import Mathlib.Data.List.Forall2

namespace List

variable {α β ε : Type}

/-- In two lists of which the members correspond, each member of the one has one of the other. -/
theorem Forall₂.exists_of_mem {R : α → β → Prop} {xs : List α} {ys : List β}
    (h : Forall₂ R xs ys) : ∀ x ∈ xs, ∃ y ∈ ys, R x y := by
  induction h with
  | nil => exact forall_mem_nil _
  | cons hx hxs ih =>
      refine forall_mem_cons.mpr ⟨⟨_, mem_cons_self, hx⟩, fun x' hx' => ?_⟩
      obtain ⟨y, hy, hxy⟩ := ih x' hx'
      exact ⟨y, mem_cons_of_mem _ hy, hxy⟩

/-- A list gives values exactly if its members give them, in their order. -/
theorem mapM_eq_some_iff {f : α → Option β} {l : List α} {ys : List β} :
    l.mapM f = some ys ↔ Forall₂ (fun x y => f x = some y) l ys := by
  induction l generalizing ys with
  | nil => rw [mapM_nil, forall₂_nil_left_iff, eq_comm, Option.pure_def, Option.some_inj]
  | cons x xs ih =>
      rw [mapM_cons, forall₂_cons_left_iff]
      constructor
      · intro h
        obtain ⟨y, hy, hrest⟩ := Option.bind_eq_some_iff.mp h
        obtain ⟨zs, hzs, hlist⟩ := Option.bind_eq_some_iff.mp hrest
        exact ⟨y, zs, hy, ih.mp hzs, (Option.some.inj hlist).symm⟩
      · rintro ⟨y, zs, hy, hzs, rfl⟩
        rw [hy, ih.mpr hzs]
        rfl

/-- If each member gives a value, the list gives these values. -/
theorem mapM_eq_some_map {f : α → Option β} {g : α → β} {l : List α}
    (h : ∀ x ∈ l, f x = some (g x)) : l.mapM f = some (l.map g) :=
  mapM_eq_some_iff.mpr (forall₂_map_right_iff.mpr (forall₂_same.mpr h))

/-- What each member keeps, if it does not fail, the whole list keeps. -/
theorem foldlM_induction {P : β → Prop} {f : β → α → Option β} {l : List α} {b b' : β}
    (hstep : ∀ x ∈ l, ∀ b b', P b → f b x = some b' → P b') (hb : P b)
    (h : l.foldlM f b = some b') : P b' := by
  induction l generalizing b with
  | nil =>
      cases h
      exact hb
  | cons x xs ih =>
      rw [foldlM_cons] at h
      obtain ⟨middle, hmiddle, hrest⟩ := Option.bind_eq_some_iff.mp h
      rw [forall_mem_cons] at hstep
      exact ih hstep.2 (hstep.1 b middle hb hmiddle) hrest

variable {f : α → Except ε β} {l : List α}

/-- **A list gives values exactly if its members give them**, in their order. -/
theorem mapM_eq_ok_iff {ys : List β} :
    l.mapM f = .ok ys ↔ Forall₂ (fun x y => f x = .ok y) l ys := by
  induction l generalizing ys with
  | nil =>
      rw [forall₂_nil_left_iff]
      constructor
      · intro h
        cases h
        rfl
      · rintro rfl
        rfl
  | cons x xs ih =>
      rw [mapM_cons, forall₂_cons_left_iff]
      constructor
      · intro h
        cases hx : f x with
        | error e =>
            rw [hx] at h
            cases h
        | ok z =>
            cases hxs : xs.mapM f with
            | error e =>
                rw [hx, hxs] at h
                cases h
            | ok zs =>
                rw [hx, hxs] at h
                cases h
                exact ⟨z, zs, rfl, ih.mp hxs, rfl⟩
      · rintro ⟨z, zs, hx, hxs, rfl⟩
        rw [hx, ih.mpr hxs]
        rfl

/-- **A list fails exactly as the first of its members that fails.** -/
theorem mapM_eq_error_iff {e : ε} :
    l.mapM f = .error e ↔ ∃ before x after, l = before ++ x :: after ∧
      (∀ y ∈ before, ∃ z, f y = .ok z) ∧ f x = .error e := by
  induction l with
  | nil =>
      constructor
      · intro h
        cases h
      · rintro ⟨before, x, after, h, -⟩
        exact absurd h.symm (append_ne_nil_of_right_ne_nil _ (cons_ne_nil _ _))
  | cons x xs ih =>
      rw [mapM_cons]
      constructor
      · intro h
        cases hx : f x with
        | error d =>
            rw [hx] at h
            cases h
            exact ⟨[], x, xs, rfl, forall_mem_nil _, hx⟩
        | ok y =>
            cases hxs : xs.mapM f with
            | ok ys =>
                rw [hx, hxs] at h
                cases h
            | error d =>
                rw [hx, hxs] at h
                cases h
                obtain ⟨before, z, after, rfl, hbefore, hz⟩ := ih.mp hxs
                exact ⟨x :: before, z, after, rfl, forall_mem_cons.mpr ⟨⟨y, hx⟩, hbefore⟩, hz⟩
      · rintro ⟨_ | ⟨y, before⟩, z, after, hcons, hbefore, hz⟩
        · cases hcons
          rw [hz]
          rfl
        · obtain ⟨rfl, rfl⟩ := cons.inj hcons
          rw [forall_mem_cons] at hbefore
          obtain ⟨⟨y, hy⟩, hbefore⟩ := hbefore
          rw [hy, ih.mpr ⟨before, z, after, rfl, hbefore, hz⟩]
          rfl

/-! ## Repetitions -/

section

variable {r : α → α → Bool} {x : α} {l : List α}

/-- Where members are kept that differ from the last one kept, repetitions are erased. -/
theorem eraseRepsBy_eq_destutter (r : α → α → Bool) (l : List α) :
    l.eraseRepsBy r = l.destutter fun a b => ¬ r a b = true := by
  have hloop (a : α) (as acc : List α) :
      eraseRepsBy.loop r a as acc =
        acc.reverse ++ as.destutter' (fun a b => ¬ r a b = true) a := by
    induction as generalizing a acc with
    | nil => exact reverse_cons
    | cons b as ih =>
        rw [eraseRepsBy.loop]
        by_cases h : r a b = true
        · rw [h, destutter'_cons_neg _ (not_not.mpr h)]
          exact ih a acc
        · rw [Bool.eq_false_iff.mpr h, destutter'_cons_pos _ h]
          refine (ih b (a :: acc)).trans ?_
          rw [reverse_cons, append_assoc]
          rfl
  cases l with
  | nil => rfl
  | cons a as => exact hloop a as []

/-- **Nothing is lost** if only equal members are taken for repetitions. -/
theorem mem_eraseRepsBy_iff (h : ∀ a ∈ l, ∀ b ∈ l, r a b = true → a = b) :
    x ∈ l.eraseRepsBy r ↔ x ∈ l := by
  have hkept (a : α) (as : List α) (has : ∀ b ∈ a :: as, ∀ c ∈ a :: as, r b c = true → b = c)
      (hx : x ∈ a :: as) : x ∈ as.destutter' (fun a b => ¬ r a b = true) a := by
    induction as generalizing a with
    | nil => exact hx
    | cons b as ih =>
        by_cases hrep : r a b = true
        · have heq := has a mem_cons_self b (mem_cons_of_mem a mem_cons_self) hrep
          subst heq
          rw [destutter'_cons_neg _ (not_not.mpr hrep)]
          refine ih a (fun b hb c hc => has b (mem_cons_of_mem a hb) c (mem_cons_of_mem a hc)) ?_
          exact (mem_cons.mp hx).elim (fun heq => heq ▸ mem_cons_self) id
        · rw [destutter'_cons_pos _ hrep, mem_cons]
          refine (mem_cons.mp hx).imp_right fun hx => ih b ?_ hx
          exact fun b hb c hc => has b (mem_cons_of_mem a hb) c (mem_cons_of_mem a hc)
  rw [eraseRepsBy_eq_destutter]
  refine ⟨fun hx => (destutter_sublist _ l).mem hx, fun hx => ?_⟩
  cases l with
  | nil => cases hx
  | cons a as => exact hkept a as h hx

/-- **A sorted list is in strict order** if no two members that stand next to each other are
repetitions. -/
theorem pairwise_strict_of_isChain {R : α → α → Prop} (htrans : ∀ a b c, R a b → R b c → R a c)
    (hrep : ∀ a b, R a b → R b a → r a b = true) (hsorted : l.Pairwise R)
    (hapart : l.IsChain fun a b => ¬ r a b = true) : l.Pairwise fun a b => R a b ∧ ¬ R b a := by
  induction l with
  | nil => exact .nil
  | cons a l ih =>
      rw [pairwise_cons] at hsorted
      refine pairwise_cons.mpr ⟨fun c hc => ⟨hsorted.1 c hc, fun hback => ?_⟩,
        ih hsorted.2 hapart.tail⟩
      cases l with
      | nil => cases hc
      | cons b l =>
          -- what leads back to the first member leads back from the second
          have hab := hsorted.1 b mem_cons_self
          have hba : R b a := by
            rcases mem_cons.mp hc with rfl | hc
            · exact hback
            · exact htrans b c a ((pairwise_cons.mp hsorted.2).1 c hc) hback
          exact (isChain_cons_cons.mp hapart).1 (hrep a b hab hba)

end

end List
