/-
# Which paths lead to something

A path leads to something if each of its steps can be taken: it starts from a directory, and a name
is called as an entry can be and is that of an entry there. If the last piece of a path is a step, or
the steps lead to a directory, there is no other condition on its pieces, since an empty piece or a
dot wants no more than the directory that the next step wants.

* `Workspace.Leads` : steps that can be taken one after the other;
* `Workspace.leads_of_walk`, `Workspace.walk_eq_ok` : they are those that are walked;
* `Workspace.find_eq_ok` : what a path leads to.
-/
import PolicyLint.Proofs.FileTree

namespace PolicyLint.Workspace

open PolicyLint.Path

/-- Whether steps can be taken one after the other from a place of a tree. -/
def Leads (t : FileTree) : List String → List Component → Prop
  | _, [] => True
  | here, s :: ss => CanTake t here s ∧ Leads t (follow here s) ss

variable {t : FileTree} {here there : List String}

/-! ## Taking steps -/

/-- Steps start from a directory. -/
theorem Leads.any_isDirectory {ss : List Component} (h : Leads t here ss) (hne : ss ≠ []) :
    (t.at? here).any FileTree.isDirectory = true := by
  cases ss with
  | nil => exact absurd rfl hne
  | cons s ss => exact h.1.1

/-- Steps can be taken exactly if the first of them can, and then the others from where these
lead. -/
theorem leads_append_iff {ss ss' : List Component} :
    Leads t here (ss ++ ss') ↔ Leads t here ss ∧ Leads t (ss.foldl follow here) ss' := by
  induction ss generalizing here with
  | nil => exact (and_iff_right trivial).symm
  | cons s ss ih => rw [List.cons_append, Leads, Leads, ih, and_assoc, List.foldl_cons]

/-- There is a directory above what names lead to. -/
theorem any_isDirectory_of_at? {u : FileTree} {n : String} {names : List String}
    (hat : t.at? (here ++ n :: names) = some u) :
    (t.at? here).any FileTree.isDirectory = true ∧ (t.at? (here ++ [n])).isSome = true := by
  rw [FileTree.at?_append] at hat
  obtain ⟨v, hv, hbelow⟩ := Option.bind_eq_some_iff.mp hat
  obtain ⟨entry, hentry, -⟩ := Option.bind_eq_some_iff.mp hbelow
  constructor
  · rw [hv]
    cases v with
    | file content => cases hentry
    | directory entries => rfl
  · have hstep : t.at? (here ++ [n]) = some entry := by
      rw [FileTree.at?_append, hv, Option.bind_some, FileTree.at?, hentry]
      rfl
    rw [hstep]
    rfl

/-- The names of what is in a tree can be taken as steps. -/
theorem leads_names {u : FileTree} {names : List String}
    (hlength : ∀ n ∈ names, n.utf8ByteSize ≤ maxName) (hat : t.at? (here ++ names) = some u) :
    Leads t here (names.map .name) := by
  induction names generalizing here with
  | nil => trivial
  | cons n names ih =>
      rw [List.forall_mem_cons] at hlength
      obtain ⟨hdirectory, hsome⟩ := any_isDirectory_of_at? hat
      refine ⟨⟨hdirectory, ?_⟩, ih hlength.2 ?_⟩
      · rintro _ ⟨⟩
        exact ⟨hlength.1, hsome⟩
      · rw [follow, List.append_assoc]
        exact hat

/-! ## Walking -/

/-- **The steps that are walked can be taken.** -/
theorem leads_of_walk {ps : List (List Char)} (h : walk t here ps = .ok there) :
    Leads t here (ps.filterMap step?) := by
  induction ps generalizing here with
  | nil => trivial
  | cons p ps ih =>
      rw [List.filterMap_cons]
      cases hstep : step? p with
      | none => exact ih ((walk_cons_of_none hstep).mp h).2
      | some s =>
          obtain ⟨htake, hrest⟩ := (walk_cons_of_some hstep).mp h
          exact ⟨htake, ih hrest⟩

/-- Pieces of which the last is a step have steps, if there are any. -/
theorem filterMap_step?_ne_nil {ps : List (List Char)} (hne : ps ≠ [])
    (hlast : ∀ p ∈ ps.getLast?, step? p ≠ none) : ps.filterMap step? ≠ [] := by
  have hend : ps.getLast? = some (ps.getLast hne) := List.getLast?_eq_some_getLast hne
  obtain ⟨s, hs⟩ := Option.ne_none_iff_exists'.mp (hlast _ hend)
  exact List.ne_nil_of_mem (List.mem_filterMap.mpr ⟨_, List.getLast_mem hne, hs⟩)

/-- **Steps that can be taken are walked**, if the last piece is one or they lead to a directory. By
induction on the pieces: one that is no step wants a directory, as does the step that is still to
come. -/
theorem walk_eq_ok {ps : List (List Char)}
    (hend : (∀ p ∈ ps.getLast?, step? p ≠ none) ∨
      (t.at? ((ps.filterMap step?).foldl follow here)).any FileTree.isDirectory = true)
    (h : Leads t here (ps.filterMap step?)) :
    walk t here ps = .ok ((ps.filterMap step?).foldl follow here) := by
  induction ps generalizing here with
  | nil => rfl
  | cons p ps ih =>
      have hrest (hlast : ∀ q ∈ (p :: ps).getLast?, step? q ≠ none) :
          ∀ q ∈ ps.getLast?, step? q ≠ none := by
        intro q hq
        apply hlast q
        rw [List.getLast?_cons, Option.mem_def.mp hq]
        rfl
      cases hstep : step? p with
      | none =>
          have hsteps : (p :: ps).filterMap step? = ps.filterMap step? :=
            List.filterMap_cons_none hstep
          have hdirectory : (t.at? here).any FileTree.isDirectory = true := by
            by_cases hnone : ps.filterMap step? = []
            · rcases hend with hlast | hthere
              · exact absurd (hsteps.trans hnone)
                  (filterMap_step?_ne_nil (List.cons_ne_nil p ps) hlast)
              · rw [hsteps, hnone] at hthere
                exact hthere
            · rw [hsteps] at h
              exact h.any_isDirectory hnone
          rw [hsteps] at h hend ⊢
          exact (walk_cons_of_none hstep).mpr ⟨hdirectory, ih (hend.imp_left hrest) h⟩
      | some s =>
          have hsteps : (p :: ps).filterMap step? = s :: ps.filterMap step? :=
            List.filterMap_cons_some hstep
          rw [hsteps] at h hend ⊢
          exact (walk_cons_of_some hstep).mpr ⟨h.1, ih (hend.imp_left hrest) h.2⟩

/-- **What a path leads to.** A path that is not too long leads to what its steps lead to, if they
can be taken, and it ends with a step or leads to a directory. -/
theorem find_eq_ok {w : Workspace} {path : String} {u : FileTree} (hnul : '\x00' ∉ path.toList)
    (hne : path ≠ "") (hlength : path.utf8ByteSize ≤ maxPath)
    (hend : (∀ p ∈ (pieces path.toList).getLast?, step? p ≠ none) ∨ u.isDirectory = true)
    (hleads : Leads w.tree (w.start path) (steps path.toList))
    (hat : w.tree.at? ((steps path.toList).foldl follow (w.start path)) = some u) :
    w.find path = .ok u := by
  refine find_eq_ok_iff.mpr ⟨hnul, hne, hlength, _, walk_eq_ok (hend.imp_right ?_) hleads, hat⟩
  intro hdirectory
  rw [steps] at hat
  rw [hat]
  exact hdirectory

end PolicyLint.Workspace
