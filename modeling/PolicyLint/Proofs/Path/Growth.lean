/-
# Trees that grow

A tree grows as files and directories are added where nothing is. What it had before stays: each
file with its content, and each directory, with perhaps more in it. So a path that leads to
something still leads there.

* `FileTree.Within` : whether a tree has all that another has;
* `FileTree.Grown`, `FileTree.Grown.within` : trees to which something was added;
* `Workspace.walk_of_within`, `Workspace.find_of_within` : where paths lead in a tree that has more.
-/
import PolicyLint.Proofs.Path.Steps

namespace PolicyLint

namespace FileTree

/-! ## Trees with all that another has -/

/-- Whether a node of a tree can stand for a node of another: the same file, or a directory for a
directory. -/
def Keeps : FileTree → FileTree → Prop
  | .file content, u => u = .file content
  | .directory _, u => u.isDirectory = true

/-- Whether a tree has all that another has: what lies anywhere in the other lies there too, a file
with its content, and a directory with perhaps more in it. -/
def Within (t u : FileTree) : Prop :=
  ∀ names v, t.at? names = some v → ∃ v', u.at? names = some v' ∧ v.Keeps v'

variable {t u v : FileTree}

/-- A node can stand for itself. -/
theorem Keeps.refl (t : FileTree) : t.Keeps t := by
  cases t with
  | file content => exact rfl
  | directory entries => exact rfl

/-- A node that stands for one that stands for a third can stand for the third. -/
theorem Keeps.trans (h : t.Keeps u) (h' : u.Keeps v) : t.Keeps v := by
  cases t with
  | file content =>
      cases (h : u = .file content)
      exact h'
  | directory entries =>
      cases u with
      | file content => cases h
      | directory more => exact h'

/-- What stands for a directory is one. -/
theorem Keeps.isDirectory (h : t.Keeps u) (ht : t.isDirectory = true) : u.isDirectory = true := by
  cases t with
  | file content => cases ht
  | directory entries => exact h

/-- A tree has all that it has. -/
theorem Within.refl (t : FileTree) : t.Within t :=
  fun _ v hv => ⟨v, hv, .refl v⟩

/-- A tree has all that a tree has which it has all of. -/
theorem Within.trans (h : t.Within u) (h' : u.Within v) : t.Within v := by
  intro names x hx
  obtain ⟨y, hy, hxy⟩ := h names x hx
  obtain ⟨z, hz, hyz⟩ := h' names y hy
  exact ⟨z, hz, hxy.trans hyz⟩

/-- Where there is a directory there still is one. -/
theorem Within.any_isDirectory (h : t.Within u) {names : List String}
    (hdirectory : (t.at? names).any FileTree.isDirectory = true) :
    (u.at? names).any FileTree.isDirectory = true := by
  obtain ⟨v, hv, hisDirectory⟩ := (Option.any_eq_true _ _).mp hdirectory
  obtain ⟨v', hv', hkeeps⟩ := h names v hv
  rw [hv', Option.any_some]
  exact hkeeps.isDirectory hisDirectory

/-- Where there is something there still is something. -/
theorem Within.isSome_at? (h : t.Within u) {names : List String}
    (hsome : (t.at? names).isSome = true) : (u.at? names).isSome = true := by
  obtain ⟨v, hv⟩ := Option.isSome_iff_exists.mp hsome
  obtain ⟨v', hv', -⟩ := h names v hv
  rw [hv']
  rfl

/-! ## Adding to a tree -/

/-- Whether something can be added at some names: nothing is there, and no file is in the way. -/
def IsFree (t : FileTree) (names : List String) : Prop :=
  t.at? names = none ∧ ∀ front, front <+: names → ∀ content, t.at? front ≠ some (.file content)

/-- **What is added at free names leaves the tree as it was.** By induction on the names: another
entry is as before, and below the first name the tree there has grown. -/
theorem within_insert {names : List String} (h : t.IsFree names) (node : FileTree) :
    t.Within (t.insert names node) := by
  induction names generalizing t with
  | nil => exact absurd h.1 (Option.some_ne_none t)
  | cons n ns ih =>
      obtain ⟨hnone, hway⟩ := h
      cases t with
      | file content => exact absurd rfl (hway [] List.nil_prefix content)
      | directory entries =>
          intro place v hv
          cases place with
          | nil =>
              cases hv
              exact ⟨_, rfl, rfl⟩
          | cons m ms =>
              obtain ⟨x, hx, hbelow⟩ := Option.bind_eq_some_iff.mp hv
              have hx' : entries.lookup m = some x := hx
              rw [insert, at?, entry?, lookup_setEntry]
              split
              · rename_i hm
                subst hm
                have hfree : x.IsFree ns := by
                  rw [at?, hx] at hnone
                  refine ⟨hnone, fun front hfront content hat => ?_⟩
                  refine hway (m :: front) ((List.cons_prefix_cons).mpr ⟨rfl, hfront⟩) content ?_
                  rw [at?, hx]
                  exact hat
                rw [hx']
                exact ih hfree ms v hbelow
              · rw [hx']
                exact ⟨v, hbelow, .refl v⟩

/-- Whether a tree comes from another by adding to it, again and again, a file or a directory where
nothing is. -/
inductive Grown (t : FileTree) : FileTree → Prop
  | none : Grown t t
  | add {u : FileTree} (h : Grown t u) (names : List String) (free : u.IsFree names)
      (node : FileTree) : Grown t (u.insert names node)

/-- **A tree that has grown has all that it had.** -/
theorem Grown.within (h : Grown t u) : t.Within u := by
  induction h with
  | none => exact .refl t
  | add h names free node ih => exact ih.trans (within_insert free node)

end FileTree

/-! ## Paths -/

namespace Workspace

variable {t u : FileTree} {here there : List String}

/-- **A walk that ends somewhere ends there in a tree that has more.** By induction on the pieces:
each step that can be taken still can. -/
theorem walk_of_within (h : t.Within u) {ps : List (List Char)}
    (hwalk : walk t here ps = .ok there) : walk u here ps = .ok there := by
  induction ps generalizing here with
  | nil => exact hwalk
  | cons p ps ih =>
      cases hstep : Path.step? p with
      | none =>
          obtain ⟨hdirectory, hrest⟩ := (walk_cons_of_none hstep).mp hwalk
          exact (walk_cons_of_none hstep).mpr ⟨h.any_isDirectory hdirectory, ih hrest⟩
      | some s =>
          obtain ⟨⟨hdirectory, hname⟩, hrest⟩ := (walk_cons_of_some hstep).mp hwalk
          refine (walk_cons_of_some hstep).mpr ⟨⟨h.any_isDirectory hdirectory, ?_⟩, ih hrest⟩
          intro n hn
          exact ⟨(hname n hn).1, h.isSome_at? (hname n hn).2⟩

variable {w w' : Workspace} {path : String}

/-- Whether a workspace has all that another has, seen from the same working directory. -/
def Within (w w' : Workspace) : Prop := w'.directory = w.directory ∧ w.tree.Within w'.tree

/-- **What a path leads to is kept.** -/
theorem find_of_within (h : w.Within w') (hfind : w.find path = .ok t) :
    ∃ u, w'.find path = .ok u ∧ t.Keeps u := by
  obtain ⟨hnul, hempty, hlength, here, hwalk, hat⟩ := find_eq_ok_iff.mp hfind
  obtain ⟨u, hu, hkeeps⟩ := h.2 here t hat
  refine ⟨u, find_eq_ok_iff.mpr ⟨hnul, hempty, hlength, here, ?_, hu⟩, hkeeps⟩
  rw [start_congr h.1 rfl]
  exact walk_of_within h.2 hwalk

/-- A path that leads to something still does. -/
theorem pathExists_of_within (h : w.Within w') (hexists : w.pathExists path = true) :
    w'.pathExists path = true := by
  obtain ⟨t, hfind⟩ := exists_find_eq_ok hexists
  obtain ⟨u, hfind', -⟩ := find_of_within h hfind
  rw [pathExists, hfind']

/-- A text that is read is read as it was. -/
theorem read_of_within (h : w.Within w') {text : String} (hread : w.read path = .ok text) :
    w'.read path = .ok text := by
  rw [read] at hread
  cases hfind : w.find path with
  | error e =>
      rw [hfind] at hread
      cases hread
  | ok t =>
      obtain ⟨u, hfind', hkeeps⟩ := find_of_within h hfind
      rw [hfind] at hread
      rw [read, hfind']
      cases t with
      | directory entries => cases hread
      | file content =>
          cases (hkeeps : u = .file content)
          exact hread

end Workspace

end PolicyLint
