/-
# Trees as they are on a disk

In a directory no two entries have the same name, and a name can be no dot, has no slash in it and
is not too long. In any tree names lead on from where other names lead, and what they lead to is a
file of the tree if it is a file.

* `Path.IsEntryName` : what an entry on a disk can be called;
* `FileTree.IsProper` : trees with such names, each of them once in its directory;
* `FileTree.induct` : induction on trees;
* `FileTree.files`, `FileTree.append_mem_files` : the names that lead to files;
* `FileTree.at?_append` : names that lead on.
-/
import PolicyLint.Proofs.Path.Steps

namespace PolicyLint

/-- Whether a text can be the name of an entry on a disk. -/
def Path.IsEntryName (n : String) : Prop :=
  IsName n ∧ n.utf8ByteSize ≤ Workspace.maxName ∧ '\x00' ∉ n.toList

instance (n : String) : Decidable (Path.IsEntryName n) :=
  inferInstanceAs (Decidable (_ ∧ _ ∧ _))

namespace FileTree

open PolicyLint.Path (IsEntryName IsName)

/-- What holds for files, and for a directory if it holds for its entries, holds for all trees. -/
@[elab_as_elim]
theorem induct {P : FileTree → Prop} (file : ∀ content, P (.file content))
    (directory : ∀ entries, (∀ e ∈ entries, P e.2) → P (.directory entries)) : ∀ t, P t
  | .file content => file content
  | .directory entries => directory entries fun e _ => induct file directory e.2
termination_by t => sizeOf t
decreasing_by
  have hentry := List.sizeOf_lt_of_mem ‹e ∈ entries›
  have hpair : sizeOf e.2 < sizeOf e := by
    obtain ⟨n, t⟩ := e
    show sizeOf t < sizeOf (n, t)
    rw [Prod.mk.sizeOf_spec]
    omega
  rw [FileTree.directory.sizeOf_spec]
  omega

/-- Whether the entries of each directory have names of their own, as entries can have. -/
inductive IsProper : FileTree → Prop
  | file (content : Option String) : IsProper (.file content)
  | directory {entries : List (String × FileTree)} (distinct : (entries.map Prod.fst).Nodup)
      (named : ∀ e ∈ entries, IsEntryName e.1) (proper : ∀ e ∈ entries, IsProper e.2) :
      IsProper (.directory entries)

mutual

/-- The names that lead to each file of a tree. -/
def files : FileTree → List (List String)
  | .file _ => [[]]
  | .directory entries => filesOf entries

/-- The names that lead to each file of some entries. -/
def filesOf : List (String × FileTree) → List (List String)
  | [] => []
  | (n, t) :: rest => t.files.map (n :: ·) ++ filesOf rest

end

/-- A file of some entries is a file of one of them. -/
theorem mem_filesOf_iff {entries : List (String × FileTree)} {names : List String} :
    names ∈ filesOf entries ↔ ∃ e ∈ entries, ∃ rest ∈ e.2.files, names = e.1 :: rest := by
  induction entries with
  | nil => simp [filesOf]
  | cons e entries ih =>
      obtain ⟨n, t⟩ := e
      rw [filesOf, List.mem_append, ih, List.mem_map]
      simp [eq_comm]

/-- An entry that is found is there. -/
theorem mem_of_lookup_eq_some {entries : List (String × FileTree)} {n : String} {t : FileTree}
    (h : entries.lookup n = some t) : (n, t) ∈ entries := by
  obtain ⟨before, after, rfl, -⟩ := List.lookup_eq_some_iff.mp h
  exact List.mem_append_right before List.mem_cons_self

/-- What is a file below a place of a tree is a file of the tree. -/
theorem append_mem_files {t u : FileTree} {here names : List String} (hat : t.at? here = some u)
    (hnames : names ∈ u.files) : here ++ names ∈ t.files := by
  induction here generalizing t with
  | nil =>
      cases hat
      exact hnames
  | cons n ns ih =>
      obtain ⟨v, hentry, hbelow⟩ := Option.bind_eq_some_iff.mp hat
      cases t with
      | file content => cases hentry
      | directory entries =>
          exact mem_filesOf_iff.mpr ⟨_, mem_of_lookup_eq_some hentry, _, ih hbelow, rfl⟩

/-- Names lead on from where other names lead. -/
theorem at?_append (t : FileTree) (here names : List String) :
    t.at? (here ++ names) = (t.at? here).bind (·.at? names) := by
  induction here generalizing t with
  | nil => rfl
  | cons n here ih =>
      rw [List.cons_append, at?, at?, Option.bind_assoc]
      congr 1
      funext u
      exact ih u

namespace IsProper

variable {t u : FileTree} {names here : List String} {n : String}

/-- What lies in a proper tree is one. -/
theorem of_entry? (h : t.IsProper) (hentry : t.entry? n = some u) : IsEntryName n ∧ u.IsProper := by
  cases h with
  | file content => cases hentry
  | directory distinct named proper =>
      have hmem := mem_of_lookup_eq_some hentry
      exact ⟨named _ hmem, proper _ hmem⟩

/-- So is what names lead to, and these are names of entries. -/
theorem of_at? (h : t.IsProper) (hat : t.at? names = some u) :
    (∀ n ∈ names, IsEntryName n) ∧ u.IsProper := by
  induction names generalizing t with
  | nil =>
      cases hat
      exact ⟨List.forall_mem_nil _, h⟩
  | cons n names ih =>
      obtain ⟨v, hentry, hbelow⟩ := Option.bind_eq_some_iff.mp hat
      obtain ⟨hn, hv⟩ := h.of_entry? hentry
      obtain ⟨hnames, hu⟩ := ih hv hbelow
      exact ⟨List.forall_mem_cons.mpr ⟨hn, hnames⟩, hu⟩

/-- The names on from a place of a proper tree can be those of entries. -/
theorem isName_of_at? (h : t.IsProper) (hat : t.at? (here ++ names) = some u) :
    ∀ n ∈ names, IsName n :=
  fun n hn => ((h.of_at? hat).1 n (List.mem_append_right here hn)).1

end IsProper

end FileTree

end PolicyLint
