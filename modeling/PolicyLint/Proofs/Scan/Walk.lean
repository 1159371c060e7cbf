/-
# The names of targets

The targets of a directory are its sources that are files and are not passed over, each of them once:
sources with the same steps are the same. They are named as the directory is, without a dot and a
slash in front. So a directory and the directory with the dot in front have the same sources, under
the same names; but the names go on from the former only, and below the latter each step of a name
counts when the directory of dependencies is looked for.

* `Scan.mem_targets_iff_mem_sources` : the targets of a directory;
* `Scan.isBare_of_mem_targets`, `Scan.sources_dotted` : the names of targets;
* `Scan.isDependency_dotted`, `Scan.isDependency_of_forall_ne` : what counts as a dependency;
* `Scan.mem_targets_dotted`, `Scan.targets_dotted` : what a dot in front of a directory changes.
-/
import PolicyLint.Proofs.Path.Dotted
import PolicyLint.Proofs.Scan.Found
import PolicyLint.Proofs.Scan.Input

namespace PolicyLint

open PolicyLint.Path (IsName dotted)

namespace Workspace

variable {w : Workspace} {path : String}

/-- A directory is found. -/
theorem exists_find_of_isDirectory (h : w.isDirectory path = true) :
    ∃ tree, w.find path = .ok tree ∧ tree.isDirectory = true := by
  rw [isDirectory] at h
  cases hfind : w.find path with
  | error e =>
      rw [hfind] at h
      cases h
  | ok tree =>
      rw [hfind] at h
      exact ⟨tree, rfl, h⟩

/-- A directory is there. -/
theorem pathExists_of_isDirectory (h : w.isDirectory path = true) : w.pathExists path = true := by
  obtain ⟨tree, hfind, -⟩ := exists_find_of_isDirectory h
  rw [pathExists, hfind]

/-- A directory has a name. -/
theorem ne_empty_of_isDirectory (h : w.isDirectory path = true) : path ≠ "" := by
  obtain ⟨tree, hfind, -⟩ := exists_find_of_isDirectory h
  exact (find_eq_ok_iff.mp hfind).2.1

/-- Where a relative path leads to something, the working directory is one. -/
theorem isDirectory_dot (h : w.pathExists path = true) (hrelative : Path.isAbsolute path = false) :
    w.isDirectory "." = true := by
  obtain ⟨tree, hfind⟩ := exists_find_eq_ok h
  obtain ⟨-, -, -, here, hwalk, -⟩ := find_eq_ok_iff.mp hfind
  rw [start, hrelative, if_neg Bool.false_ne_true] at hwalk
  have hdirectory : (w.tree.at? w.directory).any FileTree.isDirectory = true := by
    cases hpieces : Path.pieces path.toList with
    | nil => exact absurd hpieces (Text.splitAt_ne_nil _ _)
    | cons p ps =>
        rw [hpieces, walk] at hwalk
        by_contra hno
        rw [Bool.not_eq_true] at hno
        rw [hno] at hwalk
        cases hwalk
  obtain ⟨u, hu, hudirectory⟩ := (Option.any_eq_true _ _).mp hdirectory
  have hdot : w.find "." = .ok u := by
    refine find_eq_ok_iff.mpr ⟨by decide, by decide, by decide, w.directory, ?_, hu⟩
    show walk w.tree w.directory [['.']] = .ok w.directory
    rw [walk, hdirectory]
    rfl
  rw [isDirectory, hdot]
  exact hudirectory

end Workspace

namespace Scan

section

variable {w : Workspace} {d dependencies file other : String}

/-! ## Targets -/

/-- Sources of a directory with the same steps are the same. -/
theorem eq_of_components_eq (hne : d ≠ "") (h : file ∈ sources w d) (h' : other ∈ sources w d)
    (heq : Path.components file = Path.components other) : file = other := by
  obtain ⟨names, hnames, hsource, hpath⟩ := exists_names_of_mem_sources hne h
  obtain ⟨others, hothers, hsource', hpath'⟩ := exists_names_of_mem_sources hne h'
  exact eq_of_pathBelow? (ne_nil_of_any_isSource hsource) hnames hpath
    (ne_nil_of_any_isSource hsource') hothers hpath' heq

/-- **The targets of a directory** are its sources that are not passed over and are files. -/
theorem mem_targets_iff_mem_sources (hne : d ≠ "") :
    file ∈ targets w d dependencies ↔
      file ∈ sources w d ∧ isDependency d dependencies file = false ∧ w.isFile file = true := by
  refine ⟨mem_sources_of_mem_targets, fun h => ?_⟩
  rw [targets, List.mem_eraseRepsBy_iff, List.mem_mergeSort, List.mem_filter, Bool.and_eq_true,
    Bool.not_eq_true']
  · exact h
  · intro a ha b hb heq
    rw [List.mem_mergeSort, List.mem_filter] at ha hb
    exact eq_of_components_eq hne ha.1 hb.1 (beq_iff_eq.mp heq)

/-! ## Sources -/

/-- **A directory has the same sources with the dot in front**, under the same names. -/
theorem sources_dotted (hdirectory : w.isDirectory d = true)
    (hrelative : Path.isAbsolute d = false) : sources w (dotted d) = sources w d := by
  have hdotted : dotted d ≠ "" := by
    intro heq
    have hempty := Path.isEmpty_dotted d
    rw [heq] at hempty
    cases hempty
  have horigin : Glob.origin (dotted d) = Glob.origin d := by
    rw [Glob.origin, Glob.origin, Path.isAbsolute_dotted, hrelative]
  have hpieces : Glob.piecesFrom (dotted d) = ['.'] :: Glob.piecesFrom d := by
    rw [Glob.piecesFrom, Glob.piecesFrom, Path.isAbsolute_dotted, hrelative, Path.pieces_dotted]
    rfl
  -- the dot is a step from the working directory to itself
  have hstep (qs : List (List Glob.Token)) :
      Glob.advance w (Glob.plain ['.'] :: qs) (.of w ".") = Glob.advance w qs (.of w ".") := by
    have hdot : (Glob.Place.of w ".").tree.isDirectory = true := by
      obtain ⟨tree, hfind, htree⟩ := Workspace.exists_find_of_isDirectory
        (Workspace.isDirectory_dot (Workspace.pathExists_of_isDirectory hdirectory) hrelative)
      rw [Glob.Place.of_find hfind]
      exact htree
    rw [Glob.advance, Glob.text?_plain, if_neg (by decide)]
    dsimp only
    rw [Glob.Place.path_of, if_pos ((if_pos (by decide)).trans hdot)]
    rfl
  rw [sources, sources]
  refine List.flatMap_congr fun ending hending => ?_
  rw [Glob.walk_sourceGlob hdotted hending,
    Glob.walk_sourceGlob (Workspace.ne_empty_of_isDirectory hdirectory) hending, horigin, hpieces,
    List.map_cons, List.cons_append]
  congr 1
  rw [Glob.origin, hrelative, if_neg Bool.false_ne_true]
  exact hstep _

/-- The sources of a relative directory have bare names, and none is the dot. -/
theorem isBare_of_mem_sources (hne : d ≠ "") (hrelative : Path.isAbsolute d = false)
    (hfile : file ∈ sources w d) : IsBare file ∧ file ≠ "." := by
  obtain ⟨names, hnames, hsource, hpath⟩ := exists_names_of_mem_sources hne hfile
  exact ⟨isBare_of_pathBelow? hrelative hnames hpath,
    ne_dot_of_pathBelow? (ne_nil_of_any_isSource hsource) hnames hpath⟩

/-- The targets of a relative directory have bare names. -/
theorem isBare_of_mem_targets (hne : d ≠ "") (hrelative : Path.isAbsolute d = false)
    (hfile : file ∈ targets w d dependencies) : IsBare file :=
  (isBare_of_mem_sources hne hrelative (mem_sources_of_mem_targets hfile).1).1

/-! ## Dependencies -/

/-- Below a directory that has no step called as the dependencies are, any step of a path counts. -/
theorem isDependency_of_forall_ne (hd : ∀ s ∈ Path.components d, s.text ≠ dependencies)
    (file : String) :
    isDependency d dependencies file =
      (!dependencies.isEmpty && (Path.components file).any (·.text == dependencies)) := by
  rw [isDependency, stepsFrom]
  cases hstrip : Path.stripPrefix? (Path.components d) (Path.components file) with
  | none => rfl
  | some rest =>
      have hnone : (Path.components d).any (·.text == dependencies) = false := by
        rw [List.any_eq_false]
        exact fun s hs => by simpa using hd s hs
      rw [Path.stripPrefix?_eq_some_iff.mp hstrip, List.any_append, hnone, Bool.false_or]
      rfl

/-- **Below a directory with the dot in front any step of a bare path counts**, since none of them
starts there. -/
theorem isDependency_dotted (hbare : IsBare file) (hdot : file ≠ ".") (d : String) :
    isDependency (dotted d) dependencies file =
      (!dependencies.isEmpty && (Path.components file).any (·.text == dependencies)) := by
  have hstrip : Path.stripPrefix? (Path.components (dotted d)) (Path.components file) = none := by
    cases hsome : Path.stripPrefix? (Path.components (dotted d)) (Path.components file) with
    | none => rfl
    | some rest =>
        exfalso
        apply hbare.head?_components hdot
        rw [Path.stripPrefix?_eq_some_iff.mp hsome, List.head?_append, Path.head?_components_dotted]
        rfl
  rw [isDependency, stepsFrom, hstrip]
  rfl

/-- The targets of a directory with the dot in front are its files among the sources without it of
which no step is called as the dependencies are. -/
theorem mem_targets_dotted (hdirectory : w.isDirectory d = true) (h : Workspace.IsDottable d) :
    file ∈ targets w (dotted d) dependencies ↔
      file ∈ sources w d ∧ w.isFile file = true ∧
        (dependencies ≠ "" → ∀ s ∈ Path.components file, s.text ≠ dependencies) := by
  have hdotted : dotted d ≠ "" :=
    Workspace.ne_empty_of_isDirectory ((w.isDirectory_dotted h).trans hdirectory)
  rw [mem_targets_iff_mem_sources hdotted, sources_dotted hdirectory h.isRelative]
  refine and_congr_right fun hfile => ?_
  rw [and_comm]
  refine and_congr_right fun _ => ?_
  obtain ⟨hbare, hdot⟩ := isBare_of_mem_sources h.isNamed h.isRelative hfile
  rw [isDependency_dotted hbare hdot]
  by_cases hempty : dependencies = ""
  · simp [hempty]
  · simp [hempty]

/-- **A directory that has no step called as the dependencies are has the same targets with the dot
in front.** -/
theorem targets_dotted (hdirectory : w.isDirectory d = true) (h : Workspace.IsDottable d)
    (hd : ∀ s ∈ Path.components d, s.text ≠ dependencies) :
    targets w (dotted d) dependencies = targets w d dependencies := by
  rw [targets, targets, sources_dotted hdirectory h.isRelative]
  have hfound : (sources w d).filter (fun path =>
      !isDependency (dotted d) dependencies path && w.isFile path) =
        (sources w d).filter fun path => !isDependency d dependencies path && w.isFile path := by
    apply List.filter_congr
    intro file hfile
    obtain ⟨hbare, hdot⟩ := isBare_of_mem_sources h.isNamed h.isRelative hfile
    rw [isDependency_dotted hbare hdot, isDependency_of_forall_ne hd]
  rw [hfound]

end

end Scan

end PolicyLint
