/-
# The targets of a directory

On a tree as it is on a disk, the targets of a directory are what they should be: the files at any
depth below it that are named as sources are and lie in no directory of dependencies, each of them
once, in the order of their paths. Two things can keep such a file out: its path can be too long,
and a directory that begins with dots and an empty piece has no targets at all.

* `Scan.IsCollected` : the names that lead to such a file;
* `Scan.targets_exact` : these are the targets, in their order;
* `Scan.targets_slash` : a directory with a slash too many.
-/
import PolicyLint.Proofs.Path.Order
import PolicyLint.Proofs.Scan.Walk

namespace PolicyLint.Scan

open PolicyLint.Path (IsName)

/-! ## What is collected -/

/-- Whether names below a place lead to a file that is named as a source is, and lies in no
directory of dependencies. No name means no such directory. -/
def IsCollected (w : Workspace) (here : List String) (dependencies : String)
    (names : List String) : Prop :=
  (∃ content, w.tree.at? (here ++ names) = some (.file content)) ∧
    (∃ stem, ∃ ending ∈ [".html", ".htm", ".js"], names.getLast? = some (stem ++ ending)) ∧
    (dependencies ≠ "" → dependencies ∉ names)

variable {w : Workspace} {d dependencies file : String} {here names : List String}

/-- Sources are told by the ends of their names. -/
theorem isSource_iff {name : String} :
    isSource name = true ↔ ∃ stem, ∃ ending ∈ sourceEnds, name = stem ++ ending := by
  rw [isSource, List.any_eq_true]
  constructor
  · rintro ⟨ending, hending, hsuffix⟩
    obtain ⟨cs, hcs⟩ := List.isSuffixOf_iff_suffix.mp hsuffix
    refine ⟨String.ofList cs, ending, hending, ?_⟩
    rw [← String.toList_inj, String.toList_append, String.toList_ofList, hcs]
  · rintro ⟨stem, ending, hending, rfl⟩
    refine ⟨ending, hending, List.isSuffixOf_iff_suffix.mpr ⟨stem.toList, ?_⟩⟩
    rw [String.toList_append]

/-- Names lead to a source if the last of them is named so. -/
theorem any_isSource_iff :
    names.getLast?.any isSource = true ↔
      ∃ stem, ∃ ending ∈ sourceEnds, names.getLast? = some (stem ++ ending) := by
  rw [Option.any_eq_true]
  constructor
  · rintro ⟨name, hlast, hsource⟩
    obtain ⟨stem, ending, hending, rfl⟩ := isSource_iff.mp hsource
    exact ⟨stem, ending, hending, hlast⟩
  · rintro ⟨stem, ending, hending, hlast⟩
    exact ⟨_, hlast, isSource_iff.mpr ⟨stem, ending, hending, rfl⟩⟩

/-! ## Sources -/

/-- The names below a directory that lead to sources. -/
def sourceNames (tree : FileTree) : List (List String) :=
  tree.files.filter fun names => names.getLast?.any isSource

/-- **A source that is a file lies where its names lead from the directory.** -/
theorem exists_names_of_isFile {tree : FileTree} (hfind : w.find d = .ok tree)
    (hfile : file ∈ sources w d) (hisFile : w.isFile file = true) :
    ∃ names, pathBelow? d names = some file ∧ (∀ n ∈ names, IsName n) ∧
      names.getLast?.any isSource = true ∧ ∃ content, tree.at? names = some (.file content) := by
  obtain ⟨content, hthere⟩ := Workspace.isFile_iff.mp hisFile
  obtain ⟨there, hplace, hat⟩ := Workspace.exists_liesAt hthere
  obtain ⟨here, hhere, hathere⟩ := Workspace.exists_liesAt hfind
  obtain ⟨names, hnames, hsource, hpath⟩ :=
    exists_names_of_mem_sources (Workspace.find_eq_ok_iff.mp hfind).2.1 hfile
  obtain ⟨habsolute, hsteps⟩ := steps_of_pathBelow? hnames hpath
  refine ⟨names, hpath, hnames, hsource, content, ?_⟩
  rw [hhere.eq_append hplace habsolute hsteps, FileTree.at?_append, hathere] at hat
  exact hat

/-- Its names are among those of the tree. -/
theorem mem_sourceNames {tree : FileTree} {content : Option String}
    (hat : tree.at? names = some (.file content)) (hsource : names.getLast?.any isSource = true) :
    names ∈ sourceNames tree := by
  refine List.mem_filter.mpr ⟨?_, hsource⟩
  have hfile := FileTree.append_mem_files hat
    (show [] ∈ (FileTree.file content).files from List.mem_cons_self)
  rwa [List.append_nil] at hfile

/-! ## Targets -/

/-- A path below a directory leads through that of the dependencies if one of the names does, unless
the directory itself has such a step. -/
theorem isDependency_of_pathBelow? (hcomponents : ∀ s ∈ Path.components d, s.text ≠ dependencies)
    (hne : names ≠ []) (hnames : ∀ n ∈ names, IsName n) (h : pathBelow? d names = some file) :
    isDependency d dependencies file = false ↔ (dependencies ≠ "" → dependencies ∉ names) := by
  have hbase :
      ((Path.components d).filter (· ≠ .current)).any (·.text == dependencies) = false := by
    rw [List.any_eq_false]
    exact fun s hs => by simpa using hcomponents s (List.mem_of_mem_filter hs)
  have hbelow : (names.map Path.Component.name).any (·.text == dependencies) =
      names.contains dependencies := by
    rw [List.any_map, List.contains_eq_any_beq]
    congr 1
    funext n
    exact Bool.beq_comm
  rw [isDependency_of_forall_ne hcomponents, components_of_pathBelow? hne hnames h,
    List.any_append, hbase, Bool.false_or, hbelow]
  by_cases hempty : dependencies = ""
  · simp [hempty]
  · simp [hempty]

/-- **Which paths are targets.** -/
theorem mem_targets_iff (hproper : w.tree.IsProper)
    (hcomponents : ∀ s ∈ Path.components d, s.text ≠ dependencies)
    (hdirectory : w.isDirectory d = true) (hhere : w.LiesAt d here) :
    file ∈ targets w d dependencies ↔
      ∃ names, IsCollected w here dependencies names ∧ pathBelow? d names = some file ∧
        file.utf8ByteSize ≤ Workspace.maxPath := by
  obtain ⟨tree, hfind, htree⟩ := Workspace.exists_find_of_isDirectory hdirectory
  obtain ⟨place, hplace, hat⟩ := Workspace.exists_liesAt hfind
  rw [hplace.unique hhere] at hat
  have hbelow (names : List String) (u : FileTree) :
      w.tree.at? (here ++ names) = some u ↔ tree.at? names = some u := by
    rw [FileTree.at?_append, hat, Option.bind_some]
  rw [mem_targets_iff_mem_sources (Workspace.ne_empty_of_isDirectory hdirectory)]
  constructor
  · rintro ⟨hfile, hpassed, hisFile⟩
    obtain ⟨names, hpath, hnames, hsource, content, hcontent⟩ :=
      exists_names_of_isFile hfind hfile hisFile
    obtain ⟨_, hthere⟩ := Workspace.isFile_iff.mp hisFile
    refine ⟨names, ⟨⟨content, (hbelow _ _).mpr hcontent⟩, any_isSource_iff.mp hsource, ?_⟩, hpath,
      (Workspace.find_eq_ok_iff.mp hthere).2.2.1⟩
    exact (isDependency_of_pathBelow? hcomponents (ne_nil_of_any_isSource hsource) hnames hpath).mp
      hpassed
  · rintro ⟨names, ⟨⟨content, hcontent⟩, hends, hdependencies⟩, hpath, hlength⟩
    have hsource := any_isSource_iff.mpr hends
    have hne := ne_nil_of_any_isSource hsource
    have hnames := hproper.isName_of_at? hcontent
    refine ⟨?_, ?_, ?_⟩
    · exact mem_sources_of_pathBelow? hfind htree hnames hsource ((hbelow _ _).mp hcontent) hpath
        hlength
    · exact (isDependency_of_pathBelow? hcomponents hne hnames hpath).mpr hdependencies
    · have hfile := find_of_pathBelow? hproper hhere hne hcontent hpath hlength
      exact Workspace.isFile_iff.mpr ⟨content, hfile⟩

/-- A directory that cannot be taken piece by piece has no targets. -/
theorem targets_of_isLost (hne : d ≠ "") (h : IsLost d) (dependencies : String) :
    targets w d dependencies = [] := by
  rw [List.eq_nil_iff_forall_not_mem]
  intro file hfile
  obtain ⟨names, -, -, hpath⟩ :=
    exists_names_of_mem_sources hne (mem_sources_of_mem_targets hfile).1
  rw [pathBelow?, spell?_eq_none_iff.mpr h] at hpath
  cases hpath

/-- **Targets stand in the order of paths, and each of them once.** -/
theorem pairwise_targets (w : Workspace) (d dependencies : String) :
    (targets w d dependencies).Pairwise fun a b =>
      Path.le (Path.components a) (Path.components b) = true ∧
        Path.le (Path.components b) (Path.components a) = false := by
  simp only [← Bool.not_eq_true]
  rw [targets, List.eraseRepsBy_eq_destutter]
  apply List.pairwise_strict_of_isChain
  · exact fun _ _ _ => Path.le_trans
  · exact fun _ _ hle hge => beq_iff_eq.mpr (Path.le_antisymm hle hge)
  · -- leaving out some that are sorted leaves the others sorted
    refine List.Pairwise.sublist (List.destutter_sublist _ _) ?_
    apply List.pairwise_mergeSort
    · exact fun _ _ _ => Path.le_trans
    · exact fun _ _ => Path.le_total _ _
  · exact List.isChain_destutter _ _

/-- **The targets of a directory on a tree as it is on a disk.** No step of the directory is called
as the dependencies are. If it begins with dots and an empty piece, it has no targets. Otherwise they
are the files below it that are named as sources are and lie in no directory of dependencies, as far
as their paths are not too long: each has a path with the steps of the directory and then its names,
and the path leads to it. Targets stand strictly in the order of paths, step by step. -/
theorem targets_exact (w : Workspace) (hproper : w.tree.IsProper) (d dependencies : String)
    (hdirectory : w.isDirectory d = true)
    (hcomponents : ∀ s ∈ Path.components d, s.text ≠ dependencies) :
    (IsLost d → targets w d dependencies = []) ∧
    (¬ IsLost d → ∃ here, w.LiesAt d here ∧
      (∀ file, file ∈ targets w d dependencies ↔
        ∃ names, IsCollected w here dependencies names ∧ pathBelow? d names = some file ∧
          file.utf8ByteSize ≤ Workspace.maxPath) ∧
      ∀ names, IsCollected w here dependencies names →
        ∃ file, pathBelow? d names = some file ∧
          Path.components file = (Path.components d).filter (· ≠ .current) ++ names.map .name ∧
          (file.utf8ByteSize ≤ Workspace.maxPath → w.LiesAt file (here ++ names))) ∧
    (targets w d dependencies).Pairwise fun a b =>
      Path.le (Path.components a) (Path.components b) = true ∧
        Path.le (Path.components b) (Path.components a) = false := by
  refine ⟨fun hlost => ?_, fun hlost => ?_, pairwise_targets w d dependencies⟩
  · exact targets_of_isLost (Workspace.ne_empty_of_isDirectory hdirectory) hlost dependencies
  obtain ⟨tree, hfind⟩ :=
    Workspace.exists_find_eq_ok (Workspace.pathExists_of_isDirectory hdirectory)
  obtain ⟨here, hhere, -⟩ := Workspace.exists_liesAt hfind
  refine ⟨here, hhere, fun file => mem_targets_iff hproper hcomponents hdirectory hhere,
    ?_⟩
  rintro names ⟨⟨content, hat⟩, hends, -⟩
  have hne := ne_nil_of_any_isSource (any_isSource_iff.mpr hends)
  have hnames := hproper.isName_of_at? hat
  obtain ⟨file, hfile⟩ := exists_pathBelow? hlost hnames
  refine ⟨file, hfile, components_of_pathBelow? hne hnames hfile, fun hlength => ?_⟩
  exact liesAt_of_pathBelow? hproper hhere hne hat hfile hlength

/-- A site in a directory with a name like a glob: a library, a directory with a name like a source,
with a hidden page in it, and a page that comes after the script next to it. -/
def site : Workspace :=
  ⟨.directory [("[*]", .directory [
    ("a", .directory [("readme", .file (some "")), ("x.js", .file none)]),
    ("a.html", .file (some "")),
    ("d.js", .directory [(".p.htm", .file (some ""))]),
    ("lib", .directory [("y.js", .file (some ""))])])], []⟩

/-- The site is as it is on a disk. -/
theorem isProper_site : site.tree.IsProper := by
  refine .directory (by decide) (by decide) (List.forall_mem_singleton.mpr ?_)
  refine .directory (by decide) (by decide) ?_
  simp only [List.forall_mem_cons, List.not_mem_nil, false_imp_iff, implies_true, and_true]
  refine ⟨.directory (by decide) (by decide) ?_, .file _,
    .directory (by decide) (by decide) ?_, .directory (by decide) (by decide) ?_⟩
  · exact List.forall_mem_cons.mpr ⟨.file _, List.forall_mem_singleton.mpr (.file _)⟩
  · exact List.forall_mem_singleton.mpr (.file _)
  · exact List.forall_mem_singleton.mpr (.file _)

/-- The script comes before the page, the hidden page is a target and the library is passed over. -/
theorem targets_site :
    let found := targets site "[*]" "lib"
    found = ["[*]/a/x.js", "[*]/a.html", "[*]/d.js/.p.htm"] ∧ ¬ found.Pairwise (· < ·) ∧
      (found.Pairwise fun a b =>
        Path.le (Path.components a) (Path.components b) = true ∧
          Path.le (Path.components b) (Path.components a) = false) ∧
      site.LiesAt "[*]/d.js/.p.htm" ["[*]", "d.js", ".p.htm"] := by
  intro found
  let inOrder : List String := ["[*]/a/x.js", "[*]/a.html", "[*]/d.js/.p.htm"]
  -- pages are found first, and sorting puts the script in front of them
  have hplain : (sources site "[*]").filter (fun path =>
      !isDependency "[*]" "lib" path && site.isFile path) =
        ["[*]/a.html", "[*]/d.js/.p.htm", "[*]/a/x.js"] := by decide +kernel
  have hsorted : ((sources site "[*]").filter (fun path =>
      !isDependency "[*]" "lib" path && site.isFile path)).mergeSort
        (fun a b => Path.le (Path.components a) (Path.components b)) = inOrder := by
    have hsame := (List.mergeSort_perm ["[*]/a.html", "[*]/d.js/.p.htm", "[*]/a/x.js"]
      fun a b => Path.le (Path.components a) (Path.components b)).trans
        (show List.Perm _ inOrder by decide)
    have hanti : ∀ a ∈ inOrder, ∀ b ∈ inOrder, Path.le (Path.components a) (Path.components b) =
        true → Path.le (Path.components b) (Path.components a) = true → a = b := by decide
    rw [hplain]
    refine hsame.eq_of_pairwise (fun a b ha hb => hanti a (hsame.mem_iff.mp ha) b hb) ?_ (by decide)
    apply List.pairwise_mergeSort
    · exact fun _ _ _ => Path.le_trans
    · exact fun _ _ => Path.le_total _ _
  have hfound : found = inOrder := by
    show (List.mergeSort _ _).eraseRepsBy _ = inOrder
    rw [hsorted]
    decide
  obtain ⟨-, hkept, hsorted⟩ := targets_exact site isProper_site "[*]" "lib" (by decide)
    (by decide)
  have hlost : ¬ IsLost "[*]" := mt spell?_eq_none_iff.mpr (by decide)
  obtain ⟨here, hhere, -, hpath⟩ := hkept hlost
  have hsite : here = ["[*]"] := hhere.unique ⟨by decide, by decide⟩
  refine ⟨hfound, by rw [hfound]; decide, hsorted, ?_⟩
  obtain ⟨file, hfile, -, hlies⟩ := hpath ["d.js", ".p.htm"]
    ⟨⟨_, by rw [hsite]; rfl⟩, ⟨".p", ".htm", by decide, by decide⟩, fun _ => by decide⟩
  have hname : file = "[*]/d.js/.p.htm" :=
    Option.some.inj (hfile.symm.trans (by decide))
  rw [hname, hsite] at hlies
  exact hlies (by decide)

/-- **A slash too many.** With a slash behind its dot the working directory has no targets, although
it has one without the slash. -/
theorem targets_slash :
    let w : Workspace := ⟨.directory [("x.js", .file (some "eval"))], []⟩
    w.tree.IsProper ∧ w.isDirectory "./" = true ∧ w.LiesAt "./" [] ∧
      (∀ s ∈ Path.components "./", s.text ≠ "") ∧ IsCollected w [] "" ["x.js"] ∧
      targets w "./" "" = [] ∧ targets w "." "" = ["x.js"] := by
  intro w
  have hproper : w.tree.IsProper :=
    .directory (by decide) (by decide) (List.forall_mem_singleton.mpr (.file _))
  refine ⟨hproper, by decide, ⟨by decide, by decide⟩, by decide,
    ⟨⟨_, rfl⟩, ⟨"x", ".js", by decide, by decide⟩, fun h => absurd rfl h⟩, ?_, by decide +kernel⟩
  exact targets_of_isLost (by decide) (spell?_eq_none_iff.mp (by decide)) ""

end PolicyLint.Scan
