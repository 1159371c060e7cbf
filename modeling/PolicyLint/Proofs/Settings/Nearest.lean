/-
# The nearest settings file

Settings are looked for on the way up from a directory. The search ends at the first directory that
holds a settings file or the top of a repository, and there the first of the known names counts that
is that of a file; where it ends without one there are no settings. So what lies farther up has no
say, whatever it is, and a settings file that does not load gives no way to the next.

* `Workspace.find_eq_ok_of_at?_eq` : below a place only what lies there counts;
* `Settings.EndsSearch`, `Settings.EndsAt` : where the search ends;
* `Settings.discover_eq` : what it comes to;
* `Settings.SeesSame`, `Settings.discover_congr` : what it depends on;
* `Settings.discover_nearest` : all of that for any snapshot and any directory.
-/
import Mathlib.Data.Set.List
import PolicyLint.Proofs.Path.Ancestors
import PolicyLint.Proofs.Scan.Spelling
import PolicyLint.Settings.File

/-- What gives the same values gives the same value, or none. -/
theorem Except.toOption_congr {ε α : Type} {x y : Except ε α} (h : ∀ a, x = .ok a ↔ y = .ok a) :
    x.toOption = y.toOption := by
  cases x with
  | ok a => rw [(h a).mp rfl]
  | error e =>
      cases y with
      | ok b => cases (h b).mpr rfl
      | error e' => rfl

namespace PolicyLint

/-! ## One name on -/

namespace Path

/-- A name that is joined to a path, which may be empty, is one step on from it. -/
theorem join_name {n : String} (hn : IsName n) (d : String) :
    isAbsolute (join d n) = isAbsolute d ∧
      steps (join d n).toList = steps d.toList ++ [.name n] ∧
      (pieces (join d n).toList).getLast? = some n.toList := by
  obtain ⟨habsolute, hsteps⟩ := join_of_relative (isAbsolute_of_not_mem hn.2.2.2) d
  refine ⟨habsolute, ?_, ?_⟩
  · rw [hsteps, steps_of_not_mem hn.2.2.2, hn.step?_eq]
    rfl
  · have hpieces : pieces n.toList = [n.toList] := Text.splitAt_of_not_mem hn.2.2.2
    by_cases hd : d = ""
    · rw [hd, join_empty, hpieces]
      rfl
    · obtain ⟨cs, hcs⟩ := Scan.exists_toList_join hd hn.2.2.2
      rw [hcs, pieces, Text.splitAt_append, ← pieces, ← pieces, hpieces]
      exact List.getLast?_concat

end Path

/-! ## Two snapshots -/

namespace Workspace

open PolicyLint.Path

variable {w w' : Workspace} {d path : String}

/-- The place that the steps of a path lead to, whether or not anything lies there. -/
def place (w : Workspace) (path : String) : List String :=
  (steps path.toList).foldl follow (w.start path)

/-- The names that can be taken are not too long. -/
theorem Leads.length_le {t : FileTree} {here names : List String}
    (h : Leads t here (names.map .name)) : ∀ n ∈ names, n.utf8ByteSize ≤ maxName := by
  induction names generalizing here with
  | nil => exact List.forall_mem_nil _
  | cons n names ih => exact List.forall_mem_cons.mpr ⟨(h.1.2 n rfl).1, ih h.2⟩

/-- Steps that do not lead upwards are names. -/
theorem exists_names_of_not_mem {cs : List Char} (h : Component.parent ∉ steps cs) :
    ∃ names : List String, steps cs = names.map .name := by
  have hall : steps cs ∈ Set.range (List.map Component.name) := by
    rw [Set.range_list_map]
    intro s hs
    rcases eq_of_mem_steps hs with rfl | ⟨n, rfl, -⟩
    · exact absurd hs h
    · exact ⟨n, rfl⟩
  obtain ⟨names, hnames⟩ := hall
  exact ⟨names, hnames.symm⟩

/-- **Below a place only what lies there counts.** If in two snapshots the same lies at the place of
a path, then another path that goes on from it, ends with a step and never leads upwards finds the
same in both. -/
theorem find_eq_ok_of_at?_eq {t : FileTree} (hdirectory : w'.directory = w.directory)
    (hat : w'.tree.at? (w.place d) = w.tree.at? (w.place d))
    (habsolute : isAbsolute path = isAbsolute d) (hsteps : steps d.toList <+: steps path.toList)
    (hup : Component.parent ∉ steps path.toList)
    (hlast : ∀ p ∈ (pieces path.toList).getLast?, step? p ≠ none) (h : w.find path = .ok t) :
    w'.find path = .ok t := by
  obtain ⟨hnul, hne, hlength, here, hwalk, hhere⟩ := find_eq_ok_iff.mp h
  obtain ⟨names, hnames⟩ := exists_names_of_not_mem hup
  obtain ⟨more, hmore⟩ := hsteps
  obtain ⟨front, back, rfl, hfront, -⟩ := List.map_eq_append_iff.mp (hnames.symm.trans hmore.symm)
  have hstart : w'.start path = w.start path := start_congr hdirectory rfl
  have hplace : w.place d = w.start path ++ front := by
    rw [place, ← hfront, start_congr rfl habsolute.symm, foldl_follow_names]
  have hend : here = w.start path ++ (front ++ back) := by
    rw [← foldl_follow_of_walk hwalk, ← steps, hnames, foldl_follow_names]
  have hbelow : w'.tree.at? (w.start path ++ (front ++ back)) = some t := by
    rw [← List.append_assoc, ← hplace, FileTree.at?_append, hat, ← FileTree.at?_append, hplace,
      List.append_assoc, ← hend]
    exact hhere
  have hlengths : ∀ n ∈ front ++ back, n.utf8ByteSize ≤ maxName := by
    apply Leads.length_le
    rw [← hnames]
    exact leads_of_walk hwalk
  apply find_eq_ok hnul hne hlength (.inl hlast)
  · rw [hstart, hnames]
    exact leads_names hlengths hbelow
  · rw [hstart, hnames, foldl_follow_names]
    exact hbelow

end Workspace

namespace Settings

open PolicyLint.Path (join ancestors steps IsName)

variable {w w' : Workspace} {start d e path : String} {nearer farther : List String}

/-! ## Where the search ends -/

/-- Whether a search ends in a directory: it holds a settings file, or an entry that marks the top
of a repository. -/
def EndsSearch (w : Workspace) (d : String) : Prop :=
  (∃ n ∈ fileNames, w.isFile (join d n) = true) ∨ w.pathExists (join d ".git") = true

/-- The first settings file in a directory. -/
def first? (w : Workspace) (d : String) : Option String :=
  (fileNames.map (join d)).find? w.isFile

/-- Nothing is found in a directory where the search goes on. -/
theorem searchDirectory_eq_none (h : ¬ EndsSearch w d) : searchDirectory w d = none := by
  rw [EndsSearch, not_or] at h
  have hfirst : (fileNames.map (join d)).find? w.isFile = none := by
    rw [List.find?_eq_none, List.forall_mem_map]
    exact fun n hn hfile => h.1 ⟨n, hn, hfile⟩
  rw [searchDirectory, hfirst]
  exact if_neg h.2

/-- Where it ends, the first settings file is found, if there is one. -/
theorem searchDirectory_eq_some (h : EndsSearch w d) :
    searchDirectory w d = some (first? w d) := by
  rw [searchDirectory, ← first?]
  cases hfirst : first? w d with
  | some path => rfl
  | none =>
      have hmarked : w.pathExists (join d ".git") = true := by
        refine h.resolve_left ?_
        rintro ⟨n, hn, hfile⟩
        exact List.find?_eq_none.mp hfirst _ (List.mem_map_of_mem hn) hfile
      exact if_pos hmarked

/-- Whether a directory is the first on the way up where the search ends. -/
structure EndsAt (w : Workspace) (start : String) (nearer : List String) (d : String)
    (farther : List String) : Prop where
  way : ancestors start = nearer ++ d :: farther
  goesOn : ∀ e ∈ nearer, ¬ EndsSearch w e
  ends : EndsSearch w d

/-- If the search ends in no directory on the way up, nothing is found. -/
theorem discover_eq_none (h : ∀ e ∈ ancestors start, ¬ EndsSearch w e) :
    discover w start = none := by
  have hnone : (ancestors start).findSome? (searchDirectory w) = none := by
    rw [List.findSome?_eq_none_iff]
    exact fun e he => searchDirectory_eq_none (h e he)
  rw [discover, hnone]
  rfl

/-- **What is found is the first settings file of the directory where the search ends**, if it holds
one. -/
theorem discover_eq (h : EndsAt w start nearer d farther) : discover w start = first? w d := by
  have hnone : nearer.findSome? (searchDirectory w) = none := by
    rw [List.findSome?_eq_none_iff]
    exact fun e he => searchDirectory_eq_none (h.goesOn e he)
  rw [discover, h.way, List.findSome?_append, hnone, Option.none_or, List.findSome?_cons,
    searchDirectory_eq_some h.ends]
  rfl

/-- Without a settings file there is no first one. -/
theorem first?_eq_none (h : ∀ n ∈ fileNames, w.isFile (join d n) = false) : first? w d = none := by
  rw [first?, List.find?_eq_none, List.forall_mem_map]
  intro n hn
  rw [h n hn]
  exact Bool.false_ne_true

/-- The first settings file is the one before which there is none. -/
theorem first?_eq_some {before after : List String} {n : String}
    (hnames : fileNames = before ++ n :: after)
    (hbefore : ∀ m ∈ before, w.isFile (join d m) = false) (hfile : w.isFile (join d n) = true) :
    first? w d = some (join d n) := by
  have hnone : (before.map (join d)).find? w.isFile = none := by
    rw [List.find?_eq_none, List.forall_mem_map]
    intro m hm
    rw [hbefore m hm]
    exact Bool.false_ne_true
  rw [first?, hnames, List.map_append, List.find?_append, hnone, Option.none_or, List.map_cons,
    List.find?_cons_of_pos hfile]

/-- A settings file that is found has one of the known names. -/
theorem exists_of_first?_eq_some (h : first? w d = some path) :
    ∃ n ∈ fileNames, path = join d n := by
  obtain ⟨n, hn, rfl⟩ := List.mem_map.mp (List.mem_of_find?_eq_some h)
  exact ⟨n, hn, rfl⟩

/-! ## What the search depends on -/

/-- Whether two snapshots have the same in a directory at all names that a search looks at. -/
def SeesSame (w w' : Workspace) (e : String) : Prop :=
  ∀ n ∈ ".git" :: fileNames, (w'.find (join e n)).toOption = (w.find (join e n)).toOption

/-- A path leads to a file, or to anything, if what it leads to says so. -/
theorem isFile_eq (w : Workspace) (path : String) :
    w.isFile path = (w.find path).toOption.any fun t => !t.isDirectory := by
  rw [Workspace.isFile]
  cases w.find path <;> rfl

theorem pathExists_eq (w : Workspace) (path : String) :
    w.pathExists path = (w.find path).toOption.isSome := by
  rw [Workspace.pathExists]
  cases w.find path <;> rfl

/-- The same files are seen. -/
theorem SeesSame.isFile_eq (h : SeesSame w w' e) {n : String} (hn : n ∈ fileNames) :
    w'.isFile (join e n) = w.isFile (join e n) := by
  rw [Settings.isFile_eq, Settings.isFile_eq, h n (List.mem_cons_of_mem _ hn)]

/-- A search ends there in both snapshots or in neither. -/
theorem SeesSame.endsSearch_iff (h : SeesSame w w' e) : EndsSearch w' e ↔ EndsSearch w e := by
  have hmarked : w'.pathExists (join e ".git") = w.pathExists (join e ".git") := by
    rw [pathExists_eq, pathExists_eq, h ".git" List.mem_cons_self]
  rw [EndsSearch, EndsSearch, hmarked]
  refine or_congr_left (exists_congr fun n => and_congr_right fun hn => ?_)
  rw [h.isFile_eq hn]

/-- The same settings file is the first. -/
theorem SeesSame.first?_eq (h : SeesSame w w' e) : first? w' e = first? w e := by
  rw [first?, first?, ← List.head?_filter, ← List.head?_filter]
  refine congrArg List.head? (List.filter_congr (List.forall_mem_map.mpr ?_))
  exact fun n hn => h.isFile_eq hn

/-- What is loaded depends on what the path leads to. -/
theorem toOption_load_congr (h : (w'.find path).toOption = (w.find path).toOption) :
    (load w' path).toOption = (load w path).toOption := by
  rw [load, load, Workspace.read, Workspace.read]
  cases hfind : w.find path with
  | error e =>
      cases hfind' : w'.find path with
      | error e' => rfl
      | ok t =>
          rw [hfind, hfind'] at h
          cases h
  | ok t =>
      cases hfind' : w'.find path with
      | error e' =>
          rw [hfind, hfind'] at h
          cases h
      | ok t' =>
          rw [hfind, hfind'] at h
          cases h
          rfl

/-- **Only the directories up to where the search ends have a say.** If they look the same in two
snapshots, the same settings file is found and loaded in both. -/
theorem discover_congr (h : EndsAt w start nearer d farther)
    (hsame : ∀ e ∈ nearer ++ [d], SeesSame w w' e) :
    discover w' start = discover w start ∧ find w' none start = find w none start := by
  rw [List.forall_mem_append, List.forall_mem_singleton] at hsame
  have h' : EndsAt w' start nearer d farther :=
    ⟨h.way, fun e he => mt (hsame.1 e he).endsSearch_iff.mp (h.goesOn e he),
      hsame.2.endsSearch_iff.mpr h.ends⟩
  have hdiscover : discover w' start = discover w start := by
    rw [discover_eq h, discover_eq h', hsame.2.first?_eq]
  refine ⟨hdiscover, ?_⟩
  rw [find, find, hdiscover]
  refine congrArg Except.ok (Option.bind_congr fun path hpath => ?_)
  rw [discover_eq h] at hpath
  obtain ⟨n, hn, rfl⟩ := exists_of_first?_eq_some hpath
  rw [toOption_load_congr (hsame.2 n (List.mem_cons_of_mem _ hn))]

/-- **So nothing outside of the directory where the search ends has a say**, if the way up to it
never leads upwards by itself: two snapshots that have the same at the place of that directory look
the same in all directories up to it. -/
theorem seesSame_of_at?_eq (h : EndsAt w start nearer d farther)
    (hup : Path.Component.parent ∉ Path.components start) (hdirectory : w'.directory = w.directory)
    (hat : w'.tree.at? (w.place d) = w.tree.at? (w.place d)) :
    ∀ e ∈ nearer ++ [d], SeesSame w w' e := by
  intro e he n hn
  have hname : IsName n := by
    revert n
    decide
  have hway : e ∈ ancestors start := by
    rw [h.way, List.append_cons]
    exact List.mem_append_left farther he
  -- the directory where the search ends takes the first steps of the one that is looked at
  have hfirst : Path.isAbsolute d = Path.isAbsolute e ∧ steps d.toList <+: steps e.toList := by
    rcases List.mem_append.mp he with he | he
    · have hpairs := Path.pairwise_ancestors start
      rw [h.way, List.pairwise_append] at hpairs
      exact hpairs.2.2 e he d List.mem_cons_self
    · rw [List.mem_singleton.mp he]
      exact ⟨rfl, List.prefix_rfl⟩
  have hnever : Path.Component.parent ∉ steps e.toList := by
    intro hmem
    apply hup
    rw [Path.components_eq]
    exact List.mem_append_right _ ((Path.prefix_of_mem_ancestors hway).2.subset hmem)
  obtain ⟨habsolute, hsteps, hlast⟩ := Path.join_name hname e
  have habsolute' : Path.isAbsolute (join e n) = Path.isAbsolute d := habsolute.trans hfirst.1.symm
  have hsteps' : steps d.toList <+: steps (join e n).toList := by
    rw [hsteps]
    exact hfirst.2.trans (List.prefix_append _ _)
  have hnever' : Path.Component.parent ∉ steps (join e n).toList := by
    rw [hsteps, List.mem_append, List.mem_singleton, not_or]
    exact ⟨hnever, Path.Component.noConfusion⟩
  have hlast' : ∀ p ∈ (Path.pieces (join e n).toList).getLast?, Path.step? p ≠ none := by
    rw [hlast]
    rintro _ ⟨⟩
    rw [hname.step?_eq]
    exact Option.some_ne_none _
  have hplace : w'.place d = w.place d := by
    rw [Workspace.place, Workspace.place, Workspace.start_congr hdirectory rfl]
  refine Except.toOption_congr fun t => ⟨?_, ?_⟩
  · exact Workspace.find_eq_ok_of_at?_eq hdirectory.symm (by rw [hplace, hat]) habsolute' hsteps'
      hnever' hlast'
  · exact Workspace.find_eq_ok_of_at?_eq hdirectory hat habsolute' hsteps' hnever' hlast'

/-! ## The nearest settings file -/

/-- **The settings file that is found is the nearest one.** The way up from a directory comes to an
end. If the search ends nowhere on it, there are no settings. Otherwise it ends at the first
directory that holds a settings file or the top of a repository; there the first of the known names
counts that is that of a file, also at the top of a repository, and if none is, there are no
settings. What is farther up has no say: if another snapshot looks the same in the directories up to
there, the same is found; and that is so if it has the same at the place of that directory, when the
way up to it never leads upwards by itself. What is found is loaded if it can be, and otherwise
there are no settings. -/
theorem discover_nearest (w : Workspace) (start : String) :
    let names := ["lintrun.toml", "lintrun.yaml", "lintrun.yml"]
    Path.GoesUp start (ancestors start) ∧
    ((∀ e ∈ ancestors start, ¬ EndsSearch w e) → discover w start = none) ∧
    (∀ nearer d farther, EndsAt w start nearer d farther →
      ((∀ n ∈ names, w.isFile (join d n) = false) → discover w start = none) ∧
      (∀ before n after, names = before ++ n :: after →
        (∀ m ∈ before, w.isFile (join d m) = false) → w.isFile (join d n) = true →
          discover w start = some (join d n)) ∧
      ∀ w' : Workspace, (∀ e ∈ nearer ++ [d], SeesSame w w' e) ∨
          (Path.Component.parent ∉ Path.components start ∧ w'.directory = w.directory ∧
            w'.tree.at? (w.place d) = w.tree.at? (w.place d)) →
        discover w' start = discover w start ∧ find w' none start = find w none start) ∧
    (discover w start = none → find w none start = .ok none) ∧
    ∀ path, discover w start = some path →
      (∀ s, load w path = .ok s → find w none start = .ok (some (path, s))) ∧
      ∀ e, load w path = .error e → find w none start = .ok none := by
  refine ⟨Path.goesUp_ancestors start, discover_eq_none, ?_, ?_, ?_⟩
  · intro nearer d farther h
    rw [discover_eq h]
    refine ⟨first?_eq_none, fun before n after => first?_eq_some, fun w' hsame => ?_⟩
    rw [← discover_eq h]
    rcases hsame with hsame | ⟨hup, hdirectory, hat⟩
    · exact discover_congr h hsame
    · exact discover_congr h (seesSame_of_at?_eq h hup hdirectory hat)
  · intro hnone
    rw [find, hnone]
    rfl
  · intro path hpath
    rw [find, hpath]
    constructor
    · intro s hs
      rw [Option.bind_some, hs]
      rfl
    · intro e he
      rw [Option.bind_some, he]
      rfl

/-- A repository with a settings file that is malformed. -/
def repository : FileTree :=
  .directory [(".git", .directory []), ("lintrun.toml", .directory []),
    ("lintrun.yml", .file (some "root: [")), ("lib", .directory [])]

/-- The repository in a directory with another settings file. -/
def nested : Workspace :=
  ⟨.directory [("lintrun.toml", .file (some "root = \"outer\"")), ("repo", repository)], []⟩

/-- The repository in a directory with nothing else. -/
def alone : Workspace := ⟨.directory [("repo", repository)], []⟩

/-- The file of the repository is the nearest one, in either directory; and since it does not load
there are no settings, although the other one would load. -/
theorem discover_nearest_nested :
    EndsAt nested "/repo/lib" ["/repo/lib"] "/repo" ["/"] ∧
    load nested "/lintrun.toml" = .ok { root := some "outer" } ∧
    discover nested "/repo/lib" = some "/repo/lintrun.yml" ∧
    find nested none "/repo/lib" = .ok none ∧
    discover alone "/repo/lib" = discover nested "/repo/lib" ∧
    find alone none "/repo/lib" = find nested none "/repo/lib" := by
  have hends : EndsAt nested "/repo/lib" ["/repo/lib"] "/repo" ["/"] := by
    refine ⟨by decide +kernel, ?_, .inr (by decide +kernel)⟩
    rw [List.forall_mem_singleton, EndsSearch, not_or]
    exact ⟨by decide +kernel, by decide +kernel⟩
  have hload : load nested "/repo/lintrun.yml" =
      .error (.malformed "/repo/lintrun.yml" "not a settings file") := by decide +kernel
  obtain ⟨-, -, hall, -, hfind⟩ := discover_nearest nested "/repo/lib"
  obtain ⟨-, hfirst, hsame⟩ := hall _ _ _ hends
  have hdiscover : discover nested "/repo/lib" = some "/repo/lintrun.yml" :=
    hfirst ["lintrun.toml", "lintrun.yaml"] "lintrun.yml" [] rfl (by decide +kernel)
      (by decide +kernel)
  obtain ⟨hdiscover', hfind'⟩ :=
    hsame alone (.inr ⟨by decide +kernel, rfl, rfl⟩)
  exact ⟨hends, by decide +kernel, hdiscover, (hfind _ hdiscover).2 _ hload, hdiscover', hfind'⟩

end Settings

end PolicyLint
