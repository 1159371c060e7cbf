/-
# What is passed over below a directory

The steps of a source below a directory are those of the directory and then the names that lead to
the source. The directory of dependencies is told by comparing these names with its setting, so the
setting has to be a single name. If it is, no file inside of what lies there, seen from the root, is
a target. A setting that ends with a slash or has several steps is found by the references that fall
back to it, but it is no name, and every source is a target.

* `Scan.exists_places_of_mem_sources` : where the sources of a directory lie;
* `Scan.mem_targetsOf_dependencies` : which of them are targets;
* `Scan.input_dependencies_hit` : two settings that hide nothing.
-/
import PolicyLint.Proofs.Path.Roots
import PolicyLint.Proofs.Scan.DottedRoot

namespace PolicyLint

open PolicyLint.Path (IsName lead steps)

/-- A root that is used is empty or ends with a slash. -/
theorem Root.normalize_eq_or (root : Option String) :
    normalize root = "" ∨ (normalize root).toList.getLast? = some '/' := by
  rw [normalize_eq_join]
  by_cases hroot : root.getD "" = ""
  · rw [hroot]
    exact .inl rfl
  · exact .inr (Path.getLast?_join_empty hroot)

namespace Scan

variable {w : Workspace} {c : Config} {d dependencies file : String}

/-! ## The steps of sources -/

/-- The steps that count below a directory are those that lead on from its steps, or all of them
when the directory begins with a dot. -/
theorem stepsFrom_eq_or {rest : List Path.Component}
    (habsolute : Path.isAbsolute file = Path.isAbsolute d)
    (hsteps : steps file.toList = steps d.toList ++ rest) (hlead : lead file ≠ [.current]) :
    stepsFrom d file = rest ∨ stepsFrom d file = steps d.toList ++ rest := by
  have hfile : Path.components file = lead file ++ (steps d.toList ++ rest) := by
    rw [Path.components_eq, hsteps]
  have hon (h : lead file = lead d) : stepsFrom d file = rest := by
    have hstrip : Path.stripPrefix? (Path.components d) (Path.components file) = some rest := by
      rw [Path.stripPrefix?_eq_some_iff, hfile, Path.components_eq, h, List.append_assoc]
    rw [stepsFrom, hstrip]
    rfl
  -- only a dot in front of the directory keeps the path from going through it
  by_cases hd : Path.isAbsolute d = true
  · left
    apply hon
    rw [lead, lead, habsolute, if_pos hd, if_pos hd]
  · have hnone : lead file = [] := by
      rw [lead, habsolute, if_neg hd] at hlead ⊢
      split at hlead
      · exact absurd rfl hlead
      · rename_i hdot
        exact if_neg hdot
    by_cases hdot : (Path.pieces d.toList).head? = some ['.']
    · right
      have hleadDot : lead d = [.current] := by rw [lead, if_neg hd, if_pos hdot]
      have hstrip : Path.stripPrefix? (Path.components d) (Path.components file) = none := by
        cases hsome : Path.stripPrefix? (Path.components d) (Path.components file) with
        | none => rfl
        | some more =>
            rw [Path.stripPrefix?_eq_some_iff, hfile, hnone, ← hsteps, List.nil_append,
              Path.components_eq, hleadDot] at hsome
            -- a dot is no step
            have hcurrent : Path.Component.current ∈ steps file.toList := by
              rw [hsome]
              exact List.mem_cons_self
            rcases Path.eq_of_mem_steps hcurrent with heq | ⟨n, heq, -⟩ <;> cases heq
      rw [stepsFrom, hstrip, hfile, hnone]
      rfl
    · left
      apply hon
      rw [hnone, lead, if_neg hd, if_neg hdot]

/-- **Where the sources of a directory lie.** A source lies at some names below the directory, and
these names are the steps that count, unless the steps of the directory do as well. -/
theorem exists_places_of_mem_sources (hdirectory : w.isDirectory d = true)
    (hfile : file ∈ sources w d) (hisFile : w.isFile file = true) :
    ∃ here names, w.LiesAt d here ∧ w.LiesAt file (here ++ names) ∧ (∀ n ∈ names, IsName n) ∧
      (stepsFrom d file = names.map .name ∨
        stepsFrom d file = steps d.toList ++ names.map .name) := by
  obtain ⟨content, hfind⟩ := Workspace.isFile_iff.mp hisFile
  obtain ⟨there, hthere, -⟩ := Workspace.exists_liesAt hfind
  obtain ⟨tree, htree, -⟩ := Workspace.exists_find_of_isDirectory hdirectory
  obtain ⟨here, hhere, -⟩ := Workspace.exists_liesAt htree
  obtain ⟨names, hnames, hsource, hpath⟩ :=
    exists_names_of_mem_sources (Workspace.ne_empty_of_isDirectory hdirectory) hfile
  obtain ⟨habsolute, hsteps⟩ := steps_of_pathBelow? hnames hpath
  refine ⟨here, names, hhere, hhere.eq_append hthere habsolute hsteps ▸ hthere, hnames, ?_⟩
  apply stepsFrom_eq_or habsolute hsteps
  rw [lead_of_pathBelow? (ne_nil_of_any_isSource hsource) hnames hpath]
  intro heq
  have hcurrent : Path.Component.current ∈ (lead d).filter (· ≠ .current) := by
    rw [heq]
    exact List.mem_cons_self
  simp at hcurrent

/-! ## What is passed over -/

/-- What lies at a name below a root lies at a place that ends with the name. -/
theorem getLast?_of_liesAt_root {root : Option String} {names : List String}
    (hname : IsName dependencies)
    (h : w.LiesAt (Root.normalize root ++ dependencies) names) :
    names.getLast? = some dependencies := by
  have hlast : steps dependencies.toList = [.name dependencies] := by
    rw [Path.steps_of_not_mem hname.2.2.2, hname.step?_eq]
    rfl
  have hsteps : steps (Root.normalize root ++ dependencies).toList =
      steps (Root.normalize root).toList ++ [.name dependencies] := by
    rcases Root.normalize_eq_or root with hempty | hslash
    · rw [hempty, String.empty_append, hlast]
      rfl
    · rw [String.toList_append, Path.steps_append hslash, hlast]
  rw [h.eq_follow, hsteps, List.foldl_append]
  exact List.getLast?_concat

/-- A target is a source that is a file and is not passed over. -/
theorem mem_targetsOf_iff (hdirectory : w.isDirectory d = true) :
    file ∈ targetsOf w c d ↔
      file ∈ sources w d ∧ isDependency d c.dependencies file = false ∧ w.isFile file = true := by
  rw [targetsOf, if_pos hdirectory,
    mem_targets_iff_mem_sources (Workspace.ne_empty_of_isDirectory hdirectory)]

/-- A source inside of what lies at a name below the root is passed over, if that lies below the
scanned directory. -/
theorem isDependency_of_isInside (hdirectory : w.isDirectory d = true) (hname : IsName dependencies)
    {root : Option String} (hbelow : w.IsInside (Root.normalize root ++ dependencies) d)
    (hfile : file ∈ sources w d) (hisFile : w.isFile file = true)
    (hinside : w.IsInside file (Root.normalize root ++ dependencies)) :
    isDependency d dependencies file = true := by
  obtain ⟨here, names, hhere, hthere, -, hsteps⟩ :=
    exists_places_of_mem_sources hdirectory hfile hisFile
  obtain ⟨here', more, hhere', hvendored, hmore⟩ := hbelow
  obtain ⟨place, rest, hplace, hthere', -⟩ := hinside
  have hlast : more.getLast? = some dependencies := by
    have hend := getLast?_of_liesAt_root hname hvendored
    rwa [List.getLast?_append, List.getLast?_eq_some_getLast hmore, Option.some_or,
      ← List.getLast?_eq_some_getLast hmore] at hend
  -- the names below the directory go on through those of the dependencies
  have hnames : names = more ++ rest := by
    have heq := hthere.unique hthere'
    rw [← hvendored.unique hplace, hhere.unique hhere', List.append_assoc] at heq
    exact List.append_cancel_left heq
  have hmem : Path.Component.name dependencies ∈ stepsFrom d file := by
    have hstep : Path.Component.name dependencies ∈ names.map Path.Component.name :=
      List.mem_map_of_mem (hnames ▸ List.mem_append_left rest (List.mem_of_getLast? hlast))
    rcases hsteps with heq | heq
    · exact heq ▸ hstep
    · exact heq ▸ List.mem_append_right _ hstep
  have hempty : dependencies.isEmpty = false := by simpa using hname.1
  rw [isDependency, hempty, Bool.not_false, Bool.true_and, List.any_eq_true]
  exact ⟨_, hmem, beq_self_eq_true _⟩

/-- No source is passed over for a setting that is no name. -/
theorem isDependency_of_not_isName (hdirectory : w.isDirectory d = true)
    (hname : ¬ IsName dependencies)
    (hup : dependencies = ".." → Path.Component.parent ∉ Path.components d)
    (hfile : file ∈ sources w d) (hisFile : w.isFile file = true) :
    isDependency d dependencies file = false := by
  obtain ⟨here, names, -, -, hnames, hsteps⟩ :=
    exists_places_of_mem_sources hdirectory hfile hisFile
  -- the text of a step is a name, or two dots
  have hne : ∀ s ∈ steps d.toList ++ names.map .name, s.text ≠ dependencies := by
    intro s hs heq
    rcases List.mem_append.mp hs with hs | hs
    · rcases Path.eq_of_mem_steps hs with rfl | ⟨n, rfl, hn⟩
      · apply hup heq.symm
        rw [Path.components_eq]
        exact List.mem_append_right _ hs
      · exact hname (heq ▸ hn)
    · obtain ⟨n, hn, rfl⟩ := List.mem_map.mp hs
      exact hname (heq ▸ hnames n hn)
  have hcount : ∀ s ∈ stepsFrom d file, s.text ≠ dependencies := by
    intro s hs
    apply hne s
    rcases hsteps with heq | heq
    · exact List.mem_append_right _ (heq ▸ hs)
    · exact heq ▸ hs
  rw [isDependency, Bool.and_eq_false_iff, List.any_eq_false]
  exact .inr fun s hs => by simpa using hcount s hs

/-- A warning of a scan names a target. -/
theorem filename_mem_of_scan_eq_ok {path : String} {choice : Nat} {ws : List Warning} {v : Warning}
    (h : scan w c path choice = .ok ws) (hv : v ∈ ws) : v.filename ∈ targetsOf w c path := by
  obtain ⟨file, hfile, text, -, o, -, rfl⟩ := exists_origin_of_mem w c h hv
  cases o <;> exact hfile

/-- **Which sources below a directory are targets.** If the setting of the dependencies is a name,
and what lies there, seen from the root, is below the directory, nothing inside of it is a target or
is warned about. For any other setting every source that is a file is a target, but for two dots
where the directory goes upwards itself. -/
theorem mem_targetsOf_dependencies (w : Workspace) (root : Option String) (policy : Option Policy)
    (dependencies d : String) (hdirectory : w.isDirectory d = true) :
    let c : Config := ⟨Root.normalize root, policy, dependencies⟩
    let vendored := c.root ++ dependencies
    (IsName dependencies → w.IsInside vendored d →
      (∀ file ∈ targetsOf w c d, ¬ w.IsInside file vendored) ∧
      ∀ choice ws, scan w c d choice = .ok ws → ∀ v ∈ ws, ¬ w.IsInside v.filename vendored) ∧
    (¬ IsName dependencies →
      (dependencies = ".." → Path.Component.parent ∉ Path.components d) →
      ∀ file, file ∈ targetsOf w c d ↔ file ∈ sources w d ∧ w.isFile file = true) := by
  intro c vendored
  refine ⟨fun hname hbelow => ?_, fun hname hup file => ?_⟩
  · have htargets : ∀ file ∈ targetsOf w c d, ¬ w.IsInside file vendored := by
      intro file hfile hinside
      obtain ⟨hsource, hpassed, hisFile⟩ := (mem_targetsOf_iff hdirectory).mp hfile
      have hdependency := isDependency_of_isInside hdirectory hname hbelow hsource hisFile hinside
      rw [hdependency] at hpassed
      cases hpassed
    exact ⟨htargets, fun choice ws hws v hv => htargets _ (filename_mem_of_scan_eq_ok hws hv)⟩
  · rw [mem_targetsOf_iff hdirectory]
    refine and_congr_right fun hfile => ?_
    exact and_iff_right_of_imp (isDependency_of_not_isName hdirectory hname hup hfile)

/-- A single script with the banned name, at the given names. -/
def scriptAt (names : List String) : Workspace :=
  ⟨FileTree.empty.insert names (.file (some "eval")), []⟩

/-- The script of a library is passed over if the setting is the name of the library, and is a
target if a slash follows the name. -/
theorem mem_targetsOf_dependencies_library :
    let w := scriptAt ["app", "lib", "x.js"]
    let c (dependencies : String) : Config := ⟨Root.normalize (some "app"), none, dependencies⟩
    "app/lib/x.js" ∉ targetsOf w (c "lib") "app" ∧
      "app/lib/x.js" ∈ targetsOf w (c "lib/") "app" := by
  intro w c
  have happ : w.LiesAt "app" ["app"] := ⟨by decide, by decide⟩
  have hlib : w.LiesAt "app/lib" ["app", "lib"] := ⟨by decide, by decide⟩
  have hscript : w.LiesAt "app/lib/x.js" ["app", "lib", "x.js"] :=
    ⟨by decide, by decide⟩
  constructor
  · obtain ⟨hname, -⟩ := mem_targetsOf_dependencies w (some "app") none "lib" "app"
      (by decide)
    obtain ⟨htargets, -⟩ := hname (by decide) ⟨["app"], ["lib"], happ, hlib, by decide⟩
    exact fun hfile => htargets _ hfile ⟨["app", "lib"], ["x.js"], hlib, hscript, by decide⟩
  · obtain ⟨-, hother⟩ := mem_targetsOf_dependencies w (some "app") none "lib/" "app"
      (by decide)
    exact (hother (by decide) (by decide) _).mpr ⟨by decide +kernel, by decide +kernel⟩

/-- **Two settings that hide nothing.** With a slash at its end, or with two steps, the setting
leads to a directory below the scanned one, and a reference upwards is resolved there; but the
script inside of it is warned about. Without the slash it is not. -/
theorem input_dependencies_hit :
    let c (dependencies : String) : Config :=
      ⟨Root.normalize none, some ⟨[banRule []]⟩, dependencies⟩
    let hit (file : String) : Warning := ⟨file, ⟨1, 1⟩, "Use of banned name 'eval'", true⟩
    let w := scriptAt ["lib", "x.js"]
    let w' := scriptAt ["app", "lib", "x.js"]
    (w.IsInside "lib/" "." ∧ w.IsInside "lib/x.js" "lib/" ∧
      Reference.resolves w (c "lib/") "" "../x.js".toList = true ∧
      Scan.input w (c "lib") "." = .ok [] ∧ Scan.input w (c "lib/") "." = .ok [hit "lib/x.js"]) ∧
    (w'.IsInside "app/lib" "app" ∧ w'.IsInside "app/lib/x.js" "app/lib" ∧
      Reference.resolves w' (c "app/lib") "app" "../x.js".toList = true ∧
      Scan.input w' (c "app/lib") "app" = .ok [hit "app/lib/x.js"]) := by
  intro c hit w w'
  have hdot : w.LiesAt "." [] := ⟨by decide +kernel, by decide +kernel⟩
  have hlib : w.LiesAt "lib/" ["lib"] := ⟨by decide +kernel, by decide +kernel⟩
  have hscript : w.LiesAt "lib/x.js" ["lib", "x.js"] := ⟨by decide +kernel, by decide +kernel⟩
  have happ' : w'.LiesAt "app" ["app"] := ⟨by decide +kernel, by decide +kernel⟩
  have hlib' : w'.LiesAt "app/lib" ["app", "lib"] := ⟨by decide +kernel, by decide +kernel⟩
  have hscript' : w'.LiesAt "app/lib/x.js" ["app", "lib", "x.js"] :=
    ⟨by decide +kernel, by decide +kernel⟩
  refine ⟨⟨⟨_, ["lib"], hdot, hlib, by decide⟩, ⟨_, ["x.js"], hlib, hscript, by decide⟩, ?_⟩,
    ⟨_, ["lib"], happ', hlib', by decide⟩, ⟨_, ["x.js"], hlib', hscript', by decide⟩, ?_⟩
  · decide +kernel
  · decide +kernel

end Scan

end PolicyLint
