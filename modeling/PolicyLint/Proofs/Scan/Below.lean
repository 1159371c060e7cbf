/-
# Paths below a directory

The path of what lies below a directory is that of the directory, as it is taken piece by piece, and
goes on with names. It has the steps of the directory without a dot in front, and then the names; and
it leads to what these lead to. On the way to the directory each path leads to a directory.

* `Scan.pathBelow?` : the path of what lies at some names below a directory;
* `Scan.components_of_pathBelow?` : its steps;
* `Scan.find_of_pathBelow?` : where it leads;
* `Scan.exists_find_of_pieces` : where the paths on the way to a directory lead.
-/
import PolicyLint.Proofs.Path.Reach
import PolicyLint.Proofs.Scan.Spelling

namespace PolicyLint.Scan

open PolicyLint.Path (IsName lead steps)

variable {w : Workspace} {d file path start : String} {names : List String}

/-! ## Paths -/

/-- The path of what lies at some names below a directory. -/
def pathBelow? (directory : String) (names : List String) : Option String :=
  (spell? directory).bind fun start => names.foldlM step? start

/-- Below a directory that can be taken piece by piece everything has a path. -/
theorem exists_pathBelow? (h : ¬ IsLost d) (hnames : ∀ n ∈ names, IsName n) :
    ∃ file, pathBelow? d names = some file := by
  obtain ⟨start, hstart⟩ := Option.ne_none_iff_exists'.mp (mt spell?_eq_none_iff.mp h)
  obtain ⟨file, hfile⟩ := exists_foldlM_step?_names (steps_of_spell? hstart).1 hnames
  exact ⟨file, Option.bind_eq_some_iff.mpr ⟨start, hstart, hfile⟩⟩

/-- A path below a directory is absolute if the directory is, and goes on from its steps. -/
theorem steps_of_pathBelow? (hnames : ∀ n ∈ names, IsName n) (h : pathBelow? d names = some file) :
    Path.isAbsolute file = Path.isAbsolute d ∧
      steps file.toList = steps d.toList ++ names.map .name := by
  obtain ⟨start, hstart, hfile⟩ := Option.bind_eq_some_iff.mp h
  obtain ⟨hne, habsolute, hsteps⟩ := steps_of_spell? hstart
  obtain ⟨-, habsolute', hsteps'⟩ :=
    steps_of_foldlM_step? hne (fun n hn => (hnames n hn).2.2.2) hfile
  rw [hsteps, filterMap_step?_names hnames] at hsteps'
  exact ⟨habsolute'.trans habsolute, hsteps'⟩

/-- At some names below a directory there is a step. -/
theorem ne_dot_of_pathBelow? (hne : names ≠ []) (hnames : ∀ n ∈ names, IsName n)
    (h : pathBelow? d names = some file) : file ≠ "." := by
  rintro rfl
  exact List.append_ne_nil_of_right_ne_nil _ (mt List.map_eq_nil_iff.mp hne)
    (steps_of_pathBelow? hnames h).2.symm

/-- A path below a relative directory is bare. -/
theorem isBare_of_pathBelow? (hrelative : Path.isAbsolute d = false)
    (hnames : ∀ n ∈ names, IsName n) (h : pathBelow? d names = some file) : IsBare file := by
  obtain ⟨start, hstart, hfile⟩ := Option.bind_eq_some_iff.mp h
  exact (isBare_of_spell? hrelative hstart).foldlM_step? (fun n hn => (hnames n hn).2.2.2) hfile

/-- No dot stands in front of a path below a directory. -/
theorem lead_of_pathBelow? (hne : names ≠ []) (hnames : ∀ n ∈ names, IsName n)
    (h : pathBelow? d names = some file) : lead file = (lead d).filter (· ≠ .current) := by
  have habsolute := (steps_of_pathBelow? hnames h).1
  cases hd : Path.isAbsolute d with
  | true =>
      rw [lead, lead, habsolute, if_pos hd, if_pos hd]
      rfl
  | false =>
      have hnone : (lead d).filter (· ≠ .current) = [] := by
        rw [lead, hd, if_neg Bool.false_ne_true]
        split <;> rfl
      rw [hnone]
      have hlead := (isBare_of_pathBelow? hd hnames h).lead_ne (ne_dot_of_pathBelow? hne hnames h)
      rw [lead, habsolute, hd, if_neg Bool.false_ne_true] at hlead ⊢
      split at hlead
      · exact absurd rfl hlead
      · rename_i hhead
        exact if_neg hhead

/-- **The steps of a path below a directory** are those of the directory, without a dot in front,
and the names. -/
theorem components_of_pathBelow? (hne : names ≠ []) (hnames : ∀ n ∈ names, IsName n)
    (h : pathBelow? d names = some file) :
    Path.components file =
      (Path.components d).filter (· ≠ .current) ++ names.map .name := by
  have hkept : (steps d.toList).filter (· ≠ .current) = steps d.toList := by
    rw [List.filter_eq_self]
    intro s hs
    rcases Path.eq_of_mem_steps hs with rfl | ⟨n, rfl, -⟩ <;> rfl
  rw [Path.components_eq, Path.components_eq, List.filter_append, hkept,
    (steps_of_pathBelow? hnames h).2, lead_of_pathBelow? hne hnames h, List.append_assoc]

/-- The names below a directory are told by the path. -/
theorem eq_of_pathBelow? {others : List String} {other : String} (hne : names ≠ [])
    (hnames : ∀ n ∈ names, IsName n) (h : pathBelow? d names = some file) (hne' : others ≠ [])
    (hothers : ∀ n ∈ others, IsName n) (h' : pathBelow? d others = some other)
    (heq : Path.components file = Path.components other) : file = other := by
  rw [components_of_pathBelow? hne hnames h, components_of_pathBelow? hne' hothers h'] at heq
  have hsame : names = others := List.map_injective_iff.mpr
    (fun _ _ => Path.Component.name.inj) (List.append_cancel_left heq)
  rw [hsame, h'] at h
  exact (Option.some.inj h).symm

/-- The last piece of a path below a directory is the last name. -/
theorem getLast?_pieces_of_pathBelow? (hne : names ≠ []) (hnames : ∀ n ∈ names, IsName n)
    (h : pathBelow? d names = some file) :
    (Path.pieces file.toList).getLast? = some (names.getLast hne).toList := by
  obtain ⟨start, hstart, hfile⟩ := Option.bind_eq_some_iff.mp h
  have hslash : ∀ n ∈ names, '/' ∉ n.toList := fun n hn => (hnames n hn).2.2.2
  rw [← List.dropLast_append_getLast hne, List.foldlM_append] at hfile
  obtain ⟨above, habove, hlast⟩ := Option.bind_eq_some_iff.mp hfile
  rw [List.foldlM_cons] at hlast
  obtain ⟨next, hnext, hend⟩ := Option.bind_eq_some_iff.mp hlast
  cases hend
  obtain ⟨hne', -⟩ := steps_of_foldlM_step? (steps_of_spell? hstart).1
    (fun n hn => hslash n (List.dropLast_subset names hn)) habove
  exact getLast?_pieces_of_step? hne' (hslash _ (List.getLast_mem hne)) hnext

/-- The characters of a path below a directory are those of the directory and of the names, but for
dots and slashes. -/
theorem mem_of_pathBelow? {c : Char} (hdot : c ≠ '.') (hslash : c ≠ '/')
    (hd : c ∉ d.toList) (hnames : ∀ n ∈ names, c ∉ n.toList)
    (h : pathBelow? d names = some file) : c ∉ file.toList := by
  obtain ⟨start, hstart, hfile⟩ := Option.bind_eq_some_iff.mp h
  exact not_mem_of_foldlM_step? hslash
    (not_mem_of_pieces hdot hslash hd (fun _ hp => hp) hstart) hnames hfile

/-! ## Where they lead -/

/-- **A path below a directory leads to what the names lead to**, if it is not too long. -/
theorem find_of_pathBelow? {here : List String} {u : FileTree} (hproper : w.tree.IsProper)
    (hhere : w.LiesAt d here) (hne : names ≠ []) (hat : w.tree.at? (here ++ names) = some u)
    (h : pathBelow? d names = some file) (hlength : file.utf8ByteSize ≤ Workspace.maxPath) :
    w.find file = .ok u := by
  have hentries : ∀ n ∈ names, Path.IsEntryName n := fun n hn =>
    (hproper.of_at? hat).1 n (List.mem_append_right here hn)
  have hnames : ∀ n ∈ names, IsName n := hproper.isName_of_at? hat
  obtain ⟨habsolute, hsteps⟩ := steps_of_pathBelow? hnames h
  have hstart : w.start file = w.start d := Workspace.start_congr rfl habsolute
  apply Workspace.find_eq_ok
  · obtain ⟨t, ht⟩ := Workspace.exists_find_eq_ok hhere.1
    exact mem_of_pathBelow? (by decide) (by decide) (Workspace.find_eq_ok_iff.mp ht).1
      (fun n hn => (hentries n hn).2.2) h
  · rintro rfl
    exact List.append_ne_nil_of_right_ne_nil _ (mt List.map_eq_nil_iff.mp hne) hsteps.symm
  · exact hlength
  · -- the path ends with a name, and so it may lead to a file
    left
    rw [getLast?_pieces_of_pathBelow? hne hnames h]
    rintro _ ⟨⟩
    rw [(hnames _ (List.getLast_mem hne)).step?_eq]
    exact Option.some_ne_none _
  · rw [hstart, hsteps]
    refine Workspace.leads_append_iff.mpr ⟨Workspace.leads_of_walk hhere.2, ?_⟩
    rw [← hhere.eq_follow]
    exact Workspace.leads_names (fun n hn => (hentries n hn).2.1) hat
  · rw [hstart, hsteps, List.foldl_append, ← hhere.eq_follow, Path.foldl_follow_names]
    exact hat

/-- It lies where the names lead from where the directory lies. -/
theorem liesAt_of_pathBelow? {here : List String} {u : FileTree} (hproper : w.tree.IsProper)
    (hhere : w.LiesAt d here) (hne : names ≠ []) (hat : w.tree.at? (here ++ names) = some u)
    (h : pathBelow? d names = some file) (hlength : file.utf8ByteSize ≤ Workspace.maxPath) :
    w.LiesAt file (here ++ names) := by
  obtain ⟨there, hthere, -⟩ :=
    Workspace.exists_liesAt (find_of_pathBelow? hproper hhere hne hat h hlength)
  obtain ⟨habsolute, hsteps⟩ := steps_of_pathBelow? (hproper.isName_of_at? hat) h
  exact hhere.eq_append hthere habsolute hsteps ▸ hthere

/-- **On the way to a directory each path leads to a directory**: the one that the pieces so far lead
to, if the path of the directory is not too long. -/
theorem exists_find_of_pieces {tree : FileTree} {as bs : List (List Char)}
    (hfind : w.find d = .ok tree) (htree : tree.isDirectory = true)
    (hpieces : Glob.piecesFrom d = as ++ bs)
    (hpath : (as.map String.ofList).foldlM step? (Glob.origin d) = some path)
    (hrest : (bs.map String.ofList).foldlM step? path = some start)
    (hlength : start.utf8ByteSize ≤ Workspace.maxPath) :
    ∃ u, w.find path = .ok u ∧ u.isDirectory = true ∧
      w.tree.at? ((as.filterMap Path.step?).foldl Path.follow (w.start d)) = some u := by
  have has : ∀ p ∈ as, p ∈ Glob.piecesFrom d := fun p hp => by
    rw [hpieces]
    exact List.mem_append_left bs hp
  have hsplit : steps d.toList = as.filterMap Path.step? ++ bs.filterMap Path.step? := by
    rw [← filterMap_step?_piecesFrom, hpieces, List.filterMap_append]
  obtain ⟨hnul, -, -, here, hwalk, hat⟩ := Workspace.find_eq_ok_iff.mp hfind
  obtain ⟨hne, habsolute, hsteps⟩ := steps_of_pieces has hpath
  have hleads := Workspace.leads_of_walk hwalk
  rw [← steps, hsplit, Workspace.leads_append_iff] at hleads
  -- a step that is still to come wants a directory; without one this is the place of the directory
  have hthere : (w.tree.at? ((as.filterMap Path.step?).foldl Path.follow (w.start d))).any
      FileTree.isDirectory = true := by
    by_cases hnone : bs.filterMap Path.step? = []
    · rw [← Workspace.foldl_follow_of_walk hwalk, ← steps, hsplit, hnone, List.append_nil] at hat
      rw [hat]
      exact htree
    · exact hleads.2.any_isDirectory hnone
  obtain ⟨u, hu, hdirectory⟩ := (Option.any_eq_true _ _).mp hthere
  have hstart : w.start path = w.start d := Workspace.start_congr rfl habsolute
  have hclean := not_mem_of_pieces (by decide) (by decide) hnul has hpath
  have hshort : path.utf8ByteSize ≤ Workspace.maxPath := by
    refine Nat.le_trans (size_le_of_foldlM_step? hne ?_ hrest) hlength
    exact not_mem_of_mem_map_piecesFrom fun p hp => hpieces ▸ List.mem_append_right as hp
  refine ⟨u, Workspace.find_eq_ok hclean hne hshort (.inr hdirectory) ?_ ?_, hdirectory, hu⟩
  · rw [hstart, hsteps]
    exact hleads.1
  · rw [hstart, hsteps]
    exact hu

/-- A directory taken piece by piece leads to the directory. -/
theorem find_of_spell? {tree : FileTree} (hfind : w.find d = .ok tree)
    (htree : tree.isDirectory = true) (hstart : spell? d = some start)
    (hlength : start.utf8ByteSize ≤ Workspace.maxPath) : w.find start = .ok tree := by
  obtain ⟨u, hu, -, hat⟩ := exists_find_of_pieces hfind htree
    (List.append_nil (Glob.piecesFrom d)).symm hstart rfl hlength
  obtain ⟨here, hhere, hathere⟩ := Workspace.exists_liesAt hfind
  rw [filterMap_step?_piecesFrom, ← hhere.eq_follow, hathere] at hat
  rw [hu, Option.some.inj hat]

/-- A piece that is a name leads to the entry that is called so. -/
theorem at?_of_pieces_concat {t : FileTree} {here : List String} {as : List (List Char)}
    {s : List Char} (hname : IsName (String.ofList s)) :
    t.at? (((as ++ [s]).filterMap Path.step?).foldl Path.follow here) =
      (t.at? ((as.filterMap Path.step?).foldl Path.follow here)).bind
        fun u => u.entry? (String.ofList s) := by
  have hstep : Path.step? s = some (.name (String.ofList s)) := by
    have hsome := hname.step?_eq
    rwa [String.toList_ofList] at hsome
  rw [List.filterMap_append, List.filterMap_cons_some hstep, List.filterMap_nil, List.foldl_append,
    List.foldl_cons, List.foldl_nil, Path.follow, FileTree.at?_append]
  congr 1
  funext u
  exact Option.bind_fun_some _

end PolicyLint.Scan
