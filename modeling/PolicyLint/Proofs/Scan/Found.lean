/-
# What is found below a directory

The globs of a directory lead through its pieces and then below it. So what they find has the path of
the directory, as it is taken piece by piece, and goes on with names, of which the last is that of a
source. And whatever lies below the directory at such names is found, if its path is not too long.

* `Glob.Place.exists_names_of_mem_below`, `Glob.Place.mem_below` : what lies below a place;
* `Glob.exists_of_mem_advance_plain`, `Glob.mem_advance_plain` : what the pieces of a directory lead
  to;
* `Glob.mem_advance_tail_iff` : what the end of a glob of sources leads to;
* `Scan.exists_names_of_mem_sources`, `Scan.mem_sources_of_pathBelow?` : the sources of a directory.
-/
import PolicyLint.Proofs.Scan.Below

namespace PolicyLint

open PolicyLint.Path (IsName)

/-- What can be the name of an entry. -/
theorem Path.isName_iff {n : String} : isName n = true ↔ IsName n := by
  rw [isName, Bool.and_eq_true, beq_iff_eq, Bool.not_eq_true']
  constructor
  · rintro ⟨hstep, hslash⟩
    refine ⟨?_, ?_, ?_, by simpa using hslash⟩ <;> rintro rfl
    · cases hstep
    · cases hstep
    · exact absurd hstep (by decide)
  · intro h
    exact ⟨h.step?_eq, by simpa using h.2.2.2⟩

namespace Glob

open PolicyLint.Scan (step?)

variable {w : Workspace} {here place : Place}

/-- A piece with wildcards and without a slash is a name. -/
theorem isName_of_any_isWild {cs : List Char} (hslash : '/' ∉ cs) (h : cs.any isWild = true) :
    IsName (String.ofList cs) := by
  have hne {s : String} (hs : s.toList.any isWild = false) : String.ofList cs ≠ s := by
    rintro rfl
    rw [String.toList_ofList, h] at hs
    cases hs
  refine ⟨hne rfl, hne rfl, hne rfl, ?_⟩
  rwa [String.toList_ofList]

/-! ## Places -/

@[simp] theorem Place.path_of (w : Workspace) (path : String) : (Place.of w path).path = path := by
  rw [Place.of]
  split
  · rfl
  · rfl

/-- A path stands with what it leads to. -/
theorem Place.of_find {path : String} {t : FileTree} (h : w.find path = .ok t) :
    Place.of w path = ⟨path, t⟩ := by
  rw [Place.of, h]

/-- An entry lies one step on, and has a name. -/
theorem Place.mem_entries {e : String × Place} (h : e ∈ here.entries) :
    IsName e.1 ∧ e.2.path = pathTo here.path e.1 := by
  rw [entries] at h
  split at h
  · cases h
  · split at h
    · obtain ⟨x, hx, rfl⟩ := List.mem_map.mp h
      exact ⟨Path.isName_iff.mp (List.mem_filter.mp hx).2, rfl⟩
    · cases h

/-- A place is open if it is a directory and its path is not too long. -/
theorem Place.isOpen_iff :
    here.isOpen = true ↔
      here.tree.isDirectory = true ∧ here.path.utf8ByteSize ≤ Workspace.maxPath := by
  rw [isOpen, Bool.and_eq_true, decide_eq_true_eq]

/-- An entry of an open place is found by its name. -/
theorem Place.mem_entries_of_entry? {n : String} {t : FileTree} (hname : IsName n)
    (hopen : here.isOpen = true) (h : here.tree.entry? n = some t) :
    (n, ⟨pathTo here.path n, t⟩) ∈ here.entries := by
  obtain ⟨path, content | es⟩ := here
  · cases h
  · rw [entries]
    dsimp only
    rw [if_pos hopen]
    exact List.mem_map.mpr ⟨(n, t), List.mem_filter.mpr ⟨FileTree.mem_of_lookup_eq_some h,
      Path.isName_iff.mpr hname⟩, rfl⟩

/-- What lies below a path lies below an entry, or is one. -/
theorem Place.mem_belowAll_iff {path : String} {es : List (String × FileTree)}
    {e : String × Place} :
    e ∈ belowAll path es ↔ ∃ x ∈ es, IsName x.1 ∧
      (e = (x.1, ⟨pathTo path x.1, x.2⟩) ∨ e ∈ below (pathTo path x.1) x.2) := by
  induction es with
  | nil => simp [belowAll]
  | cons x es ih =>
      obtain ⟨n, t⟩ := x
      rw [belowAll, List.exists_mem_cons_iff]
      by_cases hname : IsName n
      · rw [if_pos (Path.isName_iff.mpr hname), List.mem_cons, List.mem_append, ih,
          and_iff_right hname, or_assoc]
      · rw [if_neg (mt Path.isName_iff.mp hname), ih]
        simp [hname]

/-- **What lies below a path** has its path and goes on with names. By induction on the tree. -/
theorem Place.exists_names_of_mem_below {t : FileTree} {path : String} {e : String × Place}
    (h : e ∈ below path t) :
    ∃ names : List String, (∀ n ∈ names, IsName n) ∧ names.getLast? = some e.1 ∧
      names.foldlM step? path = some e.2.path := by
  induction t using FileTree.induct generalizing path with
  | file content => cases h
  | directory es ih =>
      rw [below] at h
      split at h
      · obtain ⟨x, hx, hname, rfl | hbelow⟩ := mem_belowAll_iff.mp h
        · refine ⟨[x.1], List.forall_mem_singleton.mpr hname, rfl, ?_⟩
          rw [List.foldlM_cons, Scan.step?_of_isName hname]
          rfl
        · obtain ⟨names, hnames, hlast, hpath⟩ := ih x hx hbelow
          refine ⟨x.1 :: names, List.forall_mem_cons.mpr ⟨hname, hnames⟩, ?_, ?_⟩
          · rw [List.getLast?_cons, hlast]
            rfl
          · rw [List.foldlM_cons, Scan.step?_of_isName hname]
            exact hpath
      · cases h

/-- **Whatever lies below a path at some names is there**, if its path is not too long. By induction
on the names. -/
theorem Place.mem_below {t u : FileTree} {path file name : String} {names : List String}
    (hne : path ≠ "") (hnames : ∀ n ∈ names, IsName n) (hlast : names.getLast? = some name)
    (hat : t.at? names = some u) (hpath : names.foldlM step? path = some file)
    (hlength : file.utf8ByteSize ≤ Workspace.maxPath) : (name, ⟨file, u⟩) ∈ below path t := by
  induction names generalizing t path with
  | nil => cases hlast
  | cons n names ih =>
      -- no path on the way is longer than the last, so each of them can be read
      have hshort := Nat.le_trans
        (Scan.size_le_of_foldlM_step? hne (fun n hn => (hnames n hn).2.2.2) hpath) hlength
      rw [List.forall_mem_cons] at hnames
      obtain ⟨v, hentry, hbelow⟩ := Option.bind_eq_some_iff.mp hat
      rw [List.foldlM_cons, Scan.step?_of_isName hnames.1] at hpath
      cases t with
      | file content => cases hentry
      | directory es =>
          rw [below, if_pos (isOpen_iff.mpr ⟨rfl, hshort⟩), mem_belowAll_iff]
          refine ⟨(n, v), FileTree.mem_of_lookup_eq_some hentry, hnames.1, ?_⟩
          cases names with
          | nil =>
              left
              cases hlast
              cases hbelow
              cases hpath
              rfl
          | cons m names =>
              right
              have hstep := Scan.step?_of_isName hnames.1 path
              have hon := (Scan.steps_of_step? hne hnames.1.2.2.2 hstep).1
              exact ih hon hnames.2 hlast hbelow hpath

/-! ## Pieces -/

/-- A piece without wildcards is a step to something. -/
theorem mem_advance_literal_iff {s : List Char} {qs : List (List Token)}
    (hwild : ¬ s.any isWild = true) :
    place ∈ advance w (plain s :: qs) here ↔
      (if String.ofList s ∈ dots then here.tree.isDirectory
        else w.pathExists (Place.pathTo here.path (String.ofList s))) = true ∧
      place ∈ advance w qs (.of w (Place.pathTo here.path (String.ofList s))) := by
  rw [advance, text?_plain, if_neg hwild]
  dsimp only
  by_cases hthere : (if String.ofList s ∈ dots then here.tree.isDirectory
      else w.pathExists (Place.pathTo here.path (String.ofList s))) = true
  · rw [if_pos hthere, and_iff_right hthere]
  · rw [if_neg hthere]
    exact iff_of_false List.not_mem_nil fun h => hthere h.1

/-- A piece with wildcards is the name of an entry; it is no dot. -/
theorem mem_advance_wild_iff {s : List Char} {qs : List (List Token)}
    (hwild : s.any isWild = true) :
    place ∈ advance w (plain s :: qs) here ↔
      ∃ next, (String.ofList s, next) ∈ here.entries ∧ place ∈ advance w qs next := by
  -- the piece would have to be the dots themselves, which have no wildcards
  have hdots : ∀ step ∈ dots, ¬ matchesTokens (plain s) step.toList = true := by
    intro step hstep hmatches
    rw [← matchesTokens_plain.mp hmatches] at hwild
    rcases List.mem_pair.mp hstep with rfl | rfl <;> cases hwild
  rw [advance, text?_plain, if_pos hwild]
  dsimp only
  rw [isRecursive_plain, if_neg Bool.false_ne_true, List.mem_append, List.mem_flatMap]
  constructor
  · rintro (⟨⟨name, next⟩, hentry, hplace⟩ | h)
    · obtain ⟨hmem, hmatches⟩ := List.mem_filter.mp hentry
      have hname : name = String.ofList s := by
        rw [← matchesTokens_plain.mp hmatches, String.ofList_toList]
      exact ⟨next, hname ▸ hmem, hplace⟩
    · obtain ⟨step, hstep, -⟩ := List.mem_flatMap.mp h
      split at hstep
      · obtain ⟨hmem, hmatches⟩ := List.mem_filter.mp hstep
        exact absurd hmatches (hdots step hmem)
      · cases hstep
  · rintro ⟨next, hmem, hplace⟩
    refine .inl ⟨_, List.mem_filter.mpr ⟨hmem, ?_⟩, hplace⟩
    exact matchesTokens_plain.mpr String.toList_ofList

/-- **What the pieces of a path lead to** has the path that they make, and the other pieces go on
from there. By induction on the pieces. -/
theorem exists_of_mem_advance_plain {ps : List (List Char)} {qs : List (List Token)}
    (h : place ∈ advance w (ps.map plain ++ qs) here) :
    ∃ there : Place, (ps.map String.ofList).foldlM step? here.path = some there.path ∧
      place ∈ advance w qs there := by
  induction ps generalizing here with
  | nil => exact ⟨here, rfl, h⟩
  | cons s ps ih =>
      have hnext : ∃ next : Place, step? here.path (String.ofList s) = some next.path ∧
          place ∈ advance w (ps.map plain ++ qs) next := by
        rw [List.map_cons, List.cons_append] at h
        by_cases hwild : s.any isWild = true
        · obtain ⟨next, hentry, hplace⟩ := (mem_advance_wild_iff hwild).mp h
          obtain ⟨hname, hpath⟩ := Place.mem_entries hentry
          exact ⟨next, hpath ▸ Scan.step?_of_isName hname here.path, hplace⟩
        · obtain ⟨hthere, hplace⟩ := (mem_advance_literal_iff hwild).mp h
          refine ⟨_, Scan.step?_eq_some_iff.mpr ⟨?_, (Place.path_of _ _).symm⟩, hplace⟩
          rintro ⟨hdot, hempty⟩
          -- nothing lies at the empty path
          rw [hdot, hempty, if_neg (by decide)] at hthere
          cases hthere
      obtain ⟨next, hstep, hplace⟩ := hnext
      obtain ⟨there, hthere, hend⟩ := ih hplace
      refine ⟨there, ?_, hend⟩
      rw [List.map_cons, List.foldlM_cons, hstep]
      exact hthere

/-- **The pieces of a directory lead to it.** By induction on the pieces that remain: on the way each
path leads to a directory, so a piece without wildcards is a step to something, and one with some is
the name of an entry. -/
theorem mem_advance_plain {d path start : String} {tree : FileTree} {as ps : List (List Char)}
    {qs : List (List Token)} (hfind : w.find d = .ok tree) (htree : tree.isDirectory = true)
    (hpieces : piecesFrom d = as ++ ps)
    (hpath : (as.map String.ofList).foldlM step? (origin d) = some path)
    (hstart : (ps.map String.ofList).foldlM step? path = some start)
    (hlength : start.utf8ByteSize ≤ Workspace.maxPath) (h : place ∈ advance w qs (.of w start)) :
    place ∈ advance w (ps.map plain ++ qs) (.of w path) := by
  induction ps generalizing as path with
  | nil =>
      cases hstart
      exact h
  | cons s ps ih =>
      obtain ⟨next, hnext, hrest⟩ := Option.bind_eq_some_iff.mp hstart
      have hnextPieces : piecesFrom d = (as ++ [s]) ++ ps := by
        rw [hpieces, List.append_assoc]
        rfl
      have hnextPath : ((as ++ [s]).map String.ofList).foldlM step? (origin d) = some next := by
        rw [List.map_append, List.foldlM_append, hpath]
        exact (bind_pure _).trans hnext
      have hon := ih hnextPieces hnextPath hrest
      -- both the path so far and the next one lead to directories
      obtain ⟨u, hu, hdirectory, huAt⟩ :=
        Scan.exists_find_of_pieces hfind htree hpieces hpath hstart hlength
      obtain ⟨v, hv, -, hvAt⟩ :=
        Scan.exists_find_of_pieces hfind htree hnextPieces hnextPath hrest hlength
      have hnextTo := (Scan.step?_eq_some_iff.mp hnext).2
      rw [List.map_cons, List.cons_append, Place.of_find hu]
      by_cases hwild : s.any isWild = true
      · have hslash : '/' ∉ s := Scan.not_mem_of_mem_piecesFrom
          (hpieces ▸ List.mem_append_right as List.mem_cons_self)
        have hname := isName_of_any_isWild hslash hwild
        rw [Scan.at?_of_pieces_concat hname, huAt] at hvAt
        refine (mem_advance_wild_iff hwild).mpr ⟨.of w next, ?_, hon⟩
        rw [Place.of_find hv, ← hnextTo]
        exact Place.mem_entries_of_entry? hname
          (Place.isOpen_iff.mpr ⟨hdirectory, (Workspace.find_eq_ok_iff.mp hu).2.2.1⟩) hvAt
      · refine (mem_advance_literal_iff hwild).mpr ?_
        rw [hnextTo]
        refine ⟨?_, hon⟩
        split
        · exact hdirectory
        · rw [Workspace.pathExists, hv]

/-- **What the end of a glob of sources leads to**: all that lies below and is named so. -/
theorem mem_advance_tail_iff {ending : String} :
    place ∈ advance w [[.anyPieces], lastPiece ending] here ↔
      ∃ name, (name, place) ∈ Place.below here.path here.tree ∧
        ending.toList <:+ name.toList := by
  have hmeet (e : String × Place) : place ∈ meet w [lastPiece ending] e.1 e.2 ↔
      place = e.2 ∧ ending.toList <:+ e.1.toList := by
    have hlast : isRecursive (lastPiece ending) = false := isRecursive_plain ending.toList
    rw [meet, hlast, if_neg Bool.false_ne_true, ← matchesTokens_lastPiece]
    split
    · rename_i hmatches
      rw [advance, List.mem_singleton, and_iff_left hmatches]
    · rename_i hmatches
      simp [hmatches]
  have hadvance : advance w [[.anyPieces], lastPiece ending] here =
      (Place.below here.path here.tree).flatMap fun e => meet w [lastPiece ending] e.1 e.2 := by
    rw [advance]
    rfl
  rw [hadvance, List.mem_flatMap]
  simp only [hmeet]
  constructor
  · rintro ⟨⟨name, there⟩, hbelow, rfl, hends⟩
    exact ⟨name, hbelow, hends⟩
  · rintro ⟨name, hbelow, hends⟩
    exact ⟨(name, place), hbelow, rfl, hends⟩

end Glob

namespace Scan

variable {w : Workspace} {d file : String} {names : List String}

/-- There are names that lead to a source. -/
theorem ne_nil_of_any_isSource (h : names.getLast?.any isSource = true) : names ≠ [] := by
  rintro rfl
  cases h

/-- **What is found below a directory** has the path of the directory and goes on with names, of
which the last is that of a source. -/
theorem exists_names_of_mem_sources (hne : d ≠ "") (h : file ∈ sources w d) :
    ∃ names, (∀ n ∈ names, IsName n) ∧ names.getLast?.any isSource = true ∧
      pathBelow? d names = some file := by
  obtain ⟨ending, hending, hfile⟩ := List.mem_flatMap.mp h
  rw [Glob.walk_sourceGlob hne hending] at hfile
  obtain ⟨place, hplace, rfl⟩ := List.mem_map.mp hfile
  obtain ⟨start, hstart, htail⟩ := Glob.exists_of_mem_advance_plain hplace
  obtain ⟨name, hbelow, hends⟩ := Glob.mem_advance_tail_iff.mp htail
  obtain ⟨names, hnames, hlast, hpath⟩ := Glob.Place.exists_names_of_mem_below hbelow
  rw [Glob.Place.path_of] at hstart
  refine ⟨names, hnames, ?_, Option.bind_eq_some_iff.mpr ⟨_, hstart, hpath⟩⟩
  rw [hlast, Option.any_some, isSource, List.any_eq_true]
  exact ⟨ending, hending, List.isSuffixOf_iff_suffix.mpr hends⟩

/-- **Whatever lies below a directory and is named as sources are is found**, if its path is not too
long. -/
theorem mem_sources_of_pathBelow? {tree u : FileTree} (hfind : w.find d = .ok tree)
    (htree : tree.isDirectory = true) (hnames : ∀ n ∈ names, IsName n)
    (hsource : names.getLast?.any isSource = true) (hat : tree.at? names = some u)
    (h : pathBelow? d names = some file) (hlength : file.utf8ByteSize ≤ Workspace.maxPath) :
    file ∈ sources w d := by
  have hd : d ≠ "" := (Workspace.find_eq_ok_iff.mp hfind).2.1
  obtain ⟨start, hstart, hpath⟩ := Option.bind_eq_some_iff.mp h
  obtain ⟨name, hlast, hends⟩ := (Option.any_eq_true _ _).mp hsource
  obtain ⟨ending, hending, hsuffix⟩ := List.any_eq_true.mp hends
  have hne := (steps_of_spell? hstart).1
  have hshort := Nat.le_trans
    (size_le_of_foldlM_step? hne (fun n hn => (hnames n hn).2.2.2) hpath) hlength
  have hbelow := Glob.Place.mem_below hne hnames hlast hat hpath hlength
  -- the glob for the ending of the last name leads there
  rw [sources, List.mem_flatMap]
  refine ⟨ending, hending, ?_⟩
  rw [Glob.walk_sourceGlob hd hending]
  refine List.mem_map.mpr ⟨⟨file, u⟩, ?_, rfl⟩
  refine Glob.mem_advance_plain hfind htree (List.nil_append _).symm rfl hstart hshort ?_
  rw [Glob.Place.of_find (find_of_spell? hfind htree hstart hshort)]
  exact Glob.mem_advance_tail_iff.mpr ⟨name, hbelow, List.isSuffixOf_iff_suffix.mp hsuffix⟩

end Scan

end PolicyLint
