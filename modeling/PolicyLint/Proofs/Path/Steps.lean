/-
# Where a path leads

A path leads on step by step from the root or from the working directory: two dots lead to the
directory above, and a name to the entry that is called so. An empty piece or a dot is no step. So
the steps of a path alone tell which place it leads to, if it leads to something, and what lies
inside a directory is what goes on from its place.

* `Path.steps` : the steps of a path, without what stands in front of them;
* `Path.IsName` : what an entry can be called;
* `Workspace.CanTake` : steps that can be taken from a place;
* `Workspace.LiesAt`, `Workspace.IsInside` : the place that a path leads to;
* `Workspace.LiesAt.eq_follow` : it is told by the steps;
* `Workspace.find_eq_ok_iff` : what a path leads to.
-/
import PolicyLint.FileTree
import PolicyLint.Proofs.Text.Pieces

namespace PolicyLint

namespace Path

/-! ## Pieces -/

/-- A piece is no absolute path. -/
theorem isAbsolute_of_not_mem {piece : String} (h : '/' ∉ piece.toList) :
    isAbsolute piece = false := by
  rw [isAbsolute, beq_eq_false_iff_ne]
  exact fun hhead => h (List.mem_of_mem_head? hhead)

/-- The pieces of a path have no slash. -/
theorem not_mem_of_mem_pieces {path piece : String}
    (h : piece ∈ (pieces path.toList).map String.ofList) : '/' ∉ piece.toList := by
  obtain ⟨q, hq, rfl⟩ := List.mem_map.mp h
  rw [String.toList_ofList]
  exact Text.not_mem_of_mem_splitAt hq

/-- What goes on from a path is absolute if the path is. -/
theorem isAbsolute_append {path : String} (hne : path ≠ "") (more : String) :
    isAbsolute (path ++ more) = isAbsolute path := by
  obtain ⟨c, cs, hpath⟩ := List.exists_cons_of_ne_nil (mt String.toList_eq_nil_iff.mp hne)
  rw [isAbsolute, isAbsolute, String.toList_append, hpath]
  rfl

/-! ## Joining -/

section

variable {base path : String}

/-- Joined to nothing a path is itself. -/
theorem join_empty (path : String) : join "" path = path := by
  rw [join]
  simp

/-- An absolute path stands for itself. -/
theorem join_of_isAbsolute (h : isAbsolute path = true) (base : String) :
    join base path = path := by
  rw [join, h, Bool.true_or, if_pos rfl]

/-- A relative path follows a base and one slash, which the base may end with. -/
theorem join_of_ne_empty (hbase : base ≠ "") (hrelative : isAbsolute path = false) :
    join base path =
      if base.toList.getLast? = some '/' then base ++ path else base ++ "/" ++ path := by
  have hempty : base.isEmpty = false := by simpa using hbase
  rw [join, hrelative, hempty, if_neg (by decide)]
  simp only [beq_iff_eq]

/-- A relative path that is joined to a path goes on from it. -/
theorem exists_join_eq_append (hbase : base ≠ "") (hrelative : isAbsolute path = false) :
    ∃ more, join base path = base ++ more := by
  rw [join_of_ne_empty hbase hrelative]
  split
  · exact ⟨path, rfl⟩
  · exact ⟨"/" ++ path, String.append_assoc⟩

end

/-! ## Steps -/

/-- An empty piece or a dot is no step. -/
theorem step?_eq_none_iff {p : List Char} : step? p = none ↔ p = [] ∨ p = ['.'] := by
  rw [step?]
  split
  · rename_i hnone
    exact iff_of_true rfl hnone
  · rename_i hsome
    refine iff_of_false ?_ hsome
    split
    · exact Option.some_ne_none _
    · exact Option.some_ne_none _

/-- The steps of a path; neither the root nor a dot in front of a path is one. -/
def steps (cs : List Char) : List Component := (pieces cs).filterMap step?

/-- What stands in front of the steps of a path. -/
def lead (path : String) : List Component :=
  if isAbsolute path then [.root]
  else if (pieces path.toList).head? = some ['.'] then [.current]
  else []

/-- An absolute path begins with an empty piece. -/
theorem exists_pieces_of_isAbsolute {path : String} (h : isAbsolute path = true) :
    ∃ cs, pieces path.toList = [] :: pieces cs := by
  obtain ⟨cs, hcs⟩ := List.head?_eq_some_iff.mp (beq_iff_eq.mp h)
  refine ⟨cs, ?_⟩
  rw [hcs, pieces, Text.splitAt, if_pos rfl]
  rfl

/-- The components of a path are what stands in front and its steps. -/
theorem components_eq (path : String) : components path = lead path ++ steps path.toList := by
  rw [components, lead, steps]
  cases hpieces : pieces path.toList with
  | nil => exact absurd hpieces (Text.splitAt_ne_nil _ _)
  | cons first rest =>
      rw [List.filterMap_cons]
      simp only [List.head?_cons, Option.some.injEq]
      by_cases habsolute : isAbsolute path = true
      · -- the empty piece in front of the first slash is no step
        have hfirst : first = [] := by
          obtain ⟨cs, hcs⟩ := exists_pieces_of_isAbsolute habsolute
          exact (List.cons.inj (hpieces.symm.trans hcs)).1
        rw [if_pos habsolute, if_pos habsolute, hfirst]
        rfl
      · rw [if_neg habsolute, if_neg habsolute]
        by_cases hdot : first = ['.']
        · rw [hdot]
          rfl
        · rw [if_neg hdot, if_neg hdot]
          cases step? first with
          | none => rfl
          | some step => rfl

/-- A single piece is at most one step. -/
theorem steps_of_not_mem {piece : List Char} (h : '/' ∉ piece) :
    steps piece = (step? piece).toList := by
  rw [steps, pieces, Text.splitAt_of_not_mem h, List.filterMap_cons]
  cases step? piece with
  | none => rfl
  | some step => rfl

/-- With a slash between two paths the steps of the second follow those of the first. -/
theorem steps_append_slash (as bs : List Char) :
    steps (as ++ '/' :: bs) = steps as ++ steps bs := by
  rw [steps, pieces, Text.splitAt_append, List.filterMap_append]
  rfl

/-- They do where the first ends with a slash. -/
theorem steps_append {as : List Char} (h : as.getLast? = some '/') (bs : List Char) :
    steps (as ++ bs) = steps as ++ steps bs := by
  obtain ⟨cs, rfl⟩ := List.getLast?_eq_some_iff.mp h
  -- what stands behind the last slash is an empty piece
  have hend : steps (cs ++ ['/']) = steps cs := by
    rw [steps_append_slash]
    exact List.append_nil _
  rw [hend, List.append_assoc]
  exact steps_append_slash cs bs

/-- **A relative path that is joined to a path** starts where that does, and its steps follow. -/
theorem join_of_relative {path : String} (hrelative : isAbsolute path = false) (base : String) :
    isAbsolute (join base path) = isAbsolute base ∧
      steps (join base path).toList = steps base.toList ++ steps path.toList := by
  by_cases hbase : base = ""
  · rw [hbase, join_empty, hrelative]
    exact ⟨rfl, rfl⟩
  · obtain ⟨more, hmore⟩ := exists_join_eq_append hbase hrelative
    refine ⟨by rw [hmore, isAbsolute_append hbase], ?_⟩
    rw [join_of_ne_empty hbase hrelative]
    split
    · rename_i hlast
      rw [String.toList_append, steps_append hlast]
    · rw [String.toList_append, String.toList_append, List.append_assoc]
      exact steps_append_slash _ _

/-- A piece that is joined to a path is at most one step on. -/
theorem steps_join (base : String) {piece : String} (hpiece : '/' ∉ piece.toList) :
    steps (join base piece).toList = steps base.toList ++ (step? piece.toList).toList := by
  rw [(join_of_relative (isAbsolute_of_not_mem hpiece) base).2, steps_of_not_mem hpiece]

/-! ## Names -/

/-- Whether a text can be the name of an entry. -/
def IsName (n : String) : Prop := n ≠ "" ∧ n ≠ "." ∧ n ≠ ".." ∧ '/' ∉ n.toList

instance (n : String) : Decidable (IsName n) :=
  inferInstanceAs (Decidable (n ≠ "" ∧ n ≠ "." ∧ n ≠ ".." ∧ '/' ∉ n.toList))

/-- A name is a step. -/
theorem IsName.step?_eq {n : String} (h : IsName n) : step? n.toList = some (.name n) := by
  obtain ⟨hempty, hdot, hdots, -⟩ := h
  have hne {m : String} (hm : n ≠ m) : n.toList ≠ m.toList := mt String.toList_inj.mp hm
  have hsome : ¬ (n.toList = [] ∨ n.toList = ['.']) := not_or.mpr ⟨hne hempty, hne hdot⟩
  have hup : n.toList ≠ ['.', '.'] := hne hdots
  rw [step?, if_neg hsome, if_neg hup, String.ofList_toList]

/-- A step of a path is one upwards or a name. -/
theorem eq_of_mem_steps {cs : List Char} {s : Component} (h : s ∈ steps cs) :
    s = .parent ∨ ∃ n, s = .name n ∧ IsName n := by
  obtain ⟨piece, hpiece, hstep⟩ := List.mem_filterMap.mp h
  have hslash := Text.not_mem_of_mem_splitAt hpiece
  rw [step?] at hstep
  split at hstep
  · cases hstep
  · rename_i hsome
    rw [not_or] at hsome
    split at hstep
    · cases hstep
      exact .inl rfl
    · rename_i hdots
      cases hstep
      have hne {m : String} (hm : piece ≠ m.toList) : String.ofList piece ≠ m :=
        fun heq => hm (by rw [← heq, String.toList_ofList])
      refine .inr ⟨_, rfl, hne hsome.1, hne hsome.2, hne hdots, ?_⟩
      rwa [String.toList_ofList]

/-- Steps go through a base if they are the base and the steps that lead on from there. -/
theorem stripPrefix?_eq_some_iff {base steps rest : List Component} :
    stripPrefix? base steps = some rest ↔ steps = base ++ rest := by
  induction base generalizing steps with
  | nil => simp [stripPrefix?]
  | cons b bs ih =>
      cases steps with
      | nil => simp [stripPrefix?]
      | cons s ss =>
          rw [stripPrefix?, List.cons_append, List.cons.injEq]
          split
          · rename_i hb
            rw [ih, hb, and_iff_right rfl]
          · rename_i hb
            simp [Ne.symm hb]

/-! ## Following the steps -/

/-- The place one step on, given by its names from the root. -/
def follow (here : List String) : Component → List String
  | .root => []
  | .current => here
  | .parent => here.dropLast
  | .name n => here ++ [n]

/-- Names lead to what lies below at these names. -/
theorem foldl_follow_names (here names : List String) :
    (names.map Component.name).foldl follow here = here ++ names := by
  induction names generalizing here with
  | nil => exact (List.append_nil here).symm
  | cons n ns ih =>
      rw [List.map_cons, List.foldl_cons, ih, follow, List.append_assoc]
      rfl

end Path

namespace Workspace

open PolicyLint.Path

section

variable {t : FileTree} {here there : List String} {p : List Char} {ps : List (List Char)}

/-- Whether a step can be taken from a place of a tree: it starts from a directory, and a name is
called as an entry can be and is that of an entry there. -/
def CanTake (t : FileTree) (here : List String) (s : Component) : Prop :=
  (t.at? here).any FileTree.isDirectory = true ∧
    ∀ n, s = .name n → n.utf8ByteSize ≤ maxName ∧ (t.at? (here ++ [n])).isSome = true

/-- A piece that is no step leads nowhere else, but wants a directory too. -/
theorem walk_cons_of_none (h : step? p = none) :
    walk t here (p :: ps) = .ok there ↔
      (t.at? here).any FileTree.isDirectory = true ∧ walk t here ps = .ok there := by
  rw [walk]
  cases (t.at? here).any FileTree.isDirectory with
  | false => simp
  | true => simp [step?_eq_none_iff.mp h]

/-- Another piece leads where its step does, if the step can be taken. -/
theorem walk_cons_of_some {s : Component} (h : step? p = some s) :
    walk t here (p :: ps) = .ok there ↔
      CanTake t here s ∧ walk t (follow here s) ps = .ok there := by
  have hstep : ¬ (p = [] ∨ p = ['.']) := fun hnone => by
    rw [step?_eq_none_iff.mpr hnone] at h
    cases h
  rw [walk, CanTake, if_neg hstep]
  rw [step?, if_neg hstep] at h
  cases (t.at? here).any FileTree.isDirectory with
  | false => simp
  | true =>
      rw [Bool.not_true, if_neg Bool.false_ne_true]
      split at h
      · rename_i hdots
        cases h
        simp [hdots, follow]
      · rename_i hdots
        cases h
        rw [if_neg hdots]
        dsimp only
        split
        · rename_i hlength
          simp [Nat.not_le.mpr hlength]
        · rename_i hlength
          split
          · rename_i hthere
            simp [Nat.not_lt.mp hlength, hthere, follow]
          · rename_i hthere
            simp [hthere]

/-- Pieces that lead to something lead where their steps do. By induction on the pieces: each either
is no step and leads nowhere else, or is followed. -/
theorem foldl_follow_of_walk (h : walk t here ps = .ok there) :
    (ps.filterMap step?).foldl follow here = there := by
  induction ps generalizing here with
  | nil =>
      cases h
      rfl
  | cons p ps ih =>
      rw [List.filterMap_cons]
      cases hstep : step? p with
      | none => exact ih ((walk_cons_of_none hstep).mp h).2
      | some s => exact ih ((walk_cons_of_some hstep).mp h).2

end

variable {w : Workspace} {path : String} {names : List String}

/-- The place that a path is walked from. -/
def start (w : Workspace) (path : String) : List String :=
  if isAbsolute path then [] else w.directory

/-- Whether a path leads to something, which lies at the given names. -/
def LiesAt (w : Workspace) (path : String) (names : List String) : Prop :=
  w.pathExists path = true ∧ walk w.tree (w.start path) (pieces path.toList) = .ok names

/-- Where a path starts is told by the working directory and by whether the path is absolute. -/
theorem start_congr {w' : Workspace} {path other : String} (hdirectory : w'.directory = w.directory)
    (habsolute : isAbsolute other = isAbsolute path) : w'.start other = w.start path := by
  rw [start, start, hdirectory, habsolute]

/-- **The steps of a path tell where it leads.** -/
theorem LiesAt.eq_follow (h : w.LiesAt path names) :
    names = (steps path.toList).foldl follow (w.start path) :=
  (foldl_follow_of_walk h.2).symm

/-- A path leads to one place. -/
theorem LiesAt.unique {others : List String} (h : w.LiesAt path names) (h' : w.LiesAt path others) :
    names = others :=
  h.eq_follow.trans h'.eq_follow.symm

/-- What goes on from a path by names lies below what the path leads to. -/
theorem LiesAt.eq_append {other : String} {here there : List String} (h : w.LiesAt path here)
    (h' : w.LiesAt other there) (habsolute : isAbsolute other = isAbsolute path)
    (hsteps : steps other.toList = steps path.toList ++ names.map .name) :
    there = here ++ names := by
  rw [h'.eq_follow, hsteps, List.foldl_append, start_congr rfl habsolute, ← h.eq_follow,
    foldl_follow_names]

/-- What a path leads to: the path is not empty, has no forbidden character and is not too long, and
its pieces are walked to a place of the tree. -/
theorem find_eq_ok_iff {t : FileTree} :
    w.find path = .ok t ↔
      '\x00' ∉ path.toList ∧ path ≠ "" ∧ path.utf8ByteSize ≤ maxPath ∧
        ∃ here, walk w.tree (w.start path) (pieces path.toList) = .ok here ∧
          w.tree.at? here = some t := by
  rw [find, start]
  by_cases hnul : '\x00' ∈ path.toList
  · simp [hnul, throw, throwThe, MonadExceptOf.throw, bind, Except.bind]
  · by_cases hempty : path = ""
    · simp [hempty, throw, throwThe, MonadExceptOf.throw, bind, Except.bind]
    · by_cases hlength : maxPath < path.utf8ByteSize
      · simp [hnul, hempty, hlength, Nat.not_le.mpr hlength, throw, throwThe, MonadExceptOf.throw,
          bind, Except.bind]
      · cases hwalk : walk w.tree (if isAbsolute path then [] else w.directory)
            (pieces path.toList) with
        | error e => simp [hnul, hempty, hlength, hwalk, bind, Except.bind]
        | ok here =>
            cases hat : w.tree.at? here with
            | none => simp [hnul, hempty, hlength, hwalk, hat, bind, Except.bind]
            | some u =>
                simp [hnul, hempty, hlength, Nat.not_lt.mp hlength, hwalk, hat, bind, Except.bind]

/-- What is there is found. -/
theorem exists_find_eq_ok (h : w.pathExists path = true) : ∃ t, w.find path = .ok t := by
  rw [pathExists] at h
  cases hfind : w.find path with
  | error e =>
      rw [hfind] at h
      cases h
  | ok t => exact ⟨t, rfl⟩

/-- What a path leads to lies at some names. -/
theorem exists_liesAt {t : FileTree} (h : w.find path = .ok t) :
    ∃ here, w.LiesAt path here ∧ w.tree.at? here = some t := by
  have hexists : w.pathExists path = true := by rw [pathExists, h]
  obtain ⟨-, -, -, here, hwalk, hat⟩ := find_eq_ok_iff.mp h
  exact ⟨here, ⟨hexists, hwalk⟩, hat⟩

/-- Whether a path leads to something inside of what another path leads to. -/
def IsInside (w : Workspace) (path directory : String) : Prop :=
  ∃ here names, w.LiesAt directory here ∧ w.LiesAt path (here ++ names) ∧ names ≠ []

end Workspace

end PolicyLint
