/-
# Paths taken piece by piece

A directory is taken piece by piece from the root or from the working directory, whose dot is left
behind. The path that this makes has the steps of the directory, and a relative one has no dot and
slash in front. It fails in one case only: from the dots that a relative directory begins with an
empty piece leads nowhere.

* `Scan.step?`, `Scan.spell?` : a directory taken piece by piece;
* `Scan.steps_of_foldlM_step?`, `Scan.foldlM_step?_eq_none_iff` : what many steps make;
* `Scan.IsBare` : a path without a dot and a slash in front of it;
* `Scan.steps_of_pieces`, `Scan.steps_of_spell?` : the steps of a directory;
* `Scan.IsLost`, `Scan.spell?_eq_none_iff` : directories that cannot be taken piece by piece.
-/
import PolicyLint.Proofs.Scan.Escaped

namespace PolicyLint

open PolicyLint.Path (IsName lead steps)

namespace Scan

variable {d file path piece next start : String} {names ps : List String}

/-! ## Piece by piece -/

/-- The path one step on. A step from the working directory leaves its dot behind, and there is no
empty step from there. -/
def step? (path piece : String) : Option String :=
  if path = "." then if piece.isEmpty then none else some piece
  else some (Path.join path piece)

/-- The path of a directory taken piece by piece, from the root or from the working directory. -/
def spell? (directory : String) : Option String :=
  ((Glob.piecesFrom directory).map String.ofList).foldlM step? (Glob.origin directory)

/-- There is a step on but for the empty one from the working directory. -/
theorem step?_eq_some_iff :
    step? path piece = some next ↔
      ¬ (path = "." ∧ piece = "") ∧ Glob.Place.pathTo path piece = next := by
  rw [step?, Glob.Place.pathTo]
  by_cases hdot : path = "."
  · simp [hdot]
  · simp [hdot]

/-- A name is a step on. -/
theorem step?_of_isName {n : String} (h : IsName n) (path : String) :
    step? path n = some (Glob.Place.pathTo path n) :=
  step?_eq_some_iff.mpr ⟨fun hempty => h.1 hempty.2, rfl⟩

/-! ## One step on -/

/-- There is no empty step from the working directory, and no other way to fail. -/
theorem step?_eq_none_iff : step? path piece = none ↔ path = "." ∧ piece = "" := by
  rw [step?]
  split
  · rename_i hdot
    split
    · rename_i hempty
      exact iff_of_true rfl ⟨hdot, String.isEmpty_iff.mp hempty⟩
    · rename_i hempty
      exact iff_of_false (Option.some_ne_none _) fun h => hempty (String.isEmpty_iff.mpr h.2)
  · rename_i hdot
    exact iff_of_false (Option.some_ne_none _) fun h => hdot h.1

/-- A dot leads from the working directory to itself, and nothing else leads there. -/
theorem eq_dot_of_step? (hne : path ≠ "") (hpiece : '/' ∉ piece.toList)
    (h : step? path piece = some ".") : path = "." ∧ piece = "." := by
  rw [step?] at h
  split at h
  · rename_i hdot
    split at h
    · cases h
    · exact ⟨hdot, Option.some.inj h⟩
  · -- what goes on from a path is one dot only if the path is
    rename_i hdot
    obtain ⟨more, hmore⟩ := Path.exists_join_eq_append hne (Path.isAbsolute_of_not_mem hpiece)
    have hsingle : path.toList ++ more.toList = ['.'] := by
      rw [← String.toList_append, ← hmore, Option.some.inj h]
      rfl
    rcases List.append_eq_singleton_iff.mp hsingle with ⟨hempty, -⟩ | ⟨hpath, -⟩
    · exact absurd (String.toList_eq_nil_iff.mp hempty) hne
    · exact absurd (String.toList_inj.mp hpath) hdot

/-- A slash aside, one step on there are only the characters of the path and of the step. -/
theorem mem_of_step? {c : Char} (h : step? path piece = some next) (hc : c ∈ next.toList) :
    c ∈ path.toList ∨ c = '/' ∨ c ∈ piece.toList := by
  rw [step?] at h
  split at h
  · split at h
    · cases h
    · cases h
      exact .inr (.inr hc)
  · cases h
    rw [Path.join] at hc
    split at hc
    · exact .inr (.inr hc)
    · split at hc
      · rw [String.toList_append, List.mem_append] at hc
        exact hc.imp_right .inr
      · rw [String.toList_append, String.toList_append, List.mem_append, List.mem_append] at hc
        rcases hc with (hc | hc) | hc
        · exact .inl hc
        · exact .inr (.inl (List.mem_singleton.mp hc))
        · exact .inr (.inr hc)

/-- What is joined to a path stands behind a slash. -/
theorem exists_toList_join (hne : path ≠ "") (hpiece : '/' ∉ piece.toList) :
    ∃ cs, (Path.join path piece).toList = cs ++ '/' :: piece.toList := by
  rw [Path.join_of_ne_empty hne (Path.isAbsolute_of_not_mem hpiece)]
  split
  · rename_i hlast
    obtain ⟨cs, hcs⟩ := List.getLast?_eq_some_iff.mp hlast
    refine ⟨cs, ?_⟩
    rw [String.toList_append, hcs, List.append_assoc]
    rfl
  · refine ⟨path.toList, ?_⟩
    rw [String.toList_append, String.toList_append, List.append_assoc]
    rfl

/-- The piece that a path goes on with is its last. -/
theorem getLast?_pieces_of_step? (hne : path ≠ "") (hpiece : '/' ∉ piece.toList)
    (h : step? path piece = some next) :
    (Path.pieces next.toList).getLast? = some piece.toList := by
  have hsingle : Path.pieces piece.toList = [piece.toList] := Text.splitAt_of_not_mem hpiece
  rw [step?] at h
  split at h
  · split at h
    · cases h
    · cases h
      rw [hsingle]
      rfl
  · cases h
    obtain ⟨cs, hcs⟩ := exists_toList_join hne hpiece
    rw [hcs, Path.pieces, Text.splitAt_append, ← Path.pieces, ← Path.pieces, hsingle]
    exact List.getLast?_concat

/-- One step on from a path. -/
theorem steps_of_step? {path piece next : String} (hne : path ≠ "") (hpiece : '/' ∉ piece.toList)
    (h : step? path piece = some next) :
    next ≠ "" ∧ Path.isAbsolute next = Path.isAbsolute path ∧
      steps next.toList = steps path.toList ++ (Path.step? piece.toList).toList := by
  rw [step?] at h
  split at h
  · -- the dot is left behind; it was no step
    rename_i hdot
    split at h
    · cases h
    · rename_i hempty
      cases h
      refine ⟨fun heq => hempty (String.isEmpty_iff.mpr heq), ?_, ?_⟩
      · rw [Path.isAbsolute_of_not_mem hpiece, hdot]
        rfl
      · rw [hdot, Path.steps_of_not_mem hpiece]
        rfl
  · cases h
    obtain ⟨more, hmore⟩ := Path.exists_join_eq_append hne (Path.isAbsolute_of_not_mem hpiece)
    refine ⟨?_, ?_, Path.steps_join path hpiece⟩
    · rw [hmore]
      exact fun heq => hne (String.append_eq_empty_iff.mp heq).1
    · rw [hmore, Path.isAbsolute_append hne]

/-- No path is longer than what goes on from it. -/
theorem size_le_of_step? (hne : path ≠ "") (hpiece : '/' ∉ piece.toList)
    (h : step? path piece = some next) : path.utf8ByteSize ≤ next.utf8ByteSize := by
  rw [step?] at h
  split at h
  · -- the dot gives way to a piece that is not empty
    rename_i hdot
    split at h
    · cases h
    · rename_i hempty
      cases h
      rw [hdot]
      exact Nat.pos_of_ne_zero (mt String.utf8ByteSize_eq_zero_iff.mp
        fun heq => hempty (String.isEmpty_iff.mpr heq))
  · cases h
    obtain ⟨more, hmore⟩ := Path.exists_join_eq_append hne (Path.isAbsolute_of_not_mem hpiece)
    rw [hmore, String.utf8ByteSize_append]
    exact Nat.le_add_right _ _

/-! ## Many steps on -/

/-- Many steps on from a path. -/
theorem steps_of_foldlM_step? {path next : String} {ps : List String} (hne : path ≠ "")
    (hps : ∀ p ∈ ps, '/' ∉ p.toList) (h : ps.foldlM step? path = some next) :
    next ≠ "" ∧ Path.isAbsolute next = Path.isAbsolute path ∧
      steps next.toList = steps path.toList ++ ps.filterMap fun p => Path.step? p.toList := by
  induction ps generalizing path with
  | nil =>
      cases h
      exact ⟨hne, rfl, (List.append_nil _).symm⟩
  | cons p ps ih =>
      rw [List.foldlM_cons] at h
      obtain ⟨middle, hmiddle, hrest⟩ := Option.bind_eq_some_iff.mp h
      obtain ⟨hne', habsolute', hsteps'⟩ := steps_of_step? hne (hps p List.mem_cons_self) hmiddle
      obtain ⟨hnext, habsolute, hsteps⟩ :=
        ih hne' (fun q hq => hps q (List.mem_cons_of_mem p hq)) hrest
      refine ⟨hnext, habsolute.trans habsolute', ?_⟩
      rw [hsteps, hsteps', List.append_assoc, List.filterMap_cons]
      cases Path.step? p.toList with
      | none => rfl
      | some s => rfl

/-- Nor is it longer after many steps. -/
theorem size_le_of_foldlM_step? (hne : path ≠ "") (hps : ∀ p ∈ ps, '/' ∉ p.toList)
    (h : ps.foldlM step? path = some next) : path.utf8ByteSize ≤ next.utf8ByteSize := by
  refine (List.foldlM_induction (P := fun q => q ≠ "" ∧ path.utf8ByteSize ≤ q.utf8ByteSize)
    ?_ ⟨hne, Nat.le_refl _⟩ h).2
  rintro p hp q q' ⟨hq, hle⟩ hstep
  exact ⟨(steps_of_step? hq (hps p hp) hstep).1,
    Nat.le_trans hle (size_le_of_step? hq (hps p hp) hstep)⟩

/-- A slash aside, no characters are added on the way but those of the steps. -/
theorem not_mem_of_foldlM_step? {c : Char} (hslash : c ≠ '/') (hpath : c ∉ path.toList)
    (hps : ∀ p ∈ ps, c ∉ p.toList) (h : ps.foldlM step? path = some next) : c ∉ next.toList := by
  refine List.foldlM_induction (P := fun q => c ∉ q.toList) ?_ hpath h
  intro p hp q q' hq hstep hc
  rcases mem_of_step? hstep hc with hc | hc | hc
  · exact hq hc
  · exact hslash hc
  · exact hps p hp hc

/-- **Only an empty piece after dots cannot be taken**, and only from the working directory. By
induction on the pieces: a dot leads back to the working directory, and another piece leads to
where each piece can be taken. -/
theorem foldlM_step?_eq_none_iff (hne : path ≠ "") (hps : ∀ p ∈ ps, '/' ∉ p.toList) :
    ps.foldlM step? path = none ↔
      path = "." ∧ ∃ n rest, ps = List.replicate n "." ++ "" :: rest := by
  induction ps generalizing path with
  | nil =>
      refine iff_of_false (Option.some_ne_none _) ?_
      rintro ⟨-, n, rest, h⟩
      exact List.append_ne_nil_of_right_ne_nil _ (List.cons_ne_nil _ _) h.symm
  | cons p ps ih =>
      rw [List.forall_mem_cons] at hps
      rw [List.foldlM_cons]
      cases hstep : step? path p with
      | none =>
          obtain ⟨hdot, hempty⟩ := step?_eq_none_iff.mp hstep
          exact iff_of_true rfl ⟨hdot, 0, ps, by rw [hempty]; rfl⟩
      | some next =>
          have hnext := (steps_of_step? hne hps.1 hstep).1
          refine (ih hnext hps.2).trans ⟨?_, ?_⟩
          · rintro ⟨rfl, n, rest, hrest⟩
            obtain ⟨hdot, hp⟩ := eq_dot_of_step? hne hps.1 hstep
            exact ⟨hdot, n + 1, rest, by rw [hp, hrest]; rfl⟩
          · rintro ⟨rfl, _ | n, rest, hcons⟩
            · cases hcons
              cases hstep
            · cases hcons
              cases hstep
              exact ⟨rfl, n, rest, rfl⟩

/-- Names can be taken from anywhere. -/
theorem exists_foldlM_step?_names (hne : path ≠ "") (hnames : ∀ n ∈ names, IsName n) :
    ∃ file, names.foldlM step? path = some file := by
  rw [← Option.ne_none_iff_exists']
  intro hnone
  obtain ⟨-, n, rest, rfl⟩ :=
    (foldlM_step?_eq_none_iff hne fun n hn => (hnames n hn).2.2.2).mp hnone
  exact (hnames "" (List.mem_append_right _ List.mem_cons_self)).1 rfl

/-- The steps that names are. -/
theorem filterMap_step?_names {names : List String} (h : ∀ n ∈ names, IsName n) :
    names.filterMap (fun n => Path.step? n.toList) = names.map .name := by
  induction names with
  | nil => rfl
  | cons n ns ih =>
      rw [List.filterMap_cons, (h n List.mem_cons_self).step?_eq, List.map_cons,
        ih fun m hm => h m (List.mem_cons_of_mem n hm)]

/-! ## Bare paths -/

/-- Whether a path is not empty and has no dot and slash in front of it. -/
def IsBare (path : String) : Prop :=
  path ≠ "" ∧ ∀ cs, path.toList ≠ '.' :: '/' :: cs

/-- What goes on from a bare path other than the dot is a bare path. -/
theorem IsBare.append {path : String} (h : IsBare path) (hdot : path ≠ ".") (more : String) :
    IsBare (path ++ more) := by
  obtain ⟨hne, hbare⟩ := h
  have hempty : path.toList ≠ [] := mt String.toList_eq_nil_iff.mp hne
  constructor
  · exact fun heq => hne (String.append_eq_empty_iff.mp heq).1
  · intro cs hcs
    rw [String.toList_append] at hcs
    rcases hpath : path.toList with _ | ⟨a, _ | ⟨b, bs⟩⟩
    · exact hempty hpath
    · rw [hpath] at hcs
      rw [(List.cons.inj hcs).1] at hpath
      exact hdot (String.toList_inj.mp hpath)
    · rw [hpath] at hcs
      cases hcs
      exact hbare bs hpath

/-- One step on from a bare path is a bare path. -/
theorem IsBare.step? {path piece next : String} (h : IsBare path) (hpiece : '/' ∉ piece.toList)
    (hnext : step? path piece = some next) : IsBare next := by
  rw [Scan.step?] at hnext
  split at hnext
  · -- the dot is left behind
    split at hnext
    · cases hnext
    · rename_i hempty
      cases hnext
      refine ⟨fun heq => hempty (by rw [heq]; rfl), ?_⟩
      intro cs hcs
      exact hpiece (hcs ▸ List.mem_cons_of_mem _ List.mem_cons_self)
  · rename_i hdot
    cases hnext
    obtain ⟨more, hmore⟩ := Path.exists_join_eq_append h.1 (Path.isAbsolute_of_not_mem hpiece)
    rw [hmore]
    exact h.append hdot more

/-- Many steps on from a bare path is a bare path. -/
theorem IsBare.foldlM_step? {path next : String} {pieces : List String} (h : IsBare path)
    (hpieces : ∀ p ∈ pieces, '/' ∉ p.toList) (hnext : pieces.foldlM Scan.step? path = some next) :
    IsBare next :=
  List.foldlM_induction (fun p hp _ _ hpath hmiddle => hpath.step? (hpieces p hp) hmiddle) h hnext

/-- The steps of a bare path do not begin with a dot, unless it is the dot. -/
theorem IsBare.head?_components {path : String} (h : IsBare path) (hdot : path ≠ ".") :
    (Path.components path).head? ≠ some .current := by
  have hstep (q : List Char) : Path.step? q ≠ some .current := by
    rw [Path.step?]
    intro heq
    split at heq
    · cases heq
    · split at heq
      · cases heq
      · cases heq
  rw [Path.components]
  cases hpieces : Path.pieces path.toList with
  | nil =>
      intro hhead
      cases hhead
  | cons first rest =>
      have hfirst : first ≠ ['.'] := by
        rintro rfl
        rcases Text.eq_of_splitAt_eq_singleton_cons hpieces with heq | ⟨more, heq⟩
        · exact hdot (String.toList_inj.mp heq)
        · exact h.2 more heq
      intro hhead
      dsimp only at hhead
      split at hhead
      · cases hhead
      · rcases List.mem_append.mp (List.mem_of_mem_head? hhead) with hmem | hmem
        · exact hstep first (Option.mem_toList.mp hmem)
        · obtain ⟨q, -, hq⟩ := List.mem_filterMap.mp hmem
          exact hstep q hq

/-- No dot stands in front of a bare path, unless it is the dot. -/
theorem IsBare.lead_ne (h : IsBare file) (hdot : file ≠ ".") : lead file ≠ [.current] := by
  intro hlead
  apply h.head?_components hdot
  rw [Path.components_eq, hlead]
  rfl

/-! ## Directories -/

theorem origin_ne (d : String) : Glob.origin d ≠ "" := by
  rw [Glob.origin]
  split <;> decide

/-- A path is walked from the root if it is absolute. -/
theorem isAbsolute_origin (d : String) : Path.isAbsolute (Glob.origin d) = Path.isAbsolute d := by
  rw [Glob.origin]
  cases Path.isAbsolute d <;> rfl

/-- The root and the working directory are no steps. -/
theorem steps_origin (d : String) : steps (Glob.origin d).toList = [] := by
  rw [Glob.origin]
  split <;> rfl

theorem mem_pieces_of_mem_piecesFrom {p : List Char} (h : p ∈ Glob.piecesFrom d) :
    p ∈ Path.pieces d.toList := by
  rw [Glob.piecesFrom] at h
  split at h
  · exact List.mem_of_mem_drop h
  · exact h

/-- The pieces of a path after the root have no slash. -/
theorem not_mem_of_mem_piecesFrom {p : List Char} (h : p ∈ Glob.piecesFrom d) : '/' ∉ p :=
  Text.not_mem_of_mem_splitAt (mem_pieces_of_mem_piecesFrom h)

/-- Nor do some of them, as texts. -/
theorem not_mem_of_mem_map_piecesFrom {as : List (List Char)}
    (has : ∀ p ∈ as, p ∈ Glob.piecesFrom d) : ∀ p ∈ as.map String.ofList, '/' ∉ p.toList := by
  intro p hp
  obtain ⟨q, hq, rfl⟩ := List.mem_map.mp hp
  rw [String.toList_ofList]
  exact not_mem_of_mem_piecesFrom (has q hq)

/-- They make up the steps of the path. -/
theorem filterMap_step?_piecesFrom (d : String) :
    (Glob.piecesFrom d).filterMap Path.step? = steps d.toList := by
  rw [Glob.piecesFrom]
  split
  · rename_i habsolute
    obtain ⟨cs, hpieces⟩ := Path.exists_pieces_of_isAbsolute habsolute
    rw [steps, hpieces]
    rfl
  · rfl

/-- Pieces of a directory that are taken one after the other have their steps. -/
theorem steps_of_pieces {as : List (List Char)} (has : ∀ p ∈ as, p ∈ Glob.piecesFrom d)
    (h : (as.map String.ofList).foldlM step? (Glob.origin d) = some path) :
    path ≠ "" ∧ Path.isAbsolute path = Path.isAbsolute d ∧
      steps path.toList = as.filterMap Path.step? := by
  have hsteps : (as.map String.ofList).filterMap (fun p => Path.step? p.toList) =
      as.filterMap Path.step? := by
    rw [List.filterMap_map]
    congr 1
    funext p
    rw [Function.comp_apply, String.toList_ofList]
  obtain ⟨hne, habsolute, heq⟩ := steps_of_foldlM_step? (origin_ne d)
    (not_mem_of_mem_map_piecesFrom has) h
  rw [steps_origin, List.nil_append, hsteps] at heq
  exact ⟨hne, habsolute.trans (isAbsolute_origin d), heq⟩

/-- They have its characters, but for dots and slashes. -/
theorem not_mem_of_pieces {as : List (List Char)} {c : Char} (hdot : c ≠ '.') (hslash : c ≠ '/')
    (hd : c ∉ d.toList) (has : ∀ p ∈ as, p ∈ Glob.piecesFrom d)
    (h : (as.map String.ofList).foldlM step? (Glob.origin d) = some path) : c ∉ path.toList := by
  refine not_mem_of_foldlM_step? hslash ?_ ?_ h
  · rw [Glob.origin]
    split
    · exact fun hc => hslash (List.mem_singleton.mp hc)
    · exact fun hc => hdot (List.mem_singleton.mp hc)
  · intro p hp hc
    obtain ⟨q, hq, rfl⟩ := List.mem_map.mp hp
    rw [String.toList_ofList] at hc
    exact hd (Text.mem_of_mem_splitAt (mem_pieces_of_mem_piecesFrom (has q hq)) hc)

/-- A directory taken piece by piece has its steps. -/
theorem steps_of_spell? (h : spell? d = some start) :
    start ≠ "" ∧ Path.isAbsolute start = Path.isAbsolute d ∧
      steps start.toList = steps d.toList := by
  rw [← filterMap_step?_piecesFrom d]
  exact steps_of_pieces (fun _ hp => hp) h

/-- A relative directory taken piece by piece has a bare path. -/
theorem isBare_of_spell? (hrelative : Path.isAbsolute d = false)
    (hstart : spell? d = some start) : IsBare start := by
  have hdot : IsBare "." := ⟨by decide, fun cs hcs => by cases hcs⟩
  rw [spell?, Glob.origin, Glob.piecesFrom, hrelative, if_neg Bool.false_ne_true,
    if_neg Bool.false_ne_true] at hstart
  exact hdot.foldlM_step? (fun p hp => Path.not_mem_of_mem_pieces hp) hstart

/-- Whether a relative directory begins with dots, if any, and then with an empty piece. -/
def IsLost (d : String) : Prop :=
  Path.isAbsolute d = false ∧
    ∃ n rest, Path.pieces d.toList = List.replicate n ['.'] ++ [] :: rest

/-- **These are the directories that cannot be taken piece by piece.** -/
theorem spell?_eq_none_iff : spell? d = none ↔ IsLost d := by
  rw [spell?, IsLost, foldlM_step?_eq_none_iff (origin_ne d)
    (not_mem_of_mem_map_piecesFrom fun _ hp => hp)]
  cases habsolute : Path.isAbsolute d with
  | true =>
      rw [Glob.origin, habsolute]
      exact iff_of_false (fun h => absurd h.1 (by decide)) fun h => Bool.noConfusion h.1
  | false =>
      have horigin : Glob.origin d = "." := by rw [Glob.origin, habsolute]; rfl
      have hfrom : Glob.piecesFrom d = Path.pieces d.toList := by
        rw [Glob.piecesFrom, habsolute]
        rfl
      rw [horigin, hfrom, and_iff_right rfl, and_iff_right rfl]
      refine exists_congr fun n => ⟨?_, ?_⟩
      · rintro ⟨rest, h⟩
        refine ⟨rest.map String.toList, ?_⟩
        have hpieces : ((Path.pieces d.toList).map String.ofList).map String.toList =
            Path.pieces d.toList := by
          simp [Function.comp_def]
        rw [← hpieces, h, List.map_append, List.map_replicate]
        rfl
      · rintro ⟨rest, h⟩
        refine ⟨rest.map String.ofList, ?_⟩
        rw [h, List.map_append, List.map_replicate]
        rfl

end Scan

end PolicyLint
