/-
# A dot in front of a path

A relative path with a dot and a slash in front of it leads where the path leads, and ends as it
does. Its steps begin with the dot, so they are not those of the path; its directory is that of the
path with the dot in front, or the dot alone.

* `Path.dotted` : a path with a dot and a slash in front;
* `Path.components_dotted`, `Path.parent?_dotted`, `Path.join_dotted` : its parts;
* `Workspace.find_dotted` : what it leads to.
-/
import PolicyLint.FileTree

namespace PolicyLint

namespace Path

/-- A path with a dot and a slash in front of it. -/
def dotted (path : String) : String := "./" ++ path

variable {p : String}

/-! ## Pieces -/

theorem toList_dotted (p : String) : (dotted p).toList = '.' :: '/' :: p.toList := by
  rw [dotted, String.toList_append]
  rfl

theorem isAbsolute_dotted (p : String) : isAbsolute (dotted p) = false := by
  rw [isAbsolute, toList_dotted]
  rfl

theorem dotted_append (p q : String) : dotted (p ++ q) = dotted p ++ q :=
  String.append_assoc.symm

theorem isEmpty_dotted (p : String) : (dotted p).isEmpty = false := by
  simp [dotted]

/-- The dot does not change the last character. -/
theorem getLast?_dotted (hne : p ≠ "") : (dotted p).toList.getLast? = p.toList.getLast? := by
  obtain ⟨c, cs, hp⟩ := List.exists_cons_of_ne_nil (mt String.toList_eq_nil_iff.mp hne)
  rw [toList_dotted, hp, List.getLast?_cons_cons, List.getLast?_cons_cons]

/-- The dot is a piece of its own. -/
theorem pieces_dotted (p : String) : pieces (dotted p).toList = ['.'] :: pieces p.toList := by
  rw [toList_dotted]
  rfl

/-- A relative path that is not empty begins with a piece that is not empty. -/
theorem exists_pieces_eq (hrelative : isAbsolute p = false) (hne : p ≠ "") :
    ∃ first rest, pieces p.toList = first :: rest ∧ first ≠ [] := by
  rw [isAbsolute] at hrelative
  cases hp : p.toList with
  | nil => exact absurd (String.toList_eq_nil_iff.mp hp) hne
  | cons c cs =>
      have hc : c ≠ '/' := by
        rintro rfl
        rw [hp] at hrelative
        cases hrelative
      rw [pieces, Text.splitAt, if_neg hc]
      cases Text.splitAt '/' cs with
      | nil => exact ⟨[c], [], rfl, List.cons_ne_nil _ _⟩
      | cons q qs => exact ⟨c :: q, qs, rfl, List.cons_ne_nil _ _⟩

/-! ## Steps -/

/-- A piece is a step, unless it is empty or a dot. -/
theorem isSome_step? {piece : List Char} (hempty : piece ≠ []) (hdot : piece ≠ ['.']) :
    (step? piece).isSome = true := by
  rw [step?, if_neg (not_or.mpr ⟨hempty, hdot⟩)]
  split
  · rfl
  · rfl

theorem head?_components_dotted (p : String) :
    (components (dotted p)).head? = some .current := by
  simp only [components, pieces_dotted, isAbsolute_dotted]
  rfl

section

variable (hrelative : isAbsolute p = false) (hne : p ≠ "")
include hrelative hne

/-- A relative path that is not empty has a step. -/
theorem components_ne_nil : components p ≠ [] := by
  obtain ⟨first, rest, hpieces, hfirst⟩ := exists_pieces_eq hrelative hne
  simp only [components, hpieces, hrelative, Bool.false_eq_true, if_false]
  by_cases hdot : first = ['.']
  · rw [if_pos hdot]
    exact List.cons_ne_nil _ _
  · obtain ⟨step, hstep⟩ := Option.isSome_iff_exists.mp (isSome_step? hfirst hdot)
    rw [if_neg hdot, hstep]
    exact List.cons_ne_nil _ _

/-- Its steps with the dot in front are one more, unless it begins with a dot itself. -/
theorem components_dotted :
    components (dotted p) = components p ∨ components (dotted p) = .current :: components p := by
  obtain ⟨first, rest, hpieces, hfirst⟩ := exists_pieces_eq hrelative hne
  have hdotted : components (dotted p) = .current :: (first :: rest).filterMap step? := by
    simp only [components, pieces_dotted, isAbsolute_dotted, hpieces]
    rfl
  have hplain : components p = (if first = ['.'] then [.current] else (step? first).toList) ++
      rest.filterMap step? := by
    simp only [components, hpieces, hrelative, Bool.false_eq_true, if_false]
  rw [hdotted, hplain, List.filterMap_cons]
  by_cases hdot : first = ['.']
  · left
    rw [if_pos hdot, hdot]
    rfl
  · right
    rw [if_neg hdot]
    cases step? first with
    | none => rfl
    | some step => rfl

/-- The dot does not change how a path ends. -/
theorem fileName?_dotted : fileName? (dotted p) = fileName? p := by
  rw [fileName?, fileName?]
  obtain heq | heq := components_dotted hrelative hne
  · rw [heq]
  · obtain ⟨step, steps, hsteps⟩ := List.exists_cons_of_ne_nil (components_ne_nil hrelative hne)
    rw [heq, hsteps, List.getLast?_cons_cons]

theorem extension?_dotted : extension? (dotted p) = extension? p := by
  rw [extension?, extension?, fileName?_dotted hrelative hne]

end

/-! ## Directories -/

/-- The pieces that are steps, each with its place; the first has the given one. -/
def stepsAt (place : Nat) (ps : List (List Char)) : List (List Char × Nat) :=
  (ps.zipIdx place).filter fun q => (step? q.1).isSome

/-- The first piece counts if it is a step. -/
theorem stepsAt_cons (place : Nat) (q : List Char) (qs : List (List Char)) :
    stepsAt place (q :: qs) =
      if (step? q).isSome then (q, place) :: stepsAt (place + 1) qs
      else stepsAt (place + 1) qs := by
  rw [stepsAt, List.zipIdx_cons, List.filter_cons]
  rfl

/-- One place further on stand the same steps. -/
theorem stepsAt_succ (place : Nat) (ps : List (List Char)) :
    stepsAt (place + 1) ps = (stepsAt place ps).map fun q => (q.1, q.2 + 1) := by
  rw [stepsAt, stepsAt, List.zipIdx_succ, List.filter_map]
  rfl

variable {first : List Char} {rest : List (List Char)}

/-- Pieces of which the first is not empty make a text that is not empty. -/
theorem unpieces_cons_ne_nil (hfirst : first ≠ []) (ps : List (List Char)) :
    unpieces (first :: ps) ≠ [] := by
  cases ps with
  | nil => exact hfirst
  | cons q qs => exact fun h => hfirst (List.append_eq_nil_iff.mp h).1

/-- The text of such pieces is not empty. -/
theorem ofList_unpieces_ne_empty (hfirst : first ≠ []) (ps : List (List Char)) :
    String.ofList (unpieces (first :: ps)) ≠ "" := by
  intro hempty
  have hnil := congrArg String.toList hempty
  rw [String.toList_ofList] at hnil
  exact unpieces_cons_ne_nil hfirst ps hnil

/-- The text of pieces with the dot in front is their text with the dot in front. -/
theorem ofList_unpieces_dotted (first : List Char) (ps : List (List Char)) :
    String.ofList (unpieces (['.'] :: first :: ps)) =
      dotted (String.ofList (unpieces (first :: ps))) := by
  apply String.toList_inj.mp
  rw [toList_dotted, String.toList_ofList, String.toList_ofList]
  rfl

/-- The path above a relative one ends with the last step but one. -/
theorem parent?_eq (hrelative : isAbsolute p = false) (hpieces : pieces p.toList = first :: rest)
    (hfirst : first ≠ []) :
    parent? p = some (match (stepsAt 1 rest).reverse with
      | [] => ""
      | [_] => String.ofList first
      | _ :: (_, i) :: _ => String.ofList (unpieces ((first :: rest).take (i + 1)))) := by
  have hsteps : ((first :: rest).zipIdx.filter fun q => isStep false q.2 q.1) =
      (first, 0) :: stepsAt 1 rest := by
    rw [List.zipIdx_cons, List.filter_cons_of_pos (by simpa [isStep] using hfirst), stepsAt]
    congr 1
    apply List.filter_congr
    rintro ⟨q, i⟩ hq
    obtain ⟨hi, -⟩ := List.mem_zipIdx hq
    rw [isStep, if_neg (by omega)]
  have hparent : parent? p = match ((first, 0) :: stepsAt 1 rest).reverse with
      | [] => none
      | [_] => some ""
      | _ :: (_, i) :: _ => some (String.ofList (unpieces ((first :: rest).take (i + 1)))) := by
    rw [← hsteps]
    simp only [parent?, hrelative, hpieces]
    rfl
  rw [hparent, List.reverse_cons]
  rcases (stepsAt 1 rest).reverse with _ | ⟨last, _ | ⟨⟨q, i⟩, steps⟩⟩
  · rfl
  · rfl
  · rfl

/-- **The directory of a path with the dot in front** is that of the path, or the dot where that is
empty, or that with the dot in front. -/
theorem parent?_dotted (hrelative : isAbsolute p = false) (hne : p ≠ "") :
    ∃ d d', parent? p = some d ∧ parent? (dotted p) = some d' ∧
      (d' = d ∨ d = "" ∧ d' = "." ∨ d ≠ "" ∧ d' = dotted d) := by
  obtain ⟨first, rest, hpieces, hfirst⟩ := exists_pieces_eq hrelative hne
  have hpiecesDotted : pieces (dotted p).toList = ['.'] :: first :: rest := by
    rw [pieces_dotted, hpieces]
  refine ⟨_, _, parent?_eq hrelative hpieces hfirst,
    parent?_eq (isAbsolute_dotted p) hpiecesDotted (List.cons_ne_nil _ _), ?_⟩
  -- where two steps follow the first piece, the last but one has moved by one place
  have hmoved (i : Nat) : String.ofList (unpieces ((first :: rest).take (i + 1))) ≠ "" ∧
      String.ofList (unpieces ((['.'] :: first :: rest).take (i + 1 + 1))) =
        dotted (String.ofList (unpieces ((first :: rest).take (i + 1)))) :=
    ⟨ofList_unpieces_ne_empty hfirst _, ofList_unpieces_dotted first _⟩
  rw [stepsAt_cons, stepsAt_succ 1]
  by_cases hdot : first = ['.']
  · rw [if_neg (by rw [hdot]; exact Bool.false_ne_true), ← List.map_reverse, hdot]
    rcases (stepsAt 1 rest).reverse with _ | ⟨last, _ | ⟨⟨q, i⟩, steps⟩⟩
    · exact .inl rfl
    · exact .inl rfl
    · exact .inr (.inr (hdot ▸ hmoved i))
  · rw [if_pos (isSome_step? hfirst hdot), List.reverse_cons, ← List.map_reverse]
    rcases (stepsAt 1 rest).reverse with _ | ⟨last, _ | ⟨⟨q, i⟩, steps⟩⟩
    · exact .inr (.inl ⟨rfl, rfl⟩)
    · exact .inr (.inr (hmoved 0))
    · exact .inr (.inr (hmoved i))

/-! ## Joining -/

/-- What is joined to a path with the dot in front has the dot in front. -/
theorem join_dotted (hne : p ≠ "") {r : String} (hr : isAbsolute r = false) :
    join (dotted p) r = dotted (join p r) := by
  have hempty : p.isEmpty = false := by simpa using hne
  rw [join, join, hr, hempty, isEmpty_dotted, getLast?_dotted hne]
  simp only [Bool.or_false, Bool.false_eq_true, if_false]
  split
  · exact String.append_assoc
  · rw [dotted, String.append_assoc, String.append_assoc, ← dotted, String.append_assoc]

/-- From the directories of a path and of the path with the dot in front, a relative path leads to
the same path or to that with the dot in front. -/
theorem join_parent?_dotted (hrelative : isAbsolute p = false) (hne : p ≠ "") {r : String}
    (hr : isAbsolute r = false) :
    let q := join ((parent? p).getD "") r
    let q' := join ((parent? (dotted p)).getD "") r
    q' = q ∨ q' = dotted q := by
  intro q q'
  obtain ⟨d, d', hd, hd', hsame | ⟨rfl, rfl⟩ | ⟨hd0, rfl⟩⟩ := parent?_dotted hrelative hne
  · left
    show join _ r = join _ r
    rw [hd, hd', hsame]
  · right
    show join _ r = dotted (join _ r)
    rw [hd, hd']
    simp [join, hr, dotted]
  · right
    show join _ r = dotted (join _ r)
    rw [hd, hd']
    exact join_dotted hd0 hr

end Path

/-! ## What a path leads to -/

namespace Workspace

open PolicyLint.Path

/-- A step to where one is leads nowhere else. -/
theorem walk_dot_cons {t : FileTree} {here : List String} {ps : List (List Char)} (hne : ps ≠ []) :
    walk t here (['.'] :: ps) = walk t here ps := by
  obtain ⟨q, qs, rfl⟩ := List.exists_cons_of_ne_nil hne
  rw [walk]
  split
  · rename_i hdirectory
    rw [walk, if_pos hdirectory]
  · rw [if_pos (.inr rfl)]

/-- Whether the dot in front of a path makes no difference: the path is relative, not empty, and
leaves two bytes to its longest size. -/
structure IsDottable (path : String) : Prop where
  isRelative : isAbsolute path = false
  isNamed : path ≠ ""
  isShort : path.utf8ByteSize + 2 ≤ maxPath

instance (path : String) : Decidable (IsDottable path) :=
  decidable_of_iff
    (isAbsolute path = false ∧ path ≠ "" ∧ path.utf8ByteSize + 2 ≤ maxPath)
    ⟨fun ⟨h, h', h''⟩ => ⟨h, h', h''⟩, fun ⟨h, h', h''⟩ => ⟨h, h', h''⟩⟩

variable {p : String}

/-- **With the dot in front a path leads where it leads without.** -/
theorem find_dotted (w : Workspace) (h : IsDottable p) : w.find (dotted p) = w.find p := by
  obtain ⟨first, rest, hpieces, -⟩ := exists_pieces_eq h.isRelative h.isNamed
  have hnul : (dotted p).toList.contains '\x00' = p.toList.contains '\x00' := by
    rw [toList_dotted]
    rfl
  have hempty : p.isEmpty = false := by simpa using h.isNamed
  have hshort := h.isShort
  have hsize : (dotted p).utf8ByteSize = p.utf8ByteSize + 2 := by
    rw [dotted, String.utf8ByteSize_append, Nat.add_comm]
    rfl
  have hwalk (here : List String) :
      walk w.tree here (['.'] :: pieces p.toList) = walk w.tree here (pieces p.toList) := by
    rw [hpieces, walk_dot_cons (List.cons_ne_nil first rest)]
  rw [find, find, hnul, hempty, isEmpty_dotted, hsize,
    if_neg (by omega : ¬ maxPath < p.utf8ByteSize + 2),
    if_neg (by omega : ¬ maxPath < p.utf8ByteSize), h.isRelative, isAbsolute_dotted, pieces_dotted]
  simp only [hwalk]

theorem pathExists_dotted (w : Workspace) (h : IsDottable p) :
    w.pathExists (dotted p) = w.pathExists p := by
  rw [pathExists, pathExists, w.find_dotted h]

theorem isDirectory_dotted (w : Workspace) (h : IsDottable p) :
    w.isDirectory (dotted p) = w.isDirectory p := by
  rw [isDirectory, isDirectory, w.find_dotted h]

theorem read_dotted (w : Workspace) (h : IsDottable p) : w.read (dotted p) = w.read p := by
  rw [read, read, w.find_dotted h]

end Workspace

end PolicyLint
