/-
# How a path is shown

A path and the working directory are walked side by side. If the path goes on where the directory
ends, the steps that lead on remain; wherever else the two part, the walk starts upwards or comes to
nothing. So an absolute path below the directory is shown by the steps that lead on from there, and
any other path as it is. Steps that are written with slashes between them are the steps of what is
written, and make a relative path. So what is shown names what the path names, and showing it again
does not change it.

* `Path.components_intercalate` : steps with slashes between them;
* `Path.walkApart_append`, `Path.head?_walkApart` : walking side by side, to the end and apart;
* `Path.LeadsOn` : the steps that lead on from a directory to a path;
* `Path.display_eq_intercalate`, `Path.display_eq_self` : what is shown;
* `Path.display_same_components` : it names the same.
-/
import PolicyLint.Proofs.Path.Steps

namespace PolicyLint.Path

/-! ## Steps that are written -/

/-- Whether something is a step on the way: one upwards, or a name. -/
def Component.IsStep (s : Component) : Prop := s = .parent ∨ ∃ n, s = .name n ∧ IsName n

/-- The text of a step has no slash, is not empty, and is read as the step. -/
theorem Component.IsStep.text_spec {s : Component} (h : s.IsStep) :
    '/' ∉ s.text.toList ∧ s.text ≠ "" ∧ step? s.text.toList = some s := by
  rcases h with rfl | ⟨n, rfl, hn⟩
  · exact ⟨by decide, by decide, by decide⟩
  · exact ⟨hn.2.2.2, hn.1, hn.step?_eq⟩

/-- With slashes between them, steps are a step and then, behind a slash, the others. -/
theorem toList_intercalate_cons (s t : Component) (ss : List Component) :
    ("/".intercalate ((s :: t :: ss).map Component.text)).toList =
      s.text.toList ++ '/' :: ("/".intercalate ((t :: ss).map Component.text)).toList := by
  simp only [String.toList_intercalate, List.map_cons, List.intercalate_cons_cons,
    List.append_assoc]
  rfl

/-- **Steps with slashes between them** are the steps of what is written. By induction on the
steps. -/
theorem steps_intercalate {ss : List Component} (h : ∀ s ∈ ss, s.IsStep) :
    steps ("/".intercalate (ss.map Component.text)).toList = ss := by
  induction ss with
  | nil => decide
  | cons s ss ih =>
      obtain ⟨hs, hss⟩ := List.forall_mem_cons.mp h
      obtain ⟨hslash, -, hstep⟩ := hs.text_spec
      have hfirst : steps s.text.toList = [s] := by
        rw [steps_of_not_mem hslash, hstep]
        rfl
      cases ss with
      | nil =>
          rw [List.map_singleton, String.intercalate_singleton]
          exact hfirst
      | cons t ss =>
          rw [toList_intercalate_cons, steps_append_slash, hfirst, ih hss]
          rfl

/-- What is written is a relative path. -/
theorem isAbsolute_intercalate {ss : List Component} (h : ∀ s ∈ ss, s.IsStep) :
    isAbsolute ("/".intercalate (ss.map Component.text)) = false := by
  cases ss with
  | nil => decide
  | cons s ss =>
      obtain ⟨hslash, hne, -⟩ := (h s List.mem_cons_self).text_spec
      have hfirst := isAbsolute_of_not_mem hslash
      cases ss with
      | nil =>
          rw [List.map_singleton, String.intercalate_singleton]
          exact hfirst
      | cons t ss =>
          rw [isAbsolute, toList_intercalate_cons]
          rw [isAbsolute] at hfirst
          obtain ⟨c, cs, htext⟩ := List.exists_cons_of_ne_nil (mt String.toList_eq_nil_iff.mp hne)
          rw [htext] at hfirst ⊢
          exact hfirst

/-- The components of what is written are the steps, since the first of them is no dot. -/
theorem components_intercalate {ss : List Component} (h : ∀ s ∈ ss, s.IsStep) :
    components ("/".intercalate (ss.map Component.text)) = ss := by
  have hlead : lead ("/".intercalate (ss.map Component.text)) = [] := by
    rw [lead, isAbsolute_intercalate h, if_neg Bool.false_ne_true, if_neg]
    cases ss with
    | nil => decide
    | cons s ss =>
        obtain ⟨hslash, -, hstep⟩ := (h s List.mem_cons_self).text_spec
        have hhead : (pieces ("/".intercalate ((s :: ss).map Component.text)).toList).head? =
            some s.text.toList := by
          cases ss with
          | nil =>
              rw [List.map_singleton, String.intercalate_singleton, pieces,
                Text.splitAt_of_not_mem hslash]
              rfl
          | cons t ss =>
              rw [toList_intercalate_cons, pieces, Text.splitAt_append,
                Text.splitAt_of_not_mem hslash]
              rfl
        rw [hhead]
        intro hdot
        rw [Option.some.inj hdot] at hstep
        cases hstep
  rw [components_eq, hlead, steps_intercalate h, List.nil_append]

/-- The text of a step does not end with a slash. -/
theorem Component.IsStep.getLast?_ne {s : Component} (h : s.IsStep) (base : String) :
    (base ++ s.text).toList.getLast? ≠ some '/' := by
  obtain ⟨hslash, hne, -⟩ := h.text_spec
  rw [String.toList_append, List.getLast?_append,
    List.getLast?_eq_some_getLast (mt String.toList_eq_nil_iff.mp hne), Option.some_or]
  intro hlast
  rw [← Option.some.inj hlast] at hslash
  exact hslash (List.getLast_mem _)

/-- Joined one after the other to a text that does not end with a slash, steps are written behind it
with slashes in between. By induction on the steps. -/
theorem foldl_join_eq_intercalate_cons {ss : List Component} (h : ∀ s ∈ ss, s.IsStep)
    {base : String} (hbase : base ≠ "") (hlast : base.toList.getLast? ≠ some '/') :
    (ss.map Component.text).foldl join base = "/".intercalate (base :: ss.map Component.text) := by
  induction ss generalizing base with
  | nil => exact String.intercalate_singleton.symm
  | cons s ss ih =>
      obtain ⟨hs, hss⟩ := List.forall_mem_cons.mp h
      have hjoin : join base s.text = base ++ "/" ++ s.text := by
        rw [join_of_ne_empty hbase (isAbsolute_of_not_mem hs.text_spec.1), if_neg hlast]
      have hne : base ++ "/" ++ s.text ≠ "" := by
        intro hempty
        exact hs.text_spec.2.1 (String.append_eq_empty_iff.mp hempty).2
      rw [List.map_cons, List.foldl_cons, hjoin, ih hss hne (hs.getLast?_ne _),
        String.intercalate_cons_append, String.intercalate_cons_cons]

/-- Joined one after the other, steps are written with slashes in between. -/
theorem foldl_join_eq_intercalate {ss : List Component} (h : ∀ s ∈ ss, s.IsStep) :
    (ss.map Component.text).foldl join "" = "/".intercalate (ss.map Component.text) := by
  cases ss with
  | nil => decide
  | cons s ss =>
      obtain ⟨hs, hss⟩ := List.forall_mem_cons.mp h
      have hlast := hs.getLast?_ne ""
      rw [String.empty_append] at hlast
      rw [List.map_cons, List.foldl_cons, join_empty,
        foldl_join_eq_intercalate_cons hss hs.text_spec.2.1 hlast]

/-! ## Walking side by side -/

/-- Where the path ends first, each step of the base that remains is one upwards. -/
theorem walkApart_nil (found base : List Component) :
    walkApart found [] base = some (found ++ base.map fun _ => .parent) := by
  induction base generalizing found with
  | nil => rw [walkApart, List.map_nil, List.append_nil]
  | cons b base ih => rw [walkApart, ih, List.map_cons, List.append_assoc, List.singleton_append]

/-- **Where the base ends first, the rest of the path remains.** -/
theorem walkApart_append (base rest : List Component) :
    walkApart [] (base ++ rest) base = some rest := by
  induction base with
  | nil => cases rest <;> rfl
  | cons b base ih =>
      rw [List.cons_append, walkApart, if_pos (by rw [beq_self_eq_true]; rfl), ih]

/-- **Where the two part before that, the walk starts upwards**, and all else that remains are steps
of the path or upwards. -/
theorem head?_walkApart {path base ss : List Component} (hdot : .current ∉ base)
    (hapart : ¬ base <+: path) (h : walkApart [] path base = some ss) :
    ss.head? = some .parent ∧ ∀ s ∈ ss, s = .parent ∨ s ∈ path := by
  induction base generalizing path with
  | nil => exact absurd List.nil_prefix hapart
  | cons b base ih =>
      obtain ⟨hb, hbase⟩ := not_or.mp (mt List.mem_cons.mpr hdot)
      have hup : ∀ s ∈ base.map fun _ => Component.parent, s = .parent := by
        intro s hs
        obtain ⟨-, -, rfl⟩ := List.mem_map.mp hs
        rfl
      cases path with
      | nil =>
          rw [walkApart, walkApart_nil] at h
          cases h
          refine ⟨rfl, fun s hs => .inl ?_⟩
          rcases List.mem_append.mp hs with hs | hs
          · exact List.mem_singleton.mp hs
          · exact hup s hs
      | cons a path =>
          rw [walkApart] at h
          split at h
          · rename_i hsame
            obtain rfl : a = b := by simpa using hsame
            obtain ⟨hhead, hsteps⟩ := ih hbase (mt (List.prefix_cons_inj a).mpr hapart) h
            exact ⟨hhead, fun s hs => (hsteps s hs).imp_right (List.mem_cons_of_mem a)⟩
          · rw [if_neg (Ne.symm hb)] at h
            split at h
            · cases h
            · cases h
              refine ⟨rfl, fun s hs => ?_⟩
              rcases List.mem_append.mp hs with hs | hs
              · rcases List.mem_cons.mp hs with rfl | hs
                · exact .inl rfl
                · exact .inl (hup s hs)
              · exact .inr hs

/-! ## What is shown -/

/-- Whether steps lead on from a directory to a path, and not upwards at first. -/
def LeadsOn (directory path : String) (ss : List Component) : Prop :=
  components path = components directory ++ ss ∧ ss.head? ≠ some .parent

variable {directory path : String} {ss : List Component}

/-- An absolute path consists of the root and its steps. -/
theorem components_of_isAbsolute (h : isAbsolute path = true) :
    components path = .root :: steps path.toList := by
  rw [components_eq, lead, if_pos h]
  rfl

/-- Absolute paths go on from each other as their steps do. -/
theorem components_eq_append_iff (hdirectory : isAbsolute directory = true)
    (hpath : isAbsolute path = true) :
    components path = components directory ++ ss ↔
      steps path.toList = steps directory.toList ++ ss := by
  rw [components_of_isAbsolute hdirectory, components_of_isAbsolute hpath, List.cons_append,
    List.cons.injEq]
  exact and_iff_right rfl

/-- What leads on from an absolute directory are steps. -/
theorem isStep_of_append (hdirectory : isAbsolute directory = true)
    (hpath : isAbsolute path = true) (h : components path = components directory ++ ss) :
    ∀ s ∈ ss, s.IsStep := by
  intro s hs
  have hmem : s ∈ steps path.toList := by
    rw [(components_eq_append_iff hdirectory hpath).mp h]
    exact List.mem_append_right _ hs
  exact eq_of_mem_steps hmem

/-- The root is what absolute paths have in common at least. -/
theorem walkApart_of_isAbsolute (hdirectory : isAbsolute directory = true)
    (hpath : isAbsolute path = true) :
    walkApart [] (components path) (components directory) =
      walkApart [] (steps path.toList) (steps directory.toList) := by
  rw [components_of_isAbsolute hdirectory, components_of_isAbsolute hpath, walkApart,
    if_pos (by rfl)]

/-- Whether what is written starts upwards. -/
theorem startsUpwards_intercalate (h : ∀ s ∈ ss, s.IsStep) :
    startsUpwards ("/".intercalate (ss.map Component.text)) = true ↔ ss.head? = some .parent := by
  have hup : components ".." = [.parent] := by decide
  rw [startsUpwards, components_intercalate h, hup, Option.isSome_iff_exists]
  simp only [stripPrefix?_eq_some_iff, List.singleton_append, List.head?_eq_some_iff]

/-- Steps that the walk has found are seen with slashes between them. -/
theorem relative?_eq (hdirectory : isAbsolute directory = true) (hpath : isAbsolute path = true)
    (h : walkApart [] (components path) (components directory) = some ss)
    (hss : ∀ s ∈ ss, s.IsStep) :
    relative? path directory = some ("/".intercalate (ss.map Component.text)) := by
  rw [relative?, if_pos (hpath.trans hdirectory.symm), h, Option.map_some,
    foldl_join_eq_intercalate hss]

/-- **An absolute path is shown by the steps that lead on to it.** -/
theorem display_eq_intercalate (hdirectory : isAbsolute directory = true)
    (hpath : isAbsolute path = true) (h : LeadsOn directory path ss) :
    display directory path = "/".intercalate (ss.map Component.text) := by
  have hss := isStep_of_append hdirectory hpath h.1
  have hwalk : walkApart [] (components path) (components directory) = some ss := by
    rw [h.1, walkApart_append]
  have hdown : startsUpwards ("/".intercalate (ss.map Component.text)) = false :=
    Bool.eq_false_iff.mpr fun hup => h.2 ((startsUpwards_intercalate hss).mp hup)
  rw [display, if_pos hpath, relative?_eq hdirectory hpath hwalk hss, Option.filter_some, hdown]
  rfl

/-- A path that is seen upwards or not at all is shown as it is. -/
theorem display_of_startsUpwards (hpath : isAbsolute path = true)
    (h : ∀ seen, relative? path directory = some seen → seen = path ∨ startsUpwards seen = true) :
    display directory path = path := by
  rw [display, if_pos hpath]
  cases hseen : relative? path directory with
  | none => rfl
  | some seen =>
      rw [Option.filter_some]
      rcases h seen hseen with rfl | hup
      · split <;> rfl
      · rw [hup]
        rfl

/-- What is seen of an absolute path that the steps of an absolute directory do not lead on to starts
upwards. -/
theorem startsUpwards_of_relative? (hdirectory : isAbsolute directory = true)
    (hpath : isAbsolute path = true) (h : ∀ ss, ¬ LeadsOn directory path ss) {seen : String}
    (hseen : relative? path directory = some seen) : startsUpwards seen = true := by
  rw [relative?, if_pos (hpath.trans hdirectory.symm)] at hseen
  obtain ⟨ss, hwalk, rfl⟩ := Option.map_eq_some_iff.mp hseen
  have hup : (∀ s ∈ ss, s.IsStep) ∧ ss.head? = some .parent := by
    by_cases hbelow : ∃ rest, components path = components directory ++ rest
    · obtain ⟨rest, hrest⟩ := hbelow
      rw [hrest, walkApart_append] at hwalk
      cases hwalk
      exact ⟨isStep_of_append hdirectory hpath hrest,
        Decidable.not_not.mp (not_and.mp (h _) hrest)⟩
    · rw [walkApart_of_isAbsolute hdirectory hpath] at hwalk
      have hdot : Component.current ∉ steps directory.toList := by
        intro hmem
        rcases eq_of_mem_steps hmem with hup | ⟨n, hname, -⟩
        · cases hup
        · cases hname
      have hapart : ¬ steps directory.toList <+: steps path.toList := by
        rintro ⟨rest, hrest⟩
        exact hbelow ⟨rest, (components_eq_append_iff hdirectory hpath).mpr hrest.symm⟩
      obtain ⟨hhead, hsteps⟩ := head?_walkApart hdot hapart hwalk
      refine ⟨fun s hs => ?_, hhead⟩
      rcases hsteps s hs with hup | hmem
      · exact .inl hup
      · exact eq_of_mem_steps hmem
  rw [foldl_join_eq_intercalate hup.1]
  exact (startsUpwards_intercalate hup.1).mpr hup.2

/-- **Any other path is shown as it is.** From a relative directory an absolute path is seen as it
is, and from an absolute one it is seen upwards or not at all. -/
theorem display_eq_self
    (h : isAbsolute directory = true → isAbsolute path = true → ∀ ss, ¬ LeadsOn directory path ss) :
    display directory path = path := by
  by_cases hpath : isAbsolute path = true
  · refine display_of_startsUpwards hpath fun seen hseen => ?_
    by_cases hdirectory : isAbsolute directory = true
    · exact .inr (startsUpwards_of_relative? hdirectory hpath (h hdirectory hpath) hseen)
    · rw [relative?, if_neg (by rw [hpath]; exact Ne.symm hdirectory), if_pos hpath] at hseen
      exact .inl (Option.some.inj hseen).symm
  · rw [display, if_neg hpath]

/-- **What is shown names the same.** Joined to the directory, it has the components that the path
has when it is joined to it. -/
theorem components_join_display (hdirectory : isAbsolute directory = true) (path : String) :
    components (join directory (display directory path)) = components (join directory path) := by
  by_cases hbelow : isAbsolute path = true ∧ ∃ ss, LeadsOn directory path ss
  · obtain ⟨hpath, ss, h⟩ := hbelow
    have hss := isStep_of_append hdirectory hpath h.1
    obtain ⟨habsolute, hsteps⟩ := join_of_relative (isAbsolute_intercalate hss) directory
    rw [display_eq_intercalate hdirectory hpath h, join_of_isAbsolute hpath, h.1,
      components_of_isAbsolute (habsolute.trans hdirectory), hsteps, steps_intercalate hss,
      components_of_isAbsolute hdirectory]
    rfl
  · rw [display_eq_self fun _ hpath ss h => hbelow ⟨hpath, ss, h⟩]

/-- Shown again, what is shown does not change. -/
theorem display_display (hdirectory : isAbsolute directory = true) (path : String) :
    display directory (display directory path) = display directory path := by
  by_cases hbelow : isAbsolute path = true ∧ ∃ ss, LeadsOn directory path ss
  · obtain ⟨hpath, ss, h⟩ := hbelow
    rw [display_eq_intercalate hdirectory hpath h]
    apply display_eq_self
    intro _ habsolute
    rw [isAbsolute_intercalate (isStep_of_append hdirectory hpath h.1)] at habsolute
    cases habsolute
  · have hself := display_eq_self fun _ hpath ss h => hbelow ⟨hpath, ss, h⟩
    rw [hself, hself]

/-- **A shown path names no other file.** From an absolute directory a relative path is shown as it
is; an absolute one that goes on from the directory, and not upwards at first, is shown by the steps
that lead on to it; and any other as it is. So what is shown has the components of the path, seen
from the directory; an absolute path that does not go on from the directory is shown as an absolute
one; and what is shown is shown as it is. -/
theorem display_same_components (directory : String) (hdirectory : isAbsolute directory = true)
    (path : String) :
    (isAbsolute path = false → display directory path = path) ∧
    (isAbsolute path = true → ∀ ss, components path = components directory ++ ss →
      ss.head? ≠ some .parent →
      display directory path = "/".intercalate (ss.map Component.text)) ∧
    (isAbsolute path = true →
      (∀ ss, components path = components directory ++ ss → ss.head? = some .parent) →
      display directory path = path) ∧
    components (join directory (display directory path)) = components (join directory path) ∧
    (isAbsolute path = true → ¬ components directory <+: components path →
      isAbsolute (display directory path) = true) ∧
    display directory (display directory path) = display directory path := by
  refine ⟨?_, ?_, ?_, components_join_display hdirectory path, ?_, display_display hdirectory path⟩
  · intro hpath
    refine display_eq_self fun _ habsolute => ?_
    cases hpath.symm.trans habsolute
  · exact fun hpath ss hss hup => display_eq_intercalate hdirectory hpath ⟨hss, hup⟩
  · exact fun _ hall => display_eq_self fun _ _ ss h => h.2 (hall ss h.1)
  · intro hpath hfar
    rw [display_eq_self fun _ _ ss h => hfar ⟨ss, h.1.symm⟩]
    exact hpath

/-- From a directory, a path below it with needless slashes and dots, the directory itself, a path
that goes up at first, and one beside the directory. -/
theorem display_of_spellings :
    isAbsolute "/w" = true ∧
    display "/w" "/w//a/./../b" = "a/../b" ∧ display "/w" "/w/." = "" ∧
    display "/w" "/w/../x" = "/w/../x" ∧ isAbsolute (display "/w" "/wx/y") = true ∧
    components (join "/w" "a/../b") = components (join "/w" "/w//a/./../b") ∧
    display "/w" "a/../b" = "a/../b" := by
  have hdirectory : isAbsolute "/w" = true := by decide
  have hbelow : components "/w//a/./../b" = components "/w" ++ [.name "a", .parent, .name "b"] := by
    decide +kernel
  have hself : components "/w/." = components "/w" ++ [] := by decide +kernel
  have hup : components "/w/../x" = components "/w" ++ [.parent, .name "x"] := by decide +kernel
  have hbeside : ¬ components "/w" <+: components "/wx/y" := by decide +kernel
  obtain ⟨-, hshown, -, hsame, -, hagain⟩ := display_same_components "/w" hdirectory "/w//a/./../b"
  have hbelow : display "/w" "/w//a/./../b" = "a/../b" := hshown (by decide) _ hbelow (by decide)
  rw [hbelow] at hsame hagain
  obtain ⟨-, hshown, -⟩ := display_same_components "/w" hdirectory "/w/."
  have hself : display "/w" "/w/." = "" := hshown (by decide) _ hself (by decide)
  obtain ⟨-, -, hkept, -⟩ := display_same_components "/w" hdirectory "/w/../x"
  have hup : display "/w" "/w/../x" = "/w/../x" := by
    refine hkept (by decide) fun ss hss => ?_
    rw [← List.append_cancel_left (hup.symm.trans hss)]
    rfl
  obtain ⟨-, -, -, -, hfar, -⟩ := display_same_components "/w" hdirectory "/wx/y"
  exact ⟨hdirectory, hbelow, hself, hup, hfar (by decide) hbeside, hsame, hagain⟩

end PolicyLint.Path
