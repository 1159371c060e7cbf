/-
# Inputs below a root

The root as it is used is the root joined to nothing: it is empty, or it ends with a slash. So what
follows it is joined to the root, and an input lies where it is joined to the root as it was given.
The components of a relative path that is joined to another follow those of the other, save the dot
in front of it; so it leads on from there, and never to something beside it.

* `Path.components_join_of_relative` : the components of a joined path;
* `Root.normalize_eq_join` : the root as it is used;
* `Config.resolve_eq_join` : where an input lies.
-/
import PolicyLint.Config
import PolicyLint.Proofs.Path.Steps

namespace PolicyLint

namespace Path

variable {base path : String}

/-! ## Joining to nothing -/

/-- Joined to nothing, a base is followed by its slash, and then by what is joined to it. -/
theorem join_eq_append (hbase : base ≠ "") (hrelative : isAbsolute path = false) :
    join base path = join base "" ++ path := by
  rw [join_of_ne_empty hbase hrelative, join_of_ne_empty hbase rfl]
  split
  · rw [String.append_empty]
  · rw [String.append_empty]

/-- What is joined to nothing ends with a slash. -/
theorem getLast?_join_empty (hbase : base ≠ "") : (join base "").toList.getLast? = some '/' := by
  rw [join_of_ne_empty hbase rfl, String.append_empty, String.append_empty]
  split
  · rename_i hlast
    exact hlast
  · rw [String.toList_append]
    exact List.getLast?_concat

theorem join_empty_ne (hbase : base ≠ "") : join base "" ≠ "" := by
  intro hempty
  have hlast := getLast?_join_empty hbase
  rw [hempty] at hlast
  cases hlast

/-- A second slash is not put behind the first. -/
theorem join_join_empty (base : String) : join (join base "") "" = join base "" := by
  by_cases hbase : base = ""
  · rw [hbase]
    rfl
  · rw [join_of_ne_empty (join_empty_ne hbase) rfl, if_pos (getLast?_join_empty hbase),
      String.append_empty]

/-! ## Components -/

/-- The first piece is that in front of the first slash. -/
theorem head?_pieces_append_slash (as bs : List Char) :
    (pieces (as ++ '/' :: bs)).head? = (pieces as).head? := by
  obtain ⟨p, ps, hps⟩ := List.exists_cons_of_ne_nil (Text.splitAt_ne_nil '/' as)
  rw [pieces, pieces, Text.splitAt_append, hps]
  rfl

/-- A path that is joined to a base begins as the base does. -/
theorem lead_join (hbase : base ≠ "") (hrelative : isAbsolute path = false) :
    lead (join base path) = lead base := by
  have hfirst : (pieces (join base path).toList).head? = (pieces base.toList).head? := by
    rw [join_of_ne_empty hbase hrelative]
    split
    · rename_i hlast
      obtain ⟨as, has⟩ := List.getLast?_eq_some_iff.mp hlast
      have hjoined : (base ++ path).toList = as ++ '/' :: path.toList := by
        simp [String.toList_append, has]
      rw [hjoined, has, head?_pieces_append_slash, head?_pieces_append_slash]
    · have hjoined : (base ++ "/" ++ path).toList = base.toList ++ '/' :: path.toList := by
        simp [String.toList_append]
      rw [hjoined, head?_pieces_append_slash]
  rw [lead, lead, hfirst, (join_of_relative hrelative base).1]

/-- The steps of a relative path are its components, save the dot in front. -/
theorem filter_components (hrelative : isAbsolute path = false) :
    ((components path).filter fun s => s ≠ .current) = steps path.toList := by
  have hsteps : ((steps path.toList).filter fun s => s ≠ .current) = steps path.toList := by
    rw [List.filter_eq_self]
    intro s hs
    obtain rfl | ⟨n, rfl, -⟩ := eq_of_mem_steps hs
    · rfl
    · rfl
  have hlead : ((lead path).filter fun s => s ≠ .current) = [] := by
    rw [lead, hrelative, if_neg Bool.false_ne_true]
    split
    · rfl
    · rfl
  rw [components_eq, List.filter_append, hsteps, hlead, List.nil_append]

/-- **A relative path leads on from what it is joined to.** -/
theorem components_join_of_relative (hbase : base ≠ "") (hrelative : isAbsolute path = false) :
    components (join base path) =
      components base ++ (components path).filter fun s => s ≠ .current := by
  rw [components_eq, components_eq base, lead_join hbase hrelative,
    (join_of_relative hrelative base).2, filter_components hrelative, List.append_assoc]

end Path

/-! ## Roots -/

/-- **The root as it is used** is the root joined to nothing. -/
theorem Root.normalize_eq_join (root : Option String) :
    normalize root = Path.join (root.getD "") "" := by
  by_cases hroot : root.getD "" = ""
  · rw [normalize, hroot]
    rfl
  · have hempty : (root.getD "").isEmpty = false := by simpa using hroot
    rw [Path.join_of_ne_empty hroot rfl, normalize, hempty, String.append_empty,
      String.append_empty]
    simp

/-- **An input lies where it is joined to the root.** Without a root, or if it is absolute, it is
itself; else it follows the root and one slash, which the root may end with. The root as it is used
does not change when it is used as a root again. A relative input has the components of the root
and then its own, save the dot in front of it; so where the last component of the root stands, no
other one stands instead. -/
theorem Config.resolve_eq_join (root : Option String) (policy : Option Policy)
    (dependencies input : String) :
    let r := root.getD ""
    let c : Config := ⟨Root.normalize root, policy, dependencies⟩
    c.resolve input = Path.join r input ∧
    (r = "" ∨ Path.isAbsolute input = true → c.resolve input = input) ∧
    Root.normalize (some c.root) = c.root ∧
    (r ≠ "" → Path.isAbsolute input = false →
      (c.resolve input =
        if r.toList.getLast? = some '/' then r ++ input else r ++ "/" ++ input) ∧
      Path.components (c.resolve input) =
        Path.components r ++ (Path.components input).filter (fun s => s ≠ .current) ∧
      ∀ front last other more, Path.components r = front ++ [last] →
        Path.components (c.resolve input) = front ++ other :: more → other = last) := by
  intro r c
  have hroot : c.root = Path.join r "" := Root.normalize_eq_join root
  have hself : r = "" ∨ Path.isAbsolute input = true → c.resolve input = input := by
    rintro (hempty | habsolute)
    · rw [Config.resolve, hroot, hempty]
      rfl
    · rw [Config.resolve, habsolute, Bool.or_true, if_pos rfl]
  have hjoin : c.resolve input = Path.join r input := by
    by_cases hr : r = ""
    · rw [hself (.inl hr), hr, Path.join_empty]
    · cases habsolute : Path.isAbsolute input with
      | true => rw [hself (.inr habsolute), Path.join_of_isAbsolute habsolute]
      | false =>
          have hne : (Path.join r "").isEmpty = false := by simpa using Path.join_empty_ne hr
          rw [Config.resolve, hroot, hne, habsolute, Path.join_eq_append hr habsolute]
          rfl
  refine ⟨hjoin, hself, ?_, fun hr hrelative => ?_⟩
  · rw [Root.normalize_eq_join, hroot]
    exact Path.join_join_empty r
  · have hcomponents := Path.components_join_of_relative hr hrelative
    rw [hjoin]
    refine ⟨Path.join_of_ne_empty hr hrelative, hcomponents, ?_⟩
    intro front last other more hlast hother
    rw [hcomponents, hlast, List.append_assoc] at hother
    exact (List.cons.inj (List.append_cancel_left hother)).1.symm

/-- Below a root without a slash at its end and one with two, an input with a dot in front; an
absolute input below a root; and an input without a root. -/
theorem Config.resolve_of_roots :
    let c (root : Option String) : Config := ⟨Root.normalize root, none, "lib"⟩
    (c (some "a/é")).resolve "./x.js" = "a/é/./x.js" ∧
    Path.components ((c (some "a/é")).resolve "./x.js") = [.name "a", .name "é", .name "x.js"] ∧
    (c (some "//")).resolve "x.js" = "//x.js" ∧ (c (some "a")).resolve "/x.js" = "/x.js" ∧
    (c none).resolve "x.js" = "x.js" ∧
    ∀ more, Path.components ((c (some "a/é")).resolve "./x.js") ≠
      .name "a" :: .name "ést" :: more := by
  intro c
  obtain ⟨-, -, -, hbelow⟩ := resolve_eq_join (some "a/é") none "lib" "./x.js"
  obtain ⟨htext, hcomponents, hbeside⟩ := hbelow (by decide) (by decide)
  obtain ⟨-, -, -, hslashes⟩ := resolve_eq_join (some "//") none "lib" "x.js"
  obtain ⟨-, habsolute, -⟩ := resolve_eq_join (some "a") none "lib" "/x.js"
  obtain ⟨-, hempty, -⟩ := resolve_eq_join none none "lib" "x.js"
  refine ⟨htext.trans (by decide), hcomponents.trans (by decide +kernel),
    (hslashes (by decide) (by decide)).1.trans (by decide), habsolute (.inr (by decide)),
    hempty (.inl rfl), fun more heq => ?_⟩
  have hlast := hbeside [.name "a"] (.name "é") _ more (by decide +kernel) heq
  exact absurd hlast (by decide)

end PolicyLint
