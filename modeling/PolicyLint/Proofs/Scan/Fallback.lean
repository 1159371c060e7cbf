/-
# Falling back to the dependencies

A reference that leads upwards is looked for where it leads from the page and, if that fails, in the
directory of dependencies, without its steps upwards. So whatever is in that directory is found from
every page, by any number of steps. Without such a directory, and for other references, only the
place where a reference leads from the page or the root is looked at. And whatever is found is still
found when files and directories are added, so that no page gets a new warning.

* `Reference.upwards`, `Reference.IsRemainder` : references that lead upwards, and the rest of them;
* `Reference.resolves_upwards_iff` : what such a reference leads to;
* `Reference.resolves_of_within`, `Scan.sublist_lint_of_within` : what is added to the files;
* `Reference.resolves_fallback` : all of this together.
-/
import PolicyLint.Scan.Input
import PolicyLint.Proofs.Path.Growth
import PolicyLint.Proofs.Scan.Query
import PolicyLint.Proofs.Text.Search
import Mathlib.Data.List.Basic

namespace PolicyLint

namespace Reference

variable {w w' : Workspace} {c : Config} {directory : String} {reference r : List Char}

/-! ## References that lead upwards -/

/-- So many steps upwards. -/
def upwards (k : Nat) : List Char := (List.replicate k "../".toList).flatten

/-- Whether a text can be what follows the steps upwards of a reference that is looked at and has no
query and no fragment. -/
structure IsRemainder (r : List Char) : Prop where
  isPath : IsPath r
  noStep : ¬ "../".toList <+: r
  noAddress : ¬ "://".toList <:+: r
  noBraces : ¬ "\x7b\x7b".toList <:+: r
  noBrackets : ¬ "[[".toList <:+: r

/-- One more step upwards. -/
theorem upwards_succ (k : Nat) : upwards (k + 1) = '.' :: '.' :: '/' :: upwards k := by
  rw [upwards, List.replicate_succ, List.flatten_cons]
  rfl

/-- Steps upwards are dots and slashes. -/
theorem eq_of_mem_upwards {k : Nat} {x : Char} (h : x ∈ upwards k) : x = '.' ∨ x = '/' := by
  obtain ⟨step, hstep, hx⟩ := List.mem_flatten.mp h
  rw [List.eq_of_mem_replicate hstep] at hx
  revert hx
  simp

/-- All steps upwards are left out. -/
theorem afterUpwards_append (h : ¬ "../".toList <+: r) (k : Nat) :
    afterUpwards (upwards k ++ r) = r := by
  induction k with
  | zero =>
      show afterUpwards r = r
      unfold afterUpwards
      split
      · exact absurd ⟨_, rfl⟩ h
      · rfl
  | succ k ih =>
      rw [upwards_succ]
      exact ih

/-- A reference that leads upwards is looked at if its remainder is. -/
theorem isExternal_upwards (k : Nat) (hr : IsRemainder r) :
    isExternal (upwards (k + 1) ++ r) = false := by
  have hnone {x : Char} (hdot : x ≠ '.') (hslash : x ≠ '/') : x ∉ upwards (k + 1) := by
    intro hx
    rcases eq_of_mem_upwards hx with h | h
    · exact hdot h
    · exact hslash h
  have hinfix {x : Char} {part : List Char} (hdot : x ≠ '.') (hslash : x ≠ '/')
      (hpart : ¬ x :: part <:+: r) : ¬ x :: part <:+: upwards (k + 1) ++ r := by
    rwa [Text.infix_append_iff_of_not_mem (hnone hdot hslash)]
  have hprefix {x : Char} {part : List Char} (hdot : x ≠ '.') :
      ¬ x :: part <+: upwards (k + 1) ++ r := by
    rw [upwards_succ]
    exact fun hstart => hdot (List.cons_prefix_cons.mp hstart).1
  rw [Bool.eq_false_iff, ne_eq, isExternal_iff]
  rintro (h | h | h | h | h | h)
  · exact hinfix (by decide) (by decide) hr.noAddress h
  · exact hprefix (by decide) h
  · exact hprefix (by decide) h
  · exact hprefix (by decide) h
  · exact hinfix (by decide) (by decide) hr.noBraces h
  · exact hinfix (by decide) (by decide) hr.noBrackets h

/-- It is a path if its remainder is. -/
theorem isPath_upwards (k : Nat) (hr : IsPath r) : IsPath (upwards k ++ r) := by
  have hnone {x : Char} (hdot : x ≠ '.') (hslash : x ≠ '/') (hx : x ∉ r) :
      x ∉ upwards k ++ r := by
    rw [List.mem_append, not_or]
    refine ⟨fun hmem => ?_, hx⟩
    rcases eq_of_mem_upwards hmem with h | h
    · exact hdot h
    · exact hslash h
  exact ⟨hnone (by decide) (by decide) hr.1, hnone (by decide) (by decide) hr.2⟩

/-- It is looked for in the directory of dependencies by its remainder. -/
theorem fallback?_upwards (hdependencies : c.dependencies ≠ "") (k : Nat)
    (hr : ¬ "../".toList <+: r) :
    fallback? c (upwards (k + 1) ++ r) =
      some (c.root ++ c.dependencies ++ "/" ++ String.ofList r) := by
  have hempty : c.dependencies.isEmpty = false := by simpa using hdependencies
  have hstarts : "../".toList.isPrefixOf (upwards (k + 1) ++ r) = true := by
    rw [upwards_succ]
    rfl
  rw [fallback?, hempty, hstarts, afterUpwards_append hr]
  rfl

/-- **A reference that leads upwards** leads to what is there from the directory of the page, or in
the directory of dependencies by the remainder. -/
theorem resolves_upwards_iff (hdependencies : c.dependencies ≠ "") {k : Nat} (hk : 0 < k)
    (hr : IsRemainder r) :
    resolves w c directory (upwards k ++ r) = true ↔
      w.pathExists (Path.join directory (String.ofList (upwards k ++ r))) = true ∨
        w.pathExists (c.root ++ c.dependencies ++ "/" ++ String.ofList r) = true := by
  obtain ⟨k, rfl⟩ := Nat.exists_eq_succ_of_ne_zero (Nat.ne_of_gt hk)
  have hdirect : direct c directory (upwards (k + 1) ++ r) =
      Path.join directory (String.ofList (upwards (k + 1) ++ r)) := by
    rw [upwards_succ]
    rfl
  have hne : (upwards (k + 1) ++ r).isEmpty = false := by
    rw [upwards_succ]
    rfl
  rw [resolves_of_not_isExternal w c directory (isExternal_upwards k hr),
    pathPart_eq_self (isPath_upwards (k + 1) hr.isPath), hdirect, hne,
    fallback?_upwards hdependencies k hr.noStep, Option.any_some, Bool.false_or, Bool.or_eq_true]

/-! ## Other references -/

/-- **Without a directory of dependencies, or without a step upwards,** only one place is looked
at. -/
theorem resolves_eq_direct (h : c.dependencies = "" ∨ ¬ "../".toList <+: reference) :
    resolves w c directory reference =
      (isExternal reference || (pathPart reference).isEmpty
        || w.pathExists (direct c directory (pathPart reference))) := by
  have hnone : fallback? c (pathPart reference) = none := by
    rw [fallback?, if_pos]
    rw [Bool.or_eq_true, Bool.not_eq_true']
    refine h.imp String.isEmpty_iff.mpr fun hstep => ?_
    rw [Bool.eq_false_iff, ne_eq, List.isPrefixOf_iff_prefix]
    exact fun hstarts => hstep (hstarts.trans (List.takeWhile_prefix _))
  rw [resolves, hnone, Option.any_none, Bool.or_false]

/-! ## What is added -/

/-- **A reference that leads to something still does** when files and directories are added. -/
theorem resolves_of_within (h : w.Within w') (hresolves : resolves w c directory reference = true) :
    resolves w' c directory reference = true := by
  simp only [resolves, Bool.or_eq_true, Option.any_eq_true] at hresolves ⊢
  rcases hresolves with ((hexternal | hempty) | hdirect) | ⟨path, hpath, hexists⟩
  · exact .inl (.inl (.inl hexternal))
  · exact .inl (.inl (.inr hempty))
  · exact .inl (.inr (Workspace.pathExists_of_within h hdirect))
  · exact .inr ⟨path, hpath, Workspace.pathExists_of_within h hexists⟩

end Reference

namespace Scan

variable {w w' : Workspace}

/-- A page has no more references that lead nowhere when files and directories are added. -/
theorem sublist_unresolved_of_within (h : w.Within w') (c : Config) (file : String)
    (text : List Char) : (unresolved w' c file text).Sublist (unresolved w c file text) := by
  apply List.monotone_filter_right
  intro s hs
  rw [Bool.not_eq_true'] at hs ⊢
  rw [Bool.eq_false_iff] at hs ⊢
  exact fun hresolves => hs (Reference.resolves_of_within h hresolves)

/-- **A file has no more warnings when files and directories are added.** -/
theorem sublist_lint_of_within (h : w.Within w') (c : Config) {file text : String}
    (hread : w.read file = .ok text) :
    ∃ vs ws, lint w' c file = .ok vs ∧ lint w c file = .ok ws ∧ vs.Sublist ws := by
  have himports : (importFindings w' c file text.toList).Sublist
      (importFindings w c file text.toList) := by
    rw [importFindings, importFindings]
    split
    · exact (sublist_unresolved_of_within h c file text.toList).map _
    · exact List.Sublist.refl _
  refine ⟨warnings w' c file text, warnings w c file text, ?_, ?_, ?_⟩
  · rw [lint, Workspace.read_of_within h hread]
  · rw [lint, hread]
  · exact (List.sublist_mergeSort_of_sublist Finding.offset
      ((List.Sublist.refl _).append himports)).map _

end Scan

namespace Reference

/-- **Falling back to the dependencies.** With a directory of dependencies a reference that leads
upwards leads to what is there from the directory of the page, or in the directory of dependencies
by the remainder; so what is in that directory is found from every page by any number of steps.
Without one, or for a reference that does not lead upwards, the answer hangs on the place alone
where the reference leads directly. When files and directories are added, a reference that leads to
something still does, and no file that is read has a new warning. -/
theorem resolves_fallback (w : Workspace) (c : Config) :
    (c.dependencies ≠ "" → ∀ r, IsRemainder r →
      let inDependencies := c.root ++ c.dependencies ++ "/" ++ String.ofList r
      (∀ directory k, 0 < k →
        (resolves w c directory (upwards k ++ r) = true ↔
          w.pathExists (Path.join directory (String.ofList (upwards k ++ r))) = true ∨
            w.pathExists inDependencies = true)) ∧
      (w.pathExists inDependencies = true →
        ∀ directory k, 0 < k → resolves w c directory (upwards k ++ r) = true)) ∧
    (∀ directory reference, c.dependencies = "" ∨ ¬ "../".toList <+: reference →
      (resolves w c directory reference =
        (isExternal reference || (pathPart reference).isEmpty
          || w.pathExists (direct c directory (pathPart reference)))) ∧
      ∀ (w' : Workspace) (dependencies : String),
        dependencies = "" ∨ ¬ "../".toList <+: reference →
        w'.pathExists (direct c directory (pathPart reference)) =
          w.pathExists (direct c directory (pathPart reference)) →
        resolves w' { c with dependencies } directory reference =
          resolves w c directory reference) ∧
    ∀ w' : Workspace, w.Within w' →
      (∀ directory reference, resolves w c directory reference = true →
        resolves w' c directory reference = true) ∧
      ∀ file text, w.read file = .ok text → w'.read file = .ok text ∧
        ∃ vs ws, Scan.lint w' c file = .ok vs ∧ Scan.lint w c file = .ok ws ∧ vs.Sublist ws := by
  refine ⟨fun hdependencies r hr => ⟨?_, ?_⟩, fun directory reference h => ⟨?_, ?_⟩,
    fun w' hwithin => ⟨?_, ?_⟩⟩
  · exact fun directory k hk => resolves_upwards_iff hdependencies hk hr
  · exact fun hthere directory k hk =>
      (resolves_upwards_iff hdependencies hk hr).mpr (.inr hthere)
  · exact resolves_eq_direct h
  · intro w' dependencies h' hsame
    have hdirect : direct { c with dependencies } directory (pathPart reference) =
        direct c directory (pathPart reference) := by
      unfold direct
      rfl
    rw [resolves_eq_direct h, resolves_eq_direct h', hdirect, hsame]
  · exact fun directory reference => resolves_of_within hwithin
  · exact fun file text hread =>
      ⟨Workspace.read_of_within hwithin hread, Scan.sublist_lint_of_within hwithin c hread⟩

/-- A page that refers to a missing script. -/
def page : String := "<script src='x.js'></script>"

/-- The page in a directory, next to that of a library. -/
def pageAlone : Workspace :=
  ⟨.directory [("app", .directory [("a.html", .file (some page))]),
    ("lib", .directory [("p", .directory [("q.html", .file (some ""))])])], []⟩

/-- The same with the missing script. -/
def pageWithScript : Workspace :=
  ⟨pageAlone.tree.insert ["app", "x.js"] (.file (some "")), []⟩

/-- The script is added where nothing is. -/
theorem within_pageWithScript : pageAlone.Within pageWithScript := by
  refine ⟨rfl, (FileTree.Grown.add .none _ ⟨rfl, ?_⟩ _).within⟩
  intro front hfront content
  rcases List.prefix_cons_iff.mp hfront with rfl | ⟨rest, rfl, hrest⟩
  · exact fun hat => by cases hat
  · rcases List.prefix_cons_iff.mp hrest with rfl | ⟨more, rfl, hmore⟩
    · exact fun hat => by cases hat
    · rw [List.prefix_nil.mp hmore]
      exact fun hat => by cases hat

/-- Two steps upwards lead out of the directory of the page and of the one above it, but the library
is found; the page has a warning for the script, and none when that is added. -/
theorem resolves_fallback_page :
    let c : Config := { dependencies := "lib" }
    let r := "p/q.html".toList
    IsRemainder r ∧ resolves pageAlone c "app" (upwards 2 ++ r) = true ∧
      resolves pageWithScript c "app" (upwards 2 ++ r) = true ∧
      ¬ "../".toList <+: "x.js".toList ∧
      resolves pageAlone { c with dependencies := "bower" } "app" "x.js".toList = false ∧
      pageAlone.read "app/a.html" = .ok page ∧
      ∃ vs ws, Scan.lint pageWithScript c "app/a.html" = .ok vs ∧
        Scan.lint pageAlone c "app/a.html" = .ok ws ∧ vs.Sublist ws ∧ vs = [] ∧ ws ≠ [] := by
  intro c r
  have hr : IsRemainder r := ⟨by decide +kernel, by decide +kernel, by decide +kernel,
    by decide +kernel, by decide +kernel⟩
  obtain ⟨hup, hother, hadded⟩ := resolves_fallback pageAlone c
  obtain ⟨-, hfound⟩ := hup (by decide) r hr
  obtain ⟨hresolves, hlint⟩ := hadded pageWithScript within_pageWithScript
  have hlibrary := hfound (by decide +kernel) "app" 2 (by decide)
  have hstep : ¬ "../".toList <+: "x.js".toList := by decide +kernel
  have hmissing : resolves pageAlone c "app" "x.js".toList = false := by decide +kernel
  have hread : pageAlone.read "app/a.html" = .ok page := by decide +kernel
  obtain ⟨-, vs, ws, hvs, hws, hsublist⟩ := hlint _ page hread
  refine ⟨hr, hlibrary, hresolves _ _ hlibrary, hstep, ?_, hread, vs, ws, hvs, hws, hsublist, ?_,
    ?_⟩
  · exact ((hother "app" _ (.inr hstep)).2 pageAlone "bower" (.inr hstep) rfl).trans hmissing
  · have hnone : Scan.lint pageWithScript c "app/a.html" = .ok [] := by decide +kernel
    exact Except.ok.inj (hvs.symm.trans hnone)
  · rintro rfl
    exact absurd hws (by decide +kernel)

end Reference

end PolicyLint
