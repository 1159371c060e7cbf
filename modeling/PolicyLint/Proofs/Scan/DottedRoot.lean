/-
# A dot in front of the root

A relative root can be written with a dot and a slash in front. A file that is named as an input has
them in front of its name then, and is seen from the root as before; so it comes to the same
warnings, if globs treat both of its names alike. The files below a directory are named without
them, and no name begins with the root any more: a glob that is written as seen from the root
exempts none of them, and the steps of the directory count when dependencies are looked for. Where
neither matters, a directory comes to the same warnings.

* `Config.dotted` : a configuration with the dot in front of its root;
* `Scan.renamed` : a scan with its files called otherwise;
* `Scan.input_dotted` : when the dot makes no difference, and what it changes;
* `Scan.input_dotted_ne` : a directory of which it decides.
-/
import PolicyLint.Proofs.Scan.Order
import PolicyLint.Proofs.Scan.Walk

namespace PolicyLint

open PolicyLint.Path (dotted)

/-! ## Roots -/

/-- A root with the dot in front is used as the root is, with the dot in front. -/
theorem Root.normalize_dotted (root : String) :
    normalize (some (dotted root)) = dotted (normalize (some root)) := by
  by_cases hne : root = ""
  · rw [hne]
    rfl
  · have hempty : root.isEmpty = false := by simpa using hne
    simp only [normalize, Option.getD_some, hempty, Path.isEmpty_dotted, Path.getLast?_dotted hne,
      Bool.false_or]
    split
    · rfl
    · exact String.append_assoc

namespace Config

/-- A configuration with the dot in front of its root. -/
def dotted (c : Config) : Config := { c with root := Path.dotted c.root }

theorem root_dotted (c : Config) : c.dotted.root = Path.dotted c.root := rfl

theorem policy_dotted (c : Config) : c.dotted.policy = c.policy := rfl

/-- A relative input follows the root. -/
theorem resolve_eq (c : Config) {input : String} (h : Path.isAbsolute input = false) :
    c.resolve input = c.root ++ input := by
  rw [resolve, h, Bool.or_false]
  split
  · rename_i hempty
    have hroot : c.root = "" := String.isEmpty_iff.mp hempty
    rw [hroot, String.empty_append]
  · rfl

/-- With the dot in front of the root it has the dot in front. -/
theorem resolve_dotted (c : Config) {input : String} (h : Path.isAbsolute input = false) :
    c.dotted.resolve input = Path.dotted (c.resolve input) := by
  rw [resolve_eq _ h, resolve_eq _ h, root_dotted, Path.dotted_append]

end Config

/-! ## References -/

namespace Reference

variable {w : Workspace} {c : Config} {directory directory' : String} {reference : List Char}

/-- The paths that a reference in a page of the given directory is looked for at. -/
def asked (c : Config) (directory : String) (reference : List Char) : List String :=
  let path := pathPart reference
  if isExternal reference || path.isEmpty then []
  else direct c directory path :: (fallback? c path).toList

/-- From the root with the dot in front a path part leads where it leads, or there with the dot in
front, if relative paths from the directory do. -/
theorem direct_dotted (hjoin : ∀ r, Path.isAbsolute r = false →
      Path.join directory' r = Path.join directory r ∨
      Path.join directory' r = dotted (Path.join directory r)) (path : List Char) :
    direct c.dotted directory' path = direct c directory path ∨
      direct c.dotted directory' path = dotted (direct c directory path) := by
  unfold direct
  split
  · exact .inr String.append_assoc
  · rename_i hrelative
    apply hjoin
    rw [Path.isAbsolute, String.toList_ofList, beq_eq_false_iff_ne]
    intro hhead
    obtain ⟨cs, hcs⟩ := List.head?_eq_some_iff.mp hhead
    exact hrelative cs hcs

/-- A reference is resolved alike from the root with the dot in front, if the dot makes no
difference where it is looked for. -/
theorem resolves_dotted (hjoin : ∀ r, Path.isAbsolute r = false →
      Path.join directory' r = Path.join directory r ∨
      Path.join directory' r = dotted (Path.join directory r))
    (hasked : ∀ p ∈ asked c directory reference, Workspace.IsDottable p) :
    resolves w c.dotted directory' reference = resolves w c directory reference := by
  rw [asked] at hasked
  rw [resolves, resolves]
  cases hskip : isExternal reference || (pathPart reference).isEmpty with
  | true => rfl
  | false =>
      rw [hskip, if_neg Bool.false_ne_true] at hasked
      have hdirect : w.pathExists (direct c.dotted directory' (pathPart reference)) =
          w.pathExists (direct c directory (pathPart reference)) := by
        obtain heq | heq := direct_dotted hjoin (pathPart reference)
        · rw [heq]
        · rw [heq, w.pathExists_dotted (hasked _ List.mem_cons_self)]
      have hfallback : (fallback? c.dotted (pathPart reference)).any w.pathExists =
          (fallback? c (pathPart reference)).any w.pathExists := by
        have hmap : fallback? c.dotted (pathPart reference) =
            (fallback? c (pathPart reference)).map dotted := by
          rw [fallback?, fallback?, Config.dotted]
          split
          · rfl
          · simp [Path.dotted, String.append_assoc]
        rw [hmap]
        cases hsome : fallback? c (pathPart reference) with
        | none => rfl
        | some p =>
            rw [hsome] at hasked
            exact w.pathExists_dotted (hasked p (List.mem_cons_of_mem _ List.mem_cons_self))
      rw [hdirect, hfallback]

end Reference

namespace Scan

/-! ## Rules -/

/-- A name that begins with the root is seen from there as what follows. -/
theorem fromRoot_append (root rest : String) : fromRoot root (root ++ rest) = rest := by
  rw [fromRoot, String.toList_append, (Text.strip?_eq_some_iff _ _ _).mpr rfl]
  exact String.ofList_toList

/-- **No bare name begins with a root that has the dot in front.** -/
theorem fromRoot_dotted {file : String} (h : IsBare file) (root : String) :
    fromRoot (dotted root) file = file := by
  rw [fromRoot]
  cases hstrip : Text.strip? (dotted root).toList file.toList with
  | none => rfl
  | some rest =>
      rw [Text.strip?_eq_some_iff, Path.toList_dotted] at hstrip
      exact absurd hstrip (h.2 _)

/-! ## Files called otherwise -/

/-- An error with its file called otherwise. -/
def renamedError (f : String → String) : InputError → InputError
  | .notFound path => .notFound (f path)
  | .unreadable path reason => .unreadable (f path) reason
  | e => e

/-- A scan with its files called otherwise. -/
def renamed (f : String → String) :
    Except InputError (List Warning) → Except InputError (List Warning)
  | .error e => .error (renamedError f e)
  | .ok ws => .ok (ws.map fun v => { v with filename := f v.filename })

theorem errors_map_renamed (f : String → String)
    (results : List (Except InputError (List Warning))) :
    errors (results.map (renamed f)) = (errors results).map (renamedError f) := by
  rw [errors, errors, List.filterMap_map, List.map_filterMap]
  congr 1
  funext r
  cases r <;> rfl

theorem values_map_renamed (f : String → String)
    (results : List (Except InputError (List Warning))) :
    values (results.map (renamed f)) =
      (values results).map (List.map fun v => { v with filename := f v.filename }) := by
  rw [values, values, List.filterMap_map, List.map_filterMap]
  congr 1
  funext r
  cases r <;> rfl

variable {w : Workspace} {c c' : Config} {file file' : String}

/-- A file has the origins of another one with its text, if the same rules apply to both and, in
pages, the same references lead nowhere. -/
theorem origins_congr {text : List Char} (hpolicy : c'.policy = c.policy)
    (happlies : ∀ r ∈ Policy.rulesOf c.policy, applies c' file' r = applies c file r)
    (hpage : isPage file' = isPage file)
    (hresolves : isPage file = true → ∀ s ∈ Html.imports text,
      Reference.resolves w c' ((Path.parent? file').getD "") s.text =
        Reference.resolves w c ((Path.parent? file).getD "") s.text) :
    origins w c' file' text = origins w c file text := by
  have hrules : appliedRules c' file' = appliedRules c file := by
    rw [appliedRules, appliedRules, hpolicy]
    apply List.filter_congr
    intro x hx
    exact happlies x.1 (List.fst_mem_of_mem_zipIdx hx)
  have hreferences : referenceOrigins w c' file' text = referenceOrigins w c file text := by
    rw [referenceOrigins, referenceOrigins, hpage]
    split
    · rename_i hisPage
      congr 1
      apply List.filter_congr
      intro x hx
      rw [hresolves hisPage x.1 (List.fst_mem_of_mem_zipIdx hx)]
    · rfl
  rw [origins, origins, hitOrigins, hitOrigins, hrules, hreferences]

/-- A file called otherwise that has the text and the origins of a file has its warnings. -/
theorem lint_renamed (f : String → String) (hread : w.read (f file) = w.read file)
    (horigins : ∀ text, w.read file = .ok text →
      origins w c' (f file) text.toList = origins w c file text.toList) :
    lint w c' (f file) = renamed f (lint w c file) := by
  rw [lint, lint, hread]
  cases htext : w.read file with
  | error e => rfl
  | ok text =>
      dsimp only [renamed]
      rw [warnings, warnings, findings_eq_origins, findings_eq_origins, horigins text htext,
        List.map_map, List.map_map, List.map_map]
      congr 1
      apply List.map_congr_left
      intro o _
      cases o with
      | hit i r n h => rfl
      | reference n s => rfl

/-- What each file comes to, all of them come to. -/
theorem gather_lint_renamed (f : String → String) {files : List String}
    (h : ∀ file ∈ files, lint w c' (f file) = renamed f (lint w c file)) (choice : Nat) :
    (gather choice ((files.map f).map (lint w c'))).map List.flatten =
      renamed f ((gather choice (files.map (lint w c))).map List.flatten) := by
  have hresults : (files.map f).map (lint w c') = (files.map (lint w c)).map (renamed f) := by
    rw [List.map_map, List.map_map]
    exact List.map_congr_left h
  rw [hresults, gather, gather, errors_map_renamed, List.length_map, List.getElem?_map]
  cases (errors (files.map (lint w c)))[choice % (errors (files.map (lint w c))).length]? with
  | some e => rfl
  | none =>
      show Except.ok _ = Except.ok _
      rw [values_map_renamed, List.map_flatten]

/-- Files that are called as before come to what they came to. -/
theorem renamed_id (result : Except InputError (List Warning)) : renamed id result = result := by
  rcases result with e | ws
  · cases e <;> rfl
  · exact congrArg Except.ok (List.map_id ws)

/-! ## Inputs -/

/-- Whether the dot in front makes no difference to where a path leads, nor to where the references
of the pages among its targets do. -/
structure HasDottablePaths (w : Workspace) (c : Config) (path : String) : Prop where
  isDottable : Workspace.IsDottable path
  areDottable : ∀ file ∈ targetsOf w c path, isPage file = true → ∀ text, w.read file = .ok text →
    ∀ s ∈ Html.imports text.toList,
      ∀ p ∈ Reference.asked c ((Path.parent? file).getD "") s.text, Workspace.IsDottable p

variable {path input : String}

/-- A file that is named as an input has the origins it has without the dot in front, if the rules
that apply to the input treat both of its names alike. -/
theorem origins_dotted {text : String} (h : HasDottablePaths w c path)
    (hpath : path = c.root ++ input) (hdirectory : w.isDirectory path = false)
    (hread : w.read path = .ok text)
    (hrules : ∀ r ∈ Policy.rulesOf c.policy, r.appliesTo input = true →
      r.appliesTo (dotted path) = r.appliesTo path) :
    origins w c.dotted (dotted path) text.toList = origins w c path text.toList := by
  have hrelative := h.isDottable.isRelative
  have hnamed := h.isDottable.isNamed
  have hroot : fromRoot c.root path = input := by rw [hpath, fromRoot_append]
  have hrootDotted : fromRoot c.dotted.root (dotted path) = input := by
    rw [hpath, Path.dotted_append, Config.root_dotted, fromRoot_append]
  apply origins_congr c.policy_dotted
  · intro r hr
    rw [applies, applies, hroot, hrootDotted]
    cases happlies : r.appliesTo input with
    | false => rw [Bool.and_false, Bool.and_false]
    | true => rw [hrules r hr happlies]
  · rw [isPage, isPage, Path.extension?_dotted hrelative hnamed]
  · intro hpage s hs
    apply Reference.resolves_dotted fun r hr => Path.join_parent?_dotted hrelative hnamed hr
    apply h.areDottable path ?_ hpage text hread s hs
    rw [targetsOf, hdirectory]
    exact List.mem_singleton_self path

/-- A file below a directory has the origins it has without the dot in front of the root, if the
rules that apply to its name apply to its name as seen from the root. -/
theorem origins_dottedRoot {text : String} (h : HasDottablePaths w c path)
    (hfile : file ∈ targetsOf w c path) (hbare : IsBare file) (hread : w.read file = .ok text)
    (hrules : ∀ r ∈ Policy.rulesOf c.policy, r.appliesTo file = true →
      r.appliesTo (fromRoot c.root file) = true) :
    origins w c.dotted file text.toList = origins w c file text.toList := by
  apply origins_congr c.policy_dotted
  · intro r hr
    rw [applies, applies, Config.root_dotted, fromRoot_dotted hbare]
    cases happlies : r.appliesTo file with
    | false => rfl
    | true => rw [hrules r hr happlies]
  · rfl
  · intro hpage s hs
    exact Reference.resolves_dotted (fun r _ => .inl rfl)
      (h.areDottable file hfile hpage text hread s hs)

/-- What is no directory comes to the same with the dot in front, but for the dot in front of its
name, if the rules that apply to the input treat both of its names alike. -/
theorem scan_dotted_of_not_isDirectory (h : HasDottablePaths w c path)
    (hpath : path = c.root ++ input) (hdirectory : w.isDirectory path = false)
    (hrules : ∀ r ∈ Policy.rulesOf c.policy, r.appliesTo input = true →
      r.appliesTo (dotted path) = r.appliesTo path) (choice : Nat) :
    scan w c.dotted (dotted path) choice = renamed dotted (scan w c path choice) := by
  have hlint (file : String) (hfile : file ∈ [path]) :
      lint w c.dotted (dotted file) = renamed dotted (lint w c file) := by
    rw [List.mem_singleton.mp hfile]
    exact lint_renamed dotted (w.read_dotted h.isDottable) fun text hread =>
      origins_dotted h hpath hdirectory hread hrules
  rw [scan, scan, targetsOf, targetsOf, w.pathExists_dotted h.isDottable,
    w.isDirectory_dotted h.isDottable, hdirectory]
  split
  · exact gather_lint_renamed dotted hlint choice
  · rfl

/-- A directory comes to the same with the dot in front, if none of its steps is called as the
dependencies are, and the rules that apply to the name of a target apply to it as seen from the
root. -/
theorem scan_dotted_of_isDirectory (h : HasDottablePaths w c path)
    (hdirectory : w.isDirectory path = true)
    (hsteps : ∀ s ∈ Path.components path, s.text ≠ c.dependencies)
    (hrules : ∀ file ∈ targetsOf w c path, ∀ r ∈ Policy.rulesOf c.policy,
      r.appliesTo file = true → r.appliesTo (fromRoot c.root file) = true) (choice : Nat) :
    scan w c.dotted (dotted path) choice = scan w c path choice := by
  have hexists := Workspace.pathExists_of_isDirectory hdirectory
  have htargets : targetsOf w c path = targets w path c.dependencies := by
    rw [targetsOf, hdirectory, if_pos rfl]
  have htargetsDotted : targetsOf w c.dotted (dotted path) = targetsOf w c path := by
    rw [targetsOf, w.isDirectory_dotted h.isDottable, hdirectory, if_pos rfl, htargets,
      ← targets_dotted hdirectory h.isDottable hsteps]
    rfl
  have hlint (file : String) (hfile : file ∈ targetsOf w c path) :
      lint w c.dotted file = renamed id (lint w c file) := by
    have hbare := isBare_of_mem_targets h.isDottable.isNamed h.isDottable.isRelative
      (htargets ▸ hfile)
    exact lint_renamed id rfl fun text hread =>
      origins_dottedRoot h hfile hbare hread (hrules file hfile)
  have hall := gather_lint_renamed id hlint choice
  rw [List.map_id, renamed_id] at hall
  rw [scan, scan, w.pathExists_dotted h.isDottable, if_pos hexists, if_pos hexists, htargetsDotted,
    hall]

/-- Below a directory, rules apply by the names of its targets alone if the root has the dot in
front. -/
theorem applies_dotted (hdirectory : w.isDirectory path = true) (h : Workspace.IsDottable path)
    {dependencies : String} (hfile : file ∈ targets w (dotted path) dependencies) (c : Config)
    (r : Rule) : applies c.dotted file r = r.appliesTo file := by
  have hsource := ((mem_targets_dotted hdirectory h).mp hfile).1
  have hbare := (isBare_of_mem_sources h.isNamed h.isRelative hsource).1
  rw [applies, Config.root_dotted, fromRoot_dotted hbare, Bool.and_self]

/-- **What a dot in front of the root changes.** Let the path of an input, and all paths that
references of its pages are looked for at, lead where they lead with the dot in front. An input that
is no directory comes to the same with the dot in front of the root, but for the dot in front of its
name, if each rule that applies to the input treats both of its names alike. A directory comes to
the same, if none of its steps is called as the dependencies are, and each rule that applies to the
name of a target applies to it as seen from the root. In any case its targets are the sources below
it of which no step is called as the dependencies are, and rules apply by their names alone. -/
theorem input_dotted (w : Workspace) (root : String) (policy : Option Policy)
    (dependencies input : String) (choice : Nat) :
    let c : Config := ⟨Root.normalize (some root), policy, dependencies⟩
    let c' : Config := ⟨Root.normalize (some ("./" ++ root)), policy, dependencies⟩
    let path := c.resolve input
    HasDottablePaths w c path →
    (w.isDirectory path = false →
      (∀ r ∈ Policy.rulesOf policy, r.appliesTo input = true →
        r.appliesTo ("./" ++ path) = r.appliesTo path) →
      Scan.input w c' input choice = renamed ("./" ++ ·) (Scan.input w c input choice)) ∧
    (w.isDirectory path = true →
      (∀ s ∈ Path.components path, s.text ≠ dependencies) →
      (∀ file ∈ targetsOf w c path, ∀ r ∈ Policy.rulesOf policy, r.appliesTo file = true →
        r.appliesTo (fromRoot c.root file) = true) →
      Scan.input w c' input choice = Scan.input w c input choice) ∧
    (w.isDirectory path = true → ∀ file,
      (file ∈ targetsOf w c' (c'.resolve input) ↔ file ∈ sources w path ∧ w.isFile file = true ∧
        (dependencies ≠ "" → ∀ s ∈ Path.components file, s.text ≠ dependencies)) ∧
      (file ∈ targetsOf w c' (c'.resolve input) → ∀ r, applies c' file r = r.appliesTo file)) := by
  intro c c' path h
  have hc' : c' = c.dotted := by
    show (⟨_, _, _⟩ : Config) = ⟨_, _, _⟩
    rw [← Root.normalize_dotted]
    rfl
  have hinput : Path.isAbsolute input = false := by
    cases habsolute : Path.isAbsolute input with
    | false => rfl
    | true =>
        have hpath : path = input := by
          show Config.resolve c input = input
          rw [Config.resolve, habsolute, Bool.or_true, if_pos rfl]
        rw [← hpath, h.isDottable.isRelative] at habsolute
        cases habsolute
  have hresolve : c'.resolve input = dotted path := by rw [hc', c.resolve_dotted hinput]
  rw [Scan.input, Scan.input, hresolve, hc']
  refine ⟨fun hdirectory hrules => ?_, fun hdirectory hsteps hrules => ?_, fun hdirectory => ?_⟩
  · exact scan_dotted_of_not_isDirectory h (c.resolve_eq hinput) hdirectory hrules choice
  · exact scan_dotted_of_isDirectory h hdirectory hsteps hrules choice
  · have htargets : targetsOf w c.dotted (dotted path) = targets w (dotted path) dependencies := by
      rw [targetsOf, w.isDirectory_dotted h.isDottable, hdirectory, if_pos rfl]
      rfl
    intro file
    rw [htargets]
    exact ⟨mem_targets_dotted hdirectory h.isDottable,
      fun hfile => applies_dotted hdirectory h.isDottable hfile c⟩

/-- A rule that bans a name, save in the files of some globs. -/
def banRule (whitelist : List (List Glob.Token)) : Rule :=
  ⟨.name, [("eval", Matcher.wholeWord "eval".toList)], none, whitelist, true⟩

/-- A page with the banned name and a reference that is looked for from the root. -/
def pageBelow : Workspace :=
  ⟨.directory [("app", .directory [("sub", .directory
    [("p.htm", .file (some "eval <script src='/q.js'></script>"))])])], []⟩

/-- The page and its directory come to the same with the dot in front of the root, under a rule that
exempts files by the ends of their names. -/
theorem input_dotted_pageBelow :
    let policy : Option Policy := some ⟨[banRule [.anySequence :: "q.js".toList.map .char]]⟩
    let c : Config := ⟨Root.normalize (some "app"), policy, "lib"⟩
    let c' : Config := ⟨Root.normalize (some "./app"), policy, "lib"⟩
    Scan.input pageBelow c' "sub/p.htm" =
      renamed ("./" ++ ·) (Scan.input pageBelow c "sub/p.htm") ∧
    Scan.input pageBelow c' "sub" = Scan.input pageBelow c "sub" := by
  intro policy c c'
  have hpaths (path : String) (hpath : Workspace.IsDottable path)
      (htargets : targetsOf pageBelow c path = ["app/sub/p.htm"]) :
      HasDottablePaths pageBelow c path := by
    refine ⟨hpath, ?_⟩
    intro file hfile _ text hread
    rw [htargets, List.mem_singleton] at hfile
    have htext : pageBelow.read "app/sub/p.htm" = .ok "eval <script src='/q.js'></script>" := by
      decide +kernel
    rw [hfile, htext] at hread
    rw [hfile, ← Except.ok.inj hread]
    decide +kernel
  constructor
  · obtain ⟨hfile, -⟩ := input_dotted pageBelow "app" policy "lib" "sub/p.htm" 0
      (hpaths _ (by decide +kernel) (by decide +kernel))
    exact hfile (by decide +kernel) (by decide +kernel)
  · obtain ⟨-, hdirectory, -⟩ := input_dotted pageBelow "app" policy "lib" "sub" 0
      (hpaths _ (by decide +kernel) (by decide +kernel))
    exact hdirectory (by decide +kernel) (by decide +kernel) (by decide +kernel)

/-- A script with the banned name, below two directories. -/
def scriptBelow : Workspace :=
  ⟨.directory [("app", .directory [("sub", .directory [("x.js", .file (some "eval"))])])], []⟩

/-- **The dot in front of the root decides about a directory.** A glob that is written as seen from
the root exempts the script, named as an input, with and without the dot; below the directory it
exempts it without the dot only. A directory of dependencies that is called as the root is does not
count without the dot; with it, the script is passed over. -/
theorem input_dotted_ne :
    let below : List Glob.Token := "sub/".toList.map .char ++ [.anyPieces]
    let hit : Warning := ⟨"app/sub/x.js", ⟨1, 1⟩, "Use of banned name 'eval'", true⟩
    let found (root dependencies : String) (whitelist : List (List Glob.Token)) (input : String) :=
      Scan.input scriptBelow ⟨Root.normalize (some root), some ⟨[banRule whitelist]⟩, dependencies⟩
        input
    Glob.parse "sub/**" = .ok below ∧
    found "app" "" [below] "sub/x.js" = .ok [] ∧ found "./app" "" [below] "sub/x.js" = .ok [] ∧
    found "app" "" [below] "sub" = .ok [] ∧ found "./app" "" [below] "sub" = .ok [hit] ∧
    found "app" "app" [] "sub" = .ok [hit] ∧ found "./app" "app" [] "sub" = .ok [] := by
  decide +kernel

end Scan

end PolicyLint
