/-
# When an input is scanned

An input is scanned when it is there and each of its targets holds a text. Its targets are files, so
nothing else can keep a target from being read; and if the input is not scanned, it is not there or
a target is not read. Of several targets that are not read the choice says which one counts; it
makes no other difference.

* `Workspace.IsReadable` : whether a path leads to a text;
* `Scan.gather_eq_ok_iff`, `Scan.exists_gather_eq_error_iff` : what some results come to together;
* `Scan.exists_file_of_mem_targetsOf` : the targets of what is there are files;
* `Scan.scan_eq_ok_iff_lint`, `Scan.exists_scan_eq_error_iff` : what an input comes to;
* `Scan.exists_scan_eq_ok_iff` : which inputs are scanned;
* `Scan.cases_of_scan_eq_error` : why another is not.
-/
import PolicyLint.Scan.Input
import PolicyLint.Proofs.Traversal

namespace PolicyLint

/-! ## Files -/

/-- Whether a path leads to a file whose content is a text. -/
def Workspace.IsReadable (w : Workspace) (path : String) : Prop := ∃ text, w.read path = .ok text

/-- A path leads to a file exactly if it leads to some content. -/
theorem Workspace.isFile_iff {w : Workspace} {path : String} :
    w.isFile path = true ↔ ∃ content, w.find path = .ok (.file content) := by
  rw [isFile]
  cases hfind : w.find path with
  | error e => simp
  | ok t =>
      cases t with
      | file content => simp [FileTree.isDirectory]
      | directory entries => simp [FileTree.isDirectory]

/-- What is there and is no directory is a file. -/
theorem Workspace.isFile_of_pathExists {w : Workspace} {path : String}
    (hexists : w.pathExists path = true) (hdirectory : ¬ w.isDirectory path = true) :
    w.isFile path = true := by
  rw [pathExists] at hexists
  rw [isDirectory] at hdirectory
  rw [isFile]
  cases hfind : w.find path with
  | error e =>
      rw [hfind] at hexists
      cases hexists
  | ok t =>
      rw [hfind, Bool.not_eq_true] at hdirectory
      dsimp only at hdirectory ⊢
      rw [hdirectory]
      rfl

namespace Scan

/-! ## Gathering -/

section

variable {ε α : Type} {results : List (Except ε α)} {choice : Nat} {e : ε}

theorem mem_errors_iff : e ∈ errors results ↔ .error e ∈ results := by
  rw [errors, List.mem_filterMap]
  constructor
  · rintro ⟨_ | _, hr, heq⟩
    · cases heq
      exact hr
    · cases heq
  · exact fun h => ⟨_, h, rfl⟩

/-- Values have no errors among them. -/
theorem errors_map_ok (xs : List α) : errors (xs.map (Except.ok (ε := ε))) = [] := by
  rw [errors, List.filterMap_map, List.filterMap_eq_nil_iff]
  exact fun _ _ => rfl

/-- Values are all there is without errors. -/
theorem eq_map_ok_of_errors_eq_nil (h : errors results = []) :
    results = (values results).map .ok := by
  induction results with
  | nil => rfl
  | cons r results ih =>
      cases r with
      | error e => cases h
      | ok x => exact congrArg _ (ih h)

/-- **Results come to values exactly if each of them is one.** -/
theorem gather_eq_ok_iff {xs : List α} : gather choice results = .ok xs ↔ results = xs.map .ok := by
  rw [gather]
  constructor
  · intro h
    split at h
    · cases h
    · -- counted around, every number is that of an error, unless there is none
      rename_i hnone
      cases h
      apply eq_map_ok_of_errors_eq_nil
      rw [List.getElem?_eq_none_iff] at hnone
      by_contra hne
      exact absurd (Nat.mod_lt choice (List.length_pos_iff.mpr hne)) (Nat.not_lt.mpr hnone)
  · rintro rfl
    rw [errors_map_ok, values, List.filterMap_map]
    exact congrArg _ List.filterMap_some

/-- **They come to an error under some choice exactly if it is one of them.** -/
theorem exists_gather_eq_error_iff :
    (∃ choice, gather choice results = .error e) ↔ .error e ∈ results := by
  rw [← mem_errors_iff]
  constructor
  · rintro ⟨choice, h⟩
    rw [gather] at h
    split at h
    · rename_i hsome
      cases h
      exact List.mem_of_getElem? hsome
    · cases h
  · intro h
    obtain ⟨i, hi⟩ := List.mem_iff_getElem?.mp h
    have hlt : i < (errors results).length := (List.getElem?_eq_some_iff.mp hi).1
    refine ⟨i, ?_⟩
    rw [gather, Nat.mod_eq_of_lt hlt, hi]

/-- Where all errors are the same there is no choice. -/
theorem gather_eq_of_forall_eq (h : ∀ d ∈ errors results, ∀ e ∈ errors results, d = e)
    (other : Nat) : gather choice results = gather other results := by
  rcases hnone : errors results with _ | ⟨d, rest⟩
  · rw [gather, gather, hnone]
    rfl
  · have hone (n : Nat) : gather n results = .error d := by
      have hlt : n % (errors results).length < (errors results).length :=
        Nat.mod_lt n (by rw [hnone]; exact Nat.zero_lt_succ _)
      rw [gather, List.getElem?_eq_getElem hlt]
      exact congrArg _ (h _ (List.getElem_mem hlt) d (by rw [hnone]; exact List.mem_cons_self))
    rw [hone, hone]

end

variable {w : Workspace} {c : Config} {path file : String} {choice : Nat}

/-- A target of a directory is a source that is not passed over and is a file. -/
theorem mem_sources_of_mem_targets {d dependencies : String} (h : file ∈ targets w d dependencies) :
    file ∈ sources w d ∧ isDependency d dependencies file = false ∧ w.isFile file = true := by
  rw [targets, List.eraseRepsBy_eq_destutter] at h
  have hfound := List.mem_mergeSort.mp ((List.destutter_sublist _ _).mem h)
  rw [List.mem_filter, Bool.and_eq_true, Bool.not_eq_true'] at hfound
  exact hfound

/-- What is found in order, and each once, are the targets as they are found. -/
theorem targets_eq_of_pairwise {d dependencies : String} {found : List String}
    (hfound : (sources w d).filter
      (fun path => !isDependency d dependencies path && w.isFile path) = found)
    (hsorted : found.Pairwise fun a b => Path.le (Path.components a) (Path.components b) = true ∧
      (Path.components a == Path.components b) = false) : targets w d dependencies = found := by
  rw [targets, hfound, List.mergeSort_of_pairwise (hsorted.imp And.left),
    List.eraseRepsBy_eq_destutter]
  apply List.destutter_of_isChain
  exact (hsorted.imp fun h => Bool.eq_false_iff.mp h.2).isChain

/-- **The targets of what is there are files.** -/
theorem exists_file_of_mem_targetsOf (h : w.pathExists path = true)
    (hfile : file ∈ targetsOf w c path) : ∃ content, w.find file = .ok (.file content) := by
  apply Workspace.isFile_iff.mp
  rw [targetsOf] at hfile
  split at hfile
  · exact (mem_sources_of_mem_targets hfile).2.2
  · rename_i hdirectory
    rw [List.mem_singleton.mp hfile]
    exact Workspace.isFile_of_pathExists h hdirectory

/-- A file is linted exactly if its content is a text. -/
theorem exists_lint_eq_ok_iff {content : Option String} (h : w.find file = .ok (.file content)) :
    (∃ ws, lint w c file = .ok ws) ↔ content.isSome = true := by
  rw [lint, Workspace.read, h]
  cases content with
  | none =>
      constructor
      · rintro ⟨ws, hws⟩
        cases hws
      · intro hsome
        cases hsome
  | some text => exact ⟨fun _ => rfl, fun _ => ⟨_, rfl⟩⟩

/-- A file that is linted is read, and comes to its warnings. -/
theorem exists_of_lint_eq_ok {ws : List Warning} (h : lint w c file = .ok ws) :
    ∃ text, w.read file = .ok text ∧ ws = warnings w c file text := by
  rw [lint] at h
  split at h
  · cases h
  · rename_i text hread
    cases h
    exact ⟨text, hread, rfl⟩

/-- A file that is not linted is not read. -/
theorem exists_of_lint_eq_error {e : InputError} (h : lint w c file = .error e) :
    ∃ reason, e = .unreadable file reason := by
  rw [lint] at h
  split at h
  · cases h
    exact ⟨_, rfl⟩
  · cases h

/-! ## Inputs -/

/-- **What an input comes to that is scanned**: what its targets come to. -/
theorem scan_eq_ok_iff_lint {ws : List Warning} :
    scan w c path choice = .ok ws ↔ w.pathExists path = true ∧
      ∃ parts, List.Forall₂ (fun file part => lint w c file = .ok part) (targetsOf w c path) parts ∧
        ws = parts.flatten := by
  have hgather (parts : List (List Warning)) :
      gather choice ((targetsOf w c path).map (lint w c)) = .ok parts ↔
        List.Forall₂ (fun file part => lint w c file = .ok part) (targetsOf w c path) parts := by
    rw [gather_eq_ok_iff, ← List.forall₂_eq_eq_eq, List.forall₂_map_left_iff,
      List.forall₂_map_right_iff]
  rw [scan]
  by_cases hexists : w.pathExists path = true
  · simp only [hexists, if_true, true_and, ← hgather]
    cases gather choice ((targetsOf w c path).map (lint w c)) with
    | error e => simp [Except.map]
    | ok parts => simp [Except.map, eq_comm]
  · simp [hexists]

/-- Whether an input is scanned, and what it comes to, does not hang on the choice. -/
theorem scan_eq_ok_congr (other : Nat) {ws : List Warning} :
    scan w c path choice = .ok ws ↔ scan w c path other = .ok ws := by
  rw [scan_eq_ok_iff_lint, scan_eq_ok_iff_lint]

/-- Under two choices an input comes to the same warnings, or it fails under both. -/
theorem cases_of_choices (w : Workspace) (c : Config) (path : String) (choice other : Nat) :
    (∃ ws, scan w c path choice = .ok ws ∧ scan w c path other = .ok ws) ∨
      ∃ d e, scan w c path choice = .error d ∧ scan w c path other = .error e := by
  cases hscan : scan w c path choice with
  | ok ws => exact .inl ⟨ws, rfl, (scan_eq_ok_congr other).mp hscan⟩
  | error d =>
      cases hother : scan w c path other with
      | error e => exact .inr ⟨d, e, rfl, rfl⟩
      | ok ws =>
          rw [(scan_eq_ok_congr choice).mp hother] at hscan
          cases hscan

/-- **What an input comes to that is there and is not scanned**: under some choice, what a target
comes to that is not read. -/
theorem exists_scan_eq_error_iff {e : InputError} (hexists : w.pathExists path = true) :
    (∃ choice, scan w c path choice = .error e) ↔
      ∃ file ∈ targetsOf w c path, lint w c file = .error e := by
  have hgather (choice : Nat) : scan w c path choice = .error e ↔
      gather choice ((targetsOf w c path).map (lint w c)) = .error e := by
    rw [scan, if_pos hexists]
    cases gather choice ((targetsOf w c path).map (lint w c)) with
    | error d => simp [Except.map]
    | ok parts => simp [Except.map]
  simp only [hgather, exists_gather_eq_error_iff, List.mem_map]

/-- **Where one target at most is not read there is no choice.** -/
theorem scan_eq_of_forall_eq
    (h : ∀ file ∈ targetsOf w c path, ∀ other ∈ targetsOf w c path,
      ¬ w.IsReadable file → ¬ w.IsReadable other → file = other) (other : Nat) :
    scan w c path choice = scan w c path other := by
  have hfails {e : InputError} (he : e ∈ errors ((targetsOf w c path).map (lint w c))) :
      ∃ file ∈ targetsOf w c path, ¬ w.IsReadable file ∧ lint w c file = .error e := by
    obtain ⟨file, hfile, hfail⟩ := List.mem_map.mp (mem_errors_iff.mp he)
    refine ⟨file, hfile, ?_, hfail⟩
    rintro ⟨text, htext⟩
    rw [lint, htext] at hfail
    cases hfail
  have hsame : ∀ d ∈ errors ((targetsOf w c path).map (lint w c)),
      ∀ e ∈ errors ((targetsOf w c path).map (lint w c)), d = e := by
    intro d hd e he
    obtain ⟨file, hfile, hread, hfail⟩ := hfails hd
    obtain ⟨file', hfile', hread', hfail'⟩ := hfails he
    rw [h file hfile file' hfile' hread hread', hfail'] at hfail
    exact (Except.error.inj hfail).symm
  rw [scan, scan, gather_eq_of_forall_eq hsame other]

/-- **What is at a path is scanned exactly if it is there and each target holds a text.** -/
theorem exists_scan_eq_ok_iff :
    (∃ ws, scan w c path choice = .ok ws) ↔
      w.pathExists path = true ∧ ∀ file ∈ targetsOf w c path, w.find file ≠ .ok (.file none) := by
  constructor
  · rintro ⟨ws, hws⟩
    obtain ⟨hexists, parts, hparts, -⟩ := scan_eq_ok_iff_lint.mp hws
    refine ⟨hexists, fun file hfile hnone => ?_⟩
    obtain ⟨part, -, hpart⟩ := hparts.exists_of_mem file hfile
    cases (exists_lint_eq_ok_iff hnone).mp ⟨part, hpart⟩
  · rintro ⟨hexists, htext⟩
    cases hscan : scan w c path choice with
    | ok ws => exact ⟨ws, rfl⟩
    | error e =>
        obtain ⟨file, hfile, hfail⟩ := (exists_scan_eq_error_iff hexists).mp ⟨choice, hscan⟩
        obtain ⟨content, hcontent⟩ := exists_file_of_mem_targetsOf hexists hfile
        cases content with
        | none => exact absurd hcontent (htext file hfile)
        | some text =>
            obtain ⟨ws, hws⟩ := (exists_lint_eq_ok_iff (c := c) hcontent).mpr rfl
            rw [hws] at hfail
            cases hfail

/-- **If what is at a path is not scanned**, it is not there or one of its targets is not read. -/
theorem cases_of_scan_eq_error {e : InputError} (h : scan w c path choice = .error e) :
    e = .notFound path ∨ ∃ file ∈ targetsOf w c path, ∃ reason, e = .unreadable file reason := by
  by_cases hexists : w.pathExists path = true
  · right
    obtain ⟨file, hfile, hfail⟩ := (exists_scan_eq_error_iff hexists).mp ⟨choice, h⟩
    exact ⟨file, hfile, exists_of_lint_eq_error hfail⟩
  · left
    rw [scan, if_neg hexists] at h
    cases h
    rfl

/-- No scan ends with an error of its task. -/
theorem input_ne_task (w : Workspace) (c : Config) (input message : String) (choice : Nat) :
    Scan.input w c input choice ≠ .error (.task message) := by
  intro h
  rcases cases_of_scan_eq_error h with h | ⟨file, -, reason, h⟩
  · cases h
  · cases h

end Scan

end PolicyLint
