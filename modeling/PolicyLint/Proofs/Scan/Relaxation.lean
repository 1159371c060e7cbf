/-
# More rules, more warnings; more exemptions, fewer

The warnings of a file are the hits of the rules that apply to it and its references that lead
nowhere. So a policy with fewer rules, or with rules that exempt more files, finds a part of what
the other one finds, and the references that lead nowhere are found whatever the policy is. Sorting
does not change that, since a part of a list, sorted, is a part of the sorted list. Whether an input
can be scanned does not depend on the policy at all.

* `Rule.Relaxed` : rules of which some are deleted and some exempt more;
* `Scan.Fewer` : a scan that fails as another one does, or finds a part of what the other finds;
* `Scan.references` : the warnings of a scan that come from references;
* `Scan.fewer_of_relaxed`, `Scan.references_eq` : scans under two policies;
* `Scan.sublist_of_relaxed` : the law for scans and for runs.
-/
import PolicyLint.Proofs.Scan.Order
import PolicyLint.Proofs.Program.ExitCode
import PolicyLint.Proofs.Policy.WholeWords
import Mathlib.Data.List.Flatten

namespace PolicyLint

/-! ## Relaxed rules -/

/-- Whether some rules are other rules relaxed: some are deleted, at any places, and some have more
globs behind their whitelists. -/
inductive Rule.Relaxed : List Rule → List Rule → Prop
  | nil : Relaxed [] []
  | delete (r : Rule) {rs rs' : List Rule} (h : Relaxed rs rs') : Relaxed rs (r :: rs')
  | exempt (r : Rule) (globs : List (List Glob.Token)) {rs rs' : List Rule} (h : Relaxed rs rs') :
      Relaxed ({ r with whitelist := r.whitelist ++ globs } :: rs) (r :: rs')

/-- A rule that exempts more files applies to no more files. -/
theorem Rule.appliesTo_of_exempt {r : Rule} {globs : List (List Glob.Token)} {file : String}
    (h : Rule.appliesTo { r with whitelist := r.whitelist ++ globs } file = true) :
    r.appliesTo file = true := by
  simp only [appliesTo, List.any_append, Bool.not_or, Bool.and_eq_true] at h
  exact h.1

namespace Scan

variable (w : Workspace) (root dependencies : String)

/-! ## Hits -/

/-- **Relaxed rules find a part of what the rules find.** By induction along the rules. -/
theorem sublist_policyFindings {p p' : Option Policy}
    (h : Rule.Relaxed (Policy.rulesOf p) (Policy.rulesOf p')) (file : String) (text : List Char) :
    (policyFindings ⟨root, p, dependencies⟩ file text).Sublist
      (policyFindings ⟨root, p', dependencies⟩ file text) := by
  rw [policyFindings, policyFindings]
  show ((Policy.rulesOf p).filter _ |>.flatMap _).Sublist ((Policy.rulesOf p').filter _ |>.flatMap _)
  generalize Policy.rulesOf p = rs at h ⊢
  generalize Policy.rulesOf p' = rs' at h ⊢
  induction h with
  | nil => exact List.Sublist.refl _
  | delete r h ih => exact ih.trans (((List.sublist_cons_self r _).filter _).flatMap _)
  | exempt r globs h ih =>
      -- what applies with more exemptions applies without them, and has the same hits
      by_cases happlies : applies ⟨root, p, dependencies⟩ file
          { r with whitelist := r.whitelist ++ globs } = true
      · have happlies' : applies ⟨root, p', dependencies⟩ file r = true := by
          rw [applies, Bool.and_eq_true] at happlies ⊢
          exact ⟨Rule.appliesTo_of_exempt happlies.1, Rule.appliesTo_of_exempt happlies.2⟩
        rw [List.filter_cons_of_pos happlies, List.filter_cons_of_pos happlies']
        rw [List.flatMap_cons, List.flatMap_cons]
        exact (List.Sublist.refl _).append ih
      · rw [List.filter_cons_of_neg happlies]
        exact ih.trans (((List.sublist_cons_self r _).filter _).flatMap _)

/-! ## Scans -/

/-- Whether a scan comes to no more than another: both fail alike, or the warnings of the one are a
part of those of the other, in the same order. -/
inductive Fewer : Except InputError (List Warning) → Except InputError (List Warning) → Prop
  | error (e : InputError) : Fewer (.error e) (.error e)
  | ok {ws vs : List Warning} (h : ws.Sublist vs) : Fewer (.ok ws) (.ok vs)

namespace Fewer

variable {a b : Except InputError (List Warning)}

/-- The one scan succeeds exactly if the other does. -/
theorem exists_eq_ok_iff (h : Fewer a b) : (∃ ws, a = .ok ws) ↔ ∃ vs, b = .ok vs := by
  cases h with
  | error e =>
      constructor
      · rintro ⟨ws, hws⟩
        cases hws
      · rintro ⟨vs, hvs⟩
        cases hvs
  | ok h => exact ⟨fun _ => ⟨_, rfl⟩, fun _ => ⟨_, rfl⟩⟩

/-- They fail for the same reason. -/
theorem eq_error_iff (h : Fewer a b) (e : InputError) : a = .error e ↔ b = .error e := by
  cases h with
  | error d => exact Iff.rfl
  | ok h =>
      constructor
      · intro hws
        cases hws
      · intro hvs
        cases hvs

/-- The warnings of the one are a part of those of the other. -/
theorem sublist {ws vs : List Warning} (h : Fewer (.ok ws) (.ok vs)) : ws.Sublist vs := by
  cases h with
  | ok h => exact h

/-- What holds for each target holds for all of them, under the same choice. -/
theorem gather_flatten {f g : String → Except InputError (List Warning)}
    (h : ∀ file, Fewer (f file) (g file)) (files : List String) (choice : Nat) :
    Fewer ((gather choice (files.map f)).map List.flatten)
      ((gather choice (files.map g)).map List.flatten) := by
  have hall : errors (files.map f) = errors (files.map g) ∧
      (values (files.map f)).flatten.Sublist (values (files.map g)).flatten := by
    induction files with
    | nil => exact ⟨rfl, List.Sublist.refl _⟩
    | cons file files ih =>
        have hfile := h file
        rw [List.map_cons, List.map_cons]
        generalize f file = a at hfile ⊢
        generalize g file = b at hfile ⊢
        cases hfile with
        | error e => exact ⟨congrArg (e :: ·) ih.1, ih.2⟩
        | ok hsublist => exact ⟨ih.1, hsublist.append ih.2⟩
  rw [gather, gather, hall.1]
  cases (errors (files.map g))[choice % (errors (files.map g)).length]? with
  | some e => exact .error e
  | none => exact .ok hall.2

end Fewer

/-- **Under a relaxed policy a scan comes to no more.** -/
theorem fewer_of_relaxed {p p' : Option Policy}
    (h : Rule.Relaxed (Policy.rulesOf p) (Policy.rulesOf p')) (path : String) (choice : Nat) :
    Fewer (scan w ⟨root, p, dependencies⟩ path choice)
      (scan w ⟨root, p', dependencies⟩ path choice) := by
  have hlint : ∀ file, Fewer (lint w ⟨root, p, dependencies⟩ file)
      (lint w ⟨root, p', dependencies⟩ file) := by
    intro file
    rw [lint, lint]
    cases w.read file with
    | error e => exact .error _
    | ok text =>
        refine .ok (List.Sublist.map _ ?_)
        -- references do not depend on the policy
        exact List.sublist_mergeSort_of_sublist Finding.offset
          ((sublist_policyFindings root dependencies h file text.toList).append
            (List.Sublist.refl _))
  rw [scan, scan]
  split
  · exact Fewer.gather_flatten hlint _ choice
  · exact .error _

/-! ## References -/

/-- Whether a warning comes from a reference. -/
def Origin.isReference : Origin → Bool
  | .hit _ _ _ _ => false
  | .reference _ _ => true

variable (c : Config)

/-- The warnings of a file that come from references. -/
def lintReferences (file : String) : Except InputError (List Warning) :=
  match w.read file with
  | .error e => .error (.unreadable file e.message)
  | .ok text =>
      let sorted := (origins w c file text.toList).mergeSort fun a b => a.offset ≤ b.offset
      .ok ((sorted.filter Origin.isReference).map (Origin.warning file text.toList))

/-- The warnings of a scan that come from references. -/
def references (path : String) (choice : Nat := 0) : Except InputError (List Warning) :=
  if w.pathExists path then
    (gather choice ((targetsOf w c path).map (lintReferences w c))).map List.flatten
  else .error (.notFound path)

/-- The origins among references are those that are no hits. -/
theorem filter_isReference_origins (file : String) (text : List Char) :
    (origins w c file text).filter Origin.isReference = referenceOrigins w c file text := by
  rw [origins, List.filter_append, List.filter_eq_nil_iff.mpr, List.nil_append,
    List.filter_eq_self.mpr]
  · intro o ho
    obtain ⟨⟨n, s, rfl⟩, -⟩ := (mem_referenceOrigins w c file text).mp ho
    rfl
  · intro o ho
    obtain ⟨⟨i, r, n, h, rfl⟩, -⟩ := (mem_hitOrigins w c file text).mp ho
    exact Bool.false_ne_true

/-- **The warnings from references are all warnings that there are without a policy.** -/
theorem references_eq (path : String) (choice : Nat) :
    references w c path choice = scan w { c with policy := none } path choice := by
  have hlint : lintReferences w c = lint w { c with policy := none } := by
    funext file
    rw [lintReferences, lint]
    cases w.read file with
    | error e => rfl
    | ok text =>
        dsimp only
        rw [List.filter_mergeSort, filter_isReference_origins, warnings, findings_eq_origins,
          List.map_map]
        rfl
  rw [references, hlint]
  rfl

/-- The warnings from references are a part of all warnings. -/
theorem fewer_references (path : String) (choice : Nat) :
    Fewer (references w c path choice) (scan w c path choice) := by
  have hlint : ∀ file, Fewer (lintReferences w c file) (lint w c file) := by
    intro file
    rw [lintReferences, lint]
    cases w.read file with
    | error e => exact .error _
    | ok text =>
        dsimp only
        rw [warnings, findings_eq_origins, List.map_map]
        exact .ok (List.filter_sublist.map _)
  rw [references, scan]
  split
  · exact Fewer.gather_flatten hlint _ choice
  · exact .error _

/-! ## Runs -/

/-- A run over files with its policy has status zero if every input passes. -/
theorem exitCode_files_eq_zero_iff {o : RunOptions} {policy : Option Policy}
    {engine : Pattern.Engine} (hload : Policy.load w o.policy engine = .ok policy)
    (choices : Nat → Nat) (reporter : Reporter) (inputs : List String) :
    (Run.run w (.ofFiles w choices) o reporter inputs engine).exitCode = 0 ↔
      ∀ input ∈ inputs, Passes w ⟨Root.normalize o.root, policy, o.dependencies⟩ input := by
  have hrun := Program.exitCode_run_eq_zero_iff w choices
    ⟨o.dependencies, o.policy, o.root, .human, none⟩ reporter inputs engine
  refine hrun.trans ⟨?_, fun h => ⟨policy, Policy.load_eq_ok_iff.mp hload, h⟩⟩
  -- the policy that loads is the one of the run
  rintro ⟨other, hother, h⟩
  have hsame := (Policy.load_eq_ok_iff.mpr hother).symm.trans hload
  cases hsame
  exact h

/-- An input that passes still does under a relaxed policy. -/
theorem Passes.of_relaxed {w : Workspace} {root dependencies input : String}
    {p p' : Option Policy} (h : Rule.Relaxed (Policy.rulesOf p) (Policy.rulesOf p'))
    (hpasses : Passes w ⟨root, p', dependencies⟩ input) :
    Passes w ⟨root, p, dependencies⟩ input := by
  obtain ⟨vs, hvs, hharmless⟩ := passes_iff.mp hpasses
  have hscan : Fewer (Scan.input w ⟨root, p, dependencies⟩ input)
      (Scan.input w ⟨root, p', dependencies⟩ input) := fewer_of_relaxed w root dependencies h _ 0
  rw [hvs] at hscan
  apply passes_iff.mpr
  generalize Scan.input w ⟨root, p, dependencies⟩ input = result at hscan ⊢
  cases hscan with
  | ok hsub => exact ⟨_, rfl, fun v hv => hharmless v (hsub.subset hv)⟩

/-- **More rules, more warnings; more exemptions, fewer.** If the rules of a policy are those of
another one with some deleted and some exempting more, then a path is scanned under the one exactly
if it is scanned under the other, and what is found under the one is a part of what is found under
the other, in the same order, whatever the choices are; otherwise both fail alike under the same
choice. The warnings that come from references are a part of what is found under any policy, and
under every policy they are what is found without one. A run that ends with status zero under the
other policy ends so under the one. -/
theorem sublist_of_relaxed (w : Workspace) (p p' : Option Policy)
    (h : Rule.Relaxed (Policy.rulesOf p) (Policy.rulesOf p')) :
    (∀ root dependencies path choice choice',
      let under (q : Option Policy) : Config := ⟨root, q, dependencies⟩
      ((∃ ws, scan w (under p) path choice = .ok ws) ↔
        ∃ vs, scan w (under p') path choice' = .ok vs) ∧
      (∀ e, scan w (under p) path choice = .error e ↔ scan w (under p') path choice = .error e) ∧
      (∀ ws vs, scan w (under p) path choice = .ok ws → scan w (under p') path choice' = .ok vs →
        ws.Sublist vs) ∧
      ∀ q, Fewer (references w (under q) path choice) (scan w (under q) path choice) ∧
        references w (under q) path choice = scan w (under none) path choice) ∧
    ∀ (o o' : RunOptions) (engine : Pattern.Engine) (choices choices' : Nat → Nat)
      (reporter : Reporter) (inputs : List String),
      o.root = o'.root → o.dependencies = o'.dependencies →
      Policy.load w o.policy engine = .ok p → Policy.load w o'.policy engine = .ok p' →
      (Run.run w (.ofFiles w choices') o' reporter inputs engine).exitCode = 0 →
      (Run.run w (.ofFiles w choices) o reporter inputs engine).exitCode = 0 := by
  constructor
  · intro root dependencies path choice choice' under
    have hfewer : Fewer (scan w (under p) path choice) (scan w (under p') path choice) :=
      fewer_of_relaxed w root dependencies h path choice
    have hother (vs : List Warning) : scan w (under p') path choice' = .ok vs ↔
        scan w (under p') path choice = .ok vs := scan_eq_ok_congr choice
    simp only [hother]
    refine ⟨hfewer.exists_eq_ok_iff, hfewer.eq_error_iff, ?_, fun q =>
      ⟨fewer_references w (under q) path choice, references_eq w (under q) path choice⟩⟩
    intro ws vs hws hvs
    rw [hws, hvs] at hfewer
    exact hfewer.sublist
  · intro o o' engine choices choices' reporter inputs hroot hdependencies hload hload' hzero
    rw [exitCode_files_eq_zero_iff w hload'] at hzero
    rw [exitCode_files_eq_zero_iff w hload, hroot, hdependencies]
    exact fun input hinput => (hzero input hinput).of_relaxed h

/-! ### A page and a script under two policies -/

/-- A requirement that bans a name, without being fatal. -/
def mildRequirement (name : String) (globs : List String) : Requirement :=
  { kind := "BANNED_NAME", values := [name], whitelist := globs, level := some "warn" }

/-- A rule that bans a name, without being fatal. -/
def mildRule (name : String) (whitelist : List (List Glob.Token)) : Rule :=
  ⟨.name, [(name, Matcher.wholeWord name.toList)], none, whitelist, false⟩

/-- The requirement becomes the rule. -/
theorem toRule_mildRequirement {name : String} {globs : List String}
    {whitelist : List (List Glob.Token)} (h : Requirement.globs globs = .ok whitelist)
    (index : Nat) : (mildRequirement name globs).toRule index = .ok (mildRule name whitelist) := by
  have hkind : RuleKind.ofType? (mildRequirement name globs).kind = some .name := by
    show RuleKind.ofType? "BANNED_NAME" = some .name
    decide +kernel
  have hfatal : Requirement.isFatal? (mildRequirement name globs).level = some false := by
    show Requirement.isFatal? (some "warn") = some false
    decide +kernel
  have hmatcher := Matcher.ofValue_name Pattern.readsPlain_engine name
  rw [Requirement.toRule_singleton_eq_ok_iff hkind rfl hmatcher]
  exact ⟨false, whitelist, hfatal, h, rfl⟩

/-- A policy that bans two names. -/
def strictText : String :=
  "[[requirements]]\ntype = 'BANNED_NAME'\nvalue = ['a']\nlevel = 'warn'\n" ++
  "[[requirements]]\ntype = 'BANNED_NAME'\nvalue = ['b']\nlevel = 'warn'"

/-- A policy that bans one of them, and not in pages. -/
def laxText : String :=
  "[[requirements]]\ntype = 'BANNED_NAME'\nvalue = ['b']\nwhitelist = ['*.htm']\nlevel = 'warn'"

/-- A page with both names and a missing script, and a script with one of the names. -/
def mildSite : Workspace :=
  ⟨.directory [("lax.toml", .file (some laxText)), ("strict.toml", .file (some strictText)),
    ("p.htm", .file (some "a b <script src='q.js'></script>")), ("s.js", .file (some "b"))], []⟩

/-- The rules of the policy that bans two names. -/
def strictPolicy : Policy := ⟨[mildRule "a" [], mildRule "b" []]⟩

/-- The rules of the policy that bans one of them. -/
def laxPolicy : Policy := ⟨[mildRule "b" [.anySequence :: ".htm".toList.map .char]]⟩

/-- Under the lax policy only the missing script of the page is found, so it is found under the
strict one too; the script passes under the strict policy, so it passes under the lax one. -/
theorem sublist_of_laxPolicy :
    let missing : Warning := ⟨"p.htm", ⟨1, 18⟩, "Unable to resolve import: q.js", true⟩
    let run (policy : String) :=
      Run.run mildSite (.ofFiles mildSite) { policy := some policy } {} ["s.js"]
    Rule.Relaxed (Policy.rulesOf laxPolicy) (Policy.rulesOf strictPolicy) ∧
    Policy.load mildSite (some "lax.toml") = .ok (some laxPolicy) ∧
    Policy.load mildSite (some "strict.toml") = .ok (some strictPolicy) ∧
    scan mildSite { policy := some laxPolicy } "p.htm" = .ok [missing] ∧
    (∃ vs, scan mildSite { policy := some strictPolicy } "p.htm" = .ok vs ∧ [missing].Sublist vs) ∧
    (run "strict.toml").exitCode = 0 ∧ (run "lax.toml").exitCode = 0 := by
  intro missing run
  have hrelaxed : Rule.Relaxed (Policy.rulesOf laxPolicy) (Policy.rulesOf strictPolicy) :=
    .delete _ (.exempt (mildRule "b" []) _ .nil)
  have hlax : Policy.load mildSite (some "lax.toml") = .ok (some laxPolicy) := by
    have hcompile : Policy.ofRequirements [mildRequirement "b" ["*.htm"]] = .ok laxPolicy := by
      simp only [Policy.ofRequirements, Policy.rulesFrom,
        toRule_mildRequirement (show Requirement.globs ["*.htm"] = .ok _ from rfl)]
      rfl
    exact Policy.load_eq_ok_iff.mpr
      (.some (by decide +kernel : mildSite.read "lax.toml" = .ok laxText)
        (by decide +kernel : PolicyDocument.parse? "lax.toml" laxText = some ⟨_⟩) hcompile)
  have hstrict : Policy.load mildSite (some "strict.toml") = .ok (some strictPolicy) := by
    have hcompile : Policy.ofRequirements [mildRequirement "a" [], mildRequirement "b" []] =
        .ok strictPolicy := by
      simp only [Policy.ofRequirements, Policy.rulesFrom,
        toRule_mildRequirement (show Requirement.globs [] = .ok _ from rfl)]
      rfl
    exact Policy.load_eq_ok_iff.mpr
      (.some (by decide +kernel : mildSite.read "strict.toml" = .ok strictText)
        (by decide +kernel : PolicyDocument.parse? "strict.toml" strictText = some ⟨_⟩) hcompile)
  obtain ⟨hscans, hruns⟩ := sublist_of_relaxed mildSite laxPolicy strictPolicy hrelaxed
  obtain ⟨hok, -, hsublist, -⟩ := hscans "" "" "p.htm" 0 0
  have hmissing : scan mildSite { policy := some laxPolicy } "p.htm" = .ok [missing] := by
    decide +kernel
  obtain ⟨vs, hvs⟩ := hok.mp ⟨_, hmissing⟩
  have hmild : Scan.input mildSite { policy := some strictPolicy } "s.js" =
      .ok [⟨"s.js", ⟨1, 1⟩, "Use of banned name 'b'", false⟩] := by decide +kernel
  have hzero : (run "strict.toml").exitCode = 0 := by
    apply (exitCode_files_eq_zero_iff mildSite hstrict (fun _ => 0) {} ["s.js"]).mpr
    rw [List.forall_mem_singleton]
    exact passes_iff.mpr ⟨_, hmild, List.forall_mem_singleton.mpr rfl⟩
  exact ⟨hrelaxed, hlax, hstrict, hmissing, ⟨vs, hvs, hsublist _ vs hmissing hvs⟩, hzero,
    hruns { policy := some "lax.toml" } { policy := some "strict.toml" } _ _ _ {} ["s.js"] rfl rfl
      hlax hstrict hzero⟩

end Scan

end PolicyLint
