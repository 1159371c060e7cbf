/-
# Inputs that are scanned whole

A directory is scanned as its targets are, one after the other, and only as a whole: it comes to
what its targets come to on their own if each of them can be read, and otherwise to one error that
names a target that cannot. A run takes the error as it comes. Of an input whose scan fails it shows
one line on the second stream and counts one failed input, and nothing of the targets that could be
read is shown or counted.

* `Scan.scan_eq_ok_iff`, `Scan.exists_scan_eq_ok_iff_readable`,
  `Scan.exists_scan_eq_error_iff_unreadable` : a directory and its targets;
* `Run.scan_whole_or_failed` : a failed input in a run.
-/
import PolicyLint.Proofs.Run.Blocks

namespace PolicyLint

/-! ## Inputs and their targets -/

namespace Scan

variable {w : Workspace} {c : Config} {path file : String} {choice : Nat}

/-- A file that cannot be read fails with the reason. -/
theorem lint_eq_error_iff {e : InputError} :
    lint w c file = .error e ↔
      ∃ reason, w.read file = .error reason ∧ e = .unreadable file reason.message := by
  rw [lint]
  cases w.read file with
  | error reason => simp [eq_comm]
  | ok text => simp

/-- A file is linted exactly if it can be read. -/
theorem exists_lint_eq_ok_iff_readable : (∃ ws, lint w c file = .ok ws) ↔ w.IsReadable file := by
  rw [lint, Workspace.IsReadable]
  cases w.read file with
  | error e => simp
  | ok text => simp

/-- What cannot be read cannot be read for a reason. -/
theorem not_isReadable_of_read_eq_error {reason : ReadError} (h : w.read file = .error reason) :
    ¬ w.IsReadable file := by
  rintro ⟨text, htext⟩
  rw [htext] at h
  cases h

/-- **Why an input that is there is not scanned**: one of its targets cannot be read, and the error
names it and says why; and each such target is named under some choice. -/
theorem exists_scan_eq_error_iff_unreadable {e : InputError} (hexists : w.pathExists path = true) :
    (∃ choice, scan w c path choice = .error e) ↔
      ∃ file ∈ targetsOf w c path, ¬ w.IsReadable file ∧
        ∃ reason, w.read file = .error reason ∧ e = .unreadable file reason.message := by
  rw [exists_scan_eq_error_iff hexists]
  refine exists_congr fun file => and_congr_right fun _ => ?_
  rw [lint_eq_error_iff]
  exact (and_iff_right_of_imp fun ⟨_, hread, _⟩ => not_isReadable_of_read_eq_error hread).symm

/-- Only what is not there is not found, and it is named as it was given. -/
theorem scan_eq_notFound_iff {other : String} :
    scan w c path choice = .error (.notFound other) ↔ other = path ∧ w.pathExists path = false := by
  cases hexists : w.pathExists path with
  | false =>
      rw [scan, if_neg (Bool.eq_false_iff.mp hexists)]
      simp [eq_comm]
  | true =>
      refine iff_of_false ?_ (fun h => Bool.noConfusion h.2)
      intro h
      obtain ⟨file, -, -, reason, -, heq⟩ :=
        (exists_scan_eq_error_iff_unreadable hexists).mp ⟨choice, h⟩
      cases heq

/-- A target that is scanned on its own is linted. -/
theorem scan_target (h : w.pathExists path = true) (hfile : file ∈ targetsOf w c path) :
    scan w c file choice = lint w c file := by
  obtain ⟨content, hcontent⟩ := exists_file_of_mem_targetsOf h hfile
  have hexists : w.pathExists file = true := by rw [Workspace.pathExists, hcontent]
  have hself : targetsOf w c file = [file] := by
    rw [targetsOf, Workspace.isDirectory, hcontent]
    rfl
  rw [scan, if_pos hexists, hself, List.map_singleton, gather]
  cases lint w c file with
  | error e =>
      rw [show errors [Except.error (α := List Warning) e] = [e] from rfl, List.length_singleton,
        Nat.mod_one]
      rfl
  | ok ws => exact congrArg Except.ok (List.append_nil ws)

/-- **An input is scanned exactly if it is there and its targets can be read.** -/
theorem exists_scan_eq_ok_iff_readable :
    (∃ ws, scan w c path choice = .ok ws) ↔
      w.pathExists path = true ∧ ∀ file ∈ targetsOf w c path, w.IsReadable file := by
  rw [exists_scan_eq_ok_iff]
  refine and_congr_right fun hexists => forall₂_congr fun file hfile => ?_
  obtain ⟨content, hcontent⟩ := exists_file_of_mem_targetsOf hexists hfile
  rw [← exists_lint_eq_ok_iff_readable (c := c), exists_lint_eq_ok_iff hcontent, hcontent]
  cases content <;> simp

/-- **What an input comes to**: what its targets come to on their own, one after the other. -/
theorem scan_eq_ok_iff {ws : List Warning} :
    scan w c path choice = .ok ws ↔ w.pathExists path = true ∧
      ∃ parts, List.Forall₂ (fun file part => scan w c file = .ok part) (targetsOf w c path) parts ∧
        ws = parts.flatten := by
  rw [scan_eq_ok_iff_lint]
  refine and_congr_right fun hexists => exists_congr fun parts => and_congr_left fun _ => ?_
  rw [List.forall₂_iff_get, List.forall₂_iff_get]
  refine and_congr_right fun _ => forall₃_congr fun i hi _ => ?_
  rw [scan_target hexists (List.get_mem _ ⟨i, hi⟩)]

end Scan

/-! ## Failed inputs in a run -/

namespace Run

variable {w : Workspace} {c : Config} {st : Style} {input : String} {e : InputError} {choice : Nat}

/-- Nothing of an input whose scan fails is shown on the first stream. -/
theorem outBlock_of_error (h : Scan.input w c input choice = .error e) :
    outBlock w c st input = [] := by
  rw [← map_warningLine_found w c st input choice, h]
  rfl

/-- One line about an input whose scan fails is shown on the second stream. -/
theorem errBlock_of_error (h : Scan.input w c input choice = .error e) :
    errBlock w c st input choice = [st.inputLine input e.message] := by
  rw [errBlock, h]

/-- An input whose scan fails counts as attempted and failed, and its warnings do not count. -/
theorem inputOutcome_of_error (h : Scan.input w c input choice = .error e) :
    inputOutcome w c input = { fatal := true, inputs := 1, failedInputs := 1 } := by
  rw [inputOutcome_eq w c input choice, h]
  rfl

/-- An input may be counted before those in front of it. -/
theorem joinedOutcome_insert (xs ys : List String) :
    joinedOutcome w c (xs ++ input :: ys) =
      (inputOutcome w c input).join (joinedOutcome w c (xs ++ ys)) :=
  joinedOutcome_perm w c List.perm_middle

/-- The block of an input whose scan fails stands between those of the others. -/
theorem errBlocks_insert (choices : Nat → Nat) (xs ys : List String)
    (h : Scan.input w c input (choices xs.length) = .error e) :
    errBlocks w c st choices (xs ++ input :: ys) =
      errBlocks w c st choices xs ++ [st.inputLine input e.message] ::
        errBlocks w c st (fun i => choices (xs.length + 1 + i)) ys := by
  have hlater : (fun i => choices (xs.length + (i + 1))) =
      fun i => choices (xs.length + 1 + i) := by
    funext i
    rw [Nat.add_assoc, Nat.add_comm 1]
  rw [errBlocks_append, errBlocks_cons, Nat.add_zero, errBlock_of_error h, hlater]

/-- Without it, the others have the blocks and the choices that they have with it. -/
theorem errBlocks_without (choices : Nat → Nat) (xs ys : List String) :
    errBlocks w c st (fun i => if i < xs.length then choices i else choices (i + 1)) (xs ++ ys) =
      errBlocks w c st choices xs ++
        errBlocks w c st (fun i => choices (xs.length + 1 + i)) ys := by
  refine errBlocks_append_of_eq w c st _ (fun i hi => if_pos hi) fun i _ => ?_
  rw [if_neg (Nat.not_lt.mpr (Nat.le_add_right _ i)), Nat.add_right_comm]

/-- **An input is scanned whole or not at all.** It is not found exactly if it is not there. If it
is there, it is scanned exactly if each of its targets can be read, and then it comes to what they
come to when each is scanned on its own, one after the other; otherwise the error names one of the
targets that cannot be read, and under some choice any of them. In a run whose policy loads, an
input whose scan fails, wherever it stands, changes nothing about the lines of warnings; it adds one
line to those about failures, in its place, and one attempted and failed input to the outcome. The
choices of the other inputs are what they are without it. -/
theorem scan_whole_or_failed (w : Workspace) :
    (∀ (c : Config) (path : String) (choice : Nat),
      let targets := Scan.targetsOf w c path
      (∀ other, Scan.scan w c path choice = .error (.notFound other) ↔
        other = path ∧ w.pathExists path = false) ∧
      (w.pathExists path = true →
        ((∃ ws, Scan.scan w c path choice = .ok ws) ↔ ∀ file ∈ targets, w.IsReadable file) ∧
        (∀ ws, Scan.scan w c path choice = .ok ws ↔ ∃ parts,
          List.Forall₂ (fun file part => Scan.scan w c file = .ok part) targets parts ∧
            ws = parts.flatten) ∧
        (∀ e, Scan.scan w c path choice = .error e → ∃ file ∈ targets, ¬ w.IsReadable file ∧
          ∃ reason, w.read file = .error reason ∧ e = .unreadable file reason.message) ∧
        ∀ file ∈ targets, ∀ reason, w.read file = .error reason →
          ∃ other, Scan.scan w c path other = .error (.unreadable file reason.message))) ∧
    ∀ (o : RunOptions) (st : Style) (policy : Option Policy) (engine : Pattern.Engine),
      Policy.load w o.policy engine = .ok policy →
      let c : Config := ⟨Root.normalize o.root, policy, o.dependencies⟩
      let r (choices : Nat → Nat) (inputs : List String) :=
        run w (.ofFiles w choices) o { style := st } inputs engine
      ∀ (choices : Nat → Nat) (xs ys : List String) (input : String) (e : InputError),
        Scan.scan w c (c.resolve input) (choices xs.length) = .error e →
        let without (i : Nat) := if i < xs.length then choices i else choices (i + 1)
        let later (i : Nat) := choices (xs.length + 1 + i)
        ∃ told outcome,
          (r without (xs ++ ys)).result = .ok outcome ∧
          (r without (xs ++ ys)).reporter.out.text = told ++ (st.summaryLine outcome ++ "\n") ∧
          (r without (xs ++ ys)).reporter.err.text =
            (r choices xs).reporter.err.text ++ (r later ys).reporter.err.text ∧
          let failed : Outcome := { fatal := true, inputs := 1, failedInputs := 1 }
          (r choices (xs ++ input :: ys)).result = .ok (failed.join outcome) ∧
          (r choices (xs ++ input :: ys)).reporter.out.text =
            told ++ (st.summaryLine (failed.join outcome) ++ "\n") ∧
          (r choices (xs ++ input :: ys)).reporter.err.text =
            (r choices xs).reporter.err.text ++ (st.inputLine input e.message ++ "\n") ++
              (r later ys).reporter.err.text := by
  constructor
  · intro c path choice targets
    refine ⟨fun other => Scan.scan_eq_notFound_iff,
      fun hexists => ⟨?_, fun ws => ?_, fun e he => ?_, fun file hfile reason hread => ?_⟩⟩
    · rw [Scan.exists_scan_eq_ok_iff_readable]
      exact and_iff_right hexists
    · rw [Scan.scan_eq_ok_iff]
      exact and_iff_right hexists
    · exact (Scan.exists_scan_eq_error_iff_unreadable hexists).mp ⟨choice, he⟩
    · exact (Scan.exists_scan_eq_error_iff_unreadable hexists).mpr
        ⟨file, hfile, Scan.not_isReadable_of_read_eq_error hread, reason, hread, rfl⟩
  · intro o st policy engine hload c r choices xs ys input e hfails without later
    have hshows : ∀ choices inputs, (r choices inputs).result = .ok (joinedOutcome w c inputs) ∧
        (r choices inputs).reporter.out.text = Text.ofLines (inputs.flatMap (outBlock w c st)) ++
          (st.summaryLine (joinedOutcome w c inputs) ++ "\n") ∧
        (r choices inputs).reporter.err.text =
          Text.ofLines (errBlocks w c st choices inputs).flatten :=
      shows_blocks st hload
    obtain ⟨hresult, hout, herr⟩ := hshows without (xs ++ ys)
    obtain ⟨hresult', hout', herr'⟩ := hshows choices (xs ++ input :: ys)
    have houtcome : joinedOutcome w c (xs ++ input :: ys) =
        (inputOutcome w c input).join (joinedOutcome w c (xs ++ ys)) := joinedOutcome_insert xs ys
    rw [inputOutcome_of_error hfails] at houtcome
    have hlines : (xs ++ input :: ys).flatMap (outBlock w c st) =
        (xs ++ ys).flatMap (outBlock w c st) := by
      rw [List.flatMap_append, List.flatMap_cons, outBlock_of_error hfails, List.nil_append,
        List.flatMap_append]
    have hwithout : errBlocks w c st without (xs ++ ys) =
        errBlocks w c st choices xs ++ errBlocks w c st later ys := errBlocks_without choices xs ys
    have hwith : errBlocks w c st choices (xs ++ input :: ys) =
        errBlocks w c st choices xs ++ [st.inputLine input e.message] ::
          errBlocks w c st later ys := errBlocks_insert choices xs ys hfails
    refine ⟨_, _, hresult, hout, ?_, ?_, ?_, ?_⟩
    · rw [herr, (hshows choices xs).2.2, (hshows later ys).2.2, hwithout, List.flatten_append,
        Text.ofLines_append]
    · rw [hresult', houtcome]
    · rw [hout', houtcome, hlines]
    · rw [herr', (hshows choices xs).2.2, (hshows later ys).2.2, hwith, List.flatten_append,
        List.flatten_cons, Text.ofLines_append, Text.ofLines_append, Text.ofLines, Text.ofLines,
        String.append_empty]
      simp only [String.append_assoc]

/-- A directory with a page whose script is missing and with bytes that are no text. -/
def halfText : Workspace :=
  ⟨.directory [("d", .directory [("a.html", .file (some "<script src='q.js'></script>")),
    ("b.js", .file none)])], []⟩

/-- The page has a warning on its own. The directory fails as a whole, and a run over the page and
the directory tells the warning once and adds one line about the directory. -/
theorem scan_halfText :
    let r (inputs : List String) := run halfText (.ofFiles halfText) {} {} inputs
    let failure : InputError := .unreadable "d/b.js" "stream did not contain valid UTF-8"
    Policy.load halfText none = .ok none ∧
    halfText.pathExists "d" = true ∧
    Scan.targetsOf halfText {} "d" = ["d/a.html", "d/b.js"] ∧
    Scan.scan halfText {} "d/a.html" =
      .ok [⟨"d/a.html", ⟨1, 14⟩, "Unable to resolve import: q.js", true⟩] ∧
    Scan.scan halfText {} "d" = .error failure ∧
    (∃ file ∈ ["d/a.html", "d/b.js"], ¬ halfText.IsReadable file ∧
      ∃ reason, halfText.read file = .error reason ∧ failure = .unreadable file reason.message) ∧
    (r (["d/a.html"] ++ "d" :: [])).result =
      .ok { fatal := true, inputs := 2, failedInputs := 1, warnings := 1, fatalWarnings := 1 } ∧
    (r (["d/a.html"] ++ "d" :: [])).reporter.err.text =
      (r ["d/a.html"]).reporter.err.text ++
        "error: d: cannot read d/b.js: stream did not contain valid UTF-8\n" ++
        (r []).reporter.err.text := by
  intro r failure
  have hexists : halfText.pathExists "d" = true := by decide +kernel
  have htargets : Scan.targetsOf halfText {} "d" = ["d/a.html", "d/b.js"] := by
    rw [Scan.targetsOf, if_pos (by decide +kernel)]
    exact Scan.targets_eq_of_pairwise (by decide +kernel) (by decide +kernel)
  have hfails : Scan.scan halfText {} "d" = .error failure := by
    rw [Scan.scan, if_pos hexists, htargets]
    decide +kernel
  obtain ⟨hinputs, hruns⟩ := scan_whole_or_failed halfText
  obtain ⟨-, hthere⟩ := hinputs {} "d" 0
  obtain ⟨-, -, hnamed, -⟩ := hthere hexists
  have hunreadable := hnamed failure hfails
  rw [htargets] at hunreadable
  obtain ⟨told, outcome, hresult, -, -, hjoined, -, herr⟩ :=
    hruns {} {} none Pattern.engine rfl (fun _ => 0) ["d/a.html"] [] "d" failure hfails
  have hline : Style.inputLine {} "d" failure.message ++ "\n" =
      "error: d: cannot read d/b.js: stream did not contain valid UTF-8\n" := by decide +kernel
  rw [hline] at herr
  refine ⟨rfl, hexists, htargets, by decide +kernel, hfails, hunreadable, ?_, herr⟩
  have houtcome : outcome = { fatal := true, inputs := 1, warnings := 1, fatalWarnings := 1 } :=
    Except.ok.inj (hresult.symm.trans (by decide +kernel))
  exact hjoined.trans (by rw [houtcome]; rfl)

end Run

end PolicyLint
