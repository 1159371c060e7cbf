/-
# Runs over files, input by input

A run over files tells about each input what its scan comes to, and nothing that it has told or
counted before changes that. So the run is put together from its inputs: each has its block of lines
on either stream and its own outcome, the streams hold the blocks one after the other, and the
outcomes are joined. A run over two lists is the run over the one and then over the other, and the
order of the inputs matters for the order of the blocks only.

* `Run.outBlock`, `Run.errBlock`, `Run.inputOutcome` : what comes of one input;
* `Run.joinedOutcome` : what comes of several;
* `Run.shows_blocks` : a run shows the blocks of its inputs;
* `Run.files_append_and_perm` : runs over two lists, and over a list in another order.
-/
import PolicyLint.Proofs.Run.Files
import Mathlib.Data.List.Perm.Basic

namespace PolicyLint

namespace Run

variable (w : Workspace) (c : Config) (st : Style)

/-! ## One input -/

/-- The lines about an input on the first stream: one for each warning of its scan. -/
def outBlock (input : String) : List String :=
  match Scan.input w c input with
  | .ok ws => ws.map st.warningLine
  | .error _ => []

/-- The lines about an input on the second stream: one if its scan fails, about the error that the
choice picks. -/
def errBlock (input : String) (choice : Nat) : List String :=
  match Scan.input w c input choice with
  | .ok _ => []
  | .error e => [st.inputLine input e.message]

/-- The outcome of an input: it was attempted, and either its warnings are counted or it failed. -/
def inputOutcome (input : String) : Outcome :=
  match Scan.input w c input with
  | .ok ws => ws.foldl (fun o v => o.join (.ofWarning v)) .attempted
  | .error _ => Outcome.attempted.join .failedInput

/-- The outcomes of some inputs, joined. -/
def joinedOutcome (inputs : List String) : Outcome :=
  (inputs.map (inputOutcome w c)).foldr .join .empty

/-- Counting warnings one by one is counting them all. -/
theorem foldl_join_ofWarning (ws : List Warning) (o : Outcome) :
    ws.foldl (fun o v => o.join (.ofWarning v)) o = o.join (.tally 0 ws []) := by
  induction ws generalizing o with
  | nil => rw [Outcome.tally_nil, Outcome.join_empty]; rfl
  | cons v ws ih =>
      rw [List.foldl_cons, ih, Outcome.ofWarning_eq_tally, Outcome.join_join_tally]
      rfl

/-- A scan comes to the same warnings, or to none, whatever the choice is. -/
theorem found_ofScan (input : String) (choice : Nat) :
    (Ending.ofScan (Scan.input w c input choice)).found =
      (Ending.ofScan (Scan.input w c input)).found := by
  obtain ⟨ws, h, h'⟩ | ⟨d, e, h, h'⟩ := Scan.cases_of_choices w c (c.resolve input) choice 0
  · rw [Scan.input, Scan.input, h, h']
  · rw [Scan.input, Scan.input, h, h']
    rfl

/-- The lines on the first stream are those of the warnings. -/
theorem map_warningLine_found (input : String) (choice : Nat) :
    (Ending.ofScan (Scan.input w c input choice)).found.map st.warningLine =
      outBlock w c st input := by
  rw [found_ofScan, outBlock]
  cases Scan.input w c input <;> rfl

/-- The lines on the second stream are those of the faults. -/
theorem map_errorLine_faults (input : String) (choice : Nat) :
    (Attempt.mk input (.ofScan (Scan.input w c input choice)) []).faults.map
        (fun x => st.errorLine x.text) = errBlock w c st input choice := by
  rw [errBlock]
  cases Scan.input w c input choice <;> rfl

/-- The outcome of an input counts how its call ends, whatever the choice is. -/
theorem inputOutcome_eq (input : String) (choice : Nat) :
    inputOutcome w c input =
      .tally 1 (Ending.ofScan (Scan.input w c input choice)).found
        (Attempt.faults ⟨input, .ofScan (Scan.input w c input choice), []⟩) := by
  rw [inputOutcome]
  obtain ⟨ws, h, h'⟩ | ⟨d, e, h, h'⟩ := Scan.cases_of_choices w c (c.resolve input) choice 0
  · rw [Scan.input, Scan.input, h, h']
    dsimp only
    rw [foldl_join_ofWarning, show Outcome.attempted = .tally 1 [] [] from rfl,
      Outcome.join_tally]
    rfl
  · rw [Scan.input, Scan.input, h, h']
    rfl

/-! ## Several inputs -/

/-- The outcome of inputs in two parts. -/
theorem joinedOutcome_append (xs ys : List String) :
    joinedOutcome w c (xs ++ ys) = (joinedOutcome w c xs).join (joinedOutcome w c ys) := by
  induction xs with
  | nil => exact (Outcome.empty_join _).symm
  | cons x xs ih =>
      show (inputOutcome w c x).join (joinedOutcome w c (xs ++ ys)) = _
      rw [ih, ← Outcome.join_assoc]
      rfl

/-- The outcome of inputs in another order. -/
theorem joinedOutcome_perm {xs ys : List String} (h : xs.Perm ys) :
    joinedOutcome w c xs = joinedOutcome w c ys := by
  refine (h.map (inputOutcome w c)).foldr_eq' ?_ _
  intro a _ b _ o
  rw [← Outcome.join_assoc, Outcome.join_comm b a, Outcome.join_assoc]

/-- The trace of a run over some inputs, from the n-th call on. -/
def filesTrace (choices : Nat → Nat) (n : Nat) (inputs : List String) : Trace :=
  .ofScans (Scan.results w c choices n inputs)

/-- The lines about some inputs on the second stream, from the n-th call on: the block of each, with
the choice of its call. -/
def errBlocks (choices : Nat → Nat) (inputs : List String) (n : Nat := 0) : List (List String) :=
  (inputs.zipIdx n).map fun x => errBlock w c st x.1 (choices x.2)

variable (choices : Nat → Nat) (n : Nat)

theorem outcome_filesTrace (inputs : List String) :
    (filesTrace w c choices n inputs).outcome = joinedOutcome w c inputs := by
  induction inputs generalizing n with
  | nil => rfl
  | cons input inputs ih =>
      rw [filesTrace, Trace.ofScans, Scan.results, List.zipIdx_cons, List.map_cons, List.map_cons,
        Trace.outcome_cons, ← inputOutcome_eq]
      exact congrArg _ (ih (n + 1))

/-- The lines about the warnings of a run are the blocks of its inputs. -/
theorem map_warningLine_filesTrace (inputs : List String) :
    (filesTrace w c choices n inputs).warnings.map st.warningLine =
      inputs.flatMap (outBlock w c st) := by
  induction inputs generalizing n with
  | nil => rfl
  | cons input inputs ih =>
      rw [filesTrace, Trace.ofScans, Scan.results, List.zipIdx_cons, List.map_cons, List.map_cons,
        Trace.warnings_cons, List.map_append, map_warningLine_found, List.flatMap_cons]
      exact congrArg _ (ih (n + 1))

/-- The lines about the faults of a run are the blocks of its inputs. -/
theorem map_errorLine_filesTrace (inputs : List String) :
    ((filesTrace w c choices n inputs).faults.map fun x => st.errorLine x.text) =
      (errBlocks w c st choices inputs n).flatten := by
  induction inputs generalizing n with
  | nil => rfl
  | cons input inputs ih =>
      rw [filesTrace, Trace.ofScans, Scan.results, List.zipIdx_cons, List.map_cons, List.map_cons,
        Trace.faults_cons, List.map_append, map_errorLine_faults, errBlocks, List.zipIdx_cons,
        List.map_cons, List.flatten_cons]
      exact congrArg _ (ih (n + 1))

/-- The blocks of inputs in two parts; the second part has the later choices. -/
theorem errBlocks_append (xs ys : List String) :
    errBlocks w c st choices (xs ++ ys) =
      errBlocks w c st choices xs ++ errBlocks w c st (fun i => choices (xs.length + i)) ys := by
  rw [errBlocks, List.zipIdx_append, List.map_append, Nat.zero_add,
    List.zipIdx_eq_map_add (i := xs.length), List.map_map]
  rfl

/-- The block of the first input, and those of the others with the later choices. -/
theorem errBlocks_cons (input : String) (inputs : List String) :
    errBlocks w c st choices (input :: inputs) =
      errBlock w c st input (choices 0) :: errBlocks w c st (fun i => choices (i + 1)) inputs := by
  rw [errBlocks, List.zipIdx_cons, List.map_cons, List.zipIdx_succ, List.map_map]
  rfl

/-- The blocks of inputs that have the same choices. -/
theorem errBlocks_congr {choices choices' : Nat → Nat} {inputs : List String}
    (h : ∀ i < inputs.length, choices i = choices' i) :
    errBlocks w c st choices inputs = errBlocks w c st choices' inputs := by
  apply List.map_congr_left
  intro x hx
  rw [h x.2 (List.snd_lt_of_mem_zipIdx hx)]

/-- The blocks of inputs in two parts, of which each has choices of its own. -/
theorem errBlocks_append_of_eq {first later : Nat → Nat} {xs ys : List String}
    (hfirst : ∀ i < xs.length, choices i = first i)
    (hlater : ∀ i < ys.length, choices (xs.length + i) = later i) :
    errBlocks w c st choices (xs ++ ys) =
      errBlocks w c st first xs ++ errBlocks w c st later ys := by
  rw [errBlocks_append, errBlocks_congr w c st hfirst, errBlocks_congr w c st hlater]

/-- Any blocks of two parts are those of the whole: each part has its choices from where it
begins. -/
theorem exists_errBlocks_append (first later : Nat → Nat) (xs ys : List String) :
    ∃ joint, errBlocks w c st joint (xs ++ ys) =
      errBlocks w c st first xs ++ errBlocks w c st later ys := by
  refine ⟨fun i => if i < xs.length then first i else later (i - xs.length),
    errBlocks_append_of_eq w c st _ (fun i hi => if_pos hi) fun i _ => ?_⟩
  rw [if_neg (Nat.not_lt.mpr (Nat.le_add_right _ i)), Nat.add_sub_cancel_left]

/-- The blocks of inputs that are paired with their choices. -/
theorem errBlocks_map_fst (paired : List (String × Nat)) :
    errBlocks w c st (fun i => (paired[i]?.map Prod.snd).getD 0) (paired.map Prod.fst) =
      paired.map fun p => errBlock w c st p.1 p.2 := by
  apply List.ext_getElem
  · rw [errBlocks, List.length_map, List.length_zipIdx, List.length_map, List.length_map]
  · intro i hi hi'
    rw [List.length_map] at hi'
    simp [errBlocks, List.getElem?_eq_getElem hi']

/-- **In another order there are the same blocks**, if the inputs keep their choices. -/
theorem exists_errBlocks_perm {xs ys : List String} (h : xs.Perm ys) (choices : Nat → Nat) :
    ∃ choices', (errBlocks w c st choices' ys).Perm (errBlocks w c st choices xs) := by
  -- each input takes its choice along
  let paired := xs.zipIdx.map fun x => (x.1, choices x.2)
  have hpaired : List.Forall₂ (fun x p => p.1 = x) xs paired := by
    have hxs : paired.map Prod.fst = xs := by
      rw [List.map_map]
      exact List.zipIdx_map_fst 0 xs
    conv => arg 2; rw [← hxs]
    exact List.forall₂_map_left_iff.mpr (List.forall₂_same.mpr fun _ _ => rfl)
  obtain ⟨reordered, hys, hperm⟩ := List.perm_comp_forall₂ h.symm hpaired
  have hfst : reordered.map Prod.fst = ys := by
    rw [← List.forall₂_eq_eq_eq, List.forall₂_map_left_iff]
    exact hys.flip
  refine ⟨fun i => (reordered[i]?.map Prod.snd).getD 0, ?_⟩
  rw [← hfst, errBlocks_map_fst]
  refine (hperm.map _).trans (.of_eq ?_)
  rw [List.map_map]
  rfl

/-! ## Whole runs -/

variable {w} {o : RunOptions} {policy : Option Policy}

/-- **A run over files shows the blocks of its inputs**, one after the other, and comes to their
joined outcome. -/
theorem shows_blocks {engine : Pattern.Engine}
    (hload : Policy.load w o.policy engine = .ok policy) (choices : Nat → Nat)
    (inputs : List String) :
    let c := configOf o policy
    let r := run w (.ofFiles w choices) o { style := st } inputs engine
    r.result = .ok (joinedOutcome w c inputs) ∧
    r.reporter.out.text = Text.ofLines (inputs.flatMap (outBlock w c st)) ++
      (st.summaryLine (joinedOutcome w c inputs) ++ "\n") ∧
    r.reporter.err.text = Text.ofLines (errBlocks w c st choices inputs).flatten := by
  intro c r
  have hr : r = _ :=
    run_of_load_ok (.ofFiles w choices) w o { style := st } inputs policy hload
  have htrace : (Analyzer.ofFiles w choices).trace c inputs = filesTrace w c choices 0 inputs :=
    Analyzer.trace_ofFiles w choices c inputs
  rw [show configOf o policy = c from rfl, htrace] at hr
  rw [hr, outcome_filesTrace]
  refine ⟨rfl, ?_, ?_⟩
  · dsimp only
    rw [Reporter.text_out_tell, map_warningLine_filesTrace, Text.ofLines_append, Text.ofLines,
      Text.ofLines, String.append_empty]
  · dsimp only
    rw [Reporter.text_err_finish]
    show (Writer.lines {} _).text = _
    rw [map_errorLine_filesTrace, Writer.text_lines_empty]

/-- **A run over files is put together from its inputs.** Which of several errors an input fails
with is left to a choice, of its own for each call. When the policy loads, each input has its own
block of lines on either stream and its own outcome, whatever the other inputs are and whether they
fail; the choices decide about nothing but the errors that are named on the second stream, and not
even about these where an input has no two targets that cannot be read.

A run over two lists comes to the join of the outcomes; apart from the summary its output is that
for the one and then that for the other, and so are its errors, where the second list has the later
choices. Any two runs over the lists are put together so. A run over the inputs in another order
comes to the same outcome and the same exit status, shows the same blocks in that order, and has the
same errors in that order if its inputs keep their choices. -/
theorem files_append_and_perm (w : Workspace) (o : RunOptions) (st : Style)
    (policy : Option Policy) (engine : Pattern.Engine)
    (hload : Policy.load w o.policy engine = .ok policy) :
    let c : Config := ⟨Root.normalize o.root, policy, o.dependencies⟩
    let r (choices : Nat → Nat) (inputs : List String) :=
      run w (.ofFiles w choices) o { style := st } inputs engine
    let outcome := joinedOutcome w c
    let told (inputs : List String) := Text.ofLines (inputs.flatMap (outBlock w c st))
    let summary (inputs : List String) := st.summaryLine (outcome inputs) ++ "\n"
    let failures (choices : Nat → Nat) (inputs : List String) := errBlocks w c st choices inputs
    (∀ choices xs, (r choices xs).result = .ok (outcome xs) ∧
      (r choices xs).reporter.out.text = told xs ++ summary xs ∧
      (r choices xs).reporter.err.text = Text.ofLines (failures choices xs).flatten) ∧
    (∀ input,
      (∀ file ∈ Scan.targetsOf w c (c.resolve input),
        ∀ other ∈ Scan.targetsOf w c (c.resolve input),
          ¬ w.IsReadable file → ¬ w.IsReadable other → file = other) →
      ∀ choice choice', errBlock w c st input choice = errBlock w c st input choice') ∧
    (∀ choices xs ys,
      let later (i : Nat) := choices (xs.length + i)
      (r choices (xs ++ ys)).result = .ok ((outcome xs).join (outcome ys)) ∧
      (r choices (xs ++ ys)).reporter.out.text = told xs ++ told ys ++ summary (xs ++ ys) ∧
      (r choices (xs ++ ys)).reporter.err.text =
        (r choices xs).reporter.err.text ++ (r later ys).reporter.err.text) ∧
    (∀ choices choices' xs ys, ∃ joint,
      (r joint (xs ++ ys)).reporter.err.text =
        (r choices xs).reporter.err.text ++ (r choices' ys).reporter.err.text) ∧
    ∀ xs ys, xs.Perm ys →
      (∀ choices choices', (r choices' ys).result = (r choices xs).result ∧
        (r choices' ys).exitCode = (r choices xs).exitCode) ∧
      (ys.map (outBlock w c st)).Perm (xs.map (outBlock w c st)) ∧
      ∀ choices, ∃ choices', (failures choices' ys).Perm (failures choices xs) := by
  intro c r outcome told summary failures
  have hshows : ∀ choices xs, (r choices xs).result = .ok (outcome xs) ∧
      (r choices xs).reporter.out.text = told xs ++ summary xs ∧
      (r choices xs).reporter.err.text = Text.ofLines (failures choices xs).flatten :=
    shows_blocks st hload
  have happend : ∀ choices xs ys, (r choices (xs ++ ys)).reporter.err.text =
      (r choices xs).reporter.err.text ++
        (r (fun i => choices (xs.length + i)) ys).reporter.err.text := by
    intro choices xs ys
    have hblocks : failures choices (xs ++ ys) =
        failures choices xs ++ failures (fun i => choices (xs.length + i)) ys :=
      errBlocks_append w c st choices xs ys
    rw [(hshows choices (xs ++ ys)).2.2, (hshows choices xs).2.2, (hshows _ ys).2.2, hblocks,
      List.flatten_append, Text.ofLines_append]
  refine ⟨hshows, fun input hone choice choice' => ?_, fun choices xs ys => ?_,
    fun choices choices' xs ys => ?_, fun xs ys hperm => ⟨fun choices choices' => ?_,
      hperm.symm.map _, exists_errBlocks_perm w c st hperm⟩⟩
  · rw [errBlock, errBlock, Scan.input, Scan.input, Scan.scan_eq_of_forall_eq hone choice']
  · refine ⟨?_, ?_, happend choices xs ys⟩
    · rw [(hshows choices (xs ++ ys)).1]
      exact congrArg Except.ok (joinedOutcome_append w c xs ys)
    · have htold : told (xs ++ ys) = told xs ++ told ys := by
        show Text.ofLines _ = _
        rw [List.flatMap_append, Text.ofLines_append]
      rw [(hshows choices (xs ++ ys)).2.1, htold]
  · obtain ⟨joint, hjoint⟩ := exists_errBlocks_append w c st choices choices' xs ys
    have hblocks : failures joint (xs ++ ys) = failures choices xs ++ failures choices' ys := hjoint
    refine ⟨joint, ?_⟩
    rw [(hshows joint (xs ++ ys)).2.2, (hshows choices xs).2.2, (hshows choices' ys).2.2, hblocks,
      List.flatten_append, Text.ofLines_append]
  · have hresult : (r choices' ys).result = (r choices xs).result := by
      rw [(hshows choices xs).1, (hshows choices' ys).1]
      exact congrArg Except.ok (joinedOutcome_perm w c hperm).symm
    refine ⟨hresult, ?_⟩
    rw [RunResult.exitCode, RunResult.exitCode, hresult]

/-- A page whose script is missing. -/
def brokenPage : Workspace :=
  ⟨.directory [("p.html", .file (some "<script src='q.js'></script>"))], []⟩

/-- The page next to a directory with two scripts that are no text. -/
def brokenSite : Workspace :=
  ⟨brokenPage.tree.insert ["d"]
    (.directory [("x.js", .file none), ("y.js", .file none)]), []⟩

/-- A run over the directory and the page joins what comes of each, in either order. Which of the two
scripts is named hangs on the choice. -/
theorem files_append_brokenSite :
    let r (choice : Nat) (inputs : List String) :=
      run brokenSite (.ofFiles brokenSite fun _ => choice) {} {} inputs
    let told (file : String) :=
      "error: d: cannot read " ++ file ++ ": stream did not contain valid UTF-8\n"
    Policy.load brokenSite none = .ok none ∧
    (r 0 ["d"]).reporter.err.text = told "d/x.js" ∧
    (r 1 ["d"]).reporter.err.text = told "d/y.js" ∧
    ∀ choice,
      (r choice (["d"] ++ ["p.html"])).result =
        .ok { fatal := true, inputs := 2, failedInputs := 1, warnings := 1, fatalWarnings := 1 } ∧
      (r choice (["d"] ++ ["p.html"])).reporter.err.text =
        (r choice ["d"]).reporter.err.text ++ (r choice ["p.html"]).reporter.err.text ∧
      (r choice ["p.html", "d"]).result = (r choice ["d", "p.html"]).result := by
  intro r told
  obtain ⟨hshows, -, happend, -, hperm⟩ :=
    files_append_and_perm brokenSite {} {} none Pattern.engine rfl
  have htargets : Scan.targetsOf brokenSite {} "d" = ["d/x.js", "d/y.js"] := by
    rw [Scan.targetsOf, if_pos (by decide +kernel)]
    exact Scan.targets_eq_of_pairwise (by decide +kernel) (by decide +kernel)
  have hscan (choice : Nat) : Scan.input brokenSite {} "d" choice =
      (Scan.gather choice (["d/x.js", "d/y.js"].map (Scan.lint brokenSite {}))).map List.flatten := by
    have hresolve : Config.resolve {} "d" = "d" := by decide +kernel
    rw [Scan.input, hresolve, Scan.scan, if_pos (by decide +kernel), htargets]
  have hblock (choice : Nat) : (r choice ["d"]).reporter.err.text =
      Text.ofLines (errBlock brokenSite {} {} "d" choice) := by
    refine (hshows (fun _ => choice) ["d"]).2.2.trans ?_
    exact congrArg Text.ofLines (List.append_nil _)
  refine ⟨rfl, ?_, ?_, fun choice => ?_⟩
  · rw [hblock, errBlock, hscan]
    decide +kernel
  · rw [hblock, errBlock, hscan]
    decide +kernel
  · obtain ⟨hresult, -, herr⟩ := happend (fun _ => choice) ["d"] ["p.html"]
    refine ⟨hresult.trans ?_, herr, ((hperm _ _ (List.Perm.swap "p.html" "d" [])).1 _ _).1⟩
    have hd : inputOutcome brokenSite {} "d" = Outcome.attempted.join .failedInput := by
      rw [inputOutcome, hscan]
      decide +kernel
    have hpage : inputOutcome brokenSite {} "p.html" =
        { fatal := true, inputs := 1, warnings := 1, fatalWarnings := 1 } := by decide +kernel
    show Except.ok (((inputOutcome brokenSite {} "d").join .empty).join
      ((inputOutcome brokenSite {} "p.html").join .empty)) = _
    rw [hd, hpage]
    rfl

end Run

end PolicyLint
