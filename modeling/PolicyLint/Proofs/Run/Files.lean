/-
# Runs over files

The analyzer of files starts no tasks and sends no failures, so what comes of an input is what its
scan comes to and nothing arrives. A scan that would cut a character in two would end its call with
an error of its task; there is no such scan.

* `Analyzer.trace_ofFiles` : the trace of a run over files;
* `Trace.fatal_ofScans_iff`, `Scan.fatal_results_iff` : which such runs are not fatal;
* `Analyzer.ofCuts`, `Analyzer.ofCuts_eq` : scanning with cuts is scanning;
* `Run.cuts_isValid` : texts are cut between characters, and no call fails because of a cut.
-/
import PolicyLint.Proofs.Run.Transcript
import PolicyLint.Proofs.Scan.Checked
import PolicyLint.Proofs.Policy.WordMatchers

namespace PolicyLint

/-! ## Traces -/

/-- The trace of a run whose inputs come to the given results, with nothing arriving. -/
def Trace.ofScans (results : List (String × Except InputError (List Warning))) : Trace :=
  ⟨results.map fun x => ⟨x.1, .ofScan x.2, []⟩, []⟩

/-- What inputs come to, each with the choice of its call. -/
def Scan.results (w : Workspace) (c : Config) (choices : Nat → Nat) (n : Nat)
    (inputs : List String) : List (String × Except InputError (List Warning)) :=
  (inputs.zipIdx n).map fun x => (x.1, Scan.input w c x.1 (choices x.2))

/-- Calls that only let tasks take turns find none, and nothing arrives. -/
theorem Analyzer.traceFrom_ofFiles (w : Workspace) (choices : Nat → Nat) (c : Config) (n : Nat)
    (inputs : List String) :
    (Analyzer.ofFiles w choices).traceFrom c n [] inputs =
      .ofScans (Scan.results w c choices n inputs) := by
  induction inputs generalizing n with
  | nil => rw [traceFrom, Task.arrivals_nil]; rfl
  | cons input inputs ih =>
      have hsends : Action.sendsAll [] (ofFiles w choices n c input).actions = ([], []) := by
        show (Task.arrivals [] ++ [], []) = (([], []) : List Failure × List Task)
        rw [Task.arrivals_nil]
        rfl
      simp only [traceFrom, hsends, ih]
      rfl

/-- **The trace of a run over files**: each input comes to what its scan comes to. -/
theorem Analyzer.trace_ofFiles (w : Workspace) (choices : Nat → Nat) (c : Config)
    (inputs : List String) :
    (Analyzer.ofFiles w choices).trace c inputs = .ofScans (Scan.results w c choices 0 inputs) :=
  traceFrom_ofFiles w choices c 0 inputs

namespace Trace

variable (results : List (String × Except InputError (List Warning)))

/-- No failure reaches the guard. -/
theorem guardFailures_ofScans : (ofScans results).outcome.guardFailures = 0 := by
  have hpanic : (ofScans results).attempts.countP (fun x => x.ending.isPanic) = 0 := by
    rw [List.countP_eq_zero]
    intro x hx
    obtain ⟨⟨input, result⟩, -, rfl⟩ := List.mem_map.mp hx
    cases result <;> exact Bool.false_ne_true
  have harrived : ((ofScans results).attempts.flatMap fun x => x.arrived) = [] := by
    rw [List.flatMap_eq_nil_iff]
    intro x hx
    obtain ⟨y, -, rfl⟩ := List.mem_map.mp hx
    rfl
  rw [outcome_eq]
  dsimp only
  rw [hpanic, harrived]
  rfl

/-- **A run is not fatal exactly if every input is scanned and no warning is fatal.** -/
theorem fatal_ofScans_iff :
    (ofScans results).outcome.fatal = false ↔
      ∀ x ∈ results, ∃ ws, x.2 = .ok ws ∧ ∀ v ∈ ws, v.fatal = false := by
  have hcons : ∀ x : String × Except InputError (List Warning),
      (Outcome.tally 1 (Ending.ofScan x.2).found
          (Attempt.faults ⟨x.1, .ofScan x.2, []⟩)).fatal = false ↔
        ∃ ws, x.2 = .ok ws ∧ ∀ v ∈ ws, v.fatal = false := by
    rintro ⟨input, e | ws⟩
    · constructor
      · intro h
        cases h
      · rintro ⟨ws, hws, -⟩
        cases hws
    · show (ws.any (·.fatal) || false) = false ↔ _
      rw [Bool.or_false, List.any_eq_false]
      constructor
      · intro h
        exact ⟨ws, rfl, fun v hv => Bool.eq_false_iff.mpr (h v hv)⟩
      · rintro ⟨vs, hvs, h⟩ v hv
        cases hvs
        rw [h v hv]
        exact Bool.false_ne_true
  induction results with
  | nil => exact ⟨fun _ => List.forall_mem_nil _, fun _ => rfl⟩
  | cons x xs ih =>
      rw [List.forall_mem_cons, ofScans, List.map_cons, outcome_cons]
      exact Bool.or_eq_false_iff.trans (and_congr (hcons x) ih)

end Trace

/-- Which runs over files are not fatal does not hang on the choices. -/
theorem Scan.fatal_results_iff (w : Workspace) (c : Config) (choices : Nat → Nat) (n : Nat)
    (inputs : List String) :
    (Trace.ofScans (results w c choices n inputs)).outcome.fatal = false ↔
      ∀ input ∈ inputs, ∃ ws, Scan.input w c input = .ok ws ∧ ∀ v ∈ ws, v.fatal = false := by
  have hchoice (x : String × Nat) (ws : List Warning) :
      Scan.input w c x.1 (choices x.2) = .ok ws ↔ Scan.input w c x.1 = .ok ws := scan_eq_ok_congr 0
  rw [Trace.fatal_ofScans_iff, results, List.forall_mem_map]
  simp only [hchoice]
  conv => rhs; rw [← List.zipIdx_map_fst n inputs, List.forall_mem_map]

/-! ## Scanning with cuts -/

/-- The analyzer that scans the files of a workspace with cuts. A scan without a result fails the
task that it was given to, with the given message. -/
def Analyzer.ofCuts (w : Workspace) (message : String) (choices : Nat → Nat := fun _ => 0) :
    Analyzer := fun n c input =>
  ⟨[.pump],
    match Scan.scan? w c (c.resolve input) (choices n) with
    | some result => .ofScan result
    | none => .rejected (.task message)⟩

/-- Every scan with cuts has a result, and it is that of scanning. -/
theorem Analyzer.ofCuts_eq (w : Workspace) (message : String) (choices : Nat → Nat) :
    Analyzer.ofCuts w message choices = Analyzer.ofFiles w choices := by
  funext n c input
  rw [ofCuts, Scan.scan?_eq]
  rfl

/-- **No character is cut in two.** A comment is replaced between two valid positions of the copy
that has the comments before it blanked, and every hit of a rule and every reference stands at a
valid position of the text itself. So scanning with cuts is scanning: no call ends with an error of
its task, and in no run does a failure reach the guard. -/
theorem Run.cuts_isValid (w : Workspace) (text message : String) (choices : Nat → Nat) :
    (∀ (done rest : List Span) (s : Span), Html.comment.spans text.toList = done ++ s :: rest →
      ∃ copy : String, done.foldlM Html.blankSpan? text.toList = some copy.toList ∧
        (String.Pos.Raw.mk s.offset).IsValid copy ∧ (String.Pos.Raw.mk s.stop).IsValid copy) ∧
    (∀ r : Rule, ∀ h ∈ r.hits text.toList,
      h.offset ≤ text.utf8ByteSize ∧ (String.Pos.Raw.mk h.offset).IsValid text) ∧
    (∀ s ∈ Html.imports text.toList,
      s.offset ≤ text.utf8ByteSize ∧ (String.Pos.Raw.mk s.offset).IsValid text) ∧
    Analyzer.ofCuts w message choices = Analyzer.ofFiles w choices ∧
    (∀ n c input reason,
      (Analyzer.ofCuts w message choices n c input).ending ≠ .rejected (.task reason)) ∧
    ∀ o reporter inputs outcome,
      (run w (.ofCuts w message choices) o reporter inputs).result = .ok outcome →
        outcome.guardFailures = 0 := by
  refine ⟨?_, ?_, ?_, Analyzer.ofCuts_eq w message choices, ?_, ?_⟩
  · intro done rest s hspans
    obtain ⟨copy, hcopy, hstart, hstop⟩ := Html.isPlace_of_spans_eq hspans
    rw [← String.toList_ofList (l := copy)] at hcopy hstart hstop
    exact ⟨String.ofList copy, hcopy, hstart.isValid.2, hstop.isValid.2⟩
  · intro r h hh
    exact (Rule.isPlace_of_mem_hits hh).isValid
  · intro s hs
    exact (Html.isPlace_of_mem_imports hs).isValid
  · intro n c input reason h
    rw [Analyzer.ofCuts_eq] at h
    have hscan : Ending.ofScan (Scan.input w c input (choices n)) = .rejected (.task reason) := h
    cases hresult : Scan.input w c input (choices n) with
    | ok ws =>
        rw [hresult] at hscan
        cases hscan
    | error e =>
        rw [hresult] at hscan
        cases hscan
        exact Scan.input_ne_task w c input reason _ hresult
  · intro o reporter inputs outcome hresult
    rw [Analyzer.ofCuts_eq] at hresult
    cases hload : Policy.load w o.policy with
    | error e =>
        rw [run_of_load_error _ w o reporter inputs e hload] at hresult
        cases hresult
    | ok policy =>
        rw [run_of_load_ok _ w o reporter inputs policy hload] at hresult
        cases hresult
        rw [Analyzer.trace_ofFiles]
        exact Trace.guardFailures_ofScans _

/-- A page with a comment of two-byte characters in front of a script and of a property. -/
def Run.commented : String := "<!--é--><script src='é'></script>.é"

/-- The comment, the hit and the reference of the page stand at valid positions, and a run over it
ends without failures. -/
theorem Run.cuts_isValid_commented :
    let text := commented
    let w : Workspace := ⟨.directory [("p.html", .file (some text))], []⟩
    let r : Rule := ⟨.property, [("é", Matcher.property ['é'])], none, [], true⟩
    let a := Analyzer.ofCuts w "stopped"
    (Html.comment.spans text.toList = [] ++ ⟨0, "<!--é-->".toList⟩ :: [] ∧
      ∃ copy : String, [].foldlM Html.blankSpan? text.toList = some copy.toList ∧
        (String.Pos.Raw.mk 0).IsValid copy ∧ (String.Pos.Raw.mk 9).IsValid copy) ∧
    (⟨36, "é"⟩ ∈ r.hits text.toList ∧
      36 ≤ text.utf8ByteSize ∧ (String.Pos.Raw.mk 36).IsValid text) ∧
    (⟨22, ['é']⟩ ∈ Html.imports text.toList ∧
      22 ≤ text.utf8ByteSize ∧ (String.Pos.Raw.mk 22).IsValid text) ∧
    ∃ outcome, (run w a {} {} ["p.html"]).result = .ok outcome ∧ outcome.guardFailures = 0 := by
  intro text w r a
  obtain ⟨hcomments, hhits, himports, -, -, hruns⟩ := cuts_isValid w text "stopped" fun _ => 0
  have hcomment : Html.comment.spans text.toList = [⟨0, "<!--é-->".toList⟩] := by decide +kernel
  have hhit : ⟨36, "é"⟩ ∈ r.hits text.toList := by decide +kernel
  have himport : ⟨22, ['é']⟩ ∈ Html.imports text.toList := by decide +kernel
  have hload : Policy.load w none = .ok none := rfl
  have hresult := congrArg RunResult.result (run_of_load_ok a w {} {} ["p.html"] none hload)
  exact ⟨⟨hcomment, hcomments [] [] _ hcomment⟩, ⟨hhit, hhits r _ hhit⟩,
    ⟨himport, himports _ himport⟩, _, hresult, hruns {} {} ["p.html"] _ hresult⟩

end PolicyLint
