/-
# What a run comes to does not depend on how it is shown

The style of a reporter and its two streams decide what is printed and nothing else. Two runs with
different reporters make the same calls and come to the same result, also when a stream takes no
text. Nor do the streams depend on each other in what they take: the one is given the same text
whether the other takes any or not. What the second stream holds back it passes on at the end of
the run, but only if the first one can be flushed; for a stream that holds nothing back this makes
no difference.

* `Writer.IsDirect` : streams that hold nothing back;
* `Reporter.out_finish_tell`, `Reporter.err_finish_tell` : what becomes of each stream;
* `Run.map_callsFrom` : the calls of a run apart from what they find printed;
* `Run.verdict_of_any_reporter` : runs with two reporters.
-/
import PolicyLint.Proofs.Run.Transcript

namespace PolicyLint

/-! ## Streams -/

namespace Writer

/-- Whether a stream holds nothing back and has no room to. -/
def IsDirect (w : Writer) : Prop := w.held = "" ∧ w.room = 0

variable {w : Writer}

/-- Then a flush has nothing to pass on. -/
theorem IsDirect.flush_eq (h : w.IsDirect) : w.flush.2 = w := by
  have htext : w.text = w.passed := by rw [text, h.1, String.append_empty]
  rw [flush]
  split
  · rfl
  · rw [htext, ← h.1]

/-- A line is passed on at once, since there is no room for its line feed. -/
theorem IsDirect.line (h : w.IsDirect) (l : String) : (w.line l).IsDirect := by
  cases hbroken : w.broken with
  | true => rwa [line_of_broken w hbroken]
  | false =>
      have hroom : ¬ (w.held ++ (l ++ "\n")).utf8ByteSize ≤ w.room := by
        have hfeed : "\n".utf8ByteSize = 1 := rfl
        rw [h.2, String.utf8ByteSize_append, String.utf8ByteSize_append]
        omega
      rw [Writer.line, write, if_neg (Bool.eq_false_iff.mp hbroken), if_neg hroom, flush,
        if_neg (Bool.eq_false_iff.mp hbroken)]
      exact ⟨rfl, h.2⟩

/-- So are any number of lines. -/
theorem IsDirect.lines (h : w.IsDirect) (ls : List String) : (w.lines ls).IsDirect := by
  induction ls generalizing w with
  | nil => exact h
  | cons l ls ih => exact ih (h.line l)

end Writer

namespace Reporter

variable (p : Reporter) (ws : List Warning) (xs : List Fault) (o : Outcome)

/-- The first stream gets a line for each warning and then the summary, and is flushed. -/
theorem out_finish_tell :
    ((p.tell ws xs).finish o).out =
      (p.out.lines (ws.map p.style.warningLine ++ [p.style.summaryLine o])).flush.2 := by
  rw [out_finish, Writer.lines_append]
  rfl

/-- The second one gets a line for each fault, and is flushed if the first one could be. -/
theorem err_finish_tell :
    ((p.tell ws xs).finish o).err =
      let err := p.err.lines (xs.map fun x => p.style.errorLine x.text)
      if p.out.broken then err else err.flush.2 := by
  have hbroken : ∀ ls, (p.out.lines ls).broken = p.out.broken := p.out.broken_lines
  rw [err_finish]
  simp only [tell, hbroken]

end Reporter

namespace Run

/-! ## Calls -/

/-- Apart from what they find printed, calls are their inputs with the configuration of the run. By
induction over the attempts, from any reporter on. -/
theorem map_callsFrom (c : Config) (p : Reporter) (xs : List Attempt) :
    (callsFrom c p xs).map (fun x => (x.input, x.config)) = xs.map fun x => (x.input, c) := by
  induction xs generalizing p with
  | nil => rfl
  | cons x xs ih => rw [callsFrom, List.map_cons, List.map_cons, ih]

/-! ## Whole runs -/

variable (a : Analyzer) (w : Workspace) (o : RunOptions) (inputs : List String)
  {engine : Pattern.Engine}

/-- The result of a run does not depend on the reporter. -/
theorem result_run_eq (p q : Reporter) :
    (run w a o q inputs engine).result = (run w a o p inputs engine).result := by
  cases hload : Policy.load w o.policy engine with
  | error e =>
      rw [run_of_load_error a w o p inputs e hload, run_of_load_error a w o q inputs e hload]
  | ok policy =>
      rw [run_of_load_ok a w o p inputs policy hload, run_of_load_ok a w o q inputs policy hload]

/-- Nor do its calls, apart from what they find printed. -/
theorem map_calls_run_eq (p q : Reporter) :
    ((run w a o q inputs engine).calls.map fun x => (x.input, x.config)) =
      (run w a o p inputs engine).calls.map fun x => (x.input, x.config) := by
  cases hload : Policy.load w o.policy engine with
  | error e =>
      rw [run_of_load_error a w o p inputs e hload, run_of_load_error a w o q inputs e hload]
  | ok policy =>
      rw [run_of_load_ok a w o p inputs policy hload, run_of_load_ok a w o q inputs policy hload]
      dsimp only
      rw [map_callsFrom, map_callsFrom]

/-- **The streams of a run.** There are lines for the one and for the other, whatever the streams
are. A run that does not start writes a line to the second stream and flushes none. Any other writes
its lines, flushes the first stream, and then the second one unless the first is broken. -/
theorem exists_lines (p : Reporter) :
    ∃ ls ms : List String, ∀ out err : Writer,
      let s := run w a o { p with out, err } inputs engine
      if s.result.isOk then
        s.reporter.out = (out.lines ls).flush.2 ∧
          s.reporter.err = if out.broken then err.lines ms else (err.lines ms).flush.2
      else s.reporter.out = out.lines ls ∧ s.reporter.err = err.lines ms := by
  cases hload : Policy.load w o.policy engine with
  | error e =>
      -- a run that does not start has an error to tell and no summary, and flushes nothing
      refine ⟨[], [p.style.errorLine e.message], fun out err => ?_⟩
      rw [run_of_load_error a w o _ inputs e hload]
      exact ⟨rfl, rfl⟩
  | ok policy =>
      let t := a.trace (configOf o policy) inputs
      refine ⟨t.warnings.map p.style.warningLine ++ [p.style.summaryLine t.outcome],
        t.faults.map fun x => p.style.errorLine x.text, fun out err => ?_⟩
      rw [run_of_load_ok a w o _ inputs policy hload]
      exact ⟨Reporter.out_finish_tell _ _ _ _, Reporter.err_finish_tell _ _ _ _⟩

/-- The first stream of a run does not depend on the second. -/
theorem out_run_eq (p : Reporter) (err : Writer) :
    (run w a o { p with err } inputs engine).reporter.out =
      (run w a o p inputs engine).reporter.out := by
  obtain ⟨ls, ms, hstreams⟩ := exists_lines a w o inputs p
  have hself := hstreams p.out p.err
  have hother := hstreams p.out err
  dsimp only at hself hother
  rw [result_run_eq a w o inputs p { p with err }] at hother
  split at hself
  · rename_i hok
    rw [if_pos hok] at hother
    rw [hself.1, hother.1]
  · rename_i hok
    rw [if_neg hok] at hother
    rw [hself.1, hother.1]

/-- What the second stream of a run takes does not depend on the first; nor does what becomes of it,
if it holds nothing back. -/
theorem err_run_eq (p : Reporter) (out : Writer) :
    (run w a o { p with out } inputs engine).reporter.err.text =
        (run w a o p inputs engine).reporter.err.text ∧
      (p.err.IsDirect → (run w a o { p with out } inputs engine).reporter.err =
        (run w a o p inputs engine).reporter.err) := by
  obtain ⟨ls, ms, hstreams⟩ := exists_lines a w o inputs p
  have hlines : ∀ out : Writer,
      let err := (run w a o { p with out } inputs engine).reporter.err
      err.text = (p.err.lines ms).text ∧ (p.err.IsDirect → err = p.err.lines ms) := by
    intro out
    have hstream := hstreams out p.err
    dsimp only at hstream ⊢
    split at hstream
    · rw [hstream.2]
      split
      · exact ⟨rfl, fun _ => rfl⟩
      · exact ⟨Writer.text_flush _, fun h => (h.lines ms).flush_eq⟩
    · rw [hstream.2]
      exact ⟨rfl, fun _ => rfl⟩
  obtain ⟨htext, hdirect⟩ := hlines out
  obtain ⟨htext', hdirect'⟩ := hlines p.out
  exact ⟨htext.trans htext'.symm, fun h => (hdirect h).trans (hdirect' h).symm⟩

/-- **What a run comes to does not depend on how it is shown.** With any two reporters, of whatever
mode and color and with whatever streams, a run makes the same calls in the same order with the same
configuration, and comes to the same result and exit status. Whatever the first stream is, broken or
not, the second one takes the same text, and is the same in the end if it holds nothing back; and
whatever the second one is, the first is the same in the end. The lines that the streams are given
depend on neither. When a run that has started is over the first stream is flushed, and then the
second one exactly if that did not fail; so what a working second stream still holds back is passed
on unless the first is broken. -/
theorem verdict_of_any_reporter (p q : Reporter) :
    let r (reporter : Reporter) := run w a o reporter inputs engine
    ((r q).calls.map fun x => (x.input, x.config)) =
      ((r p).calls.map fun x => (x.input, x.config)) ∧
    (r q).result = (r p).result ∧ (r q).exitCode = (r p).exitCode ∧
    (∀ out : Writer,
      (r { p with out }).reporter.err.text = (r p).reporter.err.text ∧
      (p.err.IsDirect → (r { p with out }).reporter.err = (r p).reporter.err)) ∧
    (∀ err : Writer, (r { p with err }).reporter.out = (r p).reporter.out) ∧
    ∃ ls ms : List String, ∀ out err : Writer,
      let s := r { p with out, err }
      if s.result.isOk then
        s.reporter.out = (out.lines ls).flush.2 ∧
          s.reporter.err = if out.broken then err.lines ms else (err.lines ms).flush.2
      else s.reporter.out = out.lines ls ∧ s.reporter.err = err.lines ms := by
  intro r
  have hresult : (r q).result = (r p).result := result_run_eq a w o inputs p q
  refine ⟨map_calls_run_eq a w o inputs p q, hresult, ?_, err_run_eq a w o inputs p,
    out_run_eq a w o inputs p, exists_lines a w o inputs p⟩
  rw [RunResult.exitCode, RunResult.exitCode, hresult]

/-- A run over an input that is missing. The second stream has room for its error: it takes it in
either case and passes it on at the end, but not when the first one is broken. A stream without room
passes it on in either case. -/
theorem verdict_of_held_error :
    let w : Workspace := ⟨.empty, []⟩
    let r (out err : Writer) := (run w (.ofFiles w) {} { out, err } ["x.js"]).reporter.err
    let error := "error: x.js: input not found: x.js\n"
    Writer.IsDirect {} ∧ r { broken := true } {} = r {} {} ∧ (r {} {}).passed = error ∧
    (r { broken := true } { room := 80 }).text = (r {} { room := 80 }).text ∧
    r {} { room := 80 } = { passed := error, room := 80 } ∧
    r { broken := true } { room := 80 } = { held := error, room := 80 } := by
  intro w r error
  have hdirect : Writer.IsDirect {} := ⟨rfl, rfl⟩
  have hheld : r {} { room := 80 } = { passed := error, room := 80 } := by decide +kernel
  have hkept : r { broken := true } { room := 80 } = { held := error, room := 80 } := by
    decide +kernel
  obtain ⟨-, -, -, herr, -⟩ := verdict_of_any_reporter (.ofFiles w) w {} ["x.js"] {} {}
  obtain ⟨-, -, -, htext, -⟩ :=
    verdict_of_any_reporter (.ofFiles w) w {} ["x.js"] { err := { room := 80 } } {}
  exact ⟨hdirect, (herr { broken := true }).2 hdirect, by decide +kernel,
    (htext { broken := true }).1, hheld, hkept⟩

end Run

end PolicyLint
