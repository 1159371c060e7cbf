/-
# Runs told in JSON

In JSON a warning is one line that reads back as the warning, if its position fits in 64 bits. A run
writes such a line for each warning and then one line for its summary, and nothing else, so cutting
its output at line feeds gives back what it has found and counted.

* `Warning.parse?_jsonLine` : a warning is read back from its line;
* `Text.splitAt_ofLines` : lines are given back when their text is cut at line feeds;
* `Reporter.splitAt_text_out_tell` : what a run prints, cut into its lines;
* `Analyzer.warnings_traceFrom` : the warnings of a run, call by call;
* `Run.jsonLines_read_back` : the output of a run is read back.
-/
import PolicyLint.Proofs.Json.RoundTrip
import PolicyLint.Proofs.Run.Transcript
import PolicyLint.Proofs.Text.Pieces

namespace PolicyLint

/-! ## Warnings -/

/-- Whether the line and the column of a position are numbers of 64 bits. -/
def Position.Fits (p : Position) : Prop := p.line < UInt64.size ∧ p.column < UInt64.size

instance (p : Position) : Decidable p.Fits :=
  inferInstanceAs (Decidable (p.line < UInt64.size ∧ p.column < UInt64.size))

/-- A position is read back. -/
theorem Position.ofJson?_toJson {p : Position} (h : p.Fits) : ofJson? p.toJson = some p := by
  have hrecord : p.toJson.record? ["line", "column"] =
      some [some (.ofNat p.line), some (.ofNat p.column)] := rfl
  simp only [ofJson?, hrecord, Json.natural?_ofNat h.1, Json.natural?_ofNat h.2,
    Option.bind_eq_bind, Option.bind_some]
  rfl

namespace Warning

/-- A warning as a JSON value is one that is written. -/
theorem written_toJson (v : Warning) : v.toJson.Written := by
  refine .object ?_
  simp only [List.forall_mem_cons]
  refine ⟨.string _, .object ?_, .string _, .bool _, List.forall_mem_nil _⟩
  simp only [List.forall_mem_cons]
  exact ⟨.number _, .number _, List.forall_mem_nil _⟩

/-- A warning is read back from its JSON value. -/
theorem ofJson?_toJson {v : Warning} (h : v.position.Fits) : ofJson? v.toJson = some v := by
  have hrecord : v.toJson.record? ["filename", "location", "message", "fatal"] =
      some [some (.string v.filename), some v.position.toJson, some (.string v.message),
        some (.bool v.fatal)] := rfl
  simp only [ofJson?, hrecord, Json.text?, Json.bool?, Position.ofJson?_toJson h,
    Option.bind_eq_bind, Option.bind_some]
  rfl

/-- **A warning is read back from its line.** -/
theorem parse?_jsonLine {v : Warning} (h : v.position.Fits) : parse? v.jsonLine = some v := by
  rw [parse?, jsonLine, Json.parse?_render v.written_toJson]
  exact ofJson?_toJson h

end Warning

/-- The summary of an outcome as a JSON value is one that is written. -/
theorem Outcome.written_summary (o : Outcome) :
    (Json.object [("summary", o.toJson)]).Written := by
  refine .object ?_
  simp only [List.forall_mem_cons]
  refine ⟨.object ?_, List.forall_mem_nil _⟩
  simp only [List.forall_mem_cons]
  exact ⟨.bool _, .number _, .number _, .number _, .number _, .number _, List.forall_mem_nil _⟩

/-- The text of a value has no control character, so neither a line feed nor a carriage return. -/
theorem Json.Written.not_mem_render {v : Json} (h : v.Written) {c : Char} (hc : c.toNat < 32) :
    c ∉ v.render.toList := by
  rw [render, String.toList_ofList]
  intro hmem
  exact absurd (h.le_of_mem_print c hmem) (Nat.not_le.mpr hc)

/-! ## Lines -/

namespace Text

/-- **Lines are given back** when their text is cut at line feeds, and nothing follows them. -/
theorem splitAt_ofLines {ls : List String} (h : ∀ l ∈ ls, '\n' ∉ l.toList) :
    splitAt '\n' (ofLines ls).toList = ls.map String.toList ++ [[]] := by
  induction ls with
  | nil => rfl
  | cons l ls ih =>
      have hline : (ofLines (l :: ls)).toList = l.toList ++ '\n' :: (ofLines ls).toList := by
        rw [ofLines, String.toList_append, String.toList_append, List.append_assoc]
        rfl
      rw [hline, splitAt_append, splitAt_of_not_mem (h l List.mem_cons_self),
        ih fun m hm => h m (List.mem_cons_of_mem l hm)]
      rfl

end Text

/-! ## Runs -/

/-- Told in JSON, the first stream is cut into a line for each warning and one for the summary. -/
theorem Reporter.splitAt_text_out_tell {st : Style} (hmode : st.mode = .json) (ws : List Warning)
    (xs : List Fault) (o : Outcome) :
    Text.splitAt '\n' ((Reporter.tell { style := st } ws xs).finish o).out.text.toList =
      (ws.map Warning.jsonLine).map String.toList ++
        [(Json.object [("summary", o.toJson)]).render.toList, []] := by
  have hwarning : st.warningLine = Warning.jsonLine := by
    funext v
    rw [Style.warningLine, hmode]
  have hsummary : st.summaryLine o = (Json.object [("summary", o.toJson)]).render := by
    rw [Style.summaryLine, hmode]
  -- no line that is told has a line feed in it
  have hlines : ∀ l ∈ ws.map Warning.jsonLine ++ [(Json.object [("summary", o.toJson)]).render],
      '\n' ∉ l.toList := by
    intro l hl
    rcases List.mem_append.mp hl with hl | hl
    · obtain ⟨v, -, rfl⟩ := List.mem_map.mp hl
      exact v.written_toJson.not_mem_render (by decide)
    · rw [List.mem_singleton.mp hl]
      exact o.written_summary.not_mem_render (by decide)
  rw [Reporter.text_out_tell, hwarning, hsummary, Text.splitAt_ofLines hlines, List.map_append,
    List.append_assoc]
  rfl

/-- **The warnings of a run** are those with which its calls end, call by call. -/
theorem Analyzer.warnings_traceFrom (a : Analyzer) (c : Config) (n : Nat) (ts : List Task)
    (inputs : List String) :
    (a.traceFrom c n ts inputs).warnings =
      (inputs.zipIdx n).flatMap fun x => (a x.2 c x.1).ending.found := by
  induction inputs generalizing n ts with
  | nil => rfl
  | cons input inputs ih =>
      simp only [traceFrom]
      rw [Trace.warnings_cons, List.zipIdx_cons, List.flatMap_cons, ← ih (n + 1)]

namespace Run

/-- **What is told in JSON is read back.** The line of a warning has neither a line feed nor a
carriage return, and reads back as the warning. Cut at line feeds, the output of a run with its
policy is a line for each warning in order, which read back as the warnings, and one line with the
counters of the outcome; these say how many lines stand before it, and how many of them are
fatal. -/
theorem jsonLines_read_back :
    (∀ v : Warning, v.position.Fits →
      '\n' ∉ v.jsonLine.toList ∧ '\r' ∉ v.jsonLine.toList ∧ Warning.parse? v.jsonLine = some v) ∧
    ∀ (a : Analyzer) (w : Workspace) (o : RunOptions) (inputs : List String) (st : Style)
      (policy : Option Policy), st.mode = .json → Policy.load w o.policy = .ok policy →
      let c : Config := ⟨Root.normalize o.root, policy, o.dependencies⟩
      let reported := inputs.zipIdx.flatMap fun x => (a x.2 c x.1).ending.found
      (∀ v ∈ reported, v.position.Fits) →
      let r := run w a o { style := st } inputs
      ∃ (outcome : Outcome) (lines : List String) (summary : String),
        r.result = .ok outcome ∧
        Text.splitAt '\n' r.reporter.out.text.toList =
          lines.map String.toList ++ [summary.toList, []] ∧
        lines.map Warning.parse? = reported.map some ∧
        Json.parse? summary = some (.object [("summary", .object [("fatal", .bool outcome.fatal),
          ("inputs", .ofNat outcome.inputs), ("failed_inputs", .ofNat outcome.failedInputs),
          ("warnings", .ofNat outcome.warnings),
          ("fatal_warnings", .ofNat outcome.fatalWarnings),
          ("guard_failures", .ofNat outcome.guardFailures)])]) ∧
        outcome.warnings = lines.length ∧
        outcome.fatalWarnings =
          lines.countP fun l => (Warning.parse? l).any fun v => v.fatal := by
  constructor
  · intro v hv
    have hwritten := v.written_toJson
    exact ⟨hwritten.not_mem_render (by decide), hwritten.not_mem_render (by decide),
      Warning.parse?_jsonLine hv⟩
  · intro a w o inputs st policy hmode hload c reported hfits r
    have hwarnings : (a.trace c inputs).warnings = reported :=
      a.warnings_traceFrom c 0 [] inputs
    have hr : r = _ := run_of_load_ok a w o { style := st } inputs policy hload
    generalize htrace : a.trace (configOf o policy) inputs = t at hr
    have hreported : t.warnings = reported := htrace ▸ hwarnings
    have hparse : ∀ v ∈ reported, Warning.parse? v.jsonLine = some v := fun v hv =>
      Warning.parse?_jsonLine (hfits v hv)
    refine ⟨t.outcome, reported.map Warning.jsonLine,
      (Json.object [("summary", t.outcome.toJson)]).render, ?_, ?_, ?_, ?_, ?_, ?_⟩
    · rw [hr]
    · rw [hr, ← hreported]
      exact Reporter.splitAt_text_out_tell hmode t.warnings t.faults t.outcome
    · rw [List.map_map]
      apply List.map_congr_left
      intro v hv
      rw [Function.comp_apply, hparse v hv]
    · exact Json.parse?_render t.outcome.written_summary
    · rw [List.length_map, ← hreported]
      rfl
    · -- a line counts as fatal if its warning is
      rw [List.countP_map, ← hreported]
      apply List.countP_congr
      intro v hv
      rw [Function.comp_apply, hparse v (hreported ▸ hv)]
      rfl

/-- A warning full of what JSON has to escape, in the last column that there is. -/
def awkward : Warning := ⟨"a\"\\\n.html", ⟨3, UInt64.size - 1⟩, "é\x01\r", true⟩

/-- An analyzer that gives the warning and a failure to its first call and rejects all others. -/
def awkwardAnalyzer : Analyzer := fun n _ _ =>
  if n = 0 then ⟨[.report ⟨"task", "late"⟩], .warnings [awkward]⟩
  else ⟨[], .rejected (.failed "no")⟩

/-- A run over two inputs tells the warning and the summary, and both are read back. -/
theorem jsonLines_awkward :
    let st : Style := { mode := .json }
    let r := run ⟨.empty, []⟩ awkwardAnalyzer {} { style := st } ["p", "q"]
    awkward.position.Fits ∧
    ('\n' ∉ awkward.jsonLine.toList ∧ '\r' ∉ awkward.jsonLine.toList ∧
      Warning.parse? awkward.jsonLine = some awkward) ∧
    ∃ (outcome : Outcome) (lines : List String) (summary : String),
      r.result = .ok outcome ∧
      Text.splitAt '\n' r.reporter.out.text.toList =
        lines.map String.toList ++ [summary.toList, []] ∧
      lines.map Warning.parse? = [some awkward] ∧ outcome.warnings = 1 ∧
      outcome.fatalWarnings = lines.countP fun l => (Warning.parse? l).any fun v => v.fatal := by
  intro st r
  have hfits : awkward.position.Fits := by decide
  obtain ⟨hwarnings, hruns⟩ := jsonLines_read_back
  obtain ⟨outcome, lines, summary, hresult, hout, hlines, -, hcount, hfatal⟩ :=
    hruns awkwardAnalyzer ⟨.empty, []⟩ {} ["p", "q"] st none rfl rfl
      (fun v hv => List.mem_singleton.mp hv ▸ hfits)
  have hlength : lines.length = 1 := by
    rw [← List.length_map (f := Warning.parse?), hlines]
    rfl
  exact ⟨hfits, hwarnings awkward hfits, outcome, lines, summary, hresult, hout, hlines,
    hcount.trans hlength, hfatal⟩

end Run

end PolicyLint
