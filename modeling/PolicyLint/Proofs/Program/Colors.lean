/-
# Colors only add sequences

A colored line and the same line without colors say the same when their color sequences are taken
out, whatever escapes the names and messages in them hold. What a reporter prints therefore agrees
with what one of another color prints, line by line, and so do whole runs. In JSON nothing is
colored.

* `Style.uncolored_humanLine`, `Style.alike_warningLine` : lines;
* `Reporter.Agree` : reporters that differ in their colors, and in what these have printed;
* `Run.agree_run` : the same run told by two reporters;
* `Program.uncolored_start` : the program with and without colors.
-/
import PolicyLint.Program
import PolicyLint.Proofs.Run.Blocks
import PolicyLint.Proofs.Run.Presentation
import PolicyLint.Proofs.Text.Sequences

namespace PolicyLint

open Text (uncolored uncolored_append uncolored_between StartsApart IsSequence)

/-! ## Emphasis -/

/-- What switches a color on is a sequence. -/
theorem isSequence_color (c : Color) : IsSequence ("\x1b[" ++ c.code ++ "m") := by
  cases c with
  | red => exact ⟨['3', '1'], by decide, by decide⟩
  | yellow => exact ⟨['3', '3'], by decide, by decide⟩
  | cyan => exact ⟨['3', '6'], by decide, by decide⟩

/-- A text in a color is the text, whatever follows it. -/
theorem uncolored_colored_append (c : Color) (s t : String) :
    uncolored (colored c s ++ t) = uncolored s ++ uncolored t :=
  uncolored_between (isSequence_color c) ⟨['3', '9'], by decide, by decide⟩ s t

/-- A text in bold is the text, whatever follows it. -/
theorem uncolored_bold_append (s t : String) :
    uncolored (bold s ++ t) = uncolored s ++ uncolored t :=
  uncolored_between ⟨['1'], by decide, by decide⟩ ⟨['0'], by decide, by decide⟩ s t

/-- A text in a color is the text. -/
theorem uncolored_colored (c : Color) (s : String) : uncolored (colored c s) = uncolored s := by
  have h := uncolored_colored_append c s ""
  rwa [String.append_empty, Text.uncolored_empty, String.append_empty] at h

/-- A text in bold is the text. -/
theorem uncolored_bold (s : String) : uncolored (bold s) = uncolored s := by
  have h := uncolored_bold_append s ""
  rwa [String.append_empty, Text.uncolored_empty, String.append_empty] at h

/-- A text in a color starts apart. -/
theorem startsApart_colored (c : Color) (s : String) : StartsApart (colored c s) :=
  ((isSequence_color c).startsApart.append s).append _

/-- A text in bold starts apart. -/
theorem startsApart_bold (s : String) : StartsApart (bold s) :=
  (StartsApart.append (by decide) s).append _

/-! ## Lines -/

/-- Two lines that say the same apart from color sequences, and go on with none in front of them. -/
structure Alike (l l' : String) : Prop where
  same : uncolored l = uncolored l'
  apart : StartsApart l
  apart' : StartsApart l'

/-- A line that starts apart is like itself. -/
theorem Alike.refl {l : String} (h : StartsApart l) : Alike l l := ⟨rfl, h, h⟩

/-- The word in front of an error says the same with and without colors. -/
theorem uncolored_errorPrefix_append (color : Bool) {t : String} (h : StartsApart t) :
    uncolored (errorPrefix color ++ t) = uncolored "error:" ++ uncolored t := by
  cases color with
  | false => exact uncolored_append "error:" h
  | true => exact (uncolored_bold_append _ t).trans (by rw [uncolored_colored])

/-- The word in front of an error starts apart. -/
theorem startsApart_errorPrefix (color : Bool) : StartsApart (errorPrefix color) := by
  cases color with
  | false => exact (by decide : StartsApart "error:")
  | true => exact startsApart_bold _

namespace Style

variable {st st' : Style}

/-- Errors are alike in any color. -/
theorem alike_errorLine (st st' : Style) (message : String) :
    Alike (st.errorLine message) (st'.errorLine message) := by
  have hline : ∀ st : Style, st.errorLine message = errorPrefix st.color ++ (" " ++ message) :=
    fun st => String.append_assoc
  have hblank : StartsApart (" " ++ message) := StartsApart.append (by decide) _
  rw [hline, hline]
  refine ⟨?_, (startsApart_errorPrefix _).append _, (startsApart_errorPrefix _).append _⟩
  rw [uncolored_errorPrefix_append _ hblank, uncolored_errorPrefix_append _ hblank]

/-- What the line of a warning says, with or without colors. -/
theorem uncolored_humanLine (st : Style) (v : Warning) :
    uncolored (st.humanLine v) =
      uncolored (if v.fatal then "✖" else "▲") ++ (" " ++
        (uncolored (if v.fatal then "⟦fatal⟧" else "⟦warn⟧") ++ (" " ++
          (uncolored (st.place v) ++ uncolored (" — " ++ v.message))))) := by
  have hblank : ∀ t, StartsApart (" " ++ t) := StartsApart.append (by decide)
  have hdash : StartsApart (" — " ++ v.message) := StartsApart.append (by decide) _
  rw [humanLine]
  split
  · simp only [String.append_assoc]
    rw [uncolored_colored_append, Text.uncolored_blank_append, uncolored_bold_append,
      uncolored_colored, Text.uncolored_blank_append, uncolored_bold_append]
  · simp only [String.append_assoc]
    rw [uncolored_append _ (hblank _), Text.uncolored_blank_append, uncolored_append _ (hblank _),
      Text.uncolored_blank_append, uncolored_append _ hdash]

/-- The line of a warning starts apart. -/
theorem startsApart_humanLine (st : Style) (v : Warning) : StartsApart (st.humanLine v) := by
  have hicon : StartsApart (if v.fatal then "✖" else "▲") := by split <;> decide
  rw [humanLine]
  split
  · simp only [String.append_assoc]
    exact (startsApart_colored _ _).append _
  · simp only [String.append_assoc]
    exact hicon.append _

/-- An object as a line starts apart. -/
theorem startsApart_render (ms : List (String × Json)) : StartsApart (Json.object ms).render := by
  rw [StartsApart, Json.render, String.toList_ofList]
  rfl

variable (hmode : st.mode = st'.mode)

include hmode

/-- **The lines of a warning are alike** in any color. -/
theorem alike_warningLine (hdirectory : st.workingDirectory = st'.workingDirectory) (v : Warning) :
    Alike (st.warningLine v) (st'.warningLine v) := by
  have hplace : st.place v = st'.place v := by rw [place, place, hdirectory]
  rw [warningLine, warningLine, ← hmode]
  cases st.mode with
  | human =>
      refine ⟨?_, startsApart_humanLine st v, startsApart_humanLine st' v⟩
      rw [uncolored_humanLine, uncolored_humanLine, hplace]
  | json => exact .refl (startsApart_render _)

/-- The lines of a summary are alike in any color. -/
theorem alike_summaryLine (o : Outcome) : Alike (st.summaryLine o) (st'.summaryLine o) := by
  have happart : StartsApart (humanSummary o) := by
    have hfront : StartsApart "— Summary — inputs=" := by decide +kernel
    unfold humanSummary
    iterate 9 refine StartsApart.append ?_ _
    exact hfront
  have hline : ∀ color : Bool,
      uncolored (if color then bold (humanSummary o) else humanSummary o) =
          uncolored (humanSummary o) ∧
        StartsApart (if color then bold (humanSummary o) else humanSummary o) := by
    intro color
    cases color with
    | false => exact ⟨rfl, happart⟩
    | true => exact ⟨uncolored_bold _, startsApart_bold _⟩
  rw [summaryLine, summaryLine, ← hmode]
  cases st.mode with
  | human => exact ⟨(hline _).1.trans (hline _).1.symm, (hline _).2, (hline _).2⟩
  | json => exact .refl (startsApart_render _)

end Style

/-! ## Streams -/

namespace Writer

/-- Streams that have taken texts that say the same apart from color sequences, both broken or
neither. -/
structure Agree (w w' : Writer) : Prop where
  broken : w.broken = w'.broken
  text : uncolored w.text = uncolored w'.text

variable {w w' : Writer}

/-- Lines that are alike keep streams in agreement. -/
theorem Agree.line (h : Agree w w') {l l' : String} (hl : Alike l l') :
    Agree (w.line l) (w'.line l') := by
  refine ⟨by rw [broken_line, broken_line, h.broken], ?_⟩
  cases hbroken : w.broken with
  | true =>
      rw [line_of_broken w hbroken, line_of_broken w' (h.broken ▸ hbroken)]
      exact h.text
  | false =>
      have hfeed : StartsApart "\n" := by decide
      rw [text_line w hbroken, text_line w' (h.broken ▸ hbroken), ← String.append_assoc,
        ← String.append_assoc, uncolored_append _ hfeed, uncolored_append _ hl.apart,
        uncolored_append _ hfeed, uncolored_append _ hl.apart', h.text, hl.same]

/-- Flushing keeps streams in agreement, since it does not change what they have taken. -/
theorem Agree.flush (h : Agree w w') : Agree w.flush.2 w'.flush.2 :=
  ⟨by rw [broken_flush, broken_flush, h.broken], by rw [text_flush, text_flush, h.text]⟩

/-- So do any number of them. By induction on the lines. -/
theorem Agree.lines {α : Type} (h : Agree w w') {f g : α → String} (hl : ∀ x, Alike (f x) (g x))
    (xs : List α) : Agree (w.lines (xs.map f)) (w'.lines (xs.map g)) := by
  induction xs generalizing w w' with
  | nil => exact h
  | cons x xs ih => exact ih (h.line (hl x))

end Writer

/-! ## Reporters -/

namespace Reporter

/-- Reporters that differ in their colors, and in what these have printed. -/
structure Agree (p q : Reporter) : Prop where
  mode : p.style.mode = q.style.mode
  workingDirectory : p.style.workingDirectory = q.style.workingDirectory
  out : p.out.Agree q.out
  err : p.err.Agree q.err

variable {p q : Reporter}

/-- A reporter agrees with itself in another color. -/
theorem agree_color (p : Reporter) (color : Bool) :
    p.Agree { p with style := { p.style with color } } :=
  ⟨rfl, rfl, ⟨rfl, rfl⟩, ⟨rfl, rfl⟩⟩

/-- An error keeps reporters in agreement. -/
theorem Agree.runFailed (h : p.Agree q) (message : String) :
    (p.runFailed message).Agree (q.runFailed message) :=
  { h with err := h.err.line (Style.alike_errorLine _ _ _) }

/-- The summary keeps reporters in agreement. -/
theorem Agree.finish (h : p.Agree q) (o : Outcome) : (p.finish o).Agree (q.finish o) where
  mode := h.mode
  workingDirectory := h.workingDirectory
  out := (h.out.line (Style.alike_summaryLine h.mode o)).flush
  err := by
    rw [err_finish, err_finish, h.out.broken]
    split
    · exact h.err
    · exact h.err.flush

/-- Warnings and faults keep reporters in agreement. -/
theorem Agree.tell (h : p.Agree q) (ws : List Warning) (xs : List Fault) :
    (p.tell ws xs).Agree (q.tell ws xs) :=
  { h with
    out := h.out.lines (Style.alike_warningLine h.mode h.workingDirectory) ws
    err := h.err.lines (fun x : Fault => p.style.alike_errorLine q.style x.text) xs }

/-- **Each operation keeps reporters in agreement**, and counts the same. -/
theorem Agree.operations (h : p.Agree q) :
    (∀ v o, (p.report v o).1.Agree (q.report v o).1 ∧ (p.report v o).2 = (q.report v o).2) ∧
    (∀ input message o, (p.inputFailed input message o).1.Agree (q.inputFailed input message o).1 ∧
      (p.inputFailed input message o).2 = (q.inputFailed input message o).2) ∧
    (∀ f o, (p.guardFailed f o).1.Agree (q.guardFailed f o).1 ∧
      (p.guardFailed f o).2 = (q.guardFailed f o).2) ∧
    (∀ message, (p.runFailed message).Agree (q.runFailed message)) ∧
    ∀ o, (p.finish o).Agree (q.finish o) :=
  ⟨fun v _ => ⟨h.tell [v] [], rfl⟩,
    fun _ _ _ => ⟨{ h with err := h.err.line (Style.alike_errorLine _ _ _) }, rfl⟩,
    fun f _ => ⟨h.tell [] [.failure f], rfl⟩, h.runFailed, h.finish⟩

end Reporter

/-! ## Runs -/

/-- **A run keeps reporters in agreement.** -/
theorem Run.agree_run (a : Analyzer) (w : Workspace) (o : RunOptions) (inputs : List String)
    (engine : Pattern.Engine) {p q : Reporter} (h : p.Agree q) :
    (run w a o p inputs engine).reporter.Agree (run w a o q inputs engine).reporter := by
  cases hload : Policy.load w o.policy engine with
  | error e =>
      rw [run_of_load_error a w o p inputs e hload, run_of_load_error a w o q inputs e hload]
      exact h.runFailed _
  | ok policy =>
      rw [run_of_load_ok a w o p inputs policy hload, run_of_load_ok a w o q inputs policy hload]
      exact (h.tell _ _).finish _

/-! ## The program -/

namespace Program

/-- Only lines for people are colored. -/
theorem reporter_of_json {e : Effective} (h : e.output = .json) (w : Workspace) (color : Bool) :
    reporter w color e = reporter w false e := by
  rw [reporter, reporter, h]
  cases color <;> rfl

/-- The runs of the program with and without colors. -/
theorem uncolored_run (w : Workspace) (a : Arguments) (inputs : List String)
    (engine : Pattern.Engine) (choices : Nat → Nat) :
    let lit := run w true a inputs engine choices
    let plain := run w false a inputs engine choices
    lit.code = plain.code ∧ uncolored lit.stdout = uncolored plain.stdout ∧
    ∀ file, Settings.find w a.config w.directoryPath = .ok file →
      (Settings.resolve a.settings file).output = .json → lit.stdout = plain.stdout := by
  dsimp only
  rw [run, run]
  cases Settings.find w a.config w.directoryPath with
  | error e => exact ⟨rfl, rfl, fun _ h => nomatch h⟩
  | ok file =>
      have hagree : (reporter w true (Settings.resolve a.settings file)).Agree
          (reporter w false (Settings.resolve a.settings file)) := Reporter.agree_color _ _
      refine ⟨?_, (Run.agree_run _ w _ inputs engine hagree).out.text, ?_⟩
      · dsimp only
        rw [RunResult.exitCode, RunResult.exitCode, Run.result_run_eq]
      · rintro _ ⟨⟩ hjson
        dsimp only
        rw [reporter_of_json hjson]

/-- **Colors only add sequences.** With and without colors the program has the same exit status and
prints the same to the first stream once color sequences are taken out; where the settings ask for
JSON it prints the same as it is. Reporters that differ in their colors only, and in what these have
printed, print and count the same in the same sense with each of their operations. -/
theorem uncolored_start (w : Workspace) (words : List String) (engine : Pattern.Engine)
    (choices : Nat → Nat) :
    let lit := start w true words engine choices
    let plain := start w false words engine choices
    (lit.code = plain.code ∧ uncolored lit.stdout = uncolored plain.stdout ∧
      ∀ a file, Arguments.ofWords words = .ok a →
        Settings.find w a.config w.directoryPath = .ok file →
        (Settings.resolve a.settings file).output = .json → lit.stdout = plain.stdout) ∧
    (∀ (p : Reporter) (color : Bool), p.Agree { p with style := { p.style with color } }) ∧
    ∀ p q : Reporter, p.Agree q →
      (∀ v o, (p.report v o).1.Agree (q.report v o).1 ∧ (p.report v o).2 = (q.report v o).2) ∧
      (∀ input message o,
        (p.inputFailed input message o).1.Agree (q.inputFailed input message o).1 ∧
        (p.inputFailed input message o).2 = (q.inputFailed input message o).2) ∧
      (∀ f o, (p.guardFailed f o).1.Agree (q.guardFailed f o).1 ∧
        (p.guardFailed f o).2 = (q.guardFailed f o).2) ∧
      (∀ message, (p.runFailed message).Agree (q.runFailed message)) ∧
      ∀ o, (p.finish o).Agree (q.finish o) := by
  refine ⟨?_, Reporter.agree_color, fun p q h => h.operations⟩
  rw [start, start]
  cases Arguments.ofWords words with
  | error stop => exact ⟨rfl, rfl, fun _ _ h => nomatch h⟩
  | ok a =>
      dsimp only
      cases a.checkedInputs with
      | error e => exact ⟨rfl, rfl, fun _ _ _ _ _ => rfl⟩
      | ok inputs =>
          obtain ⟨hcode, hstdout, hjson⟩ := uncolored_run w a inputs engine choices
          refine ⟨hcode, hstdout, ?_⟩
          rintro _ file ⟨⟩
          exact hjson file

/-- The page whose script is missing is told with and without colors: in JSON the same, and for
people the same but for color sequences. Two reporters tell one failure in the same sense. -/
theorem uncolored_brokenPage :
    let page := Run.brokenPage
    let a : Arguments := { settings := { output := some "json" }, paths := ["p.html"] }
    let f : Failure := ⟨"worker", "\x1b[31m"⟩
    Arguments.ofWords ["--output=json", "p.html"] = .ok a ∧
    Settings.find page a.config page.directoryPath = .ok none ∧
    (Settings.resolve a.settings none).output = .json ∧
    (start page true ["--output=json", "p.html"]).stdout =
      (start page false ["--output=json", "p.html"]).stdout ∧
    (start page true ["p.html"]).stdout ≠ (start page false ["p.html"]).stdout ∧
    uncolored (start page true ["p.html"]).stdout =
      uncolored (start page false ["p.html"]).stdout ∧
    (Reporter.guardFailed { style := { color := true } } f {}).1.Agree
      (Reporter.guardFailed {} f {}).1 := by
  intro page a f
  have hwords : Arguments.ofWords ["--output=json", "p.html"] = .ok a := by decide +kernel
  have hfind : Settings.find page a.config page.directoryPath = .ok none := by decide +kernel
  have hjson : (Settings.resolve a.settings none).output = .json := by decide +kernel
  have hdiffer : (start page true ["p.html"]).stdout ≠ (start page false ["p.html"]).stdout := by
    decide +kernel
  obtain ⟨⟨-, -, hstdout⟩, hcolor, hoperations⟩ :=
    uncolored_start page ["--output=json", "p.html"] Pattern.engine fun _ => 0
  obtain ⟨⟨-, hpeople, -⟩, -⟩ := uncolored_start page ["p.html"] Pattern.engine fun _ => 0
  have hagree : Reporter.Agree { style := { color := true } } {} :=
    hcolor { style := { color := true } } false
  exact ⟨hwords, hfind, hjson, hstdout a none hwords hfind hjson, hdiffer, hpeople,
    ((hoperations _ _ hagree).2.2.1 f {}).1⟩

end Program

end PolicyLint
