/-
# The reporter

The reporter prints warnings, failures and the summary of a run, and joins what it prints into the
outcome. Warnings and the summary go to the first stream, as lines for people or as JSON lines; all
failures go to the second, as lines for people. A stream may hold text back until it is flushed. One
that cannot be written to loses its text and nothing else.

* `Writer.write`, `Writer.flush` : what a stream takes, and whether it does;
* `Reporter.report`, `Reporter.inputFailed`, `Reporter.guardFailed` : print and join;
* `Reporter.runFailed` : prints only;
* `Reporter.finish` : prints the summary and flushes the streams.
-/
import PolicyLint.Outcome
import PolicyLint.Failure
import PolicyLint.Path.Basic

namespace PolicyLint

/-! ## Output modes and colors -/

/-- The form of warnings and summary. -/
inductive OutputMode where
  | human
  | json
deriving DecidableEq, Repr

/-- The mode with a given name, in any case and with blanks around it. -/
def OutputMode.ofName? (name : String) : Option OutputMode :=
  match (Text.trim name).toLower with
  | "human" => some .human
  | "json" => some .json
  | _ => none

/-- The name of a mode. -/
def OutputMode.name : OutputMode → String
  | .human => "human"
  | .json => "json"

/-- A terminal color. -/
inductive Color where
  | red
  | yellow
  | cyan
deriving DecidableEq, Repr

/-- The number that switches a color on. -/
def Color.code : Color → String
  | .red => "31"
  | .yellow => "33"
  | .cyan => "36"

/-- A text in a color. -/
def colored (c : Color) (s : String) : String := "\x1b[" ++ c.code ++ "m" ++ s ++ "\x1b[39m"

/-- A text in bold. -/
def bold (s : String) : String := "\x1b[1m" ++ s ++ "\x1b[0m"

/-- The word in front of an error. -/
def errorPrefix (color : Bool) : String :=
  if color then bold (colored .red "error:") else "error:"

/-- The word in front of a note. -/
def notePrefix (color : Bool) : String :=
  if color then bold (colored .cyan "note:") else "note:"

/-! ## Streams -/

/-- A stream: the text that it has passed on, the text that it holds back, how many bytes it may hold
back, and whether it is broken. With a broken stream every write and every flush fails. -/
structure Writer where
  passed : String := ""
  held : String := ""
  room : Nat := 0
  broken : Bool := false
deriving DecidableEq, Repr

namespace Writer

/-- The text that a stream has taken so far. -/
def text (w : Writer) : String := w.passed ++ w.held

/-- Passes on what is held back: whether that succeeds, and the stream after it. -/
def flush (w : Writer) : Bool × Writer :=
  if w.broken then (false, w) else (true, { w with passed := w.text, held := "" })

/-- Writes a text: whether that succeeds, and the stream after it. The text is held back as long as
there is room. -/
def write (w : Writer) (s : String) : Bool × Writer :=
  if w.broken then (false, w)
  else
    let w := { w with held := w.held ++ s }
    if w.held.utf8ByteSize ≤ w.room then (true, w) else w.flush

/-- Writes one line. If that fails the line is lost, and nothing else follows from it. -/
def line (w : Writer) (s : String) : Writer := (w.write (s ++ "\n")).2

end Writer

/-! ## Lines -/

/-- How lines look: their form, whether they are colored, and where file names are seen from. -/
structure Style where
  mode : OutputMode := .human
  color : Bool := false
  workingDirectory : String := "/"
deriving DecidableEq, Repr

namespace Style

/-- The position of a warning in front of its message. -/
def place (st : Style) (w : Warning) : String :=
  Path.display st.workingDirectory w.filename ++ ":" ++ toString w.position.line ++ ":"
    ++ toString w.position.column

/-- A warning as a line for people. -/
def humanLine (st : Style) (w : Warning) : String :=
  let icon := if w.fatal then "✖" else "▲"
  let word := if w.fatal then "⟦fatal⟧" else "⟦warn⟧"
  let color := if w.fatal then Color.red else Color.yellow
  if st.color then
    colored color icon ++ " " ++ bold (colored color word) ++ " " ++ bold (st.place w) ++ " — "
      ++ w.message
  else icon ++ " " ++ word ++ " " ++ st.place w ++ " — " ++ w.message

/-- A warning as a line. -/
def warningLine (st : Style) (w : Warning) : String :=
  match st.mode with
  | .human => st.humanLine w
  | .json => w.jsonLine

/-- The summary of a run as a line for people. -/
def humanSummary (o : Outcome) : String :=
  "— Summary — inputs=" ++ toString o.inputs ++ " failed=" ++ toString o.failedInputs
    ++ " warnings=" ++ toString o.warnings ++ " fatal=" ++ toString o.fatalWarnings
    ++ " unhandled=" ++ toString o.guardFailures

/-- The summary of a run as a line. -/
def summaryLine (st : Style) (o : Outcome) : String :=
  match st.mode with
  | .human => if st.color then bold (humanSummary o) else humanSummary o
  | .json => (Json.object [("summary", o.toJson)]).render

/-- An error as a line. -/
def errorLine (st : Style) (message : String) : String :=
  errorPrefix st.color ++ " " ++ message

/-- The failure of an input as a line. -/
def inputLine (st : Style) (input message : String) : String :=
  st.errorLine (input ++ ": " ++ message)

/-- A failure that reached the guard as a line. -/
def failureLine (st : Style) (f : Failure) : String :=
  st.errorLine ("unhandled failure in " ++ f.origin ++ ": " ++ f.message)

end Style

/-! ## The reporter -/

/-- The style of the lines and the two streams. -/
structure Reporter where
  style : Style := {}
  out : Writer := {}
  err : Writer := {}
deriving DecidableEq, Repr

namespace Reporter

/-- Prints a warning. -/
def report (r : Reporter) (w : Warning) (o : Outcome) : Reporter × Outcome :=
  ({ r with out := r.out.line (r.style.warningLine w) }, o.join (.ofWarning w))

/-- Prints warnings in their order. -/
def reportAll (r : Reporter) (ws : List Warning) (o : Outcome) : Reporter × Outcome :=
  ws.foldl (fun (r, o) w => r.report w o) (r, o)

/-- Prints that an input failed. -/
def inputFailed (r : Reporter) (input message : String) (o : Outcome) : Reporter × Outcome :=
  ({ r with err := r.err.line (r.style.inputLine input message) }, o.join .failedInput)

/-- Prints a failure that reached the guard. -/
def guardFailed (r : Reporter) (f : Failure) (o : Outcome) : Reporter × Outcome :=
  ({ r with err := r.err.line (r.style.failureLine f) }, o.join .guardFailure)

/-- Prints failures that reached the guard, in their order. -/
def guardFailedAll (r : Reporter) (fs : List Failure) (o : Outcome) : Reporter × Outcome :=
  fs.foldl (fun (r, o) f => r.guardFailed f o) (r, o)

/-- Prints an error that ends the run. -/
def runFailed (r : Reporter) (message : String) : Reporter :=
  { r with err := r.err.line (r.style.errorLine message) }

/-- Prints the summary and flushes the streams, the second one only if the first could be. -/
def finish (r : Reporter) (o : Outcome) : Reporter :=
  let (flushed, out) := (r.out.line (r.style.summaryLine o)).flush
  { r with out, err := if flushed then r.err.flush.2 else r.err }

end Reporter

end PolicyLint
