/-
# Runs told to people

A line for people holds the name of a file and a message as they are. So a line feed in one of them
breaks the line in two: the output of a run has one line for each warning, one for the summary, and
one more for each such line feed. Nothing else breaks a line; and a line feed in a warning comes
from where the input lies, from the names of files below it, from the rules, or from a reference.

* `Path.not_mem_display` : a path is shown by its own characters;
* `Text.feeds`, `Style.feeds_humanLine` : the line feeds in the line of a warning;
* `Scan.IsPlain` : inputs where nothing that may be told has a line feed;
* `Run.human_lines` : the lines of a run;
* `Run.human_lines_forged` : a reference that looks like another line.
-/
import PolicyLint.Proofs.Run.Blocks
import PolicyLint.Proofs.Run.JsonLines
import PolicyLint.Proofs.Path.Display
import PolicyLint.Proofs.Scan.Order
import PolicyLint.Proofs.Scan.Targets

/-- What stands in texts with something between them stands in one of them or in between. -/
theorem List.cases_of_mem_intercalate {α : Type} {x : α} {between : List α} {parts : List (List α)}
    (h : x ∈ between.intercalate parts) : x ∈ between ∨ ∃ part ∈ parts, x ∈ part := by
  induction parts with
  | nil => cases h
  | cons part parts ih =>
      cases parts with
      | nil =>
          rw [List.intercalate, List.intersperse_singleton, List.flatten_singleton] at h
          exact .inr ⟨part, List.mem_cons_self, h⟩
      | cons next parts =>
          rw [List.intercalate, List.intersperse_cons_cons, List.flatten_cons, List.flatten_cons,
            List.mem_append, List.mem_append] at h
          rcases h with h | h | h
          · exact .inr ⟨part, List.mem_cons_self, h⟩
          · exact .inl h
          · exact (ih h).imp_right fun ⟨p, hp, hx⟩ => ⟨p, List.mem_cons_of_mem part hp, hx⟩

namespace PolicyLint

/-! ## Shown names -/

namespace Path

/-- A step is written with characters of the path, or with dots and slashes. -/
theorem not_mem_of_mem_components {c : Char} {path : String} {s : Component} (hdot : c ≠ '.')
    (hslash : c ≠ '/') (hc : c ∉ path.toList) (hs : s ∈ components path) : c ∉ s.text.toList := by
  rw [components_eq, List.mem_append] at hs
  rcases hs with hs | hs
  · rw [lead] at hs
    split at hs
    · rw [List.mem_singleton.mp hs]
      exact fun hroot => hslash (List.mem_singleton.mp hroot)
    · split at hs
      · rw [List.mem_singleton.mp hs]
        exact fun hcurrent => hdot (List.mem_singleton.mp hcurrent)
      · cases hs
  · obtain ⟨piece, hpiece, hstep⟩ := List.mem_filterMap.mp hs
    rw [step?] at hstep
    split at hstep
    · cases hstep
    · split at hstep
      · cases hstep
        simpa [Component.text] using hdot
      · cases hstep
        rw [Component.text, String.toList_ofList]
        exact fun hmem => hc (Text.mem_of_mem_splitAt hpiece hmem)

/-- **A path is shown by its own characters**, and by dots and slashes. -/
theorem not_mem_display {c : Char} {path : String} (hdot : c ≠ '.') (hslash : c ≠ '/')
    (hc : c ∉ path.toList) (workingDirectory : String) :
    c ∉ (display workingDirectory path).toList := by
  by_cases hbelow : isAbsolute workingDirectory = true ∧ isAbsolute path = true ∧
      ∃ ss, LeadsOn workingDirectory path ss
  · obtain ⟨hdirectory, hpath, ss, h⟩ := hbelow
    rw [display_eq_intercalate hdirectory hpath h, String.toList_intercalate]
    intro hmem
    rcases List.cases_of_mem_intercalate hmem with hmem | ⟨part, hpart, hmem⟩
    · exact hslash (List.mem_singleton.mp hmem)
    · obtain ⟨text, htext, rfl⟩ := List.mem_map.mp hpart
      obtain ⟨s, hs, rfl⟩ := List.mem_map.mp htext
      have hsteps : s ∈ components path := by
        rw [h.1]
        exact List.mem_append_right _ hs
      exact not_mem_of_mem_components hdot hslash hc hsteps hmem
  · rw [display_eq_self fun hdirectory hpath ss h => hbelow ⟨hdirectory, hpath, ss, h⟩]
    exact hc

end Path

/-! ## Line feeds -/

namespace Text

/-- The number of line feeds in a text. -/
def feeds (s : String) : Nat := s.toList.count '\n'

theorem feeds_eq_zero_iff {s : String} : feeds s = 0 ↔ '\n' ∉ s.toList := List.count_eq_zero

@[simp] theorem feeds_append (s t : String) : feeds (s ++ t) = feeds s + feeds t := by
  rw [feeds, String.toList_append, List.count_append]
  rfl

/-- A number is written on one line. -/
@[simp] theorem feeds_repr (n : Nat) : feeds n.repr = 0 := by
  rw [feeds_eq_zero_iff, ← Nat.toString_eq_repr, Json.toList_toString]
  intro h
  exact absurd (Json.isDigit_toDigits _ h) (by decide)

/-- The line feeds of a text of lines: one behind each line, and those that stand in one. -/
theorem feeds_ofLines (ls : List String) : feeds (ofLines ls) = ls.length + (ls.map feeds).sum := by
  induction ls with
  | nil => rfl
  | cons l ls ih =>
      have hfeed : feeds "\n" = 1 := rfl
      rw [ofLines, feeds_append, feeds_append, hfeed, ih, List.length_cons, List.map_cons,
        List.sum_cons]
      omega

end Text

open Text (feeds feeds_append)

/-- Colors put no line feeds around a text. -/
@[simp] theorem feeds_colored (c : Color) (s : String) : feeds (colored c s) = feeds s := by
  have hfront : feeds ("\x1b[" ++ c.code ++ "m") = 0 := by cases c <;> rfl
  have hback : feeds "\x1b[39m" = 0 := rfl
  rw [colored, feeds_append, feeds_append, hfront, hback, Nat.add_zero, Nat.zero_add]

@[simp] theorem feeds_bold (s : String) : feeds (bold s) = feeds s := by
  have hfront : feeds "\x1b[1m" = 0 := rfl
  have hback : feeds "\x1b[0m" = 0 := rfl
  rw [bold, feeds_append, feeds_append, hfront, hback, Nat.add_zero, Nat.zero_add]

namespace Style

/-- The line feeds in what is shown of a warning: in the name of its file and in its message. -/
def shownFeeds (st : Style) (v : Warning) : Nat :=
  feeds (Path.display st.workingDirectory v.filename) + feeds v.message

/-- There are none if neither the name that is shown nor the message has one. -/
theorem shownFeeds_eq_zero_iff {st : Style} {v : Warning} :
    st.shownFeeds v = 0 ↔
      '\n' ∉ (Path.display st.workingDirectory v.filename).toList ∧ '\n' ∉ v.message.toList := by
  rw [shownFeeds, Nat.add_eq_zero_iff, Text.feeds_eq_zero_iff, Text.feeds_eq_zero_iff]

/-- **The line of a warning has no other line feeds**, with or without colors. -/
theorem feeds_humanLine (st : Style) (v : Warning) :
    feeds (st.humanLine v) = st.shownFeeds v := by
  have hicon : feeds (if v.fatal then "✖" else "▲") = 0 := by split <;> rfl
  have hword : feeds (if v.fatal then "⟦fatal⟧" else "⟦warn⟧") = 0 := by split <;> rfl
  have hblank : feeds " " = 0 := rfl
  have hdash : feeds " — " = 0 := rfl
  have hcolon : feeds ":" = 0 := rfl
  rw [humanLine, shownFeeds]
  split <;> simp [place, hicon, hword, hblank, hdash, hcolon]

/-- The lines of what is told to people: one for each warning, and the summary. -/
def humanLines (st : Style) (ws : List Warning) (o : Outcome) : List String :=
  ws.map st.humanLine ++ [st.summaryLine o]

/-- The summary is one line. -/
theorem feeds_summaryLine {st : Style} (hmode : st.mode = .human) (o : Outcome) :
    feeds (st.summaryLine o) = 0 := by
  have hsummary : feeds (humanSummary o) = 0 := by
    unfold humanSummary
    simp only [feeds_append, Nat.toString_eq_repr, Text.feeds_repr]
    rfl
  rw [summaryLine, hmode]
  dsimp only
  split
  · rw [feeds_bold, hsummary]
  · exact hsummary

end Style

/-! ## Where line feeds come from -/

/-- The value of a hit is one of the rule. -/
theorem Rule.value_mem_of_mem_hits {r : Rule} {text : List Char} {h : Hit} (hh : h ∈ r.hits text) :
    h.value ∈ r.matchers.map Prod.fst := by
  rw [hits, List.mem_mergeSort, List.mem_flatMap] at hh
  obtain ⟨⟨value, m⟩, hmatcher, hh⟩ := hh
  obtain ⟨s, -, rfl⟩ := List.mem_map.mp hh
  exact List.mem_map.mpr ⟨_, hmatcher, rfl⟩

namespace Scan

/-- Whether no line feed stands where an input lies, in a name of a source below it, in what a rule
says about one of its values, or in a reference of a page that is read. -/
structure IsPlain (w : Workspace) (c : Config) (input : String) : Prop where
  path : '\n' ∉ (c.resolve input).toList
  names : ∀ tree, w.find (c.resolve input) = .ok tree →
    ∀ names ∈ sourceNames tree, ∀ n ∈ names, '\n' ∉ n.toList
  rules : ∀ policy, c.policy = some policy → ∀ r ∈ policy.rules,
    ∀ value ∈ r.matchers.map Prod.fst, '\n' ∉ (r.messageFor value).toList
  references : ∀ file ∈ targetsOf w c (c.resolve input), isPage file = true →
    ∀ text, w.read file = .ok text → ∀ s ∈ Html.imports text.toList, '\n' ∉ s.text

namespace IsPlain

variable {w : Workspace} {c : Config} {input file : String}

/-- No target has a line feed in its name. -/
theorem not_mem_file (h : IsPlain w c input) (hfile : file ∈ targetsOf w c (c.resolve input)) :
    '\n' ∉ file.toList := by
  rw [targetsOf] at hfile
  split at hfile
  · rename_i hdirectory
    obtain ⟨hsource, -, hisFile⟩ := mem_sources_of_mem_targets hfile
    obtain ⟨tree, hfind, -⟩ := Workspace.exists_find_of_isDirectory hdirectory
    obtain ⟨names, hbelow, -, hends, content, hat⟩ := exists_names_of_isFile hfind hsource hisFile
    exact mem_of_pathBelow? (by decide) (by decide) h.path
      (h.names tree hfind names (mem_sourceNames hat hends)) hbelow
  · rw [List.mem_singleton.mp hfile]
    exact h.path

/-- **No warning has a line feed**, neither in the name of its file nor in its message. -/
theorem not_mem_warning (h : IsPlain w c input) {ws : List Warning} {v : Warning}
    (hscan : Scan.input w c input = .ok ws) (hv : v ∈ ws) :
    '\n' ∉ v.filename.toList ∧ '\n' ∉ v.message.toList := by
  obtain ⟨file, hfile, text, hread, o, ho, rfl⟩ := exists_origin_of_mem w c hscan hv
  have hname := h.not_mem_file hfile
  cases o with
  | hit i r n hit =>
      obtain ⟨⟨policy, hpolicy, hr⟩, -, -, hhit⟩ := ho
      exact ⟨hname, h.rules policy hpolicy r (List.mem_of_getElem? hr) hit.value
        (Rule.value_mem_of_mem_hits (List.mem_of_getElem? hhit))⟩
  | reference n s =>
      obtain ⟨hpage, hs, -⟩ := ho
      have hreference := h.references file hfile ((isPage_iff file).mpr hpage) text hread s
        (List.mem_of_getElem? hs)
      refine ⟨hname, ?_⟩
      show '\n' ∉ ("Unable to resolve import: " ++ String.ofList s.text).toList
      rw [String.toList_append, String.toList_ofList (l := s.text), List.mem_append, not_or]
      exact ⟨by decide, hreference⟩

/-- So none of those that are told has one in what is shown of it. -/
theorem not_mem_shown (h : IsPlain w c input) {v : Warning}
    (hv : v ∈ (Ending.ofScan (Scan.input w c input)).found) (workingDirectory : String) :
    '\n' ∉ (Path.display workingDirectory v.filename).toList ∧ '\n' ∉ v.message.toList := by
  cases hscan : Scan.input w c input with
  | error e =>
      rw [hscan] at hv
      cases hv
  | ok ws =>
      rw [hscan] at hv
      obtain ⟨hname, hmessage⟩ := h.not_mem_warning hscan hv
      exact ⟨Path.not_mem_display (by decide) (by decide) hname _, hmessage⟩

end IsPlain

end Scan

/-! ## Runs -/

namespace Run

/-- The warnings of a run over files are those of the scans of its inputs. -/
theorem warnings_filesTrace (w : Workspace) (c : Config) (choices : Nat → Nat) (n : Nat)
    (inputs : List String) :
    (filesTrace w c choices n inputs).warnings =
      inputs.flatMap fun input => (Ending.ofScan (Scan.input w c input)).found := by
  induction inputs generalizing n with
  | nil => rfl
  | cons input inputs ih =>
      rw [filesTrace, Trace.ofScans, Scan.results, List.zipIdx_cons, List.map_cons, List.map_cons,
        Trace.warnings_cons, found_ofScan, List.flatMap_cons]
      exact congrArg _ (ih (n + 1))

/-- A run told to people shows the line of each warning and then the summary. -/
theorem shows_human {w : Workspace} {o : RunOptions} {st : Style} {policy : Option Policy}
    {engine : Pattern.Engine} (hmode : st.mode = .human)
    (hload : Policy.load w o.policy engine = .ok policy) (choices : Nat → Nat)
    (inputs : List String) :
    let t := filesTrace w (configOf o policy) choices 0 inputs
    let r := run w (.ofFiles w choices) o { style := st } inputs engine
    r.result = .ok t.outcome ∧
      r.reporter.out.text = Text.ofLines (st.humanLines t.warnings t.outcome) := by
  intro t r
  have hr : r = _ :=
    run_of_load_ok (.ofFiles w choices) w o { style := st } inputs policy hload
  have htrace : (Analyzer.ofFiles w choices).trace (configOf o policy) inputs = t :=
    Analyzer.trace_ofFiles w choices (configOf o policy) inputs
  have hlines : st.warningLine = st.humanLine := by
    funext v
    rw [Style.warningLine, hmode]
  rw [htrace] at hr
  rw [hr]
  refine ⟨rfl, ?_⟩
  rw [Style.humanLines, ← hlines]
  exact Reporter.text_out_tell st t.warnings t.faults t.outcome

/-- The line feeds of what is told: one behind each line, and those that are shown. -/
theorem feeds_ofLines_humanLines {st : Style} (hmode : st.mode = .human) (ws : List Warning)
    (o : Outcome) :
    feeds (Text.ofLines (st.humanLines ws o)) = ws.length + 1 + (ws.map st.shownFeeds).sum := by
  have hshown : feeds ∘ st.humanLine = st.shownFeeds := funext st.feeds_humanLine
  rw [Text.feeds_ofLines, Style.humanLines, List.map_append, List.map_map, hshown, List.map_singleton,
    Style.feeds_summaryLine hmode, List.sum_append, List.length_append, List.length_map]
  rfl

/-- Cut at line feeds, what is told gives back its lines, if nothing that is shown has one. -/
theorem splitAt_ofLines_humanLines {st : Style} (hmode : st.mode = .human) {ws : List Warning}
    (h : ∀ v ∈ ws, st.shownFeeds v = 0) (o : Outcome) :
    Text.splitAt '\n' (Text.ofLines (st.humanLines ws o)).toList =
      ws.map (fun v => (st.humanLine v).toList) ++ [(st.summaryLine o).toList, []] := by
  have hplain : ∀ l ∈ st.humanLines ws o, '\n' ∉ l.toList := by
    intro l hl
    rw [← Text.feeds_eq_zero_iff]
    rcases List.mem_append.mp hl with hl | hl
    · obtain ⟨v, hv, rfl⟩ := List.mem_map.mp hl
      rw [st.feeds_humanLine, h v hv]
    · rw [List.mem_singleton.mp hl]
      exact Style.feeds_summaryLine hmode o
  rw [Text.splitAt_ofLines hplain, Style.humanLines, List.map_append, List.map_map,
    List.append_assoc]
  rfl

/-- **The lines of a run told to people.** When the policy loads, the output of a run over files has
one line feed for each warning and one for the summary, and besides exactly those that stand in the
shown names and in the messages of the warnings. So there are no others exactly if no name and no
message has one. Then cutting the output at line feeds gives back the line of each warning, in
order, and the summary. That is so for inputs where no line feed can get into a name or a
message. -/
theorem human_lines (w : Workspace) (o : RunOptions) (st : Style) (policy : Option Policy)
    (engine : Pattern.Engine) (choices : Nat → Nat) (inputs : List String)
    (hmode : st.mode = .human) (hload : Policy.load w o.policy engine = .ok policy) :
    let c : Config := ⟨Root.normalize o.root, policy, o.dependencies⟩
    let reported := inputs.flatMap fun input => (Ending.ofScan (Scan.input w c input)).found
    let r := run w (.ofFiles w choices) o { style := st } inputs engine
    let out := r.reporter.out.text
    let onOneLine (v : Warning) : Prop :=
      '\n' ∉ (Path.display st.workingDirectory v.filename).toList ∧ '\n' ∉ v.message.toList
    ∃ outcome, r.result = .ok outcome ∧ outcome.warnings = reported.length ∧
      feeds out = outcome.warnings + 1 + (reported.map st.shownFeeds).sum ∧
      (feeds out = outcome.warnings + 1 ↔ ∀ v ∈ reported, onOneLine v) ∧
      ((∀ v ∈ reported, onOneLine v) →
        Text.splitAt '\n' out.toList =
          reported.map (fun v => (st.humanLine v).toList) ++
            [(st.summaryLine outcome).toList, []]) ∧
      ((∀ input ∈ inputs, Scan.IsPlain w c input) → ∀ v ∈ reported, onOneLine v) := by
  intro c reported r out onOneLine
  let t := filesTrace w c choices 0 inputs
  have hreported : t.warnings = reported := warnings_filesTrace w c choices 0 inputs
  obtain ⟨hresult, hout⟩ : _ ∧ out = Text.ofLines (st.humanLines t.warnings t.outcome) :=
    shows_human hmode hload choices inputs
  rw [hreported] at hout
  have hwarnings : t.outcome.warnings = reported.length := by
    rw [← hreported]
    rfl
  have hfeeds : feeds out = reported.length + 1 + (reported.map st.shownFeeds).sum := by
    rw [hout]
    exact feeds_ofLines_humanLines hmode reported _
  have hnone : (reported.map st.shownFeeds).sum = 0 ↔ ∀ v ∈ reported, onOneLine v := by
    rw [List.sum_eq_zero_iff_forall_eq_nat, List.forall_mem_map]
    exact forall₂_congr fun v _ => Style.shownFeeds_eq_zero_iff
  refine ⟨t.outcome, hresult, hwarnings, ?_, ?_, ?_, ?_⟩
  · rw [hfeeds, hwarnings]
  · rw [← hnone, hfeeds, hwarnings]
    omega
  · intro hall
    rw [hout]
    exact splitAt_ofLines_humanLines hmode
      (fun v hv => Style.shownFeeds_eq_zero_iff.mpr (hall v hv)) _
  · intro hall v hv
    obtain ⟨input, hinput, hfound⟩ := List.mem_flatMap.mp hv
    exact (hall input hinput).not_mem_shown hfound _

/-- A run over the page whose script is missing shows one warning in color, and nothing that it
tells has a line feed. -/
theorem human_lines_brokenPage :
    let st : Style := { color := true }
    let r := run brokenPage (.ofFiles brokenPage) {} { style := st } ["p.html"]
    let v : Warning := ⟨"p.html", ⟨1, 14⟩, "Unable to resolve import: q.js", true⟩
    st.mode = .human ∧ Policy.load brokenPage none = .ok none ∧
    (∀ input ∈ ["p.html"], Scan.IsPlain brokenPage {} input) ∧
    ∃ outcome, r.result = .ok outcome ∧ outcome.warnings = 1 ∧
      feeds r.reporter.out.text = 2 ∧
      Text.splitAt '\n' r.reporter.out.text.toList =
        [(st.humanLine v).toList, (st.summaryLine outcome).toList, []] := by
  intro st r v
  have hread : brokenPage.read "p.html" = .ok "<script src='q.js'></script>" := by decide +kernel
  have hscan : Scan.input brokenPage {} "p.html" = .ok [v] := by decide +kernel
  have hplain : ∀ input ∈ ["p.html"], Scan.IsPlain brokenPage {} input := by
    intro input hinput
    rw [List.mem_singleton.mp hinput]
    refine ⟨by decide, ?_, by rintro _ ⟨⟩, ?_⟩
    · rintro _ ⟨⟩
      decide +kernel
    · intro file hfile _ text htext
      have htargets : Scan.targetsOf brokenPage {} (Config.resolve {} "p.html") = ["p.html"] := by
        decide +kernel
      rw [htargets, List.mem_singleton] at hfile
      rw [hfile, hread] at htext
      cases htext
      decide +kernel
  obtain ⟨outcome, hresult, hwarnings, -, hfeeds, hlines, hsources⟩ :=
    human_lines brokenPage {} st none Pattern.engine (fun _ => 0) ["p.html"] rfl rfl
  have hreported : (["p.html"].flatMap fun input =>
      (Ending.ofScan (Scan.input brokenPage {} input)).found) = [v] := by
    rw [List.flatMap_singleton, hscan]
    rfl
  have hall := hsources hplain
  refine ⟨rfl, rfl, hplain, outcome, hresult, ?_, ?_, ?_⟩
  · exact hwarnings.trans (congrArg List.length hreported)
  · exact (hfeeds.mpr hall).trans
      (congrArg (· + 1) (hwarnings.trans (congrArg List.length hreported)))
  · exact (hlines hall).trans (by rw [show Root.normalize none = "" from rfl, hreported]; rfl)

/-- A page with a reference that goes on with what looks like a warning about another page. -/
def forgedPage : Workspace :=
  ⟨.directory [("p.html", .file (some "<script src='q.js\n✖ ⟦fatal⟧ z.html:1:1 — no'></script>"))],
    []⟩

/-- What the reference says on its second line looks like a warning. -/
def forgedWarning : Warning :=
  ⟨"p.html", ⟨1, 14⟩, "Unable to resolve import: q.js\n✖ ⟦fatal⟧ z.html:1:1 — no", true⟩

/-- **A reference can look like another line**: there is one warning, and three lines are told. -/
theorem human_lines_forged :
    let r := run forgedPage (.ofFiles forgedPage) {} {} ["p.html"]
    Scan.input forgedPage {} "p.html" = .ok [forgedWarning] ∧
    r.result = .ok { fatal := true, inputs := 1, warnings := 1, fatalWarnings := 1 } ∧
    feeds r.reporter.out.text = 3 := by
  intro r
  have hscan : Scan.input forgedPage {} "p.html" = .ok [forgedWarning] := by decide +kernel
  let t := filesTrace forgedPage {} (fun _ => 0) 0 ["p.html"]
  obtain ⟨hresult, hout⟩ : r.result = .ok t.outcome ∧ r.reporter.out.text = _ :=
    shows_human rfl rfl (fun _ => 0) ["p.html"]
  have hwarnings : t.warnings = [forgedWarning] := by
    rw [warnings_filesTrace, List.flatMap_singleton, hscan]
    rfl
  refine ⟨hscan, ?_, ?_⟩
  · rw [hresult, outcome_filesTrace, joinedOutcome, List.map_singleton, List.foldr_cons,
      List.foldr_nil, inputOutcome_eq _ _ _ 0, hscan]
    rfl
  · rw [hout, feeds_ofLines_humanLines rfl]
    show _ = 1 + 1 + 1
    have hshown : Style.shownFeeds {} forgedWarning = 1 := rfl
    rw [show (filesTrace forgedPage (configOf {} none) (fun _ => 0) 0 ["p.html"]).warnings = _
        from hwarnings,
      List.map_singleton, List.sum_singleton, hshown]
    rfl

end Run

end PolicyLint
