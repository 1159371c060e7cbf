/-
# Scanning with cuts

Scanning cuts texts at offsets: it replaces comments one by one, and it reads positions off from the
text in front of an offset. Where an offset is no place there is no cut, and then there is no
result. This never happens: every comment stands between places of the copy in which it is replaced,
and every hit and every reference at a place of the text, although references are found in the copy.

* `Scan.scan?` : what lies at a path, scanned with cuts;
* `Scan.scan?_eq` : it is scanned without fail, and as ever.
-/
import PolicyLint.Proofs.Html.Blanking
import PolicyLint.Proofs.Html.Places
import PolicyLint.Proofs.Policy.Hits
import PolicyLint.Proofs.Scan.Input

namespace PolicyLint

/-- The references of a text, read from the copy in which its comments are blanked one by one. -/
def Html.imports? (text : List Char) : Option (List Span) := do
  let masked ← blankComments? text
  return (linkImports masked ++ scriptImports masked).mergeSort fun a b => a.offset ≤ b.offset

/-- The references of a text are read. -/
theorem Html.imports?_eq (text : List Char) : imports? text = some (imports text) := by
  rw [imports?, blankComments?_eq]
  rfl

namespace Scan

variable (w : Workspace) (c : Config) (file : String) (text : List Char)

/-! ## Findings -/

/-- A finding at an offset in the text of a file, with its position read off. -/
def Finding.at? (offset : Nat) (message : String) (fatal : Bool) : Option Finding := do
  let position ← Position.ofCut? text offset
  return ⟨offset, ⟨file, position, message, fatal⟩⟩

/-- At a place there is a finding. -/
theorem Finding.at?_eq {offset : Nat} (h : Text.IsPlace text offset) (message : String)
    (fatal : Bool) :
    Finding.at? file text offset message fatal = some (.at file text offset message fatal) := by
  rw [Finding.at?, Position.ofCut?_eq_some h]
  rfl

/-- The findings of the policy. -/
def policyFindings? : Option (List Finding) := do
  let found ← (((c.policy.map Policy.rules).getD []).filter (applies c file)).mapM fun r =>
    (r.hits text).mapM fun h => Finding.at? file text h.offset (r.messageFor h.value) r.fatal
  return found.flatten

theorem policyFindings?_eq : policyFindings? c file text = some (policyFindings c file text) := by
  have hrule : ∀ r : Rule,
      ((r.hits text).mapM fun h => Finding.at? file text h.offset (r.messageFor h.value) r.fatal) =
        some ((r.hits text).map fun h =>
          .at file text h.offset (r.messageFor h.value) r.fatal) := by
    intro r
    apply List.mapM_eq_some_map
    intro h hh
    exact Finding.at?_eq file text (Rule.isPlace_of_mem_hits hh) _ _
  rw [policyFindings?, List.mapM_eq_some_map fun r _ => hrule r]
  rfl

/-- The findings among the references of a page. -/
def importFindings? : Option (List Finding) :=
  if isPage file then do
    let references ← Html.imports? text
    let directory := (Path.parent? file).getD ""
    (references.filter fun s => !Reference.resolves w c directory s.text).mapM fun s =>
      Finding.at? file text s.offset ("Unable to resolve import: " ++ String.ofList s.text) true
  else some []

theorem importFindings?_eq :
    importFindings? w c file text = some (importFindings w c file text) := by
  rw [importFindings?, importFindings]
  split
  · rw [Html.imports?_eq]
    apply List.mapM_eq_some_map
    intro s hs
    exact Finding.at?_eq file text (Html.isPlace_of_mem_imports (List.mem_filter.mp hs).1) _ _
  · rfl

/-- The findings of a file in the order of their places. -/
def findings? : Option (List Finding) := do
  let hits ← policyFindings? c file text
  let references ← importFindings? w c file text
  return (hits ++ references).mergeSort fun a b => a.offset ≤ b.offset

theorem findings?_eq : findings? w c file text = some (findings w c file text) := by
  rw [findings?, policyFindings?_eq, importFindings?_eq]
  rfl

/-! ## Files and inputs -/

/-- The warnings of one file. -/
def lint? : Option (Except InputError (List Warning)) :=
  match w.read file with
  | .error e => some (.error (.unreadable file e.message))
  | .ok text => do
      let found ← findings? w c file text.toList
      return .ok (found.map (·.warning))

theorem lint?_eq : lint? w c file = some (lint w c file) := by
  rw [lint?, lint]
  cases w.read file with
  | error e => rfl
  | ok text =>
      dsimp only
      rw [findings?_eq]
      rfl

/-- The warnings of what lies at a path. -/
def scan? (path : String) (choice : Nat := 0) : Option (Except InputError (List Warning)) :=
  if w.pathExists path then do
    let all ← (targetsOf w c path).mapM (lint? w c)
    return (gather choice all).map List.flatten
  else some (.error (.notFound path))

/-- **What lies at a path is scanned without fail**, and as it is without cuts. -/
theorem scan?_eq (path : String) (choice : Nat) :
    scan? w c path choice = some (scan w c path choice) := by
  rw [scan?, scan]
  split
  · rw [List.mapM_eq_some_map fun file _ => lint?_eq w c file]
    rfl
  · rfl

end Scan

end PolicyLint
