/-
# Linting a file

The warnings of a file are the hits of the rules that apply to it and, in a page, the references
that lead nowhere. They stand in the order of their places in the text; at one place hits come
before references, and hits in the order of the rules.

* `Scan.warnings` : the warnings of a file with a given text.
-/
import PolicyLint.Scan.Reference
import PolicyLint.Html.Import
import PolicyLint.Warning

namespace PolicyLint.Scan

/-- A warning at a byte offset of a text. -/
structure Finding where
  offset : Nat
  warning : Warning

/-- A finding at the place of an offset in the text of a file. -/
def Finding.at (file : String) (text : List Char) (offset : Nat) (message : String) (fatal : Bool) :
    Finding :=
  ⟨offset, ⟨file, Position.ofOffset text offset, message, fatal⟩⟩

/-- The name of a file as seen from the root, when it begins with the root. -/
def fromRoot (root file : String) : String :=
  match Text.strip? root.toList file.toList with
  | some rest => String.ofList rest
  | none => file

/-- Whether a rule applies to a file, as it is named and as seen from the root. -/
def applies (c : Config) (file : String) (r : Rule) : Bool :=
  r.appliesTo file && r.appliesTo (fromRoot c.root file)

/-- The findings of the policy. -/
def policyFindings (c : Config) (file : String) (text : List Char) : List Finding :=
  (((c.policy.map Policy.rules).getD []).filter (applies c file)).flatMap fun r =>
    (r.hits text).map fun h => .at file text h.offset (r.messageFor h.value) r.fatal

/-- Whether the extension of a file is that of a page. -/
def isPage (file : String) : Bool :=
  match (Path.extension? file).map String.toLower with
  | some "html" => true
  | some "htm" => true
  | _ => false

/-- The references of a page that lead nowhere. -/
def unresolved (w : Workspace) (c : Config) (file : String) (text : List Char) : List Span :=
  let directory := (Path.parent? file).getD ""
  (Html.imports text).filter fun s => !Reference.resolves w c directory s.text

/-- The findings among the references of a page. -/
def importFindings (w : Workspace) (c : Config) (file : String) (text : List Char) :
    List Finding :=
  if isPage file then
    (unresolved w c file text).map fun s =>
      .at file text s.offset ("Unable to resolve import: " ++ String.ofList s.text) true
  else []

/-- The findings of a file in the order of their places. -/
def findings (w : Workspace) (c : Config) (file : String) (text : List Char) : List Finding :=
  (policyFindings c file text ++ importFindings w c file text).mergeSort
    fun a b => a.offset ≤ b.offset

/-- The warnings of a file with the given text. -/
def warnings (w : Workspace) (c : Config) (file text : String) : List Warning :=
  (findings w c file text.toList).map (·.warning)

end PolicyLint.Scan
