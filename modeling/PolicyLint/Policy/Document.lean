/-
# Policy documents

A document is a record with the member `requirements`, a list of records with the members `type`,
`value`, `error_message`, `whitelist` and `level`, of which only `type` must be there. Other members
are passed over. The extension of a file tells the format of the document in it.

* `PolicyDocument.read?` : the document that a value of some format describes;
* `PolicyDocument.parse?` : the document in the text of a file.
-/
import PolicyLint.Policy.Requirement
import PolicyLint.Path.Basic
import PolicyLint.Format

namespace PolicyLint

/-- The requirement that a value describes. -/
def Requirement.read? {α : Type} (f : Format α) (v : α) : Option Requirement :=
  match f.record? ["type", "value", "error_message", "whitelist", "level"] v with
  | some [some kind, values, errorMessage, whitelist, level] => do
      return {
        kind := ← f.text? kind
        values := ← orDefault? [] f.texts? values
        errorMessage := ← orDefault? none f.optionalText? errorMessage
        whitelist := ← orDefault? [] f.texts? whitelist
        level := ← orDefault? none f.optionalText? level }
  | _ => none

namespace PolicyDocument

/-- The document that a value describes. -/
def read? {α : Type} (f : Format α) (v : α) : Option PolicyDocument :=
  match f.record? ["requirements"] v with
  | some [requirements] => do
      let items ← orDefault? [] f.items? requirements
      return ⟨← items.mapM (Requirement.read? f)⟩
  | _ => none

/-- The document that a JSON text describes. -/
def parseJson? (text : String) : Option PolicyDocument :=
  (Json.parse? text).bind (read? Json.format)

/-- The document that a TOML text describes. -/
def parseToml? (text : String) : Option PolicyDocument :=
  (Toml.parse? text).bind (read? Toml.format)

/-- The document that a YAML text describes. -/
def parseYaml? (text : String) : Option PolicyDocument :=
  (Yaml.parse? text).bind fun root => read? (Yaml.format root) root

/-- The document in the text of the file at a path. The extension counts in any case of letters, and
an unknown one means JSON. -/
def parse? (path text : String) : Option PolicyDocument :=
  match (Path.extension? path).map String.toLower with
  | some "toml" => parseToml? text
  | some "yaml" => parseYaml? text
  | some "yml" => parseYaml? text
  | _ => parseJson? text

end PolicyDocument

end PolicyLint
