/-
# Data formats

What is read from JSON, TOML and YAML has one shape: records with known members, lists, and texts. A
format says how its values are read as these.

* `Format` : the ways of reading the values of a format;
* `Json.format`, `Toml.format`, `Yaml.format` : the formats.
-/
import PolicyLint.Json.Parser
import PolicyLint.Toml.Parser
import PolicyLint.Yaml.Node

namespace PolicyLint

/-- How the values of a data format are read. `record?` gives the values of the known members of a
record, each present or not. -/
structure Format (α : Type) where
  text? : α → Option String
  optionalText? : α → Option (Option String)
  texts? : α → Option (List String)
  items? : α → Option (List α)
  record? : List String → α → Option (List (Option α))

/-- What a member says, or its default when it is not there. -/
def orDefault? {α β : Type} (default : β) (read : α → Option β) : Option α → Option β
  | none => some default
  | some v => read v

/-- The values of JSON. -/
def Json.format : Format Json where
  text? := Json.text?
  optionalText? := Json.optionalText?
  texts? := Json.texts?
  items? := Json.items?
  record? := Json.record?

/-- The values of TOML, where nothing stands for none. -/
def Toml.format : Format Toml where
  text? := Toml.text?
  optionalText? v := v.text?.map some
  texts? := Toml.texts?
  items? := Toml.items?
  record? := Toml.record?

/-- The nodes of YAML below a root. -/
def Yaml.format (root : Yaml.Node) : Format Yaml.Node where
  text? := (Yaml.Node.text? · root)
  optionalText? := (Yaml.Node.optionalText? · root)
  texts? := (Yaml.Node.texts? · root)
  items? := (Yaml.Node.items? · root)
  record? := (Yaml.Node.record? · · root)

end PolicyLint
