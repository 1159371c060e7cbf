/-
# Warnings

A warning is one finding in one file. In JSON it is an object with the members `filename`,
`location`, `message` and `fatal`, in this order.
-/
import PolicyLint.Text.Position
import PolicyLint.Json.Parser

namespace PolicyLint

/-- A finding at a position of a file. -/
structure Warning where
  filename : String
  position : Position
  message : String
  fatal : Bool
deriving DecidableEq, Repr

namespace Position

/-- A position as a JSON object. -/
def toJson (p : Position) : Json :=
  .object [("line", .ofNat p.line), ("column", .ofNat p.column)]

/-- The position that a JSON value describes. -/
def ofJson? (v : Json) : Option Position :=
  match v.record? ["line", "column"] with
  | some [some line, some column] => do return ⟨← line.natural?, ← column.natural?⟩
  | _ => none

end Position

namespace Warning

/-- A warning as a JSON object. -/
def toJson (w : Warning) : Json :=
  .object [("filename", .string w.filename), ("location", w.position.toJson),
    ("message", .string w.message), ("fatal", .bool w.fatal)]

/-- The warning that a JSON value describes. -/
def ofJson? (v : Json) : Option Warning :=
  match v.record? ["filename", "location", "message", "fatal"] with
  | some [some filename, some location, some message, some fatal] => do
      return ⟨← filename.text?, ← Position.ofJson? location, ← message.text?, ← fatal.bool?⟩
  | _ => none

/-- A warning as one line of JSON, without its line feed. -/
def jsonLine (w : Warning) : String := w.toJson.render

/-- The warning that a JSON text describes. -/
def parse? (text : String) : Option Warning := (Json.parse? text).bind ofJson?

end Warning

end PolicyLint
