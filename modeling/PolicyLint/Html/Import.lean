/-
# References of an HTML text

A page refers to other files by `<link rel="import" href="…">` and by `<script src="…">`. Tags and
attributes are found outside comments, in any case of letters; an attribute follows a blank and has
its value in quotes.

* `Html.tag`, `Html.attribute?` : the matcher of tags, and the first value of an attribute;
* `Html.imports` : the references of a text with the offsets where they stand.
-/
import PolicyLint.Html.Comment
import PolicyLint.Text.Word

namespace PolicyLint.Html

/-! ## Names -/

/-- Whether a character is a given small letter in some case. Under simple case folding the Kelvin
sign is a k and the long s is an s. -/
def sameLetter (letter c : Char) : Bool :=
  c == letter || c == letter.toUpper || (letter == 'k' && c == '\u212a')
    || (letter == 's' && c == '\u017f')

/-- What follows a name in some case of letters, if a text begins with it. -/
def stripName? : List Char → List Char → Option (List Char)
  | [], cs => some cs
  | _ :: _, [] => none
  | l :: ls, c :: cs => if sameLetter l c then stripName? ls cs else none

/-! ## Tags -/

/-- Matches a tag with the given name up to the first `>` after it. -/
def tag (name : List Char) : Matcher := fun s =>
  match s.rest with
  | '<' :: cs =>
      match stripName? name cs with
      | some (c :: rest) =>
          if !Text.isWord c && (c :: rest).contains '>' then
            some (1 + name.length + ((c :: rest).takeWhile (· ≠ '>')).length + 1)
          else none
      | _ => none
  | _ => none

/-! ## Attributes -/

/-- What follows `name =` in a text that begins so, with any blanks around the sign. -/
def stripAssignment? (name : List Char) (cs : List Char) : Option (List Char) := do
  let rest ← stripName? name cs
  match rest.dropWhile Text.isBlank with
  | '=' :: rest => some (rest.dropWhile Text.isBlank)
  | _ => none

/-- Whether a character is a quote. -/
def isQuote (c : Char) : Bool := c == '"' || c == '\x27'

/-- The value of an attribute in a text that begins with its opening quote: at least one character
up to the next quote. -/
def quoted? : List Char → Option (List Char)
  | q :: cs =>
      let value := cs.takeWhile fun c => !isQuote c
      if isQuote q && !value.isEmpty && (cs.any isQuote) then some value else none
  | [] => none

/-- The first attribute with the given name and a quoted value, as the stretch of its value. The
text starts at the given offset. -/
def attribute? (name : List Char) : Nat → List Char → Option Span
  | _, [] => none
  | offset, c :: cs =>
      let here := do
        if !Text.isBlank c then none
        let rest ← stripAssignment? name cs
        let value ← quoted? rest
        return ⟨offset + Text.size (c :: cs) - Text.size rest + 1, value⟩
      here <|> attribute? name (offset + c.utf8Size) cs

/-- Whether a value, perhaps after a quote, begins with `import`. -/
def beginsImport : List Char → Bool
  | c :: cs =>
      (stripName? "import".toList (if isQuote c then cs else c :: cs)).isSome
  | [] => false

/-- Whether a text has an attribute `rel` whose value begins with `import`. -/
def relatesImport : List Char → Bool
  | [] => false
  | c :: cs =>
      (Text.isBlank c && ((stripAssignment? "rel".toList cs).any beginsImport))
        || relatesImport cs

/-! ## References -/

/-- The references of the links that import. -/
def linkImports (text : List Char) : List Span :=
  ((tag "link".toList).spans text).filterMap fun t =>
    if relatesImport t.text then attribute? "href".toList t.offset t.text else none

/-- The references of the scripts. -/
def scriptImports (text : List Char) : List Span :=
  ((tag "script".toList).spans text).filterMap fun t =>
    attribute? "src".toList t.offset t.text

/-- The references of a text outside its comments, in the order in which they stand. -/
def imports (text : List Char) : List Span :=
  let masked := blankComments text
  (linkImports masked ++ scriptImports masked).mergeSort fun a b => a.offset ≤ b.offset

end PolicyLint.Html
