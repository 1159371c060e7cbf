/-
# Reading the command line

Words are read from left to right. A word with a dash is an option: one with a long name, or letters
of which the last may take a value. The value of an option stands with it or is the next word, and
`--input` takes all words up to the next one with a dash. After two dashes all words are paths. What
an option without its value or one given twice does wrong is only noticed when the next option or
path comes.

* `Arguments` : what the words say;
* `Arguments.ofWords` : the arguments of some words, or why there are none.
-/
import PolicyLint.CommandLine.Options
import PolicyLint.Settings.Basic

namespace PolicyLint

/-- What a command line says. -/
structure Arguments where
  settings : Settings := {}
  config : Option String := none
  verbose : Bool := false
  debug : Bool := false
  input : List String := []
  paths : List String := []
deriving DecidableEq, Repr

/-- All inputs: those of the option first. -/
def Arguments.inputs (a : Arguments) : List String := a.input ++ a.paths

namespace CommandLine

/-- Why reading a command line stops early. -/
inductive Stop where
  | help (isLong : Bool)
  | version
  | unknownOption
  | missingValue
  | repeatedOption
  | needlessValue
deriving DecidableEq, Repr

/-- The arguments so far, the options seen, and an option that waits for its values or has them but
is not seen yet; `takesMore` says that the next word is a value of it. -/
structure Progress where
  arguments : Arguments := {}
  seen : List Flag := []
  waiting : Option (Flag × List String) := none
  takesMore : Bool := false

/-- The arguments with an option set to some values. -/
def setFlag (a : Arguments) (values : List String) : Flag → Arguments
  | .dependencies => { a with settings := { a.settings with dependencies := values.head? } }
  | .policy => { a with settings := { a.settings with policy := values.head? } }
  | .root => { a with settings := { a.settings with root := values.head? } }
  | .output => { a with settings := { a.settings with output := values.head? } }
  | .config => { a with config := values.head? }
  | .input => { a with input := a.input ++ values }
  | .verbose => { a with verbose := true }
  | .debug => { a with debug := true }
  | .help => a
  | .version => a

namespace Progress

/-- Takes an option with its values; only `--input` may come again. -/
def take (p : Progress) (f : Flag) (values : List String) : Except Stop Progress :=
  if f ≠ .input ∧ f ∈ p.seen then .error .repeatedOption
  else .ok { p with arguments := setFlag p.arguments values f, seen := f :: p.seen }

/-- Takes the option that waits. -/
def flush (p : Progress) : Except Stop Progress :=
  match p.waiting with
  | none => .ok { p with takesMore := false }
  | some (_, []) => .error .missingValue
  | some (f, values) => { p with waiting := none, takesMore := false }.take f values

/-- An option without a value. -/
def raise (p : Progress) (isLong : Bool) (f : Flag) : Except Stop Progress := do
  let p ← p.flush
  match f with
  | .help => .error (.help isLong)
  | .version => .error .version
  | f => p.take f []

/-- An option together with its value. -/
def attach (p : Progress) (f : Flag) (value : List Char) : Except Stop Progress := do
  (← p.flush).take f [String.ofList value]

/-- An option whose values are to come. -/
def await (p : Progress) (f : Flag) : Except Stop Progress := do
  return { ← p.flush with waiting := some (f, []), takesMore := true }

/-- A word after two dashes. -/
def long (p : Progress) (word : List Char) : Except Stop Progress :=
  let name := word.takeWhile (· ≠ '=')
  match Flag.ofName? (String.ofList name), word.drop name.length with
  | none, _ => .error .unknownOption
  | some f, [] => if f.takesValue then p.await f else p.raise true f
  | some f, _ :: value => if f.takesValue then p.attach f value else .error .needlessValue

/-- The letters after one dash. -/
def letters (p : Progress) : List Char → Except Stop Progress
  | [] => .ok p
  | c :: cs =>
    match Flag.ofLetter? c with
    | none => .error .unknownOption
    | some f =>
        if f.takesValue then
          match cs with
          | [] => p.await f
          | '=' :: value => p.attach f value
          | value => p.attach f value
        else do (← p.raise false f).letters cs

/-- A path. -/
def path (p : Progress) (word : String) : Except Stop Progress := do
  let p ← p.flush
  return { p with arguments := { p.arguments with paths := p.arguments.paths ++ [word] } }

/-- A word without a dash: a value of the option that waits, or a path. -/
def plain (p : Progress) (word : String) : Except Stop Progress :=
  match p.takesMore, p.waiting with
  | true, some (f, values) =>
      .ok { p with waiting := some (f, values ++ [word]), takesMore := f = .input }
  | _, _ => p.path word

/-- All words. -/
def words (p : Progress) : List String → Except Stop Progress
  | [] => p.flush
  | w :: ws =>
    match w.toList with
    | ['-', '-'] => do (← ws.foldlM path p).flush
    | '-' :: '-' :: cs => do (← p.long cs).words ws
    | '-' :: c :: cs => do (← p.letters (c :: cs)).words ws
    | _ => do (← p.plain w).words ws

end Progress

end CommandLine

/-- The arguments of some words. -/
def Arguments.ofWords (ws : List String) : Except CommandLine.Stop Arguments :=
  (CommandLine.Progress.words {} ws).map (·.arguments)

end PolicyLint
