/-
# Options of the command line

Each option has a long name and perhaps a letter; some take a value, and one takes many. The usage
text lists them all.

* `CommandLine.Flag` : the options;
* `CommandLine.usage`, `CommandLine.help` : the usage text, short and long.
-/

namespace PolicyLint.CommandLine

/-- An option. -/
inductive Flag where
  | dependencies
  | verbose
  | debug
  | policy
  | root
  | input
  | output
  | config
  | help
  | version
deriving DecidableEq, Repr

namespace Flag

/-- All options in the order of the usage text. -/
def all : List Flag :=
  [.dependencies, .verbose, .debug, .policy, .root, .input, .output, .config, .help, .version]

/-- The letter of an option. -/
def letter? : Flag → Option Char
  | .dependencies => some 'b'
  | .verbose => some 'v'
  | .debug => some 'g'
  | .policy => some 'p'
  | .root => some 'r'
  | .input => some 'i'
  | .output => none
  | .config => none
  | .help => some 'h'
  | .version => some 'V'

/-- The long name of an option. -/
def name : Flag → String
  | .dependencies => "bowerdir"
  | .verbose => "verbose"
  | .debug => "debug"
  | .policy => "policy"
  | .root => "root"
  | .input => "input"
  | .output => "output"
  | .config => "config"
  | .help => "help"
  | .version => "version"

/-- What the usage text calls the value of an option that takes one. -/
def value? : Flag → Option String
  | .dependencies => some "<DIR>"
  | .policy => some "<PATH>"
  | .root => some "<PATH>"
  | .input => some "<PATHS>..."
  | .output => some "<MODE>"
  | .config => some "<PATH>"
  | .verbose => none
  | .debug => none
  | .help => none
  | .version => none

/-- Whether an option takes a value. -/
def takesValue (f : Flag) : Bool := f.value?.isSome

/-- What an option is for; the long usage text refers to the short one, and the other way round. -/
def purpose (isLong : Bool) : Flag → String
  | .dependencies => "Dependency directory name (default: bower_components)"
  | .verbose => "Print progress information"
  | .debug => "Print debug logging"
  | .policy => "Policy file (JSON, TOML or YAML)"
  | .root => "Base path for resolving inputs and imports"
  | .input => "Files or directories to analyze"
  | .output => "Output mode: human|json (default: human)"
  | .config => "Config file (default: discover lintrun.toml)"
  | .help =>
      if isLong then "Print help (see a summary with '-h')"
      else "Print help (see more with '--help')"
  | .version => "Print version"

/-- The option with a letter. -/
def ofLetter? (c : Char) : Option Flag := all.find? fun f => f.letter? == some c

/-- The option with a long name. -/
def ofName? (s : String) : Option Flag := all.find? fun f => f.name == s

/-- The left column of an option in the usage text. -/
def label (f : Flag) : String :=
  let letter := match f.letter? with
    | some c => "  -" ++ c.toString ++ ", "
    | none => "      "
  letter ++ "--" ++ f.name ++ (match f.value? with
    | some v => " " ++ v
    | none => "")

end Flag

/-! ## The usage text -/

/-- The name and the version of the program. -/
def version : String := "lintrun 0.1.0"

/-- How the program is called. -/
def synopsis : String := "Usage: lintrun [OPTIONS] [INPUTS]..."

/-- The end of the usage text. -/
def examples : String :=
  "Examples:\n  lintrun app/x-foo.html\n"
    ++ "  lintrun --root app --policy policy.json -i x-foo.html x-bar.html\n"
    ++ "  lintrun --output json elements/\n"

/-- The width of the left column. -/
def labelWidth : Nat := ((Flag.all.map fun f => f.label.length).max?).getD 0

/-- A text filled up with spaces to a width. -/
def padTo (width : Nat) (s : String) : String :=
  s ++ String.ofList (List.replicate (width - s.length) ' ')

/-- The short usage text. -/
def usage : String :=
  "Run the linter over a list of inputs\n\n" ++ synopsis
    ++ "\n\nArguments:\n  [INPUTS]...  Files or directories to analyze\n\nOptions:\n"
    ++ String.join (Flag.all.map fun f =>
        padTo labelWidth f.label ++ "  " ++ f.purpose false ++ "\n")
    ++ "\n" ++ examples

/-- The long usage text. -/
def help : String :=
  "lintrun — analyze files or directories one at a time, print their warnings, and exit non-zero "
    ++ "when anything fatal was found.\n\n"
    ++ "Configuration precedence: CLI > lintrun.toml > defaults.\n\n" ++ synopsis
    ++ "\n\nArguments:\n  [INPUTS]...\n          Files or directories to analyze\n\nOptions:\n"
    ++ "\n".intercalate (Flag.all.map fun f =>
        f.label ++ "\n          " ++ f.purpose true ++ "\n")
    ++ "\n" ++ examples

end PolicyLint.CommandLine
