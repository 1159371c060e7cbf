import PolicyLint.Reporter
import PolicyLint.Guard
import PolicyLint.FileTree
import PolicyLint.Text.Digit
import PolicyLint.Text.Property
import PolicyLint.Text.Script
import PolicyLint.Text.CaseFold
import PolicyLint.Glob
import PolicyLint.Html.Import
import PolicyLint.Pattern.Parser
import PolicyLint.Pattern.Basic
import PolicyLint.Policy.Rule
import PolicyLint.Policy.Load
import PolicyLint.Toml.Basic
import PolicyLint.Toml.Text
import PolicyLint.Toml.Scalar
import PolicyLint.Toml.Parser
import PolicyLint.Yaml.Node
import PolicyLint.Settings.File
import PolicyLint.Scan.Input
import PolicyLint.Run
import PolicyLint.Program
import PolicyLint.Main
import PolicyLint.Proofs.Guard.Arrivals
import PolicyLint.Proofs.Guard.History
import PolicyLint.Proofs.Guard.Census
import PolicyLint.Proofs.Run.Trace
import PolicyLint.Proofs.Run.Transcript
import PolicyLint.Proofs.Run.Schedule
import PolicyLint.Proofs.Html.Masking
import PolicyLint.Proofs.Html.Attributes
import PolicyLint.Proofs.Html.References
import PolicyLint.Proofs.Text.Place
import PolicyLint.Proofs.Text.Search
import PolicyLint.Proofs.Policy.Hits
import PolicyLint.Proofs.Html.Places
import PolicyLint.Proofs.Scan.Order
import PolicyLint.Proofs.Text.Cut
import PolicyLint.Proofs.Html.Blanking
import PolicyLint.Proofs.Traversal
import PolicyLint.Proofs.Scan.Input
import PolicyLint.Proofs.Scan.Checked
import PolicyLint.Proofs.Run.Files
import PolicyLint.Proofs.Program.ExitCode
import PolicyLint.Proofs.Json.Literal
import PolicyLint.Proofs.Json.RoundTrip
import PolicyLint.Proofs.Run.JsonLines
import PolicyLint.Proofs.Run.Presentation
import PolicyLint.Proofs.Run.Blocks
import PolicyLint.Proofs.Scan.Relaxation
import PolicyLint.Proofs.Scan.DottedRoot
import PolicyLint.Proofs.Text.Leftmost
import PolicyLint.Proofs.Text.Lines
import PolicyLint.Proofs.Text.Bytes
import PolicyLint.Proofs.Html.Comments
import PolicyLint.Proofs.Html.Blanked
import PolicyLint.Proofs.Policy.WholeWords
import PolicyLint.Proofs.Scan.Dependencies
import PolicyLint.Proofs.Policy.Identifiers
import PolicyLint.Proofs.Run.WholeInputs
import PolicyLint.Proofs.Pattern.Run
import PolicyLint.Proofs.Pattern.Escape
import PolicyLint.Proofs.Policy.ValuePatterns
import PolicyLint.Proofs.Policy.Conversion
import PolicyLint.Proofs.Policy.FirstFault
import PolicyLint.Proofs.FileTree
import PolicyLint.Proofs.Path.Order
import PolicyLint.Proofs.Path.Reach
import PolicyLint.Proofs.Scan.Spelling
import PolicyLint.Proofs.Scan.Targets
import PolicyLint.Proofs.Scan.Query
import PolicyLint.Proofs.Path.Growth
import PolicyLint.Proofs.Scan.Fallback
import PolicyLint.Proofs.Scan.Pages
import PolicyLint.Proofs.Html.Relation
import PolicyLint.Proofs.Html.Quotations
import PolicyLint.Proofs.Run.HumanLines
import PolicyLint.Proofs.Settings.Found
import PolicyLint.Proofs.Settings.Precedence
import PolicyLint.Proofs.Settings.Nearest
import PolicyLint.Proofs.Path.Ancestors
import PolicyLint.Proofs.Path.Display
import PolicyLint.Proofs.CommandLine.Order
import PolicyLint.Proofs.Json.Grammar
import PolicyLint.Proofs.Json.Reading
import PolicyLint.Proofs.Policy.Renderings
import PolicyLint.Proofs.Text.Sequences
import PolicyLint.Proofs.Program.Colors
import PolicyLint.Proofs.Run.Outcomes
import PolicyLint.Proofs.Path.Roots
import PolicyLint.Proofs.Text.Sweep
import PolicyLint.Proofs.Policy.Merge
import PolicyLint.Proofs.Guard.Turns
import PolicyLint.Proofs.Guard.Settling
