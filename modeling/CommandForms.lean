import CommandForms.Aspects
import CommandForms.Catalog.Basic
import CommandForms.Catalog.Document
import CommandForms.Catalog.Encode
import CommandForms.Catalog.Load
import CommandForms.Catalog.OfNode
import CommandForms.Catalog.Read
import CommandForms.CommandLine.Arguments
import CommandForms.CommandLine.Invocation
import CommandForms.CommandLine.Outcome
import CommandForms.CommandLine.Run
import CommandForms.Completion.Segments
import CommandForms.Completion.Source
import CommandForms.Completion.Trie
import CommandForms.Data
import CommandForms.Dialogue.Construct
import CommandForms.Dialogue.Run
import CommandForms.Dialogue.Terminal
import CommandForms.Dialogue.Turn
import CommandForms.Dialogue.YesNo
import CommandForms.Files.Basic
import CommandForms.Files.Path
import CommandForms.Files.Tree
import CommandForms.Json.Equality
import CommandForms.Json.Fault
import CommandForms.Json.Printer
import CommandForms.Json.Reader
import CommandForms.Json.Record
import CommandForms.Json.Shaped
import CommandForms.Json.Skip
import CommandForms.Json.Value
import CommandForms.Keyed
import CommandForms.Main
import CommandForms.Mismatch
import CommandForms.Numeral.Double
import CommandForms.Numeral.Hex
import CommandForms.Numeral.Integer
import CommandForms.Numeral.Shortest
import CommandForms.Pattern.Bracket
import CommandForms.Pattern.CharClass
import CommandForms.Pattern.Delimiter
import CommandForms.Pattern.Escape
import CommandForms.Pattern.Expr
import CommandForms.Pattern.Flags
import CommandForms.Pattern.Folding
import CommandForms.Pattern.Program
import CommandForms.Pattern.Property.Age
import CommandForms.Pattern.Property.Basic
import CommandForms.Pattern.Property.Break
import CommandForms.Pattern.Property.CaseChange
import CommandForms.Pattern.Property.Derived
import CommandForms.Pattern.Property.Listed
import CommandForms.Pattern.Property.Name
import CommandForms.Pattern.Property.Script
import CommandForms.Pattern.Reader
import CommandForms.Pattern.Search
import CommandForms.Pattern.Weight
import CommandForms.Proofs.Catalog.Admission
import CommandForms.Proofs.Catalog.Admitted
import CommandForms.Proofs.Catalog.Merge
import CommandForms.Proofs.Catalog.RoundTrip
import CommandForms.Proofs.CommandLine.Validation
import CommandForms.Proofs.Completion.Menus
import CommandForms.Proofs.Completion.Paths
import CommandForms.Proofs.Completion.Reference
import CommandForms.Proofs.Completion.Segments
import CommandForms.Proofs.Completion.Shape
import CommandForms.Proofs.Completion.Typing
import CommandForms.Proofs.Completion.Uncut
import CommandForms.Proofs.Completion.Walks
import CommandForms.Proofs.Computation
import CommandForms.Proofs.Dialogue.Alike
import CommandForms.Proofs.Dialogue.Answers
import CommandForms.Proofs.Dialogue.Buildable
import CommandForms.Proofs.Dialogue.Calls
import CommandForms.Proofs.Dialogue.Canonical
import CommandForms.Proofs.Dialogue.Completeness
import CommandForms.Proofs.Dialogue.Defaults
import CommandForms.Proofs.Dialogue.Determined
import CommandForms.Proofs.Dialogue.Exchanges
import CommandForms.Proofs.Dialogue.Holds
import CommandForms.Proofs.Dialogue.Invariant
import CommandForms.Proofs.Dialogue.Literals
import CommandForms.Proofs.Dialogue.LookAhead
import CommandForms.Proofs.Dialogue.Orderly
import CommandForms.Proofs.Dialogue.Printed
import CommandForms.Proofs.Dialogue.Rejection
import CommandForms.Proofs.Dialogue.Replies
import CommandForms.Proofs.Dialogue.Screen
import CommandForms.Proofs.Dialogue.Script
import CommandForms.Proofs.Dialogue.Selection
import CommandForms.Proofs.Dialogue.Toggling
import CommandForms.Proofs.Dialogue.Unbroken
import CommandForms.Proofs.Dialogue.Validity
import CommandForms.Proofs.Entries
import CommandForms.Proofs.Json.EndsAlike
import CommandForms.Proofs.Json.Leaves
import CommandForms.Proofs.Json.Padding
import CommandForms.Proofs.Json.Sequences
import CommandForms.Proofs.Json.Shaped
import CommandForms.Proofs.Json.Texts
import CommandForms.Proofs.Json.Values
import CommandForms.Proofs.Numeral.Integer
import CommandForms.Proofs.Schema.Delimiters
import CommandForms.Proofs.Schema.Options
import CommandForms.Proofs.Schema.Parts
import CommandForms.Proofs.Schema.RoundTrip
import CommandForms.Proofs.Schema.Text
import CommandForms.Proofs.Session.Callable
import CommandForms.Proofs.Session.Determined
import CommandForms.Proofs.Session.FailStop
import CommandForms.Proofs.Session.PasteBack
import CommandForms.Proofs.Session.Rounds
import CommandForms.Proofs.Session.Unbroken
import CommandForms.Proofs.Text.Blank
import CommandForms.Proofs.Text.Capitals
import CommandForms.Proofs.Text.Lowercase
import CommandForms.Proofs.Validation.MoreAspects
import CommandForms.Proofs.Validation.Places
import CommandForms.Proofs.Validation.Undeclared
import CommandForms.Proofs.Validation.Valid
import CommandForms.Schema.Basic
import CommandForms.Schema.Builder
import CommandForms.Schema.Decode
import CommandForms.Schema.Delimiters
import CommandForms.Schema.Encode
import CommandForms.Schema.Equality
import CommandForms.Schema.OfNode
import CommandForms.Schema.Read
import CommandForms.Session.Loop
import CommandForms.Session.Request
import CommandForms.Session.Settings
import CommandForms.Text.Blank
import CommandForms.Text.CaseRun
import CommandForms.Text.CodePoints
import CommandForms.Text.GeneralCategory
import CommandForms.Text.Letters
import CommandForms.Text.Lines
import CommandForms.Text.Lowercase
import CommandForms.Text.LowercaseRuns
import CommandForms.Text.Marks
import CommandForms.Text.Quoted
import CommandForms.Text.Rest
import CommandForms.Text.Runs
import CommandForms.Validation.Check
import CommandForms.Validation.Error
import CommandForms.Yaml.Character
import CommandForms.Yaml.Core
import CommandForms.Yaml.Layout
import CommandForms.Yaml.Node
import CommandForms.Yaml.Scalar
import CommandForms.Yaml.Shaped
import CommandForms.Yaml.Tag
import CommandForms.Yaml.Token
