import TextTemplate.Calendar.Date
import TextTemplate.Calendar.Format
import TextTemplate.Calendar.Moment
import TextTemplate.Calendar.Reader
import TextTemplate.Calendar.Writer
import TextTemplate.CommandLine.Fault
import TextTemplate.CommandLine.Options
import TextTemplate.CommandLine.Report
import TextTemplate.CommandLine.Request
import TextTemplate.CommandLine.Run
import TextTemplate.Engine.Basic
import TextTemplate.Engine.Cache
import TextTemplate.Engine.Settings
import TextTemplate.Engine.SettingsToml
import TextTemplate.Evaluation.Evaluate
import TextTemplate.Evaluation.Fault
import TextTemplate.Evaluation.Registry
import TextTemplate.Json.Basic
import TextTemplate.Json.Reader
import TextTemplate.Json.Writer
import TextTemplate.Library.Arguments
import TextTemplate.Library.Arithmetic
import TextTemplate.Library.Catalogue
import TextTemplate.Library.Collections
import TextTemplate.Library.Comparison
import TextTemplate.Library.Conversion
import TextTemplate.Library.Dates
import TextTemplate.Library.Logic
import TextTemplate.Library.Nulls
import TextTemplate.Library.Texts
import TextTemplate.Main
import TextTemplate.Number.Arithmetic
import TextTemplate.Number.Basic
import TextTemplate.Number.Decimal
import TextTemplate.Number.Numeral
import TextTemplate.Number.Order
import TextTemplate.Path
import TextTemplate.Proofs.Parser.Brackets
import TextTemplate.Suggestion.Alignment
import TextTemplate.Suggestion.Basic
import TextTemplate.Suggestion.Completion
import TextTemplate.Suggestion.Listing
import TextTemplate.Suggestion.Preview
import TextTemplate.Table
import TextTemplate.Template.Dependencies
import TextTemplate.Template.Fault
import TextTemplate.Template.Json
import TextTemplate.Template.Lexer
import TextTemplate.Template.Parser
import TextTemplate.Template.Part
import TextTemplate.Template.Printer
import TextTemplate.Template.Reader
import TextTemplate.Template.Token
import TextTemplate.Text.Blank
import TextTemplate.Text.Case
import TextTemplate.Text.CaseTable
import TextTemplate.Text.CodePoints
import TextTemplate.Text.Hex
import TextTemplate.Text.Letter
import TextTemplate.Text.Position
import TextTemplate.Text.Quoted
import TextTemplate.Text.Search
import TextTemplate.Text.Visible
import TextTemplate.Toml.Basic
import TextTemplate.Toml.Document
import TextTemplate.Toml.Reader
import TextTemplate.Toml.Scalar
import TextTemplate.Toml.Text
import TextTemplate.Value.Basic
import TextTemplate.Value.Json
import TextTemplate.Proofs.Parser.Grammar
import TextTemplate.Proofs.Parser.Soundness
import TextTemplate.Proofs.Parser.Steps
import TextTemplate.Proofs.Parser.Recognition
import TextTemplate.Proofs.Parser.Recovery
import TextTemplate.Proofs.Evaluation.Dependencies
import TextTemplate.Proofs.Lexer.Scans
import TextTemplate.Proofs.Lexer.Spelling
import TextTemplate.Proofs.Parser.Emitted
import TextTemplate.Proofs.Printer.Source
import TextTemplate.Proofs.Reader.Spans
import TextTemplate.Proofs.Reader.Pieces
import TextTemplate.Proofs.Reader.RoundTrip
import TextTemplate.Proofs.Evaluation.Steps
import TextTemplate.Proofs.Evaluation.Forgiving
import TextTemplate.Proofs.Engine.Runs
import TextTemplate.Proofs.Parser.Faults
import TextTemplate.Proofs.Reader.Composition
import TextTemplate.Proofs.Reader.Agreement
import TextTemplate.Proofs.Reader.Lossless
import TextTemplate.Proofs.Evaluation.Shadowing
import TextTemplate.Proofs.Library.Registration
import TextTemplate.Proofs.Library.Connectives
import TextTemplate.Proofs.Path.Joined
import TextTemplate.Proofs.Suggestion.Reach
import TextTemplate.Proofs.Suggestion.Enumeration
import TextTemplate.Proofs.Library.Chains
import TextTemplate.Proofs.Parser.Plan
import TextTemplate.Proofs.Parser.Descent
import TextTemplate.Proofs.Reader.Positions
import TextTemplate.Proofs.Path.Tokens
import TextTemplate.Proofs.Path.Readings
import TextTemplate.Proofs.Evaluation.Loops
import TextTemplate.Proofs.Evaluation.Missing
import TextTemplate.Proofs.Path.Codec
import TextTemplate.Proofs.Suggestion.Children
import TextTemplate.Proofs.Suggestion.Completion
import TextTemplate.Proofs.Library.Comparison
import TextTemplate.Proofs.Suggestion.OpenCalls
import TextTemplate.Proofs.Suggestion.Indices
import TextTemplate.Proofs.Value.Equality
import TextTemplate.Proofs.Suggestion.Ranking
import TextTemplate.Proofs.Library.Sorting
import TextTemplate.Proofs.Library.Splitting
import TextTemplate.Proofs.Number.Integers
import TextTemplate.Proofs.Value.Json
import TextTemplate.Proofs.Calendar.Civil
import TextTemplate.Proofs.Calendar.Reading
import TextTemplate.Proofs.Calendar.Shifts
import TextTemplate.Proofs.Library.Days
import TextTemplate.Proofs.Library.WholeNumbers
import TextTemplate.Proofs.Library.Indexing
import TextTemplate.Proofs.Library.Substrings
import TextTemplate.Proofs.Library.Repeats
import TextTemplate.Proofs.Suggestion.Preview
import TextTemplate.Proofs.Lexer.Names
import TextTemplate.Proofs.Lexer.Sources
import TextTemplate.Proofs.Lexer.Tiling
import TextTemplate.Proofs.Evaluation.Roots
