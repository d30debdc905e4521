import Overdue.Attached
import Overdue.Calendar.Date
import Overdue.Calendar.Moment
import Overdue.Calendar.Reader
import Overdue.Command
import Overdue.CommandLine
import Overdue.Configuration
import Overdue.Diagnostic
import Overdue.Document
import Overdue.Document.Base64
import Overdue.Document.Composition
import Overdue.Document.Content
import Overdue.Document.Cursor
import Overdue.Document.Fault
import Overdue.Document.File
import Overdue.Document.Lexer
import Overdue.Document.Node
import Overdue.Document.Plain
import Overdue.Document.Text
import Overdue.Document.Token
import Overdue.Failure
import Overdue.Files
import Overdue.Files.Listing
import Overdue.Files.Path
import Overdue.Gate
import Overdue.Host
import Overdue.Host.Standard
import Overdue.Ignore
import Overdue.Ignore.Glob
import Overdue.Ignore.Pattern
import Overdue.Ledger
import Overdue.Log
import Overdue.Main
import Overdue.Marker
import Overdue.Marker.Field
import Overdue.Milestones
import Overdue.Number.Binary64
import Overdue.Number.Numeral
import Overdue.Number.Shortest
import Overdue.Origin
import Overdue.Reading
import Overdue.Report
import Overdue.Report.Json
import Overdue.Report.Markdown
import Overdue.Scan
import Overdue.Source.Declarations
import Overdue.Source.File
import Overdue.Source.Grammar
import Overdue.Source.Grammar.Expression
import Overdue.Source.Grammar.Mistake
import Overdue.Source.Grammar.Statement
import Overdue.Source.Lexer
import Overdue.Source.Literal
import Overdue.Source.Node
import Overdue.Source.Outline
import Overdue.Source.Parser
import Overdue.Source.Peg
import Overdue.Source.Rule
import Overdue.Source.TextLiteral
import Overdue.Source.Token
import Overdue.Source.Tree
import Overdue.SourceTree
import Overdue.Text.Lines
import Overdue.Text.Quoted
import Overdue.Text.Utf8
import Overdue.Unicode.Compatibility
import Overdue.Unicode.CompatibilityTable
import Overdue.Unicode.Decimal
import Overdue.Unicode.Identifier
import Overdue.Unicode.Name
import Overdue.Unicode.NameTable
import Overdue.Unicode.Printable
import Overdue.Unicode.Ranges
import Overdue.Value
import Overdue.Value.Text
import Overdue.Verdict
import Overdue.Version
import Overdue.Version.Order
import Overdue.Proofs.Version.BuildOrder
import Overdue.Proofs.Version.Comparison
import Overdue.Proofs.Calendar.Reader
import Overdue.Proofs.Verdict.Conditions
import Overdue.Proofs.Verdict.Pending
import Overdue.Proofs.Version.Grammar
import Overdue.Proofs.Version.Cycle
import Overdue.Proofs.Version.Equivalence
import Overdue.Proofs.Version.WrittenForm
import Overdue.Proofs.Scan.Isolation
import Overdue.Proofs.Marker.Declared
import Overdue.Proofs.Verdict.Undecided
import Overdue.Proofs.Verdict.NameErrors
import Overdue.Proofs.Verdict.Progress
import Overdue.Proofs.Attempts
import Overdue.Proofs.Source.Parts
import Overdue.Proofs.Source.Sites
import Overdue.Proofs.Source.Results
import Overdue.Proofs.Source.Literals
import Overdue.Proofs.Source.Milestones
import Overdue.Proofs.Source.Outline
import Overdue.Proofs.Source.Sorts
import Overdue.Proofs.Source.Grammar
import Overdue.Proofs.Source.Debts
import Overdue.Proofs.Source.Interruption
import Overdue.Proofs.SourceTree.Isolation
import Overdue.Proofs.Value.Unwritable
import Overdue.Proofs.Reading
import Overdue.Proofs.Host
import Overdue.Proofs.Document.File
import Overdue.Proofs.Marker.Acceptance
import Overdue.Proofs.Ledger.Failures
import Overdue.Proofs.Origin.Phases
import Overdue.Proofs.Gate.Outputs
import Overdue.Proofs.Command.Status
import Overdue.Proofs.Command.Hosts
import Overdue.Proofs.Origin.Snapshot
import Overdue.Proofs.Scan.Composition
import Overdue.Proofs.Files.Agreement
import Overdue.Proofs.Files.Listing
import Overdue.Proofs.Gate.Reads
import Overdue.Proofs.Files.Writing
import Overdue.Proofs.Gate.Scope
import Overdue.Proofs.Files.Path
import Overdue.Proofs.Files.Seat
import Overdue.Proofs.Command.Stability
import Overdue.Proofs.Calendar.WrittenForm
import Overdue.Proofs.Marker.FieldWise
import Overdue.Proofs.Document.Keys
import Overdue.Proofs.Ledger.Conservation
import Overdue.Proofs.Configuration.Overlay
import Overdue.Proofs.Configuration.Acceptance
import Overdue.Proofs.Document.Layers
import Overdue.Proofs.Configuration.Merge
import Overdue.Proofs.Number.Numeral
import Overdue.Proofs.Configuration.Build
import Overdue.Proofs.Text.Lines
import Overdue.Proofs.Report.Cells
import Overdue.Proofs.Report.Page
import Overdue.Proofs.Report.Table
import Overdue.Proofs.Attached.Call
import Overdue.Proofs.Files.Selection
import Overdue.Proofs.Diagnostic.Description
import Overdue.Proofs.Milestones.History
import Overdue.Proofs.Attached.History
import Overdue.Proofs.Files.Root
import Overdue.Proofs.Document.Gaps
import Overdue.Proofs.Document.QuotedLines
import Overdue.Proofs.Ledger.QuotedDates
