import QueryAudit.Analysis
import QueryAudit.Batch
import QueryAudit.Calendar
import QueryAudit.Callers
import QueryAudit.Catalog
import QueryAudit.Connection.Address
import QueryAudit.Connection.Conninfo
import QueryAudit.Connection.Settings
import QueryAudit.Connection.Uri
import QueryAudit.DataType
import QueryAudit.Describe
import QueryAudit.Description
import QueryAudit.Diagnostic
import QueryAudit.Document
import QueryAudit.Document.Checked
import QueryAudit.Document.Decoder
import QueryAudit.Document.Numeral
import QueryAudit.Entries
import QueryAudit.Failure
import QueryAudit.Floating
import QueryAudit.Floating.Numeral
import QueryAudit.Floating.Shortest
import QueryAudit.Introspection
import QueryAudit.Operation
import QueryAudit.Proofs.AcceptedKinds
import QueryAudit.Proofs.Advice
import QueryAudit.Proofs.Analysis
import QueryAudit.Proofs.Batch
import QueryAudit.Proofs.Blanks
import QueryAudit.Proofs.CallSites
import QueryAudit.Proofs.Callers
import QueryAudit.Proofs.ColumnFindings
import QueryAudit.Proofs.Connection.Conninfo
import QueryAudit.Proofs.Connection.Numerals
import QueryAudit.Proofs.Connection.Settings
import QueryAudit.Proofs.Connection.Uri
import QueryAudit.Proofs.Conversation
import QueryAudit.Proofs.Describe
import QueryAudit.Proofs.Documents
import QueryAudit.Proofs.Entries
import QueryAudit.Proofs.FunctionNames
import QueryAudit.Proofs.Introspection.Content
import QueryAudit.Proofs.Introspection.Enumerations
import QueryAudit.Proofs.Introspection.Fitting
import QueryAudit.Proofs.Introspection.Links
import QueryAudit.Proofs.Introspection.Listing
import QueryAudit.Proofs.Introspection.Overloads
import QueryAudit.Proofs.Introspection.Registry
import QueryAudit.Proofs.Introspection.Rows
import QueryAudit.Proofs.Introspection.Shapes
import QueryAudit.Proofs.Introspection.Tables
import QueryAudit.Proofs.Introspection.Trace
import QueryAudit.Proofs.Introspection.WellFormed
import QueryAudit.Proofs.Keys
import QueryAudit.Proofs.LetterCase
import QueryAudit.Proofs.Nesting
import QueryAudit.Proofs.OutputColumns
import QueryAudit.Proofs.ParameterFindings
import QueryAudit.Proofs.Parameters
import QueryAudit.Proofs.Query.Arguments
import QueryAudit.Proofs.Query.Automaton
import QueryAudit.Proofs.Query.BareArguments
import QueryAudit.Proofs.Query.Brackets
import QueryAudit.Proofs.Query.CallForm
import QueryAudit.Proofs.Query.CallHead
import QueryAudit.Proofs.Query.CallText
import QueryAudit.Proofs.Query.Cutting
import QueryAudit.Proofs.Query.Highest
import QueryAudit.Proofs.Query.Lexing
import QueryAudit.Proofs.Query.Marks
import QueryAudit.Proofs.Query.Mentions
import QueryAudit.Proofs.Query.Names
import QueryAudit.Proofs.Query.Numbered
import QueryAudit.Proofs.Query.Numbering
import QueryAudit.Proofs.Query.Origins
import QueryAudit.Proofs.Query.Pieces
import QueryAudit.Proofs.Query.Placement
import QueryAudit.Proofs.Query.Places
import QueryAudit.Proofs.Query.Positionals
import QueryAudit.Proofs.Query.Recorded
import QueryAudit.Proofs.Query.Rereading
import QueryAudit.Proofs.Query.Rewriting
import QueryAudit.Proofs.Query.Skipping
import QueryAudit.Proofs.Query.Stability
import QueryAudit.Proofs.Records
import QueryAudit.Proofs.Registry
import QueryAudit.Proofs.Renaming
import QueryAudit.Proofs.Results
import QueryAudit.Proofs.RoundTrip
import QueryAudit.Proofs.Session
import QueryAudit.Proofs.SettledCalls
import QueryAudit.Proofs.SettledNames
import QueryAudit.Proofs.Threads
import QueryAudit.Proofs.TypeMap
import QueryAudit.Proofs.Utf8
import QueryAudit.Proofs.Vocabulary
import QueryAudit.Query.Call
import QueryAudit.Query.Placeholder
import QueryAudit.Query.Span
import QueryAudit.Registry
import QueryAudit.Server
import QueryAudit.Session
import QueryAudit.Snapshot
import QueryAudit.Text.Alphanumeric
import QueryAudit.Text.Blank
import QueryAudit.Text.CaseTable
import QueryAudit.Text.Cut
import QueryAudit.Text.Display
import QueryAudit.Text.LetterCase
import QueryAudit.Text.Numeral
import QueryAudit.Text.Printable
import QueryAudit.Text.Range
import QueryAudit.Text.Surrogate
import QueryAudit.Text.Utf8
import QueryAudit.TypeMap
import QueryAudit.Vocabulary
import QueryAudit.Yaml.Cursor
import QueryAudit.Yaml.Implicit
import QueryAudit.Yaml.Node
import QueryAudit.Yaml.Node.Document
import QueryAudit.Yaml.Node.Grammar
import QueryAudit.Yaml.Node.Merge
import QueryAudit.Yaml.Node.Value
import QueryAudit.Yaml.Printer
import QueryAudit.Yaml.Reader
import QueryAudit.Yaml.Scalar
import QueryAudit.Yaml.ScalarText
import QueryAudit.Yaml.Sheet
import QueryAudit.Yaml.Timestamp
import QueryAudit.Yaml.Token
import QueryAudit.Yaml.Token.Lexer
import QueryAudit.Yaml.Word
