import FlightCaption.Calendar.Basic
import FlightCaption.Calendar.Clock
import FlightCaption.Calendar.Date
import FlightCaption.Calendar.Fault
import FlightCaption.Calendar.Pattern
import FlightCaption.Calendar.Units
import FlightCaption.CommandLine.Command
import FlightCaption.CommandLine.Request
import FlightCaption.CommandLine.Run
import FlightCaption.Document.Form
import FlightCaption.Document.Json.Lexeme
import FlightCaption.Document.Json.Number
import FlightCaption.Document.Json.Reader
import FlightCaption.Document.Reader
import FlightCaption.Document.Schema
import FlightCaption.Document.Value
import FlightCaption.Document.Yaml.Cursor
import FlightCaption.Document.Yaml.Node
import FlightCaption.Document.Yaml.Reader
import FlightCaption.Document.Yaml.Scalar
import FlightCaption.Document.Yaml.Token
import FlightCaption.Expansion
import FlightCaption.Load.File
import FlightCaption.Load.Format
import FlightCaption.Numeric.Binary64
import FlightCaption.Numeric.FixedPoint
import FlightCaption.Numeric.Rounding
import FlightCaption.Numeric.Shortest
import FlightCaption.Overlay
import FlightCaption.Renderer
import FlightCaption.Snapshot.Basic
import FlightCaption.Snapshot.Reading
import FlightCaption.Snapshot.Roster
import FlightCaption.Tag.Builtin
import FlightCaption.Tag.Fault
import FlightCaption.Tag.Registry
import FlightCaption.Tag.Script
import FlightCaption.Template.Scan
import FlightCaption.Template.Token
import FlightCaption.Text.Blank
import FlightCaption.Text.Digits
import FlightCaption.Text.Hidden
import FlightCaption.Text.Quoted
import FlightCaption.Main
import FlightCaption.Proofs.Template.Grammar
import FlightCaption.Proofs.Template.Reading
import FlightCaption.Proofs.Template.Canonical
import FlightCaption.Proofs.Expansion.Contribution
import FlightCaption.Proofs.Expansion.Depth
import FlightCaption.Proofs.Tag.Lookup
import FlightCaption.Proofs.Expansion.Builtin
import FlightCaption.Proofs.Expansion.Inlining
import FlightCaption.Proofs.Expansion.Nesting
import FlightCaption.Proofs.Numeric.WholeSeconds
import FlightCaption.Proofs.Calendar.Split
import FlightCaption.Proofs.Calendar.MixedRadix
import FlightCaption.Proofs.Expansion.Suppression
import FlightCaption.Proofs.Tag.Failure
import FlightCaption.Proofs.Document.Settings
import FlightCaption.Proofs.Calendar.Runs
import FlightCaption.Proofs.Text.Numerals
import FlightCaption.Proofs.Calendar.Pattern
import FlightCaption.Proofs.Calendar.Concatenation
import FlightCaption.Proofs.Calendar.Settings
import FlightCaption.Proofs.Template.Concatenation
import FlightCaption.Proofs.Template.WrittenForm
import FlightCaption.Proofs.Expansion.Concatenation
import FlightCaption.Proofs.Expansion.Unresolved
import FlightCaption.Proofs.Expansion.Weaving
import FlightCaption.Proofs.Load.Loading
import FlightCaption.Proofs.CommandLine.Rendering
import FlightCaption.Proofs.Calendar.MonthRule
import FlightCaption.Proofs.Calendar.NumericDate
import FlightCaption.Proofs.Calendar.ClockText
import FlightCaption.Proofs.Tag.TimeCaption
import FlightCaption.Proofs.Calendar.NextDay
import FlightCaption.Proofs.Tag.DateCaption
import FlightCaption.Proofs.Expansion.Locality
import FlightCaption.Proofs.Tag.Registration
import FlightCaption.Proofs.Tag.YearCaption
import FlightCaption.Proofs.Tag.CrewCaption
import FlightCaption.Proofs.Numeric.Nearest
import FlightCaption.Proofs.Snapshot.Distances
import FlightCaption.Proofs.Document.Members
import FlightCaption.Proofs.Document.Records
import FlightCaption.Proofs.Document.Editing
import FlightCaption.Proofs.Tag.Refusal
