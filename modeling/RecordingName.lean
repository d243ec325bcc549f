import RecordingName.Text.Basic
import RecordingName.Text.Blank
import RecordingName.Text.Ranges
import RecordingName.Text.Digit
import RecordingName.Text.Decimal
import RecordingName.Text.Printable
import RecordingName.Text.Quoted
import RecordingName.Text.Lower
import RecordingName.Text.Percent
import RecordingName.Template.Basic
import RecordingName.Template.Parser
import RecordingName.Template.Printer
import RecordingName.Template.Location
import RecordingName.Calendar.Date
import RecordingName.Calendar.Timestamp
import RecordingName.Zone.Basic
import RecordingName.Zone.Tables
import RecordingName.Instant
import RecordingName.DateFormat.Field
import RecordingName.DateFormat.Piece
import RecordingName.DateFormat.Directive
import RecordingName.DateFormat.Pattern
import RecordingName.DateFormat.Formatter
import RecordingName.DateFormat.Reading
import RecordingName.Register
import RecordingName.Redaction
import RecordingName.Call.Handle
import RecordingName.Call.Details
import RecordingName.Call.Subscriptions
import RecordingName.Log
import RecordingName.Settings
import RecordingName.Naming.Filename
import RecordingName.Contacts.Account
import RecordingName.Contacts.Directory
import RecordingName.Naming.Variable
import RecordingName.Naming.Session
import RecordingName.Naming.Resolution
import RecordingName.Generator
import RecordingName.Text.Integer
import RecordingName.Text.Lines
import RecordingName.Word
import RecordingName.Calendar.Duration
import RecordingName.CommandLine.Arguments
import RecordingName.CommandLine.Invocation
import RecordingName.CommandLine.Run
import RecordingName.Main
import RecordingName.Proofs.Text.Digits
import RecordingName.Proofs.DateFormat.Matching
import RecordingName.Proofs.DateFormat.Standard
import RecordingName.Proofs.Naming.Evaluation
import RecordingName.Proofs.Naming.Rendering
import RecordingName.Proofs.Generator.Publishing
import RecordingName.Proofs.Generator.Run
import RecordingName.Proofs.Naming.Filename
import RecordingName.Proofs.Naming.Standard
import RecordingName.Proofs.Generator.StandardName
import RecordingName.Proofs.Text.Cutting
import RecordingName.Proofs.Redaction.Hiding
import RecordingName.Proofs.Redaction.Guarding
import RecordingName.Proofs.Redaction.Idempotence
import RecordingName.Proofs.Redaction.Whole
import RecordingName.Proofs.Template.Normal
import RecordingName.Proofs.Template.Signs
import RecordingName.Proofs.Template.RoundTrip
import RecordingName.Proofs.Template.Grammar
import RecordingName.Proofs.Text.Percent
import RecordingName.Proofs.Naming.Hiding
import RecordingName.Proofs.Generator.Hiding
import RecordingName.Proofs.Generator.Attempts
import RecordingName.Proofs.Generator.Coherence
import RecordingName.Proofs.Generator.BehindLiteral
import RecordingName.Proofs.DateFormat.Directives
import RecordingName.Proofs.DateFormat.Telling
import RecordingName.Proofs.DateFormat.Patterns
import RecordingName.Proofs.Generator.ByPattern
import RecordingName.Proofs.Generator.Latest
import RecordingName.Proofs.Generator.Failing
import RecordingName.Proofs.Generator.Fallback
import RecordingName.Proofs.DateFormat.Seconds
import RecordingName.Proofs.Generator.StartingDate
import RecordingName.Proofs.Text.Occurrences
import RecordingName.Proofs.Generator.Searching
import RecordingName.Proofs.Contacts.Listing
import RecordingName.Proofs.Contacts.BestMatch
import RecordingName.Proofs.Contacts.FailedLoads
import RecordingName.Proofs.DateFormat.RoundTrip
import RecordingName.Proofs.DateFormat.Faults
import RecordingName.Proofs.Contacts.Retries
import RecordingName.Proofs.Calendar.Succession
import RecordingName.Proofs.Instant
import RecordingName.Proofs.DateFormat.SelfMatching
import RecordingName.Proofs.Generator.Settling
import RecordingName.Proofs.Template.Composition
import RecordingName.Proofs.Template.Locations
import RecordingName.Proofs.Text.Order
import RecordingName.Proofs.Calendar.Order
import RecordingName.Proofs.DateFormat.Order
import RecordingName.Proofs.Contacts.PartyNames
import RecordingName.Proofs.Naming.Lookups
import RecordingName.Proofs.Generator.Lookups
import RecordingName.Proofs.Call.Handle
import RecordingName.Proofs.CommandLine.Arguments
import RecordingName.Proofs.CommandLine.Numbers
