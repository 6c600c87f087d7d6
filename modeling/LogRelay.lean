import LogRelay.Blob.Attribute
import LogRelay.Blob.Table
import LogRelay.Calendar
import LogRelay.Delivery
import LogRelay.Delivery.Wordings
import LogRelay.Filter
import LogRelay.Journal
import LogRelay.Main
import LogRelay.Number.Double
import LogRelay.Number.Numeral
import LogRelay.Number.Shortest
import LogRelay.Options.Assignments
import LogRelay.Options.Build
import LogRelay.Options.CommandLine
import LogRelay.Options.Config
import LogRelay.Options.Document
import LogRelay.Options.Fault
import LogRelay.Options.Key
import LogRelay.Options.Load
import LogRelay.Options.Reader
import LogRelay.Options.Setting
import LogRelay.Options.Switch
import LogRelay.Options.Value
import LogRelay.Pattern.Match
import LogRelay.Pattern.Node
import LogRelay.Pattern.Reader
import LogRelay.Pattern.Tree
import LogRelay.Posix.Disk
import LogRelay.Posix.Fault
import LogRelay.Posix.Path
import LogRelay.Program
import LogRelay.Proofs.Blob.Members
import LogRelay.Proofs.Blob.RoundTrip
import LogRelay.Proofs.Blob.Sequence
import LogRelay.Proofs.Blob.Tables
import LogRelay.Proofs.Blob.Values
import LogRelay.Proofs.Blob.Words
import LogRelay.Proofs.Delivery.Balance
import LogRelay.Proofs.Delivery.Chunks
import LogRelay.Proofs.Fallible
import LogRelay.Proofs.Link.Calls
import LogRelay.Proofs.Link.Invariant
import LogRelay.Proofs.Link.Sends
import LogRelay.Proofs.Posix.Calls
import LogRelay.Proofs.Record.Frames
import LogRelay.Proofs.Record.Grammar
import LogRelay.Proofs.Record.Readers
import LogRelay.Proofs.Record.RoundTrip
import LogRelay.Proofs.Render.Capacity
import LogRelay.Proofs.Render.Replacement
import LogRelay.Proofs.Render.Stamp
import LogRelay.Proofs.Sink.Emission
import LogRelay.Proofs.Sink.FileHistory
import LogRelay.Proofs.Sink.FileSteps
import LogRelay.Proofs.Sink.Trailers
import LogRelay.Proofs.Source.History
import LogRelay.Proofs.Source.Progress
import LogRelay.Proofs.Source.Pump
import LogRelay.Proofs.Text.Truncate
import LogRelay.Proofs.Text.Utf8
import LogRelay.Record.Event
import LogRelay.Record.Stream
import LogRelay.Relay
import LogRelay.Render.Codes
import LogRelay.Render.Field
import LogRelay.Render.Formatter
import LogRelay.Render.Stamp
import LogRelay.Render.Template
import LogRelay.Sink.Call
import LogRelay.Sink.Choice
import LogRelay.Sink.File
import LogRelay.Sink.Network
import LogRelay.Sink.Standard
import LogRelay.Sink.Step
import LogRelay.Source.Client
import LogRelay.Source.Request
import LogRelay.Source.Script
import LogRelay.Stats
import LogRelay.Stats.Reporter
import LogRelay.Text.Blank
import LogRelay.Text.Digit
import LogRelay.Text.Identifier
import LogRelay.Text.Letter
import LogRelay.Text.Lines
import LogRelay.Text.Lowercase
import LogRelay.Text.Printable
import LogRelay.Text.Quoted
import LogRelay.Text.Ranges
import LogRelay.Text.Utf8
import LogRelay.Text.Wording
import LogRelay.Yaml.Base64
import LogRelay.Yaml.Cursor
import LogRelay.Yaml.Document
import LogRelay.Yaml.Reader
import LogRelay.Yaml.Entries
import LogRelay.Yaml.Fault
import LogRelay.Yaml.Moment
import LogRelay.Yaml.Node
import LogRelay.Yaml.Number
import LogRelay.Yaml.Scalar
import LogRelay.Yaml.Tag
import LogRelay.Yaml.Token
import LogRelay.Yaml.Value
import LogRelay.Proofs.Delivery.Records
import LogRelay.Proofs.Posix.Faults
import LogRelay.Proofs.Sink.Tame
import LogRelay.Proofs.Delivery.Wordings
import LogRelay.Proofs.Options.Build
import LogRelay.Proofs.Relay.Runs
import LogRelay.Proofs.Relay.Prepare
import LogRelay.Proofs.Relay.Release
import LogRelay.Proofs.Program.Status
import LogRelay.Proofs.Delivery.Finality
import LogRelay.Proofs.Options.Readings
import LogRelay.Proofs.Options.Validity
import LogRelay.Proofs.Number.Limits
import LogRelay.Proofs.Options.Breakdown
import LogRelay.Proofs.Options.Layers
import LogRelay.Proofs.Options.Loading
import LogRelay.Proofs.Delivery.Recovery
import LogRelay.Proofs.Sink.Appending
import LogRelay.Proofs.Posix.Renaming
import LogRelay.Proofs.Sink.Rotation
import LogRelay.Proofs.Sink.Reopening
import LogRelay.Proofs.Link.Addresses
import LogRelay.Proofs.Blob.Truncation
import LogRelay.Proofs.Blob.Agreement
import LogRelay.Proofs.Yaml.Keys
import LogRelay.Proofs.Options.Override
import LogRelay.Proofs.Options.Precedence
import LogRelay.Proofs.Calendar.Gregorian
import LogRelay.Proofs.Text.Decimal
import LogRelay.Proofs.Render.Cutting
import LogRelay.Proofs.Render.Internet
import LogRelay.Proofs.Render.Classic
import LogRelay.Proofs.Stats.Reports
import LogRelay.Proofs.Stats.Sharing
import LogRelay.Proofs.Stats.Balance
import LogRelay.Proofs.Stats.Isolation
import LogRelay.Proofs.Pattern.Words
import LogRelay.Proofs.Render.Segments
