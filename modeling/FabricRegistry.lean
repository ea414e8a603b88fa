import FabricRegistry.Broker.Address
import FabricRegistry.Broker.Client
import FabricRegistry.Calendar
import FabricRegistry.Catalogue.Basic
import FabricRegistry.Catalogue.Table
import FabricRegistry.Command.Error
import FabricRegistry.Command.Invocation
import FabricRegistry.Command.Service
import FabricRegistry.Database.Basic
import FabricRegistry.Database.Catalogue
import FabricRegistry.Database.Connect
import FabricRegistry.Database.Trail
import FabricRegistry.Dialogue
import FabricRegistry.Duration
import FabricRegistry.Envelope
import FabricRegistry.EventId
import FabricRegistry.Fabric.Basic
import FabricRegistry.Fabric.Code
import FabricRegistry.Fabric.Details
import FabricRegistry.Fabric.Fact
import FabricRegistry.Inbound.Feed
import FabricRegistry.Inbound.Listener
import FabricRegistry.Inbound.Router
import FabricRegistry.Infrastructure
import FabricRegistry.Json.Double
import FabricRegistry.Json.Fault
import FabricRegistry.Json.Numeral
import FabricRegistry.Json.Printer
import FabricRegistry.Json.Reader
import FabricRegistry.Json.Record
import FabricRegistry.Json.Tree
import FabricRegistry.Json.Value
import FabricRegistry.Log
import FabricRegistry.Proofs.Catalogue.Keyed
import FabricRegistry.Proofs.Catalogue.Lookup
import FabricRegistry.Proofs.Catalogue.Writes
import FabricRegistry.Proofs.Command.Discipline
import FabricRegistry.Proofs.Command.Effect
import FabricRegistry.Proofs.Command.Revision
import FabricRegistry.Proofs.Command.Written
import FabricRegistry.Proofs.Database.Catalogue
import FabricRegistry.Proofs.Database.Engine
import FabricRegistry.Proofs.Database.EventTable
import FabricRegistry.Proofs.Database.Reading
import FabricRegistry.Proofs.Database.Recording
import FabricRegistry.Proofs.Database.Saving
import FabricRegistry.Proofs.Database.Session
import FabricRegistry.Proofs.Database.Trail
import FabricRegistry.Proofs.Database.Versions
import FabricRegistry.Proofs.Dialogue.Transcript
import FabricRegistry.Proofs.Duration.Written
import FabricRegistry.Proofs.Envelope.Identity
import FabricRegistry.Proofs.Envelope.Lossless
import FabricRegistry.Proofs.Envelope.Members
import FabricRegistry.Proofs.Envelope.Wire
import FabricRegistry.Proofs.Except
import FabricRegistry.Proofs.Fabric.Body
import FabricRegistry.Proofs.Fabric.Life
import FabricRegistry.Proofs.Fabric.Replay
import FabricRegistry.Proofs.Fabric.Tagged
import FabricRegistry.Proofs.Feed.Alignment
import FabricRegistry.Proofs.Feed.Announcement
import FabricRegistry.Proofs.Feed.Commuting
import FabricRegistry.Proofs.Feed.Contract
import FabricRegistry.Proofs.Feed.Defaults
import FabricRegistry.Proofs.Feed.Downstream
import FabricRegistry.Proofs.Feed.Mixed
import FabricRegistry.Proofs.Feed.Notice
import FabricRegistry.Proofs.Feed.Once
import FabricRegistry.Proofs.Feed.Redelivery
import FabricRegistry.Proofs.Feed.Sequence
import FabricRegistry.Proofs.Feed.WellFormed
import FabricRegistry.Proofs.Inbound.Deadline
import FabricRegistry.Proofs.Inbound.Routing
import FabricRegistry.Proofs.Inbound.Settlement
import FabricRegistry.Proofs.Json.Grammar
import FabricRegistry.Proofs.Json.Literals
import FabricRegistry.Proofs.Json.Meaning
import FabricRegistry.Proofs.Json.Members
import FabricRegistry.Proofs.Json.Reading
import FabricRegistry.Proofs.Lookup
import FabricRegistry.Proofs.Settings.Loading
import FabricRegistry.Proofs.Settings.Variables
import FabricRegistry.Proofs.Subject.EventType
import FabricRegistry.Proofs.Text.Trim
import FabricRegistry.Proofs.Text.Utf8
import FabricRegistry.Proofs.Time.Calendar
import FabricRegistry.Proofs.Time.Micros
import FabricRegistry.Proofs.Time.Text
import FabricRegistry.Proofs.Traffic.Account
import FabricRegistry.Proofs.Traffic.Alone
import FabricRegistry.Proofs.Traffic.Basic
import FabricRegistry.Proofs.Traffic.Change
import FabricRegistry.Proofs.Traffic.Complete
import FabricRegistry.Proofs.Traffic.Course
import FabricRegistry.Proofs.Traffic.Gap
import FabricRegistry.Proofs.Traffic.InTime
import FabricRegistry.Proofs.Traffic.Line
import FabricRegistry.Proofs.Traffic.Linear
import FabricRegistry.Proofs.Traffic.Progress
import FabricRegistry.Proofs.Traffic.Rebuild
import FabricRegistry.Proofs.Traffic.Request
import FabricRegistry.Proofs.Traffic.Stage
import FabricRegistry.Proofs.Trail.History
import FabricRegistry.Proofs.Trail.Ledger
import FabricRegistry.Proofs.Trail.Refusal
import FabricRegistry.Publication
import FabricRegistry.Rehearsal.Broker
import FabricRegistry.Rehearsal.Doubles
import FabricRegistry.Rehearsal.Script
import FabricRegistry.Rehearsal.Session
import FabricRegistry.Settings
import FabricRegistry.Subject
import FabricRegistry.Text.Blank
import FabricRegistry.Text.Cased
import FabricRegistry.Text.Concealed
import FabricRegistry.Text.Decimal
import FabricRegistry.Text.LetterCase
import FabricRegistry.Text.Quoted
import FabricRegistry.Text.Ranges
import FabricRegistry.Text.Scheme
import FabricRegistry.Text.Segments
import FabricRegistry.Text.Utf8
import FabricRegistry.Timestamp
import FabricRegistry.Trail.Basic
import FabricRegistry.Trail.Ledger
