import FieldStudy.Descriptor.Basic
import FieldStudy.Descriptor.Parser
import FieldStudy.Descriptor.Printer
import FieldStudy.Descriptor.Tree
import FieldStudy.Device.Basic
import FieldStudy.Device.Filter
import FieldStudy.Dict
import FieldStudy.Field.Format
import FieldStudy.Field.Scalar
import FieldStudy.Json.Basic
import FieldStudy.Json.Decoder
import FieldStudy.Json.Numeral
import FieldStudy.Json.Printer
import FieldStudy.Json.Source
import FieldStudy.Number.Binary
import FieldStudy.Number.Decimal
import FieldStudy.Number.Seconds
import FieldStudy.Proofs.Descriptor.Blocks
import FieldStudy.Proofs.Descriptor.Entries
import FieldStudy.Proofs.Descriptor.Lines
import FieldStudy.Proofs.Descriptor.Rereading
import FieldStudy.Proofs.Descriptor.RoundTrip
import FieldStudy.Proofs.Device.Configurations
import FieldStudy.Proofs.Device.Settings
import FieldStudy.Proofs.Dict
import FieldStudy.Proofs.Field.Codec
import FieldStudy.Proofs.Field.Inverse
import FieldStudy.Proofs.Json.Texts
import FieldStudy.Proofs.Json.Tokens
import FieldStudy.Proofs.Json.Trees
import FieldStudy.Proofs.Number.Binary
import FieldStudy.Proofs.Recording.Calls
import FieldStudy.Proofs.Recording.Frame
import FieldStudy.Proofs.Recording.Layouts
import FieldStudy.Proofs.Recording.Phone
import FieldStudy.Proofs.Recording.PhoneFile
import FieldStudy.Proofs.Recording.PhoneReading
import FieldStudy.Proofs.Recording.Reencoding
import FieldStudy.Proofs.Recording.RoundTrip
import FieldStudy.Proofs.Recording.Timestamps
import FieldStudy.Proofs.Recording.Truncation
import FieldStudy.Proofs.Recording.WholeFrames
import FieldStudy.Proofs.Run.Accounts
import FieldStudy.Proofs.Run.Answers
import FieldStudy.Proofs.Run.Asking
import FieldStudy.Proofs.Run.Attended
import FieldStudy.Proofs.Run.Board
import FieldStudy.Proofs.Run.Bookings
import FieldStudy.Proofs.Run.Branches
import FieldStudy.Proofs.Run.Desk
import FieldStudy.Proofs.Run.Documents
import FieldStudy.Proofs.Run.Endings
import FieldStudy.Proofs.Run.Epochs
import FieldStudy.Proofs.Run.Events
import FieldStudy.Proofs.Run.Exchanges
import FieldStudy.Proofs.Run.ExecutionPoint
import FieldStudy.Proofs.Run.Executions
import FieldStudy.Proofs.Run.Failures
import FieldStudy.Proofs.Run.Filing
import FieldStudy.Proofs.Run.InTurn
import FieldStudy.Proofs.Run.Interruptions
import FieldStudy.Proofs.Run.Lasting
import FieldStudy.Proofs.Run.Ledger
import FieldStudy.Proofs.Run.Listeners
import FieldStudy.Proofs.Run.Microphones
import FieldStudy.Proofs.Run.Mirror
import FieldStudy.Proofs.Run.Modifies
import FieldStudy.Proofs.Run.Moves
import FieldStudy.Proofs.Run.OpenRecords
import FieldStudy.Proofs.Run.OpenRoutes
import FieldStudy.Proofs.Run.Origins
import FieldStudy.Proofs.Run.Periods
import FieldStudy.Proofs.Run.Places
import FieldStudy.Proofs.Run.Queue
import FieldStudy.Proofs.Run.Rebinding
import FieldStudy.Proofs.Run.Records
import FieldStudy.Proofs.Run.Recreations
import FieldStudy.Proofs.Run.Rehearsals
import FieldStudy.Proofs.Run.Reports
import FieldStudy.Proofs.Run.Restarts
import FieldStudy.Proofs.Run.Rig
import FieldStudy.Proofs.Run.RouteTables
import FieldStudy.Proofs.Run.Routing
import FieldStudy.Proofs.Run.Scheduler
import FieldStudy.Proofs.Run.Selection
import FieldStudy.Proofs.Run.Servicing
import FieldStudy.Proofs.Run.Settings
import FieldStudy.Proofs.Run.SharedFiles
import FieldStudy.Proofs.Run.Signals
import FieldStudy.Proofs.Run.Solitary
import FieldStudy.Proofs.Run.Steering
import FieldStudy.Proofs.Run.Storable
import FieldStudy.Proofs.Run.Stored
import FieldStudy.Proofs.Run.Stranded
import FieldStudy.Proofs.Run.Suspensions
import FieldStudy.Proofs.Run.Tidy
import FieldStudy.Proofs.Run.Transparency
import FieldStudy.Proofs.Run.Turns
import FieldStudy.Proofs.Run.TwinActions
import FieldStudy.Proofs.Run.TwinMoves
import FieldStudy.Proofs.Run.Twins
import FieldStudy.Proofs.Run.Waits
import FieldStudy.Proofs.Run.Walks
import FieldStudy.Proofs.Scenario.Definition
import FieldStudy.Proofs.Scenario.Metadata
import FieldStudy.Proofs.Session.Lifecycle
import FieldStudy.Proofs.Session.Start
import FieldStudy.Proofs.Storage.Contents
import FieldStudy.Proofs.Storage.FileLogger
import FieldStudy.Proofs.Storage.FileStore
import FieldStudy.Proofs.Storage.LoggerRuns
import FieldStudy.Proofs.Storage.Names
import FieldStudy.Proofs.Storage.Numbers
import FieldStudy.Proofs.Text.Lines
import FieldStudy.Proofs.Text.Placeholders
import FieldStudy.Proofs.Text.Utf8
import FieldStudy.Recording.Error
import FieldStudy.Recording.Layout
import FieldStudy.Recording.Reader
import FieldStudy.Recording.Writer
import FieldStudy.Run.Agenda
import FieldStudy.Run.Backend
import FieldStudy.Run.Basic
import FieldStudy.Run.Branch
import FieldStudy.Run.Ensemble
import FieldStudy.Run.Execute
import FieldStudy.Run.Lifecycle
import FieldStudy.Run.Prompts
import FieldStudy.Run.Records
import FieldStudy.Run.Roles
import FieldStudy.Run.Schedule
import FieldStudy.Run.Sensors
import FieldStudy.Run.Setup
import FieldStudy.Run.Signals
import FieldStudy.Run.Task
import FieldStudy.Scenario.Action
import FieldStudy.Scenario.Action.Printer
import FieldStudy.Scenario.Config
import FieldStudy.Scenario.Definition
import FieldStudy.Scenario.Error
import FieldStudy.Scenario.Metadata
import FieldStudy.Scenario.Notice
import FieldStudy.Scenario.Primitive
import FieldStudy.Session.Basic
import FieldStudy.Storage.FileLogger
import FieldStudy.Storage.FileName
import FieldStudy.Storage.FileStore
import FieldStudy.Storage.IoError
import FieldStudy.Text.Alphanumeric
import FieldStudy.Text.Blank
import FieldStudy.Text.Hex
import FieldStudy.Text.Placeholder
import FieldStudy.Text.Split
import FieldStudy.Text.Timestamp
import FieldStudy.Text.Utf8
