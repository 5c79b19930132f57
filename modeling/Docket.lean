import Docket.Actor
import Docket.Board
import Docket.Column
import Docket.Command.Arguments
import Docket.Command.Basic
import Docket.Command.Deed
import Docket.Command.Lines
import Docket.Command.Perform
import Docket.Command.Pick
import Docket.Desk
import Docket.Destination
import Docket.Dialogue
import Docket.Errand
import Docket.Failure
import Docket.Files
import Docket.Files.Deed
import Docket.Http.Call
import Docket.Http.Client
import Docket.Http.Connection
import Docket.Http.Domain
import Docket.Http.Domain.Table
import Docket.Http.Host
import Docket.Http.Link
import Docket.Http.Path
import Docket.Http.Percent
import Docket.Http.Plan
import Docket.Http.Presence
import Docket.Http.Punycode
import Docket.Http.Script
import Docket.Http.Status
import Docket.Http.Url
import Docket.Ident
import Docket.Json.Basic
import Docket.Json.Decimal
import Docket.Json.Reader
import Docket.Main
import Docket.MimeType
import Docket.MoveFlow
import Docket.Ownership
import Docket.Presence.Backoff
import Docket.Presence.Cursor
import Docket.Presence.Liveness
import Docket.Presence.Poller
import Docket.Presence.Poller.Calls
import Docket.Presence.Poller.Run
import Docket.Presence.Script
import Docket.Presence.Typing
import Docket.Presence.Typing.Run
import Docket.Proofs.Board
import Docket.Proofs.Command.Arguments
import Docket.Proofs.Command.Course
import Docket.Proofs.Command.Guard
import Docket.Proofs.Command.Layout
import Docket.Proofs.Command.Move
import Docket.Proofs.Command.Pick
import Docket.Proofs.Command.Reading
import Docket.Proofs.Command.Said
import Docket.Proofs.Desk.Change
import Docket.Proofs.Desk.Guard
import Docket.Proofs.Destination
import Docket.Proofs.Dialogue.Course
import Docket.Proofs.Files
import Docket.Proofs.FirstOfEach
import Docket.Proofs.Http.Gather
import Docket.Proofs.Http.Link
import Docket.Proofs.Http.Path
import Docket.Proofs.Http.Percent
import Docket.Proofs.Http.Place
import Docket.Proofs.Http.Retry
import Docket.Proofs.Http.Workspace
import Docket.Proofs.Json.Arranged
import Docket.Proofs.MoveFlow.Agreement
import Docket.Proofs.MoveFlow.Choice
import Docket.Proofs.MoveFlow.Story
import Docket.Proofs.Presence.Backoff
import Docket.Proofs.Presence.Calls
import Docket.Proofs.Presence.Cursor
import Docket.Proofs.Presence.Diary
import Docket.Proofs.Presence.Heartbeat
import Docket.Proofs.Presence.Nudges
import Docket.Proofs.Presence.Pace
import Docket.Proofs.Presence.Poller
import Docket.Proofs.Presence.Polling
import Docket.Proofs.Presence.Record
import Docket.Proofs.Presence.Schedule
import Docket.Proofs.Presence.Sequel
import Docket.Proofs.Presence.Sessions
import Docket.Proofs.Presence.Shutdown
import Docket.Proofs.Presence.Signaler
import Docket.Proofs.Presence.Signaling
import Docket.Proofs.Presence.Snapshot
import Docket.Proofs.Presence.Stance
import Docket.Proofs.Presence.Turn
import Docket.Proofs.Settings.Backoff
import Docket.Proofs.Settings.Mending
import Docket.Proofs.Settings.Repair
import Docket.Proofs.Settings.Store
import Docket.Proofs.Sheet.Identities
import Docket.Proofs.Sheet.Edits
import Docket.Proofs.Sheet.Locks
import Docket.Proofs.Sheet.Merge
import Docket.Proofs.Sheet.Moves
import Docket.Proofs.Sheet.Template
import Docket.Proofs.Sheet.Values
import Docket.Proofs.Stamp.Calendar
import Docket.Proofs.Stamp.Digits
import Docket.Proofs.Stamp.Later
import Docket.Proofs.Stamp.Order
import Docket.Proofs.Stamp.Range
import Docket.Proofs.Stamp.Spelling
import Docket.Proofs.Stamp.Writing
import Docket.Proofs.Terminal.Move
import Docket.Proofs.Text.Blank
import Docket.Proofs.Text.Lowercase
import Docket.Proofs.Text.Number
import Docket.Proofs.Text.Split
import Docket.Proofs.Text.Utf8
import Docket.Proofs.Timeline
import Docket.Proofs.Watch.Basic
import Docket.Proofs.Watch.Follow
import Docket.Proofs.Watch.Once
import Docket.Proofs.Wire.Kinds
import Docket.Proofs.Wire.Names
import Docket.Proofs.Wire.Record
import Docket.Proofs.Workflow.Answers
import Docket.Proofs.Workflow.Checked
import Docket.Proofs.Workflow.Deadline
import Docket.Proofs.Workflow.Demands
import Docket.Proofs.Workflow.Drop
import Docket.Proofs.Workflow.Graph
import Docket.Proofs.Workflow.Route
import Docket.Reply
import Docket.Request
import Docket.Settings.Basic
import Docket.Settings.Mending
import Docket.Settings.Repair
import Docket.Settings.Store
import Docket.Sheet.Basic
import Docket.Sheet.Editing
import Docket.Sheet.InPlace
import Docket.Span
import Docket.Stamp.Basic
import Docket.Stamp.Date
import Docket.Terminal.Basic
import Docket.Terminal.Compose
import Docket.Terminal.Keyboard
import Docket.Text.Ascii
import Docket.Text.Blank
import Docket.Text.Composed
import Docket.Text.Composed.Table
import Docket.Text.Direction
import Docket.Text.Hex
import Docket.Text.Joining
import Docket.Text.Lowercase
import Docket.Text.Lowercase.Table
import Docket.Text.Mark
import Docket.Text.Mark.Table
import Docket.Text.Number
import Docket.Text.Printable
import Docket.Text.Quoted
import Docket.Text.Spelling
import Docket.Text.Split
import Docket.Text.Utf8
import Docket.Timeline
import Docket.Toml.Reader
import Docket.Toml.Table
import Docket.Toml.Writer
import Docket.Watch.Basic
import Docket.Watch.Notice
import Docket.Watch.Run
import Docket.Wire.Board
import Docket.Wire.Codec
import Docket.Wire.Liveness
import Docket.Wire.Names
import Docket.Wire.Record
import Docket.Wire.Settings
import Docket.Wire.Sheet
import Docket.Wire.Workflow
import Docket.Wire.Workspace
import Docket.Workflow.Basic
import Docket.Workflow.Graph
import Docket.Workflow.Route
import Docket.Workspace
