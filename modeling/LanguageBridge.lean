import LanguageBridge.Capabilities
import LanguageBridge.CommandLine
import LanguageBridge.Diagnostic
import LanguageBridge.Document
import LanguageBridge.Document.Sync
import LanguageBridge.Double
import LanguageBridge.Editor.Actions
import LanguageBridge.Editor.Commands
import LanguageBridge.Editor.Events
import LanguageBridge.Editor.Input
import LanguageBridge.Editor.WorkspaceEdits
import LanguageBridge.Expansion
import LanguageBridge.Extensions
import LanguageBridge.Failure
import LanguageBridge.FileTree
import LanguageBridge.FloatingWindow
import LanguageBridge.Host
import LanguageBridge.Json.Basic
import LanguageBridge.Json.Written
import LanguageBridge.Json.Parser
import LanguageBridge.Json.Printer
import LanguageBridge.Json.Shape
import LanguageBridge.LocationList
import LanguageBridge.Main
import LanguageBridge.Path
import LanguageBridge.Position
import LanguageBridge.Preview
import LanguageBridge.Program
import LanguageBridge.ProjectRoot
import LanguageBridge.Proofs.Absence.Gone
import LanguageBridge.Proofs.Arrival.Accounts
import LanguageBridge.Proofs.Arrival.Arrived
import LanguageBridge.Proofs.Arrival.Conduct
import LanguageBridge.Proofs.Arrival.Threads
import LanguageBridge.Proofs.Document.Attended
import LanguageBridge.Proofs.Document.Closing
import LanguageBridge.Proofs.Document.Effects
import LanguageBridge.Proofs.Document.Mirror
import LanguageBridge.Proofs.Document.Notice
import LanguageBridge.Proofs.Document.Ownership
import LanguageBridge.Proofs.Document.OwnText
import LanguageBridge.Proofs.Document.Texts
import LanguageBridge.Proofs.Document.Upkeep
import LanguageBridge.Proofs.Edit.Application
import LanguageBridge.Proofs.Edit.Cursor
import LanguageBridge.Proofs.Edit.EntryOrder
import LanguageBridge.Proofs.Edit.FileEnd
import LanguageBridge.Proofs.Edit.Order
import LanguageBridge.Proofs.Edit.Overlap
import LanguageBridge.Proofs.Edit.Refusal
import LanguageBridge.Proofs.Edit.Undo
import LanguageBridge.Proofs.Editor.Commit
import LanguageBridge.Proofs.Editor.Explained
import LanguageBridge.Proofs.Editor.HoverLines
import LanguageBridge.Proofs.Editor.Interleaving
import LanguageBridge.Proofs.Editor.Listing
import LanguageBridge.Proofs.Editor.Previews
import LanguageBridge.Proofs.Editor.Surfaces
import LanguageBridge.Proofs.Handover.InOrder
import LanguageBridge.Proofs.Places.Targets
import LanguageBridge.Proofs.Precedence.Asking
import LanguageBridge.Proofs.Restart.InStep
import LanguageBridge.Proofs.Rpc.Account
import LanguageBridge.Proofs.Rpc.Conversation
import LanguageBridge.Proofs.Rpc.Delivery
import LanguageBridge.Proofs.Rpc.Dropped
import LanguageBridge.Proofs.Rpc.Framing
import LanguageBridge.Proofs.Rpc.Messages
import LanguageBridge.Proofs.Rpc.Minutes
import LanguageBridge.Proofs.Rpc.ReaderSteps
import LanguageBridge.Proofs.Rpc.RequestSteps
import LanguageBridge.Proofs.Rpc.Shadow
import LanguageBridge.Proofs.Rpc.Termination
import LanguageBridge.Proofs.Rpc.Verdicts
import LanguageBridge.Proofs.Rpc.Waiters
import LanguageBridge.Proofs.Script.Runs
import LanguageBridge.Proofs.Server.Edits
import LanguageBridge.Proofs.Server.Forwarding
import LanguageBridge.Proofs.Session.Orderly
import LanguageBridge.Proofs.Session.Registrations
import LanguageBridge.Proofs.Session.Roots
import LanguageBridge.Proofs.Shutdown.Complete
import LanguageBridge.Proofs.Text.Lines
import LanguageBridge.Proofs.Text.Trim
import LanguageBridge.Proofs.Text.Utf8
import LanguageBridge.Proofs.Uri.FileNames
import LanguageBridge.Rehearsal
import LanguageBridge.Rpc.Connection
import LanguageBridge.Rpc.Frame
import LanguageBridge.Rpc.Message
import LanguageBridge.Rpc.Pending
import LanguageBridge.Script.Basic
import LanguageBridge.Script.System
import LanguageBridge.Script.World
import LanguageBridge.Server.Inbound
import LanguageBridge.Server.Requests
import LanguageBridge.Serving
import LanguageBridge.Session.Basic
import LanguageBridge.Session.Context
import LanguageBridge.Session.Queue
import LanguageBridge.Session.Start
import LanguageBridge.Session.Stop
import LanguageBridge.SessionKey
import LanguageBridge.Settings
import LanguageBridge.Symbol
import LanguageBridge.Table
import LanguageBridge.Text.Basic
import LanguageBridge.Text.Blank
import LanguageBridge.Text.Composed
import LanguageBridge.Text.Direction
import LanguageBridge.Text.Letters
import LanguageBridge.Text.Lines
import LanguageBridge.Text.Marks
import LanguageBridge.Text.Punycode
import LanguageBridge.Text.Visible
import LanguageBridge.Text.Utf8
import LanguageBridge.TextEdit
import LanguageBridge.Uri.Address
import LanguageBridge.Uri.Basic
import LanguageBridge.Uri.DomainName
import LanguageBridge.Uri.DomainName.Excluded
import LanguageBridge.Uri.DomainName.Expanded
import LanguageBridge.Uri.DomainName.Replaced
import LanguageBridge.Uri.Escape
import LanguageBridge.Uri.Parser
import LanguageBridge.Workspace
import LanguageBridge.WorkspaceEdit
