import WorkspaceDesk.Action.Arguments
import WorkspaceDesk.Action.Escape
import WorkspaceDesk.Action.Expression
import WorkspaceDesk.Action.Fault
import WorkspaceDesk.Action.Formatted
import WorkspaceDesk.Action.Literal
import WorkspaceDesk.Action.Parameters
import WorkspaceDesk.Action.Part
import WorkspaceDesk.Action.Reader
import WorkspaceDesk.Action.Token
import WorkspaceDesk.Command.Arguments
import WorkspaceDesk.Command.Desk
import WorkspaceDesk.Command.Grammar
import WorkspaceDesk.Command.Invocation
import WorkspaceDesk.Command.Manual
import WorkspaceDesk.Command.Profiles
import WorkspaceDesk.Command.Run
import WorkspaceDesk.Command.Usage
import WorkspaceDesk.Command.Workspaces
import WorkspaceDesk.Decimal.Binary64
import WorkspaceDesk.Decimal.Notation
import WorkspaceDesk.Decimal.Shortest
import WorkspaceDesk.Disk.Basic
import WorkspaceDesk.Disk.Home
import WorkspaceDesk.Disk.Path
import WorkspaceDesk.Json.Display
import WorkspaceDesk.Json.Field
import WorkspaceDesk.Json.Reader
import WorkspaceDesk.Json.Value
import WorkspaceDesk.Json.Writer
import WorkspaceDesk.Log
import WorkspaceDesk.Main
import WorkspaceDesk.Profile.Basic
import WorkspaceDesk.Profile.Config
import WorkspaceDesk.Profile.Directory
import WorkspaceDesk.Profile.Rows
import WorkspaceDesk.Profile.Store
import WorkspaceDesk.Prompt.Browse
import WorkspaceDesk.Prompt.Call
import WorkspaceDesk.Prompt.Choice
import WorkspaceDesk.Prompt.Run
import WorkspaceDesk.Proofs.Command.Arguments
import WorkspaceDesk.Proofs.Command.Changes
import WorkspaceDesk.Proofs.Command.Choices
import WorkspaceDesk.Proofs.Command.Completion
import WorkspaceDesk.Proofs.Command.Deletion
import WorkspaceDesk.Proofs.Command.Profiles
import WorkspaceDesk.Proofs.Decimal.Binary64
import WorkspaceDesk.Proofs.Disk.Basic
import WorkspaceDesk.Proofs.Disk.Directories
import WorkspaceDesk.Proofs.Except
import WorkspaceDesk.Proofs.Json.Bounds
import WorkspaceDesk.Proofs.Json.Nesting
import WorkspaceDesk.Proofs.Json.Numbers
import WorkspaceDesk.Proofs.Json.Pairs
import WorkspaceDesk.Proofs.Json.Strings
import WorkspaceDesk.Proofs.Json.Values
import WorkspaceDesk.Proofs.Profile.Active
import WorkspaceDesk.Proofs.Profile.Config
import WorkspaceDesk.Proofs.Profile.Failures
import WorkspaceDesk.Proofs.Profile.Rows
import WorkspaceDesk.Proofs.Profile.Saving
import WorkspaceDesk.Proofs.Profile.Sound
import WorkspaceDesk.Proofs.Profile.Store
import WorkspaceDesk.Proofs.Profile.Stored
import WorkspaceDesk.Proofs.Prompt.Batches
import WorkspaceDesk.Proofs.Prompt.Calls
import WorkspaceDesk.Proofs.Prompt.Choice
import WorkspaceDesk.Proofs.Prompt.Erasure
import WorkspaceDesk.Proofs.Prompt.Release
import WorkspaceDesk.Proofs.Prompt.Secrets
import WorkspaceDesk.Proofs.Prompt.Undisturbed
import WorkspaceDesk.Proofs.Service.Listing
import WorkspaceDesk.Proofs.Service.Removal
import WorkspaceDesk.Proofs.Ssh.Blocks
import WorkspaceDesk.Proofs.Ssh.Cleared
import WorkspaceDesk.Proofs.Ssh.Cuts
import WorkspaceDesk.Proofs.Ssh.Entries
import WorkspaceDesk.Proofs.Ssh.Lines
import WorkspaceDesk.Proofs.Ssh.Reading
import WorkspaceDesk.Proofs.Ssh.Removal
import WorkspaceDesk.Proofs.Table.Choosing
import WorkspaceDesk.Proofs.Table.Cursor
import WorkspaceDesk.Proofs.Table.Drawing
import WorkspaceDesk.Proofs.Table.Fitting
import WorkspaceDesk.Proofs.Table.Highlight
import WorkspaceDesk.Proofs.Table.Literal
import WorkspaceDesk.Proofs.Table.Markup
import WorkspaceDesk.Proofs.Table.Paging
import WorkspaceDesk.Proofs.Table.Placement
import WorkspaceDesk.Proofs.Table.Refusals
import WorkspaceDesk.Proofs.Table.Resizing
import WorkspaceDesk.Proofs.Table.Start
import WorkspaceDesk.Proofs.Table.Step
import WorkspaceDesk.Proofs.Table.Viewport
import WorkspaceDesk.Proofs.Table.Widths
import WorkspaceDesk.Proofs.Terminal.Reads
import WorkspaceDesk.Proofs.Terminal.Refusals
import WorkspaceDesk.Proofs.Terminal.Sequences
import WorkspaceDesk.Proofs.Terminal.Tokens
import WorkspaceDesk.Proofs.Text.Cells
import WorkspaceDesk.Proofs.Text.Layout
import WorkspaceDesk.Proofs.Text.LineEnds
import WorkspaceDesk.Proofs.Text.Lines
import WorkspaceDesk.Proofs.Text.Numeral
import WorkspaceDesk.Proofs.Text.Pattern
import WorkspaceDesk.Proofs.Text.Percent
import WorkspaceDesk.Proofs.Text.Utf8
import WorkspaceDesk.Service.Address
import WorkspaceDesk.Service.Authority
import WorkspaceDesk.Service.Client
import WorkspaceDesk.Service.Exchange
import WorkspaceDesk.Service.Workspace
import WorkspaceDesk.Ssh.Entries
import WorkspaceDesk.Table.Cell
import WorkspaceDesk.Table.Clamp
import WorkspaceDesk.Table.Column
import WorkspaceDesk.Table.Console
import WorkspaceDesk.Table.Cursor
import WorkspaceDesk.Table.Drawing
import WorkspaceDesk.Table.Key
import WorkspaceDesk.Table.Markup
import WorkspaceDesk.Table.Reader
import WorkspaceDesk.Table.Session
import WorkspaceDesk.Table.View
import WorkspaceDesk.Terminal.KeyCode
import WorkspaceDesk.Terminal.Link
import WorkspaceDesk.Terminal.Screen
import WorkspaceDesk.Text.Blank
import WorkspaceDesk.Text.Cased
import WorkspaceDesk.Text.CellWidth
import WorkspaceDesk.Text.CodePoints
import WorkspaceDesk.Text.Digit
import WorkspaceDesk.Text.Hex
import WorkspaceDesk.Text.Layout
import WorkspaceDesk.Text.Line
import WorkspaceDesk.Text.LowerCase
import WorkspaceDesk.Text.NameChar
import WorkspaceDesk.Text.Numeral
import WorkspaceDesk.Text.Paragraph
import WorkspaceDesk.Text.Pattern
import WorkspaceDesk.Text.Percent
import WorkspaceDesk.Text.Printable
import WorkspaceDesk.Text.Quoted
import WorkspaceDesk.Text.Utf8
