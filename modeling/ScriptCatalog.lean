import ScriptCatalog.Main
import ScriptCatalog.Script.Reader
import ScriptCatalog.Proofs.Command.Quoting
import ScriptCatalog.Proofs.Command.Token
import ScriptCatalog.Proofs.Act
import ScriptCatalog.Proofs.Fault
import ScriptCatalog.Proofs.Script.Access
import ScriptCatalog.Proofs.Command.Rendering
import ScriptCatalog.Proofs.Command.ReadBack
import ScriptCatalog.Proofs.Script.Storing
import ScriptCatalog.Proofs.Runner.Recording
import ScriptCatalog.Proofs.Runner.Noninteractive
import ScriptCatalog.Proofs.Script.Agreement
import ScriptCatalog.Proofs.Script.Leading
import ScriptCatalog.Proofs.Script.Binding
import ScriptCatalog.Proofs.Runner.Replay
import ScriptCatalog.Proofs.Keyed
import ScriptCatalog.Proofs.Script.Outline
import ScriptCatalog.Proofs.Catalog.Operations
import ScriptCatalog.Proofs.Catalog.Sync
import ScriptCatalog.Proofs.Catalog.Reachable
import ScriptCatalog.Proofs.Argument.Payload
import ScriptCatalog.Proofs.Argument.Carried
import ScriptCatalog.Proofs.Runner.Hosted
import ScriptCatalog.Proofs.Runner.Declared
import ScriptCatalog.Proofs.Runner.Unobserved
import ScriptCatalog.Proofs.Workspace.Parts
import ScriptCatalog.Proofs.Workspace.Kept
import ScriptCatalog.Proofs.Workspace.Selections
import ScriptCatalog.Proofs.Catalog.Failing
import ScriptCatalog.Proofs.Script.Serviceable
import ScriptCatalog.Proofs.Tool.Lines
import ScriptCatalog.Proofs.Tool.Settings
import ScriptCatalog.Proofs.Script.Definition
import ScriptCatalog.Proofs.Catalog.Filled
import ScriptCatalog.Proofs.Tool.Loading
import ScriptCatalog.Proofs.Tool.Presenting
import ScriptCatalog.Proofs.Tool.CommandLine
import ScriptCatalog.Proofs.Tool.Running
import ScriptCatalog.Proofs.Tool.Reports
import ScriptCatalog.Proofs.Argument.Faults
import ScriptCatalog.Proofs.Script.Holding
import ScriptCatalog.Proofs.Runner.Holding
import ScriptCatalog.Proofs.Catalog.Holding
import ScriptCatalog.Proofs.Workspace.Use
import ScriptCatalog.Proofs.Workspace.Holding
import ScriptCatalog.Proofs.Workspace.Exclusion
import ScriptCatalog.Proofs.Runner.Destroyed
import ScriptCatalog.Proofs.Catalog.Destroyed
import ScriptCatalog.Proofs.Workspace.Destroyed
import ScriptCatalog.Proofs.Config.Files
import ScriptCatalog.Proofs.Config.Outcomes
import ScriptCatalog.Proofs.Config.Reached
import ScriptCatalog.Proofs.Config.Shipped
import ScriptCatalog.Proofs.Runner.Mirrored
import ScriptCatalog.Proofs.Workspace.Listeners
import ScriptCatalog.Proofs.Workspace.Mirrored
import ScriptCatalog.Proofs.Number.Nearest
import ScriptCatalog.Proofs.Number.Numeral
import ScriptCatalog.Proofs.Json.Numbers
import ScriptCatalog.Proofs.Json.Texts
import ScriptCatalog.Proofs.Json.Digits
import ScriptCatalog.Proofs.Json.ReadBack
import ScriptCatalog.Proofs.Config.Saved
import ScriptCatalog.Proofs.Config.Defaults
import ScriptCatalog.Proofs.Workspace.Reopened
import ScriptCatalog.Proofs.Config.Loaded
import ScriptCatalog.Proofs.Workspace.Opened
import ScriptCatalog.Proofs.Workspace.Configured
import ScriptCatalog.Proofs.Workspace.Saving
import ScriptCatalog.Proofs.Workspace.Bounds
import ScriptCatalog.Proofs.Procedure.Addressed
import ScriptCatalog.Proofs.Script.Restored
import ScriptCatalog.Proofs.Workspace.Interrupted
import ScriptCatalog.Proofs.Runner.Identified
import ScriptCatalog.Proofs.Text.Markers
import ScriptCatalog.Proofs.Config.Ranges
import ScriptCatalog.Proofs.Command.Parts
import ScriptCatalog.Proofs.Number.Placed
import ScriptCatalog.Proofs.Script.Numbered
import ScriptCatalog.Proofs.Runner.Numbered
import ScriptCatalog.Proofs.History.Newest
import ScriptCatalog.Proofs.Text.Titles
import ScriptCatalog.Proofs.Script.Unfilled
import ScriptCatalog.Proofs.Config.Connected
import ScriptCatalog.Proofs.Workspace.Notified
import ScriptCatalog.Proofs.Text.Escaped
import ScriptCatalog.Proofs.Number.Rounded
import ScriptCatalog.Proofs.Number.Fixed
