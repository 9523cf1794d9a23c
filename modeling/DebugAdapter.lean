import DebugAdapter.Breakpoints
import DebugAdapter.CommandLine.Launch
import DebugAdapter.CommandLine.Options
import DebugAdapter.Config.Document
import DebugAdapter.Config.Settings
import DebugAdapter.Console
import DebugAdapter.Conventions
import DebugAdapter.Failure
import DebugAdapter.Json.Basic
import DebugAdapter.Json.Number
import DebugAdapter.Json.Parser
import DebugAdapter.Json.Printer
import DebugAdapter.Main
import DebugAdapter.Net.DomainName
import DebugAdapter.Net.Endpoint
import DebugAdapter.Net.HostName
import DebugAdapter.Net.IpAddress
import DebugAdapter.Net.Punycode
import DebugAdapter.Number.Binary64
import DebugAdapter.Number.Decimal
import DebugAdapter.Number.Reading
import DebugAdapter.Number.Shortest
import DebugAdapter.Paths.Components
import DebugAdapter.Paths.FileUrl
import DebugAdapter.Pattern.Check
import DebugAdapter.Pattern.Form
import DebugAdapter.Pattern.Meaning
import DebugAdapter.Pattern.Parser
import DebugAdapter.Pattern.Program
import DebugAdapter.Pattern.Properties
import DebugAdapter.Pattern.Rejection
import DebugAdapter.Pattern.Span
import DebugAdapter.Pattern.Tree
import DebugAdapter.Proofs.Breakpoints.ClientLines
import DebugAdapter.Proofs.Breakpoints.ClientPaths
import DebugAdapter.Proofs.Breakpoints.Installed
import DebugAdapter.Proofs.Console.Spelling
import DebugAdapter.Proofs.InPlace
import DebugAdapter.Proofs.Json.Depth
import DebugAdapter.Proofs.Json.Members
import DebugAdapter.Proofs.Json.RoundTrip
import DebugAdapter.Proofs.Json.Tokens
import DebugAdapter.Proofs.Machine.Handles
import DebugAdapter.Proofs.Machine.Inspection
import DebugAdapter.Proofs.Machine.Lines
import DebugAdapter.Proofs.Machine.Rows
import DebugAdapter.Proofs.Machine.Sessions
import DebugAdapter.Proofs.Machine.Stack
import DebugAdapter.Proofs.Machine.Words
import DebugAdapter.Proofs.Paths.Escapes
import DebugAdapter.Proofs.Paths.RoundTrip
import DebugAdapter.Proofs.Protocol.Cuts
import DebugAdapter.Proofs.Protocol.Frames
import DebugAdapter.Proofs.Protocol.Queue
import DebugAdapter.Proofs.Protocol.Truncation
import DebugAdapter.Proofs.Reload.Agreement
import DebugAdapter.Proofs.Reload.Burst
import DebugAdapter.Proofs.Reload.Failures
import DebugAdapter.Proofs.Reload.Hosts
import DebugAdapter.Proofs.Reload.Ports
import DebugAdapter.Proofs.Reload.Run
import DebugAdapter.Proofs.Reload.Tracking
import DebugAdapter.Proofs.Reload.Windows
import DebugAdapter.Proofs.Server.Delivery
import DebugAdapter.Proofs.Server.Disposal
import DebugAdapter.Proofs.Server.Hooks
import DebugAdapter.Proofs.Server.Lineup
import DebugAdapter.Proofs.Server.Locality
import DebugAdapter.Proofs.Server.Offers
import DebugAdapter.Proofs.Server.Operations
import DebugAdapter.Proofs.Server.Ports
import DebugAdapter.Proofs.Server.Restarts
import DebugAdapter.Proofs.Server.Rollback
import DebugAdapter.Proofs.Server.Run
import DebugAdapter.Proofs.Server.Steps
import DebugAdapter.Proofs.Server.Turnover
import DebugAdapter.Proofs.Session.Activations
import DebugAdapter.Proofs.Session.Coherence
import DebugAdapter.Proofs.Session.Conduct
import DebugAdapter.Proofs.Session.Conservation
import DebugAdapter.Proofs.Session.Evaluations
import DebugAdapter.Proofs.Session.Finality
import DebugAdapter.Proofs.Session.FrameScopes
import DebugAdapter.Proofs.Session.Freshness
import DebugAdapter.Proofs.Session.HandleLifetime
import DebugAdapter.Proofs.Session.Handlers
import DebugAdapter.Proofs.Session.Inquiries
import DebugAdapter.Proofs.Session.Introduction
import DebugAdapter.Proofs.Session.Issuing
import DebugAdapter.Proofs.Session.Phases
import DebugAdapter.Proofs.Session.Refusals
import DebugAdapter.Proofs.Session.Reports
import DebugAdapter.Proofs.Session.Run
import DebugAdapter.Proofs.Session.Scopes
import DebugAdapter.Proofs.Session.Serving
import DebugAdapter.Proofs.Session.Settlement
import DebugAdapter.Proofs.Session.Sharing
import DebugAdapter.Proofs.Session.Stops
import DebugAdapter.Proofs.StackTrace.Frames
import DebugAdapter.Proofs.StackTrace.Paging
import DebugAdapter.Proofs.Text.Decoding
import DebugAdapter.Proofs.Text.Encoding
import DebugAdapter.Proofs.Text.Quoting
import DebugAdapter.Proofs.Text.Trimming
import DebugAdapter.Proofs.Variables.Codec
import DebugAdapter.Proofs.Variables.Expansion
import DebugAdapter.Proofs.Variables.Issues
import DebugAdapter.Proofs.Variables.Names
import DebugAdapter.Proofs.Variables.Slots
import DebugAdapter.Protocol.Framing
import DebugAdapter.Protocol.Message
import DebugAdapter.Protocol.Stream
import DebugAdapter.Reload.Coordinator
import DebugAdapter.Reload.Debounce
import DebugAdapter.Reload.Generations
import DebugAdapter.Script.Debuggee
import DebugAdapter.Script.Target
import DebugAdapter.Script.Value
import DebugAdapter.Server.Basic
import DebugAdapter.Server.Connection
import DebugAdapter.Server.Log
import DebugAdapter.Server.Registry
import DebugAdapter.Session.Basic
import DebugAdapter.Session.Command
import DebugAdapter.Session.Hub
import DebugAdapter.Session.Inspection
import DebugAdapter.Session.Report
import DebugAdapter.Session.State
import DebugAdapter.StackTrace
import DebugAdapter.Text.Blank
import DebugAdapter.Text.Letters
import DebugAdapter.Text.Printable
import DebugAdapter.Text.Quoted
import DebugAdapter.Text.Utf8
import DebugAdapter.Unicode.Age
import DebugAdapter.Unicode.Boundary
import DebugAdapter.Unicode.ByteRange
import DebugAdapter.Unicode.Category
import DebugAdapter.Unicode.CodeMap
import DebugAdapter.Unicode.CodeSet
import DebugAdapter.Unicode.Combining
import DebugAdapter.Unicode.Decomposition
import DebugAdapter.Unicode.Direction
import DebugAdapter.Unicode.Edition
import DebugAdapter.Unicode.Folding
import DebugAdapter.Unicode.Joining
import DebugAdapter.Unicode.Normalization
import DebugAdapter.Unicode.PlainForm
import DebugAdapter.Unicode.Property
import DebugAdapter.Unicode.Script
import DebugAdapter.Unicode.ValueTable
import DebugAdapter.Variables.Ref
import DebugAdapter.Variables.Rows
import DebugAdapter.Variables.Table
