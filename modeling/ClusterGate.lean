import ClusterGate.Act
import ClusterGate.Cli.Arguments
import ClusterGate.Cli.Invocation
import ClusterGate.Cli.LogFilter
import ClusterGate.Cli.Report
import ClusterGate.Cli.Task
import ClusterGate.Command
import ClusterGate.Config
import ClusterGate.Config.Document
import ClusterGate.Dict
import ClusterGate.Driver
import ClusterGate.Driver.Request
import ClusterGate.Driver.Result
import ClusterGate.Driver.Scripted
import ClusterGate.Gate.Basic
import ClusterGate.Gate.Connect
import ClusterGate.Gate.Intercept
import ClusterGate.Host
import ClusterGate.Host.Listing
import ClusterGate.Json
import ClusterGate.Json.Number
import ClusterGate.Json.Reader
import ClusterGate.Log
import ClusterGate.Main
import ClusterGate.Pattern
import ClusterGate.Pattern.Bracket
import ClusterGate.Pattern.Depth
import ClusterGate.Pattern.Escape
import ClusterGate.Pattern.Group
import ClusterGate.Policy
import ClusterGate.Postgres.Cell
import ClusterGate.Postgres.Link
import ClusterGate.Postgres.Provider
import ClusterGate.Postgres.Scripted
import ClusterGate.Postgres.Server
import ClusterGate.Postgres.Statement
import ClusterGate.Postgres.Target
import ClusterGate.Probe
import ClusterGate.Proofs.AfterClose
import ClusterGate.Proofs.Changes
import ClusterGate.Proofs.Clock
import ClusterGate.Proofs.ClosedLine
import ClusterGate.Proofs.CommandRoute
import ClusterGate.Proofs.Companions
import ClusterGate.Proofs.Contacts
import ClusterGate.Proofs.Dictionary
import ClusterGate.Proofs.Elsewhere
import ClusterGate.Proofs.Emission
import ClusterGate.Proofs.EngineFlag
import ClusterGate.Proofs.FailedConnect
import ClusterGate.Proofs.Frame
import ClusterGate.Proofs.Grammar
import ClusterGate.Proofs.History
import ClusterGate.Proofs.HostLists
import ClusterGate.Proofs.HostMaps
import ClusterGate.Proofs.HostTable
import ClusterGate.Proofs.Inquiries
import ClusterGate.Proofs.Interception
import ClusterGate.Proofs.Isolation
import ClusterGate.Proofs.JudgedZone
import ClusterGate.Proofs.Likeness
import ClusterGate.Proofs.MatchedCalls
import ClusterGate.Proofs.Mirroring
import ClusterGate.Proofs.Namespaces
import ClusterGate.Proofs.NewTopology
import ClusterGate.Proofs.Numerals
import ClusterGate.Proofs.Opening
import ClusterGate.Proofs.Overlay
import ClusterGate.Proofs.Overtaken
import ClusterGate.Proofs.Patterns
import ClusterGate.Proofs.PreferredZone
import ClusterGate.Proofs.ProbeHistory
import ClusterGate.Proofs.Probing
import ClusterGate.Proofs.Provenance
import ClusterGate.Proofs.Recognition
import ClusterGate.Proofs.RecordLife
import ClusterGate.Proofs.RefusalInBlock
import ClusterGate.Proofs.Retired
import ClusterGate.Proofs.Run
import ClusterGate.Proofs.ScriptedHosts
import ClusterGate.Proofs.SessionHistory
import ClusterGate.Proofs.Sight
import ClusterGate.Proofs.Spacing
import ClusterGate.Proofs.StatementCalls
import ClusterGate.Proofs.StrictTask
import ClusterGate.Proofs.Strictness
import ClusterGate.Proofs.Sweeping
import ClusterGate.Proofs.Transaction
import ClusterGate.Proofs.Transparency
import ClusterGate.Proofs.Trimming
import ClusterGate.Proofs.VersionLine
import ClusterGate.Proofs.WriterReport
import ClusterGate.Proofs.ZoneCoherence
import ClusterGate.Proofs.ZoneNames
import ClusterGate.Record
import ClusterGate.Session
import ClusterGate.Text.Blank
import ClusterGate.Text.Calendar
import ClusterGate.Text.Case
import ClusterGate.Text.Composition
import ClusterGate.Text.Decimal
import ClusterGate.Text.Direction
import ClusterGate.Text.Fold
import ClusterGate.Text.Joining
import ClusterGate.Text.Letter
import ClusterGate.Text.Mark
import ClusterGate.Text.Printable
import ClusterGate.Text.Quoted
import ClusterGate.Text.Ranges
import ClusterGate.Text.Shortest
import ClusterGate.Text.Split
import ClusterGate.Text.Utf8
import ClusterGate.Tracker
import ClusterGate.Url
import ClusterGate.Url.Address
import ClusterGate.Url.Domain
import ClusterGate.Url.Image
import ClusterGate.Url.Path
import ClusterGate.Url.Percent
import ClusterGate.Url.Punycode
import ClusterGate.Version
import ClusterGate.Yaml.Cursor
import ClusterGate.Yaml.Document
import ClusterGate.Yaml.Fault
import ClusterGate.Yaml.Scalar
import ClusterGate.Yaml.Tag
import ClusterGate.Yaml.Token
import ClusterGate.Zone.HostMap
import ClusterGate.Zone.Name
import ClusterGate.Zone.Settings
