import ProviderRouting.Clock
import ProviderRouting.CommandLine.Arguments
import ProviderRouting.CommandLine.Run
import ProviderRouting.ConfigError
import ProviderRouting.Configuration
import ProviderRouting.ConfigurationFile
import ProviderRouting.Decimal
import ProviderRouting.Decode
import ProviderRouting.Document
import ProviderRouting.Engine.Basic
import ProviderRouting.Engine.Record
import ProviderRouting.Engine.Select
import ProviderRouting.Event
import ProviderRouting.Files.Basic
import ProviderRouting.Files.Replacement
import ProviderRouting.HealthWeight
import ProviderRouting.Json.Parser
import ProviderRouting.Json.Printer
import ProviderRouting.Json.Token
import ProviderRouting.Literal
import ProviderRouting.LogLevel
import ProviderRouting.Main
import ProviderRouting.Metrics
import ProviderRouting.Millis
import ProviderRouting.Pattern.Basic
import ProviderRouting.Pattern.Bracket
import ProviderRouting.Pattern.CharSet
import ProviderRouting.Pattern.Escape
import ProviderRouting.Pattern.Parser
import ProviderRouting.Pattern.Property
import ProviderRouting.PersistentEngine
import ProviderRouting.PriorityOrder
import ProviderRouting.Proofs.Choosing
import ProviderRouting.Proofs.Engine.Blocking
import ProviderRouting.Proofs.Engine.Directives
import ProviderRouting.Proofs.Engine.Run
import ProviderRouting.Proofs.Engine.Selection
import ProviderRouting.Proofs.Engine.Soundness
import ProviderRouting.Proofs.Engine.Tiers
import ProviderRouting.Proofs.Quota.Escalation
import ProviderRouting.Proofs.Quota.History
import ProviderRouting.Proofs.Quota.Windows
import ProviderRouting.Proofs.Computation
import ProviderRouting.Proofs.Routes
import ProviderRouting.ProviderKey
import ProviderRouting.Quota.Entry
import ProviderRouting.Quota.Ledger
import ProviderRouting.Quota.Settings
import ProviderRouting.Request
import ProviderRouting.Rotation
import ProviderRouting.Routes
import ProviderRouting.RoutingError
import ProviderRouting.Script.Simulation
import ProviderRouting.Script.Step
import ProviderRouting.Selector
import ProviderRouting.Series.Guard
import ProviderRouting.Series.Settings
import ProviderRouting.Session
import ProviderRouting.Snapshot
import ProviderRouting.SnapshotStore
import ProviderRouting.Table
import ProviderRouting.Text.Blank
import ProviderRouting.Text.CaseTable
import ProviderRouting.Text.CategoryTable
import ProviderRouting.Text.ClassTable
import ProviderRouting.Text.Lowercase
import ProviderRouting.Toml.Parser
import ProviderRouting.Toml.Scalar
import ProviderRouting.Toml.Table
import ProviderRouting.Toml.Text
import ProviderRouting.Yaml.BlockScalar
import ProviderRouting.Yaml.Folded
import ProviderRouting.Yaml.Layout
import ProviderRouting.Yaml.Parser
import ProviderRouting.Yaml.Plain
import ProviderRouting.Yaml.Quoted
import ProviderRouting.Yaml.Spot
import ProviderRouting.Yaml.Tags
import ProviderRouting.Yaml.Token
import ProviderRouting.Proofs.Rotation.Turns
import ProviderRouting.Proofs.Rotation.Liveness
import ProviderRouting.Proofs.Rotation.Starvation
import ProviderRouting.Proofs.Session.Bindings
import ProviderRouting.Proofs.Configuration
import ProviderRouting.Proofs.Engine.Answers
import ProviderRouting.Proofs.Snapshot
import ProviderRouting.Proofs.Engine.KnownKeys
import ProviderRouting.Proofs.Engine.Restart
import ProviderRouting.Proofs.Engine.StaticSettings
import ProviderRouting.Proofs.Engine.Loading
import ProviderRouting.Proofs.Engine.Steering
import ProviderRouting.Proofs.Json.Scanning
import ProviderRouting.Proofs.Json.Numbers
import ProviderRouting.Proofs.Decimal
import ProviderRouting.Proofs.Quota.Share
import ProviderRouting.Proofs.Json.Reading
import ProviderRouting.Proofs.Decode
import ProviderRouting.Proofs.Quota.Encoding
import ProviderRouting.Proofs.SnapshotStore
import ProviderRouting.Proofs.Files
import ProviderRouting.Proofs.Engine.Revision
import ProviderRouting.Proofs.Engine.Resumption
import ProviderRouting.Proofs.Script
import ProviderRouting.Proofs.CommandLine
import ProviderRouting.Proofs.Table
import ProviderRouting.Proofs.ProviderKey
import ProviderRouting.Proofs.Session.Calls
import ProviderRouting.Proofs.Engine.Publishing
import ProviderRouting.Proofs.Engine.Restoring
import ProviderRouting.Proofs.Flushing
import ProviderRouting.Proofs.Quota.Interleaving
import ProviderRouting.Proofs.Ranks
import ProviderRouting.Proofs.Engine.Ranking
import ProviderRouting.Proofs.Engine.Frame
import ProviderRouting.Proofs.Engine.Attaching
import ProviderRouting.Proofs.Series.Cooling
import ProviderRouting.Proofs.Series.Naming
import ProviderRouting.Proofs.Engine.Isolation
import ProviderRouting.Proofs.Compiling
import ProviderRouting.Proofs.Rotation.Shares
import ProviderRouting.Proofs.PriorityOrder
import ProviderRouting.Proofs.Quota.Usage
import ProviderRouting.Proofs.Quota.Metering
import ProviderRouting.Proofs.SnapshotFormat
import ProviderRouting.Proofs.PriorityScores
import ProviderRouting.Proofs.Session.Answers
import ProviderRouting.Proofs.Session.Failures
import ProviderRouting.Proofs.Session.Filters
import ProviderRouting.Proofs.Quota.Parts
import ProviderRouting.Proofs.Quota.Looking
import ProviderRouting.Proofs.Quota.Causes
import ProviderRouting.Proofs.Quota.Returning
import ProviderRouting.Proofs.Quota.Consistency
import ProviderRouting.Proofs.Series.Avoiding
import ProviderRouting.Proofs.Replacing
import ProviderRouting.Proofs.Metrics
import ProviderRouting.Proofs.Engine.Counting
import ProviderRouting.Proofs.Engine.Accounting
import ProviderRouting.Proofs.Lowercase
import ProviderRouting.Proofs.Series.Ends
import ProviderRouting.Proofs.Series.Calls
