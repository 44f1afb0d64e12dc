import Testbed.Address
import Testbed.Assoc
import Testbed.Bootstrap
import Testbed.Client
import Testbed.Client.Error
import Testbed.Client.KeepAlive
import Testbed.Client.Lazy
import Testbed.Codec
import Testbed.CommandLine
import Testbed.CommandLine.Arguments
import Testbed.Console
import Testbed.Container
import Testbed.Container.Block
import Testbed.Container.Failure
import Testbed.Container.Provider
import Testbed.Container.Runtime
import Testbed.Container.Spec
import Testbed.Dict
import Testbed.Domain
import Testbed.Domain.Direction
import Testbed.Domain.Joining
import Testbed.Domain.Mapping
import Testbed.Domain.MappingTable
import Testbed.Domain.Mark
import Testbed.Domain.Punycode
import Testbed.Environment
import Testbed.Files
import Testbed.Files.Failure
import Testbed.Files.Path
import Testbed.Host
import Testbed.Http
import Testbed.Main
import Testbed.Message
import Testbed.Provider
import Testbed.Registry
import Testbed.Registry.Shared
import Testbed.Rehearsal.Daemon
import Testbed.Rehearsal.Machine
import Testbed.Rehearsal.Script
import Testbed.Rehearsal.Stage
import Testbed.Rehearsal.StandIn
import Testbed.Rehearsal.Surroundings
import Testbed.Report
import Testbed.Resolution
import Testbed.Scope
import Testbed.Server
import Testbed.Server.Access
import Testbed.Server.Idle
import Testbed.Server.Launch
import Testbed.Server.Route
import Testbed.Settings
import Testbed.Settings.Store
import Testbed.Site
import Testbed.Text.Blank
import Testbed.Text.Canonical
import Testbed.Text.CodePoints
import Testbed.Text.CombiningClass
import Testbed.Text.Composite
import Testbed.Text.Decimal
import Testbed.Text.Hexadecimal
import Testbed.Text.Json
import Testbed.Text.Percent
import Testbed.Text.Quoted
import Testbed.Text.Split
import Testbed.Text.Unprintable
import Testbed.Text.Utf8
import Testbed.Url
import Testbed.Url.Error
import Testbed.Url.Host
import Testbed.Url.Path
import Testbed.Url.Scheme
import Testbed.Value
import Testbed.Proofs.Registry.Views
import Testbed.Proofs.Registry.Consistent
import Testbed.Proofs.Registry.Failure
import Testbed.Proofs.Registry.Accounts
import Testbed.Proofs.Registry.Interleaving
import Testbed.Proofs.Registry.Exclusion
import Testbed.Proofs.Registry.Sharing
import Testbed.Proofs.Registry.Searches
import Testbed.Proofs.Registry.History
import Testbed.Proofs.Registry.Teardown
import Testbed.Proofs.Registry.Keys
import Testbed.Proofs.Resolution.Steps
import Testbed.Proofs.Resolution.Rule
import Testbed.Proofs.Resolution.Order
import Testbed.Proofs.Resolution.FirstAnswer
import Testbed.Proofs.Resolution.Chains
import Testbed.Proofs.Resolution.Comparison
import Testbed.Proofs.Resolution.Calls
import Testbed.Proofs.Resolution.Sanitized
import Testbed.Proofs.Resolution.Known
import Testbed.Proofs.Resolution.Influence
import Testbed.Proofs.Resolution.Repeated
import Testbed.Proofs.Resolution.Reached
import Testbed.Proofs.Value.Order
import Testbed.Proofs.Value.Maps
import Testbed.Proofs.Value.Parts
import Testbed.Proofs.Value.Text
import Testbed.Proofs.Codec.Readers
import Testbed.Proofs.Codec.Form
import Testbed.Proofs.Codec.Grammar
import Testbed.Proofs.Codec.RoundTrip
import Testbed.Proofs.Codec.Canonical
import Testbed.Proofs.Text.Percent
import Testbed.Proofs.Text.Lossy
import Testbed.Proofs.Message.RoundTrip
import Testbed.Proofs.Message.Carried
import Testbed.Proofs.Server.Responses
import Testbed.Proofs.Server.Admission
import Testbed.Proofs.Server.Denied
import Testbed.Proofs.Client.Paths
import Testbed.Proofs.Client.Exchange
import Testbed.Proofs.Client.Operations
import Testbed.Proofs.Client.Closing
import Testbed.Proofs.Client.Expressions
import Testbed.Proofs.Client.Placeholders
import Testbed.Proofs.Outcome
import Testbed.Proofs.Scope.Tree
import Testbed.Proofs.Message.Shape
import Testbed.Proofs.Server.Refusals
import Testbed.Proofs.Text.Blank
import Testbed.Proofs.Text.Decimal
import Testbed.Proofs.Settings.RoundTrip
import Testbed.Proofs.Files.Naming
import Testbed.Proofs.Files.Frame
import Testbed.Proofs.Files.Directories
import Testbed.Proofs.Bootstrap.Launching
import Testbed.Proofs.CommandLine.Options
import Testbed.Proofs.Bootstrap.Token
import Testbed.Proofs.Container.Fields
import Testbed.Proofs.Container.Unusable
import Testbed.Proofs.Resolution.Replay
import Testbed.Proofs.Container.OneContainer
import Testbed.Proofs.Container.Tracked
import Testbed.Proofs.Container.LeftRunning
import Testbed.Proofs.Codec.Stream
import Testbed.Proofs.Resolution.Spellings
import Testbed.Proofs.Client.Texts
import Testbed.Proofs.Client.Tokens
import Testbed.Proofs.Server.Expiry
import Testbed.Proofs.Bootstrap.Watching
import Testbed.Proofs.Settings.Lines
import Testbed.Proofs.Settings.Renderings
import Testbed.Proofs.Text.ByteOrder
import Testbed.Proofs.Container.Advertised
import Testbed.Proofs.FirstSeen
import Testbed.Proofs.Resolution.Members
import Testbed.Proofs.Message.Faults
import Testbed.Proofs.Container.Families
import Testbed.Proofs.Container.Spread
import Testbed.Proofs.Container.Durations
import Testbed.Proofs.Codec.Pairs
import Testbed.Proofs.Registry.Forgetting
