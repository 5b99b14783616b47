import Interdomain.Identifier
import Interdomain.LinkType
import Interdomain.Ipv4
import Interdomain.Duration.Spans
import Interdomain.Collection.SortedMap
import Interdomain.Collection.Roster
import Interdomain.Json.Printer
import Interdomain.Json.Reader
import Interdomain.Document
import Interdomain.Random.ChaCha
import Interdomain.MasterKeys
import Interdomain.Beaconing
import Interdomain.Gateway
import Interdomain.Network
import Interdomain.Counter
import Interdomain.Link.Descriptor
import Interdomain.Gateway.Table
import Interdomain.Configuration
import Interdomain.Config.Reader
import Interdomain.Config.Writer
import Interdomain.Config.Validation
import Interdomain.Config.Build
import Interdomain.Toml
import Interdomain.Topology
import Interdomain.StaticInfo
import Interdomain.ControlConfig
import Interdomain.Graph
import Interdomain.Generation
import Interdomain.Yaml.PlainText
import Interdomain.Yaml.QuotedText
import Interdomain.Yaml.BlockText
import Interdomain.Yaml.Token
import Interdomain.Yaml.Reader
import Interdomain.Config.Loading
import Interdomain.FileSystem
import Interdomain.Text.Quoted
import Interdomain.CommandLine
import Interdomain.Main
import Interdomain.Proofs.Allocation
import Interdomain.Proofs.Subnets
import Interdomain.Proofs.Resolution.Commitment
import Interdomain.Proofs.Resolution.Planning
import Interdomain.Proofs.Resolution.Capacity
import Interdomain.Proofs.Resolution.Atomicity
import Interdomain.Proofs.Resolution.Exactness
import Interdomain.Proofs.Resolution.Descriptors
import Interdomain.Proofs.Resolution.Discovery
import Interdomain.Proofs.Resolution.Drawing
import Interdomain.Proofs.Resolution.Numbering
import Interdomain.Proofs.Validation
import Interdomain.Proofs.Building.Attachment
import Interdomain.Proofs.Building.System
import Interdomain.Proofs.Building.Emulation
import Interdomain.Proofs.WellFormedness
import Interdomain.Proofs.Declaration
import Interdomain.Proofs.Building.Validated
import Interdomain.Proofs.Building.Stages
import Interdomain.Proofs.Building.Connections
import Interdomain.Proofs.Building.Ledger
import Interdomain.Proofs.Building.Addresses
import Interdomain.Proofs.Generation.Phases
import Interdomain.Proofs.Generation.LineTypes
import Interdomain.Proofs.Generation.Linked
import Interdomain.Proofs.Generation.Interfaces
import Interdomain.Proofs.Generation.Neighbours
import Interdomain.Proofs.Generation.CrossConnects
import Interdomain.Proofs.Building.ConnectionNames
import Interdomain.Proofs.Resolution.Faults
import Interdomain.Proofs.Generation.Asymmetry
import Interdomain.Proofs.Views
import Interdomain.Proofs.Resolution.Reversal
import Interdomain.Proofs.Generation.Interleaving
import Interdomain.Proofs.History
import Interdomain.Proofs.Systems.Gateways
import Interdomain.Proofs.Systems.Settings
import Interdomain.Proofs.Systems.Operations
import Interdomain.Proofs.Generation.Interruption
import Interdomain.Proofs.Generation.Files
import Interdomain.Proofs.Generation.Keys
import Interdomain.Proofs.Systems.Links
import Interdomain.Proofs.Building.Contents
import Interdomain.Proofs.Generation.Configured
import Interdomain.Proofs.Building.Exchanges
import Interdomain.Proofs.Generation.PacketSizes
import Interdomain.Proofs.Generation.Rendering
import Interdomain.Proofs.Files.Trees
import Interdomain.Proofs.Files.Paths
import Interdomain.Proofs.Files.Writing
import Interdomain.Proofs.Files.Room
import Interdomain.Proofs.Generation.Slots
import Interdomain.Proofs.Generation.Output
import Interdomain.Proofs.Resolution.Membership
import Interdomain.Proofs.Building.Conflicts
import Interdomain.Proofs.Systems.Networks
import Interdomain.Proofs.Generation.Policies
import Interdomain.Proofs.Resolution.DotText
import Interdomain.Proofs.Texts.Identifiers
import Interdomain.Proofs.Texts.Durations
import Interdomain.Proofs.Systems.TrafficPolicies
import Interdomain.Proofs.Systems.Exhaustion
import Interdomain.Proofs.Texts.Json
import Interdomain.Proofs.Texts.Addresses
import Interdomain.Proofs.Texts.Documents
import Interdomain.Proofs.Texts.Records
import Interdomain.Proofs.Texts.ControlSettings
import Interdomain.Proofs.Texts.Yaml
