import CyberiaVpn.Effects.Prog
import CyberiaVpn.Transport.Types
import CyberiaVpn.Killswitch.State
import CyberiaVpn.Killswitch.Controller
import CyberiaVpn.Transport.IpText
import CyberiaVpn.Codec.Utf8
import CyberiaVpn.Linux.Paths
import CyberiaVpn.Linux.Tools
import CyberiaVpn.Linux.Handshakes
import CyberiaVpn.Linux.Host
import CyberiaVpn.Linux.Backend
import CyberiaVpn.Linux.BackendRuns
import CyberiaVpn.Linux.Dns
import CyberiaVpn.Linux.Adapter
import CyberiaVpn.Killswitch.Nftables
import CyberiaVpn.Killswitch.Connection
import CyberiaVpn.Killswitch.ConnectionRuns
import CyberiaVpn.Killswitch.Teardown
import CyberiaVpn.Linux.Node
import CyberiaVpn.Linux.NodeRuns
import CyberiaVpn.Effects.Validate
import CyberiaVpn.Codec.PrefixCode
import CyberiaVpn.Control.Netip
import CyberiaVpn.Control.Config
import CyberiaVpn.Control.Signature
import CyberiaVpn.Effects.Durable
import CyberiaVpn.Snapshot.File
import CyberiaVpn.Snapshot.Contract
import CyberiaVpn.Snapshot.Store
import CyberiaVpn.Control.Client
import CyberiaVpn.Data.Table
import CyberiaVpn.Identity.Enrollment
import CyberiaVpn.Identity.EnrollmentRuns
import CyberiaVpn.Identity.FileStore
import CyberiaVpn.Identity.Persistence
import CyberiaVpn.Effects.Replay
import CyberiaVpn.Identity.FileStoreRuns
import CyberiaVpn.Identity.Refinement
import CyberiaVpn.Control.MemoryStore
import CyberiaVpn.Control.FileStore
import CyberiaVpn.Control.Reopening
import CyberiaVpn.Effects.Machine
import CyberiaVpn.Registry.MemoryRegistry
import CyberiaVpn.Registry.Calls
import CyberiaVpn.Registry.History
import CyberiaVpn.Registry.ZeroValue
import CyberiaVpn.Api.Handlers
import CyberiaVpn.Api.Isolation
import CyberiaVpn.Api.Delivery
import CyberiaVpn.Control.Profile
import CyberiaVpn.Linux.Words
import CyberiaVpn.Linux.NodeHealth
import CyberiaVpn.Linux.RoutingFrame
import CyberiaVpn.Client.Config
import CyberiaVpn.Client.Check
import CyberiaVpn.Client.Shutdown
import CyberiaVpn.Routing.Score
import CyberiaVpn.Data.Best
import CyberiaVpn.Routing.Ranking
import CyberiaVpn.Effects.Clock
import CyberiaVpn.Routing.Backoff
import CyberiaVpn.Routing.Selector
import CyberiaVpn.Routing.Circuits
import CyberiaVpn.Routing.Stability
import CyberiaVpn.Effects.Trace
import CyberiaVpn.Linux.DnsRuns
import CyberiaVpn.Linux.Rollback
import CyberiaVpn.Nft.Ruleset
import CyberiaVpn.Linux.NftText
import CyberiaVpn.Killswitch.Ruleset
import CyberiaVpn.Killswitch.InterfaceNames
import CyberiaVpn.Linux.GatewayRuleset
import CyberiaVpn.Transport.Gateway
import CyberiaVpn.Client.Deadline
import CyberiaVpn.Control.Publication
import CyberiaVpn.Client.HexKey
import CyberiaVpn.Linux.KeyText
import CyberiaVpn.Snapshot.Runs
import CyberiaVpn.Codec.Json
import CyberiaVpn.Codec.Rfc3339
import CyberiaVpn.Identity.SnapshotSize
import CyberiaVpn.Codec.JsonReader
import CyberiaVpn.Codec.JsonStore
import CyberiaVpn.Codec.Rfc3339Reader
import CyberiaVpn.Codec.Spaces
import CyberiaVpn.Codec.Base64Url
import CyberiaVpn.Snapshot.Decode
import CyberiaVpn.Identity.SnapshotText
import CyberiaVpn.Identity.Availability
import CyberiaVpn.Effects.Front
import CyberiaVpn.Api.Token
import CyberiaVpn.Api.Enrollment
import CyberiaVpn.Api.Service
import CyberiaVpn.Api.Availability
