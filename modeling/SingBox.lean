import SingBox.Rule.Simulation
import SingBox.Route.Delivery
import SingBox.Dns.Checker
import SingBox.Dns.Interference
import SingBox.Dns.RouteOptions
import SingBox.Dns.ModeUpdates
import SingBox.Dns.Backends
import SingBox.FakeIP.Ranges
import SingBox.FakeIP.Mappings
import SingBox.FakeIP.Restart
import SingBox.Srs.RoundTrip
import SingBox.AdGuard.Meaning
import SingBox.Dns.TransportManager
import SingBox.Rule.References
import SingBox.Rule.Remote
import SingBox.Dns.OrderedPool
import SingBox.Dns.SharedPool
import SingBox.Transport.Trojan
import SingBox.TLSFragment.Conn
import SingBox.TLSFragment.Place
import SingBox.Sniff.Reassembly
import SingBox.Hysteria2.RealmPending
import SingBox.HTTPClient.Race
import SingBox.HTTPClient.Replay
import SingBox.HTTPClient.Epoch
import SingBox.HTTPClient.SharedRef
import SingBox.Dns.Framing
import SingBox.Dns.SuffixRouting
import SingBox.Daemon.Lifecycle
import SingBox.Daemon.ConnectionStream
import SingBox.Group.Selector
import SingBox.Dns.TimeToLive
import SingBox.Rule.Conditions
import SingBox.Transport.Gun
import SingBox.Transport.NaivePadding
import SingBox.Dns.RuleExchange
import SingBox.Dns.UDPTransport
import SingBox.Geosite.Format
import SingBox.Transport.TrojanMux
import SingBox.AWG.Bind
import SingBox.Group.URLTest
import SingBox.Transport.SimpleObfs
import SingBox.TLSSpoof.Packet
import SingBox.Dns.ClientSubnet
import SingBox.Transport.PluginOptions
import SingBox.HTTPClient.Backoff
import SingBox.Route.PreMatch
import SingBox.Rule.ResponseOnly
import SingBox.Dns.DhcpFetch
import SingBox.Dns.MulticastMerge
import SingBox.JA3.Bounds
import SingBox.Sniff.Packet
import SingBox.Route.LeaseFile
import SingBox.Resolved.Resolve
import SingBox.SSMAPI.Users
import SingBox.WireGuard.NatDevice
import SingBox.Common.Version
import SingBox.Transport.Replaceable
import SingBox.Transport.WebSocket
import SingBox.CCM.Usage
import SingBox.OOMKiller.Timer
import SingBox.V2RayAPI.Stats
import SingBox.WinDivert.Filter
