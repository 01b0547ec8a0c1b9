import SingBox.Geosite.RoundTrip
import SingBox.Route.Needs
import SingBox.Srs.Compile
import SingBox.Route.MatchRule
import SingBox.FakeIP.CacheFile
import SingBox.TlsFragment.Conn
import SingBox.AdGuard.Convertor
import SingBox.Group.Interrupt
import SingBox.Group.LoadBalance
import SingBox.Dns.ConnOwnership
import SingBox.Dns.QueryId
import SingBox.Dns.SharedPool
import SingBox.Route.Conn
import SingBox.Manager.Default
import SingBox.Manager.Lists
import SingBox.Manager.Transport
import SingBox.Provider.Restart
import SingBox.Subscription.PluginOptions
import SingBox.Subscription.Detour
import SingBox.Obfs.TlsTransparent
import SingBox.Obfs.HttpTransparent
import SingBox.Dns.Subnet
import SingBox.Dns.Edns
import SingBox.Dns.Nested
import SingBox.Dns.RoundRobin
import SingBox.Dns.Alias
import SingBox.Sniff.Reassembly
import SingBox.Dns.Dhcp
import SingBox.Dns.Response
import SingBox.Dns.Local
import SingBox.Websocket.Handshake
import SingBox.V2rayApi.Stats
import SingBox.V2rayHttp.LateConn
import SingBox.Wireguard.NatDevice
import SingBox.Ssmapi.Users
import SingBox.Resolved.Calls
import SingBox.Ccm.Usage
