/-
**The options that a subscription is turned into** (`option/outbound.go`, `option/tls.go` and the options of
each protocol).

An outbound or an endpoint has a type, a tag and options. The options are of a dynamic type, which is here a
`Kind`; `registry` says which one a type is decoded to. Fields that no parser writes and no override reads are
left out.
-/

import SingBox.Subscription.Text

namespace SingBox.Subscription

structure DomainResolveOptions where
  server : Bytes
  strategy : Nat := 0
  disableCache : Bool := false
  rewriteTTL : Option Nat := none
  clientSubnet : Option Bytes := none
  deriving DecidableEq

/-- `option.DialerOptions`. Durations are in nanoseconds. -/
structure DialerOptions where
  (detour bindInterface : Bytes := [])
  (inet4BindAddress inet6BindAddress : Option Bytes := none)
  bindAddressNoPort : Bool := false
  protectPath : Bytes := []
  routingMark : Nat := 0
  reuseAddr : Bool := false
  netNs : Bytes := []
  connectTimeout : Int := 0
  (tcpFastOpen tcpMultiPath disableTCPKeepAlive : Bool := false)
  (tcpKeepAlive tcpKeepAliveInterval tcpKeepAliveCount : Int := 0)
  udpFragment : Option Bool := none
  udpFragmentDefault : Bool := false
  domainResolver : Option DomainResolveOptions := none
  networkStrategy : Option Nat := none
  (networkType fallbackNetworkType : List Nat := [])
  fallbackDelay : Int := 0
  domainStrategy : Nat := 0

structure ServerOptions where
  server : Bytes := []
  serverPort : Nat := 0

/-! ### TLS, transports and multiplexing -/

structure OutboundECHOptions where
  enabled : Bool := false
  config : List Bytes := []

structure OutboundUTLSOptions where
  enabled : Bool := false
  fingerprint : Bytes := []

structure OutboundRealityOptions where
  enabled : Bool := false
  (publicKey shortID : Bytes := [])

structure OutboundTLSOptions where
  (enabled disableSNI : Bool := false)
  (serverName certificateServerName : Bytes := [])
  insecure : Bool := false
  (alpn certificate : List Bytes := [])
  (certificatePath certificatePinSHA256 : Bytes := [])
  (kernelTx kernelRx : Bool := false)
  ech : Option OutboundECHOptions := none
  utls : Option OutboundUTLSOptions := none
  reality : Option OutboundRealityOptions := none

/-- `badoption.HTTPHeader`, in the order in which it is ranged over; nil if there is none. -/
abbrev HTTPHeader := Option (List (Bytes × List Bytes))

structure V2RayHTTPOptions where
  host : List Bytes := []
  (path method : Bytes := [])
  headers : HTTPHeader := none

structure V2RayWebsocketOptions where
  path : Bytes := []
  headers : HTTPHeader := none
  maxEarlyData : Nat := 0
  earlyDataHeaderName : Bytes := []

structure V2RayGRPCOptions where
  serviceName : Bytes := []

structure V2RayHTTPUpgradeOptions where
  (host path : Bytes := [])
  headers : HTTPHeader := none

structure V2RayTransportOptions where
  type : Bytes := []
  httpOptions : V2RayHTTPOptions := {}
  websocketOptions : V2RayWebsocketOptions := {}
  grpcOptions : V2RayGRPCOptions := {}
  httpUpgradeOptions : V2RayHTTPUpgradeOptions := {}

structure BrutalOptions where
  enabled : Bool := false
  (upMbps downMbps : Int := 0)

structure OutboundMultiplexOptions where
  enabled : Bool := false
  protocol : Bytes := []
  (maxConnections minStreams maxStreams : Int := 0)
  padding : Bool := false
  brutal : Option BrutalOptions := none

/-! ### Protocols -/

structure UDPOverTCPOptions where
  enabled : Bool := false
  version : Nat := 0

structure HTTPOutboundOptions where
  dialer : DialerOptions := {}
  server : ServerOptions := {}
  (username password : Bytes := [])
  tls : Option OutboundTLSOptions := none
  headers : HTTPHeader := none

structure SOCKSOutboundOptions where
  dialer : DialerOptions := {}
  server : ServerOptions := {}
  (username password network : Bytes := [])

structure ShadowsocksOutboundOptions where
  dialer : DialerOptions := {}
  server : ServerOptions := {}
  (method password plugin pluginOptions network : Bytes := [])
  udpOverTCP : Option UDPOverTCPOptions := none
  multiplex : Option OutboundMultiplexOptions := none

structure TUICOutboundOptions where
  dialer : DialerOptions := {}
  server : ServerOptions := {}
  (uuid password congestionControl udpRelayMode : Bytes := [])
  (udpOverStream zeroRTTHandshake : Bool := false)
  heartbeat : Int := 0
  tls : Option OutboundTLSOptions := none

structure VMessOutboundOptions where
  dialer : DialerOptions := {}
  server : ServerOptions := {}
  (uuid security : Bytes := [])
  alterId : Int := 0
  (globalPadding authenticatedLength : Bool := false)
  network : Bytes := []
  tls : Option OutboundTLSOptions := none
  packetEncoding : Bytes := []
  multiplex : Option OutboundMultiplexOptions := none
  transport : Option V2RayTransportOptions := none

structure VLESSOutboundOptions where
  dialer : DialerOptions := {}
  server : ServerOptions := {}
  (uuid flow network : Bytes := [])
  tls : Option OutboundTLSOptions := none
  multiplex : Option OutboundMultiplexOptions := none
  transport : Option V2RayTransportOptions := none
  packetEncoding : Option Bytes := none

structure TrojanOutboundOptions where
  dialer : DialerOptions := {}
  server : ServerOptions := {}
  (password network : Bytes := [])
  tls : Option OutboundTLSOptions := none
  multiplex : Option OutboundMultiplexOptions := none
  transport : Option V2RayTransportOptions := none

structure HysteriaOutboundOptions where
  dialer : DialerOptions := {}
  server : ServerOptions := {}
  serverPorts : List Bytes := []
  hopInterval : Int := 0
  up : Option Nat := none
  upMbps : Int := 0
  down : Option Nat := none
  downMbps : Int := 0
  (obfs auth authString : Bytes := [])
  (receiveWindowConn receiveWindow : Nat := 0)
  disableMTUDiscovery : Bool := false
  tls : Option OutboundTLSOptions := none

structure Hysteria2Obfs where
  (type password : Bytes := [])

structure Hysteria2OutboundOptions where
  dialer : DialerOptions := {}
  server : ServerOptions := {}
  serverPorts : List Bytes := []
  (hopInterval upMbps downMbps : Int := 0)
  obfs : Option Hysteria2Obfs := none
  password : Bytes := []
  tls : Option OutboundTLSOptions := none

structure AnyTLSOutboundOptions where
  dialer : DialerOptions := {}
  server : ServerOptions := {}
  tls : Option OutboundTLSOptions := none
  password : Bytes := []
  (idleSessionCheckInterval idleSessionTimeout minIdleSession : Int := 0)
  clientMetadata : Option Bytes := none
  disableReuse : Bool := false

structure ShadowTLSOutboundOptions where
  dialer : DialerOptions := {}
  server : ServerOptions := {}
  tls : Option OutboundTLSOptions := none

structure SSHOutboundOptions where
  dialer : DialerOptions := {}
  server : ServerOptions := {}
  (user password : Bytes := [])
  privateKey : List Bytes := []
  (privateKeyPath privateKeyPassphrase : Bytes := [])
  (hostKey hostKeyAlgorithms : List Bytes := [])

structure SnellOutboundOptions where
  version : Int := 0
  dialer : DialerOptions := {}
  server : ServerOptions := {}
  psk : Bytes := []
  reuse : Bool := false
  (network obfsMode obfsHost : Bytes := [])

structure WireGuardPeer where
  address : Bytes := []
  port : Nat := 0
  (publicKey preSharedKey : Bytes := [])
  allowedIPs : List Bytes := []
  persistentKeepaliveInterval : Nat := 0
  reserved : Bytes := []

structure WireGuardEndpointOptions where
  mtu : Nat := 0
  address : List Bytes := []
  privateKey : Bytes := []
  peers : List WireGuardPeer := []
  workers : Int := 0
  dialer : DialerOptions := {}

structure TailscaleEndpointOptions where
  dialer : DialerOptions := {}
  (stateDirectory authKey controlURL : Bytes := [])
  ephemeral : Bool := false
  hostname : Bytes := []
  acceptRoutes : Bool := false
  exitNode : Bytes := []
  exitNodeAllowLANAccess : Bool := false

/-- The options of an outbound that no parser but that of JSON makes, with a dialer. -/
structure DialingOptions where
  dialer : DialerOptions := {}

/-! ### Types -/

inductive Kind where
  | http | socks | shadowsocks | snell | tuic | vmess | vless | trojan | hysteria | hysteria2 | anyTLS | shadowTLS
  | ssh | direct | tor | naive | shadowsocksR | group | stub
  | wireGuard | tailscale
  deriving DecidableEq

abbrev Kind.Options : Kind → Type
  | .http => HTTPOutboundOptions
  | .socks => SOCKSOutboundOptions
  | .shadowsocks => ShadowsocksOutboundOptions
  | .snell => SnellOutboundOptions
  | .tuic => TUICOutboundOptions
  | .vmess => VMessOutboundOptions
  | .vless => VLESSOutboundOptions
  | .trojan => TrojanOutboundOptions
  | .hysteria => HysteriaOutboundOptions
  | .hysteria2 => Hysteria2OutboundOptions
  | .anyTLS => AnyTLSOutboundOptions
  | .shadowTLS => ShadowTLSOutboundOptions
  | .ssh => SSHOutboundOptions
  | .direct | .tor | .naive | .shadowsocksR => DialingOptions
  | .group | .stub => Unit
  | .wireGuard => WireGuardEndpointOptions
  | .tailscale => TailscaleEndpointOptions

structure AnyOptions where
  kind : Kind
  value : kind.Options

/-- `option.Outbound` and `option.Endpoint`. The options may be nil. -/
structure Outbound where
  type : Bytes
  tag : Bytes
  options : Option AnyOptions

def outboundRegistry : List (String × Kind) :=
  [("direct", .direct), ("pass", .stub), ("block", .stub), ("selector", .group), ("urltest", .group),
    ("loadbalance", .group), ("socks", .socks), ("http", .http), ("shadowsocks", .shadowsocks), ("snell", .snell),
    ("vmess", .vmess), ("trojan", .trojan), ("naive", .naive), ("tor", .tor), ("ssh", .ssh),
    ("shadowtls", .shadowTLS), ("vless", .vless), ("anytls", .anyTLS), ("hysteria", .hysteria), ("tuic", .tuic),
    ("hysteria2", .hysteria2), ("shadowsocksr", .shadowsocksR), ("wireguard", .stub)]

def endpointRegistry : List (String × Kind) := [("wireguard", .wireGuard), ("tailscale", .tailscale)]

/-- The options are those that a registry creates for the type. -/
def Outbound.Typed (registry : List (String × Kind)) (outbound : Outbound) : Prop :=
  outbound.options.map AnyOptions.kind = lookup registry outbound.type

end SingBox.Subscription
