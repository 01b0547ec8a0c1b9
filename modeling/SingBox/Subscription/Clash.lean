/-
**Clash subscriptions** (`provider/parser/clash.go`).

A Clash subscription is a YAML document with a list of proxies. Each is decoded to the options of its type, which are
then built into the options of an outbound or of an endpoint.

A document that is null sets the pointer to the configuration to nil, whose proxies are then read; and some values of
plugin options cannot be printed. Everything else is total.
-/

import SingBox.Subscription.Link

namespace SingBox.Subscription

open SingBox.Lib

/-! ### Options -/

structure ClashDialer where
  (tfo mptcp : Bool := false)
  interface : Bytes := []
  routingMark : Int := 0
  dialerProxy : Bytes := []

structure ClashServer where
  server : Bytes := []
  port : Int := 0

structure ClashECH where
  enable : Bool := false
  config : Bytes := []

structure ClashReality where
  (publicKey shortID : Bytes := [])

structure ClashTLS where
  tls : Bool := false
  sni : Bytes := []
  skipCertVerify : Bool := false
  fingerprint : Bytes := []
  alpn : List Bytes := []
  (clientFingerprint customCA customCAString : Bytes := [])
  echOpts : Option ClashECH := none
  realityOpts : Option ClashReality := none
  (kernelTx kernelRx : Bool := false)

structure ClashBrutal where
  enabled : Bool := false
  (up down : Bytes := [])

structure ClashMux where
  enabled : Bool := false
  protocol : Bytes := []
  (maxConnections minStreams maxStreams : Int := 0)
  padding : Bool := false
  brutalOpts : Option ClashBrutal := none

structure ClashHTTP where
  method : Bytes := []
  path : List Bytes := []
  headers : HTTPHeader := none

structure ClashHTTP2 where
  host : List Bytes := []
  path : Bytes := []

structure ClashWS where
  path : Bytes := []
  headers : Option (List (Bytes × Bytes)) := none
  maxEarlyData : Int := 0
  earlyDataHeaderName : Bytes := []
  v2rayHttpUpgrade : Bool := false

/-- `map[string]any`: the values of a document, which may be null. -/
abbrev ClashMap (Value : Type) := List (Bytes × Option Value)

structure ShadowSocksOption (Value : Type) where
  dialer : ClashDialer := {}
  server : ClashServer := {}
  (password cipher : Bytes := [])
  udp : Bool := false
  plugin : Bytes := []
  pluginOpts : ClashMap Value := []
  udpOverTCP : Bool := false
  udpOverTCPVersion : Int := 0
  muxOpts : Option ClashMux := none

structure TuicOption where
  dialer : ClashDialer := {}
  server : ClashServer := {}
  tls : ClashTLS := {}
  (uuid password ip : Bytes := [])
  heartbeatInterval : Int := 0
  (disableSni reduceRtt : Bool := false)
  (udpRelayMode congestionController : Bytes := [])
  (fastOpen udpOverStream : Bool := false)

structure VmessOption where
  dialer : ClashDialer := {}
  server : ClashServer := {}
  tls : Option ClashTLS := none
  uuid : Bytes := []
  alterID : Int := 0
  cipher : Bytes := []
  udp : Bool := false
  (network serverName : Bytes := [])
  httpOpts : ClashHTTP := {}
  http2Opts : ClashHTTP2 := {}
  grpcServiceName : Bytes := []
  wsOpts : ClashWS := {}
  (packetAddr xudp : Bool := false)
  packetEncoding : Bytes := []
  (globalPadding authenticatedLength : Bool := false)
  muxOpts : Option ClashMux := none

structure VlessOption where
  dialer : ClashDialer := {}
  server : ClashServer := {}
  tls : Option ClashTLS := none
  (uuid flow : Bytes := [])
  (udp packetAddr : Bool := false)
  (packetEncoding network serverName : Bytes := [])
  httpOpts : ClashHTTP := {}
  http2Opts : ClashHTTP2 := {}
  grpcServiceName : Bytes := []
  wsOpts : ClashWS := {}
  muxOpts : Option ClashMux := none

structure Socks5Option where
  dialer : ClashDialer := {}
  server : ClashServer := {}
  (userName password : Bytes := [])
  udp : Bool := false

structure HttpOption where
  dialer : ClashDialer := {}
  server : ClashServer := {}
  tls : Option ClashTLS := none
  (userName password : Bytes := [])
  headers : Option (List (Bytes × Bytes)) := none

structure TrojanOption where
  dialer : ClashDialer := {}
  server : ClashServer := {}
  tls : ClashTLS := {}
  password : Bytes := []
  udp : Bool := false
  (network grpcServiceName : Bytes := [])
  wsOpts : ClashWS := {}
  muxOpts : Option ClashMux := none

structure HysteriaOption where
  dialer : ClashDialer := {}
  server : ClashServer := {}
  tls : ClashTLS := {}
  (ports up : Bytes := [])
  upSpeed : Int := 0
  down : Bytes := []
  downSpeed : Int := 0
  (auth authString obfs : Bytes := [])
  (receiveWindowConn receiveWindow : Int := 0)
  (disableMTUDiscovery fastOpen : Bool := false)
  hopInterval : Int := 0

structure Hysteria2Option where
  dialer : ClashDialer := {}
  server : ClashServer := {}
  tls : ClashTLS := {}
  ports : Bytes := []
  hopInterval : Int := 0
  (up down password obfs obfsPassword : Bytes := [])

structure SSHOption where
  dialer : ClashDialer := {}
  server : ClashServer := {}
  (userName password privateKey privateKeyPassphrase : Bytes := [])
  (hostKey hostKeyAlgorithms : List Bytes := [])

structure SnellOption (Value : Type) where
  dialer : ClashDialer := {}
  server : ClashServer := {}
  psk : Bytes := []
  udp : Bool := false
  version : Int := 0
  reuse : Bool := false
  obfsOpts : ClashMap Value := []

structure AnyTLSOption where
  dialer : ClashDialer := {}
  server : ClashServer := {}
  tls : ClashTLS := {}
  password : Bytes := []
  (idleSessionCheckInterval idleSessionTimeout minIdleSession : Int := 0)
  disableReuse : Bool := false

structure ClashTailscaleOption where
  dialer : ClashDialer := {}
  (hostname authKey controlURL stateDir : Bytes := [])
  ephemeral : Bool := false
  acceptRoutes : Option Bool := none
  exitNode : Bytes := []
  exitNodeAllowLANAccess : Option Bool := none

structure ClashWireGuardPeerOption where
  server : Bytes := []
  port : Int := 0
  (publicKey preSharedKey reserved : Bytes := [])
  allowedIPs : List Bytes := []

structure ClashWireGuardOption where
  dialer : ClashDialer := {}
  peer : ClashWireGuardPeerOption := {}
  (ip ipv6 privateKey : Bytes := [])
  (mtu workers persistentKeepalive : Int := 0)
  peers : List ClashWireGuardPeerOption := []
  amneziaWG : Bool := false

inductive ClashKind where
  | ss | tuic | vmess | vless | socks5 | http | trojan | hysteria | hysteria2 | ssh | snell | anytls | wireguard
  | tailscale
  deriving DecidableEq

abbrev ClashKind.Options (Value : Type) : ClashKind → Type
  | .ss => ShadowSocksOption Value
  | .tuic => TuicOption
  | .vmess => VmessOption
  | .vless => VlessOption
  | .socks5 => Socks5Option
  | .http => HttpOption
  | .trojan => TrojanOption
  | .hysteria => HysteriaOption
  | .hysteria2 => Hysteria2Option
  | .ssh => SSHOption
  | .snell => SnellOption Value
  | .anytls => AnyTLSOption
  | .wireguard => ClashWireGuardOption
  | .tailscale => ClashTailscaleOption

def clashTypes : List (String × ClashKind) :=
  [("ss", .ss), ("tuic", .tuic), ("vmess", .vmess), ("vless", .vless), ("socks5", .socks5), ("http", .http),
    ("trojan", .trojan), ("hysteria", .hysteria), ("hysteria2", .hysteria2), ("ssh", .ssh), ("snell", .snell),
    ("anytls", .anytls), ("wireguard", .wireguard), ("tailscale", .tailscale)]

def ClashKind.singType : ClashKind → Bytes
  | .ss => text "shadowsocks"
  | .tuic => text "tuic"
  | .vmess => text "vmess"
  | .vless => text "vless"
  | .socks5 => text "socks"
  | .http => text "http"
  | .trojan => text "trojan"
  | .hysteria => text "hysteria"
  | .hysteria2 => text "hysteria2"
  | .ssh => text "ssh"
  | .snell => text "snell"
  | .anytls => text "anytls"
  | .wireguard => text "wireguard"
  | .tailscale => text "tailscale"

/-- What the Clash parser uses: `yaml.Unmarshal`, which gives the proxies of a document, null ones included, or no
document at all; the decoding of a proxy; `F.ToString` of a value, which may panic; and base64, `strings.TrimSpace`
and `netip.ParsePrefix`. -/
structure ClashLibrary extends LinkLibrary where
  Node : Type
  Value : Type
  unmarshalYAML : Bytes → Except Error (Option (List (Option Node)))
  decodeProxy : Node → Except Error (Bytes × Bytes)
  decodeOptions : (kind : ClashKind) → Node → Except Error (kind.Options Value)
  valueText : Value → Option Bytes
  stdDecode : Bytes → Option Bytes
  trimSpace : Bytes → Bytes
  parseNetwork : Bytes → Option Bytes

variable (lib : ClashLibrary)

/-! ### Parts -/

def ClashDialer.build (b : ClashDialer) : DialerOptions :=
  { detour := b.dialerProxy, bindInterface := b.interface, tcpFastOpen := b.tfo, tcpMultiPath := b.mptcp
    routingMark := toUint 32 b.routingMark }

def ClashServer.build (s : ClashServer) : ServerOptions := ⟨s.server, toUint 16 s.port⟩

def trimStringArray (array : List Bytes) : List Bytes := array.filter fun it => lib.trimSpace it ≠ []

def ClashECH.build (e : ClashECH) : Option OutboundECHOptions :=
  (lib.stdDecode e.config).map fun list => ⟨e.enable, trimStringArray lib (list.splitOn newline)⟩

def ClashReality.build (r : ClashReality) : OutboundRealityOptions := ⟨true, r.publicKey, r.shortID⟩

def clashClientFingerprint (clientFingerprint : Bytes) : Option OutboundUTLSOptions :=
  if clientFingerprint = [] then none else some ⟨true, clientFingerprint⟩

def ClashTLS.build (t : ClashTLS) : Option OutboundTLSOptions :=
  if !t.tls then none
  else some
    { enabled := t.tls, serverName := t.sni, insecure := t.skipCertVerify, certificatePinSHA256 := t.fingerprint
      alpn := t.alpn, utls := clashClientFingerprint t.clientFingerprint
      certificate := trimStringArray lib (t.customCAString.splitOn newline), certificatePath := t.customCA
      ech := t.echOpts.bind (ClashECH.build lib), reality := t.realityOpts.map ClashReality.build
      kernelTx := t.kernelTx, kernelRx := t.kernelRx }

def clashTLSOptions (server : Bytes) (tls : Option ClashTLS) : Option OutboundTLSOptions :=
  tls.bind fun tls => ClashTLS.build lib (if tls.sni = [] then { tls with sni := server } else tls)

def mByte : Nat := 10 ^ 6

def clashSpeedToIntMbps (speed : Bytes) : Int :=
  if speed = [] then 0
  else if (parseInt speed).2 then (parseInt speed).1
  else (lib.networkBytes speed).elim 0 fun value => value / mByte * 8

def clashSpeedToNetworkBytes (speed : Bytes) : Option Nat :=
  if speed = [] then none
  else lib.networkBytes (if (parseInt speed).2 then intText (parseInt speed).1 ++ text "Mbps" else speed)

def ClashBrutal.build (b : ClashBrutal) : BrutalOptions :=
  ⟨b.enabled, clashSpeedToIntMbps lib b.up, clashSpeedToIntMbps lib b.down⟩

def ClashMux.build (s : ClashMux) : OutboundMultiplexOptions :=
  { enabled := s.enabled, protocol := s.protocol, maxConnections := s.maxConnections, minStreams := s.minStreams
    maxStreams := s.maxStreams, padding := s.padding, brutal := s.brutalOpts.map (ClashBrutal.build lib) }

def clashNetworks (udpEnabled : Bool) : Bytes := if udpEnabled then [] else text "tcp"

def clashSnellNetworks (udpEnabled : Bool) : Bytes :=
  if udpEnabled then text "tcp" ++ newline :: text "udp" else text "tcp"

def clashHeaders (headers : Option (List (Bytes × Bytes))) : HTTPHeader :=
  headers.map fun entries => entries.map fun entry => (entry.1, [entry.2])

def clashHysteria2Obfs (obfs password : Bytes) : Option Hysteria2Obfs :=
  if obfs = [] then none else some ⟨obfs, password⟩

/-- `headers["Host"][0]`, if it is there. -/
def clashUpgradeHost (headers : HTTPHeader) : Parsed Bytes :=
  match headers.bind fun entries => get entries (text "Host") with
  | some host => Checked.elem host 0
  | none => .ok []

def clashTransport (network : Bytes) (httpOpts : ClashHTTP) (h2Opts : ClashHTTP2) (grpcServiceName : Bytes)
    (wsOpts : ClashWS) : Parsed (Option V2RayTransportOptions) :=
  if network = text "http" then
    .ok (some
      { type := text "http"
        httpOptions := { method := httpOpts.method, path := httpOpts.path.headD [], headers := httpOpts.headers } })
  else if network = text "h2" then
    .ok (some { type := text "http", httpOptions := { path := h2Opts.path, host := h2Opts.host } })
  else if network = text "grpc" then .ok (some { type := text "grpc", grpcOptions := ⟨grpcServiceName⟩ })
  else if network = text "ws" then
    let headers := clashHeaders wsOpts.headers
    if wsOpts.v2rayHttpUpgrade then do
      let host ← clashUpgradeHost headers
      return some { type := text "httpupgrade", httpUpgradeOptions := ⟨host, wsOpts.path, headers⟩ }
    else
      .ok (some
        { type := text "ws"
          websocketOptions :=
            ⟨wsOpts.path, headers, toUint 32 wsOpts.maxEarlyData, wsOpts.earlyDataHeaderName⟩ })
  else .ok none

/-- `F.ToString` of a value. -/
def printValue (value : lib.Value) : Parsed Bytes :=
  match lib.valueText value with
  | some printed => .ok printed
  | none => .error .panic

def clashStringOption (options : ClashMap lib.Value) (key : String) : Parsed Bytes :=
  match get options (text key) with
  | some (some value) => printValue lib value
  | _ => .ok []

def clashPluginName (plugin : Bytes) : Bytes := if plugin = text "obfs" then text "obfs-local" else plugin

def pluginOption (entry : Bytes × Option lib.Value) : Parsed (Option Bytes) :=
  match entry.2 with
  | some value => do
    let printed ← printValue lib value
    return some (entry.1 ++ text "=" ++ printed)
  | none => .ok none

/-- `shadowsocksPluginOptionsBuilder.Build`. -/
def pluginOptionsBuild (options : ClashMap lib.Value) : Parsed Bytes := do
  let opts ← (lib.order.arrange options).mapM (pluginOption lib)
  return (text ";").intercalate (opts.filterMap id)

def pluginEntries (plugin : Bytes) (opts : ClashMap lib.Value) : ClashMap lib.Value :=
  let value := fun key : String => (get opts (text key)).join
  if plugin = text "obfs" then [(text "obfs", value "mode"), (text "obfs-host", value "host")]
  else if plugin = text "v2ray-plugin" then
    [(text "mode", value "mode"), (text "tls", value "tls"), (text "host", value "host"), (text "path", value "path")]
  else []

def clashPluginOptions (plugin : Bytes) (opts : ClashMap lib.Value) : Parsed Bytes :=
  pluginOptionsBuild lib (pluginEntries lib plugin opts)

/-! ### Proxies -/

def clashShadowsocksCipher (cipher : Bytes) : Bytes := if cipher = text "dummy" then text "none" else cipher

def ShadowSocksOption.build (s : ShadowSocksOption lib.Value) : Parsed ShadowsocksOutboundOptions := do
  let pluginOptions ← clashPluginOptions lib s.plugin s.pluginOpts
  return {
    dialer := s.dialer.build, server := s.server.build, password := s.password
    method := clashShadowsocksCipher s.cipher, plugin := clashPluginName s.plugin, pluginOptions := pluginOptions
    network := clashNetworks s.udp, udpOverTCP := some ⟨s.udpOverTCP, toUint 8 s.udpOverTCPVersion⟩
    multiplex := s.muxOpts.map (ClashMux.build lib) }

def TuicOption.build (t : TuicOption) : TUICOutboundOptions :=
  let server := t.server.build
  let tls := clashTLSOptions lib t.server.server (some { t.tls with tls := true })
  { dialer := ClashDialer.build { t.dialer with tfo := t.fastOpen }
    server := if t.ip ≠ [] then { server with server := t.ip } else server
    uuid := t.uuid, password := t.password, congestionControl := t.congestionController
    udpRelayMode := t.udpRelayMode, udpOverStream := t.udpOverStream, zeroRTTHandshake := t.reduceRtt
    heartbeat := t.heartbeatInterval
    tls := if t.disableSni then tls.map fun it => { it with disableSNI := true } else tls }

def withServerName (tls : Option ClashTLS) (serverName : Bytes) : Option ClashTLS :=
  tls.map fun tls => { tls with sni := serverName }

def VmessOption.build (v : VmessOption) : Parsed VMessOutboundOptions := do
  let packetEncoding :=
    if v.packetEncoding = [] then
      if v.xudp then text "xudp" else if v.packetAddr then text "packetaddr" else []
    else if v.packetEncoding = text "packet" then text "packetaddr"
    else v.packetEncoding
  let transport ← clashTransport v.network v.httpOpts v.http2Opts v.grpcServiceName v.wsOpts
  return {
    dialer := v.dialer.build, server := v.server.build, uuid := v.uuid, security := v.cipher, alterId := v.alterID
    globalPadding := v.globalPadding, authenticatedLength := v.authenticatedLength
    network := clashNetworks v.udp
    tls := clashTLSOptions lib v.server.server (withServerName v.tls v.serverName)
    packetEncoding := packetEncoding, multiplex := v.muxOpts.map (ClashMux.build lib), transport := transport }

def VlessOption.build (v : VlessOption) : Parsed VLESSOutboundOptions := do
  let packetEncoding :=
    if v.packetEncoding = [] then if v.packetAddr then text "packetaddr" else text "xudp"
    else if v.packetEncoding = text "packet" then text "packetaddr"
    else v.packetEncoding
  let transport ← clashTransport v.network v.httpOpts v.http2Opts v.grpcServiceName v.wsOpts
  return {
    dialer := v.dialer.build, server := v.server.build, uuid := v.uuid, flow := v.flow
    network := clashNetworks v.udp
    tls := clashTLSOptions lib v.server.server (withServerName v.tls v.serverName)
    multiplex := v.muxOpts.map (ClashMux.build lib), transport := transport
    packetEncoding := some packetEncoding }

def Socks5Option.build (s : Socks5Option) : SOCKSOutboundOptions :=
  ⟨s.dialer.build, s.server.build, s.userName, s.password, clashNetworks s.udp⟩

def HttpOption.build (h : HttpOption) : HTTPOutboundOptions :=
  { dialer := h.dialer.build, server := h.server.build, username := h.userName, password := h.password
    tls := clashTLSOptions lib h.server.server h.tls, headers := clashHeaders h.headers }

def TrojanOption.build (t : TrojanOption) : Parsed TrojanOutboundOptions := do
  let transport ← clashTransport t.network {} {} t.grpcServiceName t.wsOpts
  return {
    dialer := t.dialer.build, server := t.server.build, password := t.password, network := clashNetworks t.udp
    tls := clashTLSOptions lib t.server.server (some { t.tls with tls := true })
    multiplex := t.muxOpts.map (ClashMux.build lib), transport := transport }

def HysteriaOption.build (h : HysteriaOption) : HysteriaOutboundOptions :=
  { dialer := ClashDialer.build { h.dialer with tfo := h.fastOpen }, server := h.server.build
    serverPorts := clashPorts h.ports, hopInterval := h.hopInterval
    up := clashSpeedToNetworkBytes lib h.up, upMbps := h.upSpeed
    down := clashSpeedToNetworkBytes lib h.down, downMbps := h.downSpeed
    obfs := h.obfs, auth := h.auth, authString := h.authString
    receiveWindowConn := toUint 64 h.receiveWindowConn, receiveWindow := toUint 64 h.receiveWindow
    disableMTUDiscovery := h.disableMTUDiscovery
    tls := clashTLSOptions lib h.server.server (some { h.tls with tls := true }) }

def Hysteria2Option.build (h : Hysteria2Option) : Hysteria2OutboundOptions :=
  { dialer := h.dialer.build, server := h.server.build, serverPorts := clashPorts h.ports
    hopInterval := h.hopInterval
    upMbps := clashSpeedToIntMbps lib h.up, downMbps := clashSpeedToIntMbps lib h.down
    obfs := clashHysteria2Obfs h.obfs h.obfsPassword, password := h.password
    tls := clashTLSOptions lib h.server.server (some { h.tls with tls := true }) }

def SSHOption.build (s : SSHOption) : SSHOutboundOptions :=
  let isKey := (cut (text "PRIVATE KEY") s.privateKey).isSome
  { dialer := s.dialer.build, server := s.server.build, user := s.userName, password := s.password
    privateKeyPassphrase := s.privateKeyPassphrase, hostKey := s.hostKey, hostKeyAlgorithms := s.hostKeyAlgorithms
    privateKey := if isKey then trimStringArray lib (s.privateKey.splitOn newline) else []
    privateKeyPath := if isKey then [] else s.privateKey }

def SnellOption.build (s : SnellOption lib.Value) : Parsed SnellOutboundOptions := do
  let obfsMode ← clashStringOption lib s.obfsOpts "mode"
  let obfsHost ← clashStringOption lib s.obfsOpts "host"
  return {
    version := s.version, dialer := s.dialer.build, server := s.server.build, psk := s.psk, reuse := s.reuse
    network := clashSnellNetworks s.udp, obfsMode := obfsMode, obfsHost := obfsHost }

def AnyTLSOption.build (a : AnyTLSOption) : AnyTLSOutboundOptions :=
  { dialer := a.dialer.build, server := a.server.build
    tls := clashTLSOptions lib a.server.server (some { a.tls with tls := true }), password := a.password
    idleSessionCheckInterval := a.idleSessionCheckInterval, idleSessionTimeout := a.idleSessionTimeout
    minIdleSession := a.minIdleSession, disableReuse := a.disableReuse }

def ClashTailscaleOption.build (t : ClashTailscaleOption) : TailscaleEndpointOptions :=
  { dialer := t.dialer.build, stateDirectory := t.stateDir, authKey := t.authKey, controlURL := t.controlURL
    ephemeral := t.ephemeral, hostname := t.hostname, acceptRoutes := t.acceptRoutes.getD false
    exitNode := t.exitNode, exitNodeAllowLANAccess := t.exitNodeAllowLANAccess.getD false }

def clashWireGuardPeer (peer : ClashWireGuardPeerOption) (persistentKeepalive : Int) : WireGuardPeer :=
  { address := peer.server, port := toUint 16 peer.port, publicKey := peer.publicKey
    preSharedKey := peer.preSharedKey, allowedIPs := peer.allowedIPs.filterMap lib.parseNetwork
    persistentKeepaliveInterval := toUint 16 persistentKeepalive, reserved := peer.reserved }

def clashAddress (ip : Bytes) (length : String) : Option Bytes :=
  if ip = [] then none else lib.parseNetwork (if ip.contains 0x2F then ip else ip ++ text length)

def ClashWireGuardOption.build (w : ClashWireGuardOption) : WireGuardEndpointOptions :=
  { address := (clashAddress lib w.ip "/32").toList ++ (clashAddress lib w.ipv6 "/128").toList
    privateKey := w.privateKey, mtu := toUint 32 w.mtu, workers := w.workers
    peers := (if w.peers ≠ [] then w.peers else [w.peer]).map fun peer =>
      clashWireGuardPeer lib peer w.persistentKeepalive
    dialer := w.dialer.build }

/-- `Proxy.Build`. -/
def buildOptions : (kind : ClashKind) → kind.Options lib.Value → Parsed AnyOptions
  | .ss, options => do return ⟨.shadowsocks, ← ShadowSocksOption.build lib options⟩
  | .tuic, options => .ok ⟨.tuic, TuicOption.build lib options⟩
  | .vmess, options => do return ⟨.vmess, ← VmessOption.build lib options⟩
  | .vless, options => do return ⟨.vless, ← VlessOption.build lib options⟩
  | .socks5, options => .ok ⟨.socks, Socks5Option.build options⟩
  | .http, options => .ok ⟨.http, HttpOption.build lib options⟩
  | .trojan, options => do return ⟨.trojan, ← TrojanOption.build lib options⟩
  | .hysteria, options => .ok ⟨.hysteria, HysteriaOption.build lib options⟩
  | .hysteria2, options => .ok ⟨.hysteria2, Hysteria2Option.build lib options⟩
  | .ssh, options => .ok ⟨.ssh, SSHOption.build lib options⟩
  | .snell, options => do return ⟨.snell, ← SnellOption.build lib options⟩
  | .anytls, options => .ok ⟨.anyTLS, AnyTLSOption.build lib options⟩
  | .wireguard, options => .ok ⟨.wireGuard, ClashWireGuardOption.build lib options⟩
  | .tailscale, options => .ok ⟨.tailscale, ClashTailscaleOption.build options⟩

/-! ### The document -/

/-- `ClashProxy`. The options are nil if the type is not known. -/
structure ClashProxy (Value : Type) where
  name : Bytes := []
  options : Option ((kind : ClashKind) × kind.Options Value) := none

/-- `SingType`, which is empty if the type is not known. -/
def ClashProxy.singType {Value : Type} (c : ClashProxy Value) : Bytes :=
  (c.options.map fun options => options.1.singType).getD []

/-- `UnmarshalYAML`, which is not called for a null. -/
def unmarshalProxy : Option lib.Node → Except Error (ClashProxy lib.Value)
  | none => .ok {}
  | some node => do
    let (name, type) ← lib.decodeProxy node
    match lookup clashTypes type with
    | some kind =>
      let options ← lib.decodeOptions kind node
      return ⟨name, some ⟨kind, options⟩⟩
    | none => return { name := name }

/-- `yaml.Unmarshal` to a pointer, which a null document sets to nil. -/
def unmarshalConfig (content : Bytes) : Except Error (Option (List (ClashProxy lib.Value))) := do
  match ← lib.unmarshalYAML content with
  | none => return none
  | some nodes => return some (← nodes.mapM (unmarshalProxy lib))

/-- `Build` and `BuildEndpoint`. -/
def ClashProxy.build (c : ClashProxy lib.Value) : Parsed Outbound :=
  match c.options with
  | none => .ok ⟨c.singType, c.name, none⟩
  | some options => do
    let built ← buildOptions lib options.1 options.2
    return ⟨c.singType, c.name, some built⟩

def ClashProxy.isOutbound (c : ClashProxy lib.Value) : Bool :=
  c.singType ≠ [] && c.singType ≠ text "wireguard" && c.singType ≠ text "tailscale"

/-- A WireGuard proxy with options for AmneziaWG is left out. -/
def ClashProxy.isEndpoint (c : ClashProxy lib.Value) : Bool :=
  if c.singType = text "wireguard" then
    match c.options with
    | some ⟨.wireguard, options⟩ => !options.amneziaWG
    | _ => true
  else c.singType = text "tailscale"

abbrev Servers := List Outbound × List Outbound

def parseClashSubscription (content : Bytes) : Parsed Servers :=
  match unmarshalConfig lib content with
  | .error err => Checked.fail (.cause err (.new "parse clash config"))
  | .ok none => .error .panic
  | .ok (some proxies) => do
    let outbounds ← (proxies.filter (ClashProxy.isOutbound lib)).mapM (ClashProxy.build lib)
    let endpoints ← (proxies.filter (ClashProxy.isEndpoint lib)).mapM (ClashProxy.build lib)
    return (outbounds, endpoints)

end SingBox.Subscription
