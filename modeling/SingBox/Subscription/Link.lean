/-
**Share links** (`provider/parser/link.go`).

A line of a raw subscription is a link whose scheme says how it is parsed. Its parameters are in the query, or in a
JSON object behind it, and are applied one after the other in the order in which the map is ranged over.

The parsers are computations that can panic (`Checked`). Two of their steps do: a duration that can be parsed is
set where it cannot be assigned (`stringToDuration`), and a path with a newline has no match whose groups could be
taken (`v2rayTransportWsPath`).
-/

import SingBox.Subscription.Options
import Mathlib.Data.List.DropRight

namespace SingBox.Subscription

open SingBox.Lib Checked

/-- `url.Values`, in the order in which it is ranged over. -/
structure Query where
  entries : List (Bytes × List Bytes)
  nonempty : ∀ entry ∈ entries, entry.2 ≠ []
  distinct : (entries.map Prod.fst).Nodup

/-- `url.URL`. The user is a name and a password, which is empty if there is none. -/
structure LinkURL where
  user : Option (Bytes × Bytes)
  (hostname port fragment : Bytes)
  query : Query

/-- What the parsers of links use: `url.Parse`, base64, the decoding of a JSON object of strings, the order of maps,
`time.ParseDuration`, `netip.ParseAddr`, `M.IsDomainName` and `NetworkBytesCompat.UnmarshalJSON`. -/
structure LinkLibrary where
  parseURL : Bytes → Except Error LinkURL
  rawURLDecode : Bytes → Option Bytes
  unmarshalStrings : Bytes → Except Error (List (Bytes × Bytes))
  order : RangeOrder
  parseDuration : Bytes → Option Int
  (isAddr isDomainName : Bytes → Bool)
  networkBytes : Bytes → Option Nat

abbrev Parsed := Checked Error

def returning {α : Type} : Except Error α → Parsed α
  | .ok value => .ok value
  | .error err => fail err

/-! ### Values -/

def isTrue (value : Bytes) : Bool := value = text "1" || value = text "true"

/-- `StringToType[uint16]` and `StringToType[uint32]`. -/
def stringToUint (bits : Nat) (value : Bytes) : Nat := parseUint value % 2 ^ bits

/-- `StringToType[badoption.Duration]`: a duration that `time` parses is not assignable to the other type. -/
def stringToDuration (lib : LinkLibrary) (value : Bytes) : Parsed Int :=
  match lib.parseDuration value with
  | some _ => .error .panic
  | none => .ok (parseInt value).1

/-- `^[ \t]*?(\S+?):[ \t]*?(\S+?)[ \t]*?$`: the key ends at the first colon for which the rest is a value. -/
def matchHeader (line : Bytes) : Option (Bytes × Bytes) :=
  let line := line.dropWhile isBlank
  (List.range line.length).findSome? fun i =>
    let key := line.take i
    let value := ((line.drop (i + 1)).dropWhile isBlank).rdropWhile isBlank
    if i ≠ 0 ∧ (line.drop i).head? = some 0x3A ∧ key.all (!isSpace ·) ∧ value ≠ [] ∧ value.all (!isSpace ·) then
      some (key, value)
    else none

/-- `StringToType[badoption.HTTPHeader]`. -/
def stringToHeader (str : Bytes) : List (Bytes × List Bytes) :=
  (str.splitOn newline).foldl (fun headers line =>
    match matchHeader line with
    | some (key, value) => put headers key (value.splitOn 0x2C)
    | none => headers) []

/-- `^(.*?)(?:\?ed=(\d*))?$`: the match and its groups, or nothing if there is none. -/
def findWsPath (path : Bytes) : List Bytes :=
  if path.contains newline then []
  else
    let early := (List.range path.length).findSome? fun i =>
      (dropText (text "?ed=") (path.drop i)).bind fun digits =>
        if digits.all isDigit then some [path, path.take i, digits] else none
    early.getD [path, path, []]

def v2rayTransportWsPath (options : V2RayWebsocketOptions) (path : Bytes) : Parsed V2RayWebsocketOptions := do
  let result := findWsPath path
  let first ← elem result 1
  let second ← elem result 2
  if second ≠ [] then
    return { options with
      path := first, earlyDataHeaderName := text "Sec-WebSocket-Protocol", maxEarlyData := stringToUint 32 second }
  else return { options with path := first }

def v2rayTransportWs (host path : Bytes) : Parsed V2RayWebsocketOptions :=
  let options : V2RayWebsocketOptions :=
    if host ≠ [] then { headers := some (stringToHeader (text "Host: " ++ host)) } else {}
  if path ≠ [] then v2rayTransportWsPath options path else .ok options

/-- Some links use the HTTP host as the certificate name when dialing an address. -/
def v2rayHostTLSServerName (lib : LinkLibrary) (server host : Bytes) : Bytes :=
  if !lib.isAddr server then []
  else if host = [] || host.any (fun byte => byte = 0x2C || byte = 0x3A) || !lib.isDomainName host then []
  else if lib.isAddr host then []
  else host

def clashPorts (ports : Bytes) : List Bytes :=
  if ports = [] then []
  else (((ports.map fun byte => if byte = 0x2F then 0x2C else byte).splitOn 0x2C).filter (· ≠ [])).map
    (replaceFirst 0x2D 0x3A)

def Query.range {σ : Type} (query : Query) (init : σ) (param : σ → Bytes → Bytes → Parsed σ) : Parsed σ :=
  query.entries.foldlM (fun s entry => do
    let value ← elem entry.2 0
    param s entry.1 value) init

def rangeMap {σ : Type} (lib : LinkLibrary) (m : List (Bytes × Bytes)) (init : σ)
    (param : σ → Bytes → Bytes → Parsed σ) : Parsed σ :=
  (lib.order.arrange m).foldlM (fun s entry => param s entry.1 entry.2) init

def Query.proxy (query : Query) : Parsed (List (Bytes × Bytes)) :=
  query.range [] fun proxy key value => .ok (put proxy key value)

/-- `m[key]`, which is empty if there is none. -/
def valueAt (m : List (Bytes × Bytes)) (key : String) : Bytes := (get m (text key)).getD []

def LinkURL.server (url : LinkURL) : ServerOptions := ⟨url.hostname, stringToUint 16 url.port⟩

def LinkURL.requireUser (url : LinkURL) (missing : String) : Parsed (Bytes × Bytes) :=
  match url.user with
  | some user => if user.1 = [] then fail (.new missing) else .ok user
  | none => fail (.new missing)

def linkTLS (enabled : Bool) (serverName : Bytes) : OutboundTLSOptions :=
  { enabled := enabled, serverName := serverName, ech := some {}, utls := some {}, reality := some {} }

/-- Options that are being read, with those for TLS apart. -/
structure Reading (Options : Type) where
  options : Options
  tls : OutboundTLSOptions

def shadowsocksPluginName (plugin : Bytes) : Bytes :=
  match cut (text ";") plugin with
  | some (before, _) => before
  | none => plugin

def shadowsocksPluginOptions (plugin : Bytes) : Bytes :=
  match cut (text ";") plugin with
  | some (_, after) => after
  | none => []

section

variable (lib : LinkLibrary)

def parseShadowsocksLink (link : Bytes) : Parsed Outbound := do
  let url ← returning (lib.parseURL link)
  let user ← url.requireUser "missing user info"
  ensure (user.2 ≠ []) (.new "bad user info")
  let plugin := ((get url.query.entries (text "plugin")).getD []).headD []
  let options : ShadowsocksOutboundOptions :=
    { server := url.server, method := user.1, password := user.2
      plugin := shadowsocksPluginName plugin, pluginOptions := shadowsocksPluginOptions plugin }
  return ⟨text "shadowsocks", url.fragment, some ⟨.shadowsocks, options⟩⟩

/-! ### TUIC -/

inductive TuicKey where
  | congestionControl | udpRelayMode | udpOverStream | zeroRTTHandshake | heartbeatInterval | sni | insecure
  | disableSNI | tcpFastOpen | alpn

def tuicKeys : List (String × TuicKey) :=
  [("congestion_control", .congestionControl), ("udp_relay_mode", .udpRelayMode),
    ("udp_over_stream", .udpOverStream), ("zero_rtt_handshake", .zeroRTTHandshake),
    ("reduce_rtt", .zeroRTTHandshake), ("heartbeat_interval", .heartbeatInterval), ("sni", .sni),
    ("insecure", .insecure), ("skip-cert-verify", .insecure), ("allow_insecure", .insecure),
    ("disable_sni", .disableSNI), ("tfo", .tcpFastOpen), ("tcp-fast-open", .tcpFastOpen),
    ("tcp_fast_open", .tcpFastOpen), ("alpn", .alpn)]

def tuicParam (s : Reading TUICOutboundOptions) (key value : Bytes) : Parsed (Reading TUICOutboundOptions) :=
  match lookup tuicKeys key with
  | some .congestionControl =>
    .ok (if value ≠ text "cubic" then { s with options.congestionControl := value } else s)
  | some .udpRelayMode => .ok { s with options.udpRelayMode := value }
  | some .udpOverStream => .ok (if isTrue value then { s with options.udpOverStream := true } else s)
  | some .zeroRTTHandshake => .ok (if isTrue value then { s with options.zeroRTTHandshake := true } else s)
  | some .heartbeatInterval => do
    let heartbeat ← stringToDuration lib value
    return { s with options.heartbeat := heartbeat }
  | some .sni => .ok { s with tls.serverName := value }
  | some .insecure => .ok (if isTrue value then { s with tls.insecure := true } else s)
  | some .disableSNI => .ok (if isTrue value then { s with tls.disableSNI := true } else s)
  | some .tcpFastOpen => .ok (if isTrue value then { s with options.dialer.tcpFastOpen := true } else s)
  | some .alpn => .ok { s with tls.alpn := value.splitOn 0x2C }
  | none => .ok s

def parseTuicLink (link : Bytes) : Parsed Outbound := do
  let url ← returning (lib.parseURL link)
  let user ← url.requireUser "missing uuid"
  let options : TUICOutboundOptions := { uuid := user.1, password := user.2, server := url.server }
  let s ← url.query.range ⟨options, linkTLS true url.hostname⟩ (tuicParam lib)
  let options := if s.options.udpOverStream then { s.options with udpRelayMode := [] } else s.options
  return ⟨text "tuic", url.fragment, some ⟨.tuic, { options with tls := some s.tls }⟩⟩

def linkTransport : V2RayTransportOptions :=
  { httpOptions := { headers := some [] }, websocketOptions := { headers := some [] } }

def httpHost (proxy : List (Bytes × Bytes)) : List Bytes :=
  if valueAt proxy "host" ≠ [] then [valueAt proxy "host"] else []

def websocketTransport (proxy : List (Bytes × Bytes)) (transport : V2RayTransportOptions) :
    Parsed V2RayTransportOptions := do
  let options ← v2rayTransportWs (valueAt proxy "host") (valueAt proxy "path")
  return { transport with type := text "ws", websocketOptions := options }

/-! ### VMess -/

/-- `\d+|true|false`, at the beginning of a text. -/
def numberOrBool (s : Bytes) : Bytes :=
  let digits := s.takeWhile isDigit
  if digits ≠ [] then digits
  else if (text "true").isPrefixOf s then text "true"
  else if (text "false").isPrefixOf s then text "false"
  else []

/-- `(\"[^:,]+?\"[ \t]*:[ \t]*)(\d+|true|false)`, at the beginning of a text: the lengths of the two groups. -/
def quotedValue (s : Bytes) : Option (Nat × Nat) :=
  if s.head? ≠ some 0x22 then none
  else (List.range s.length).findSome? fun k =>
    let key := (s.drop 1).take (k + 1)
    let colon := (s.drop (k + 3)).dropWhile isBlank
    let value := (colon.drop 1).dropWhile isBlank
    if key.all (fun byte => byte ≠ 0x3A && byte ≠ 0x2C) ∧ (s.drop (k + 2)).head? = some 0x22 ∧
        colon.head? = some 0x3A ∧ numberOrBool value ≠ [] then
      some (s.length - value.length, (numberOrBool value).length)
    else none

/-- `ReplaceAllString` with `$1"$2"`. The bytes of a match are skipped. -/
def quoteNumbers : Bytes → Nat → Bytes
  | [], _ => []
  | _ :: s, skip + 1 => quoteNumbers s skip
  | byte :: s, 0 =>
    match quotedValue (byte :: s) with
    | some (key, value) =>
      (byte :: s).take key ++ 0x22 :: ((byte :: s).drop key).take value ++ 0x22 :: quoteNumbers s (key + value - 1)
    | none => byte :: quoteNumbers s 0

def vmessQueryParam (proxy : List (Bytes × Bytes)) (key value : Bytes) : List (Bytes × Bytes) :=
  if key = text "type" then
    if value = text "http" then put (put proxy (text "net") (text "tcp")) (text "type") (text "http") else proxy
  else if key = text "encryption" then put proxy (text "scy") value
  else if key = text "alterId" then put proxy (text "aid") value
  else put proxy key value

def vmessURLProxy (link : Bytes) : Parsed (List (Bytes × Bytes)) := do
  let url ← returning (lib.parseURL link)
  let user ← url.requireUser "missing uuid"
  let proxy := put (put (put (put [] (text "id") user.1) (text "add") url.hostname) (text "port") url.port)
    (text "ps") url.fragment
  url.query.range proxy fun proxy key value => .ok (vmessQueryParam proxy key value)

def vmessProxy (link : Bytes) : Parsed (List (Bytes × Bytes)) := do
  let content ← sliceFrom (quoteNumbers link 0) 8
  match lib.unmarshalStrings content with
  | .ok proxy => .ok proxy
  | .error _ => vmessURLProxy lib link

inductive VMessKey where
  | ps | add | sni | port | id | scy | aid | packetEncoding | xudp | tls | insecure | fp | net | tcpFastOpen

def vmessKeys : List (String × VMessKey) :=
  [("ps", .ps), ("add", .add), ("sni", .sni), ("port", .port), ("id", .id), ("scy", .scy), ("aid", .aid),
    ("packet_encoding", .packetEncoding), ("xudp", .xudp), ("tls", .tls), ("insecure", .insecure),
    ("skip-cert-verify", .insecure), ("fp", .fp), ("net", .net), ("tfo", .tcpFastOpen),
    ("tcp-fast-open", .tcpFastOpen), ("tcp_fast_open", .tcpFastOpen)]

def vmessTransport (proxy : List (Bytes × Bytes)) (network : Bytes) : Parsed (Option V2RayTransportOptions) :=
  if network = text "ws" then some <$> websocketTransport proxy linkTransport
  else if network = text "h2" then
    .ok (some { linkTransport with
      type := text "http"
      httpOptions := { host := httpHost proxy, path := valueAt proxy "path", headers := some [] } })
  else if network = text "tcp" then
    match get proxy (text "type") with
    | none => .ok (some linkTransport)
    | some type =>
      if type ≠ text "http" then .ok none
      else
        .ok (some { linkTransport with
          type := text "http"
          httpOptions :=
            { host := httpHost proxy, path := valueAt proxy "path", method := valueAt proxy "method"
              headers := some (((get proxy (text "headers")).map stringToHeader).getD []) } })
  else if network = text "grpc" then
    .ok (some { linkTransport with type := text "grpc", grpcOptions := ⟨valueAt proxy "host"⟩ })
  else .ok none

structure VMessReading extends Reading VMessOutboundOptions where
  tag : Bytes

def setFingerprint (tls : OutboundTLSOptions) (value : Bytes) : OutboundTLSOptions :=
  { tls with utls := some ⟨true, value⟩ }

def vmessParam (proxy : List (Bytes × Bytes)) (s : VMessReading) (key value : Bytes) : Parsed VMessReading :=
  match lookup vmessKeys key with
  | some .ps => .ok { s with tag := value }
  | some .add => .ok { s with options.server.server := value }
  | some .sni => .ok { s with tls.serverName := value }
  | some .port => .ok { s with options.server.serverPort := stringToUint 16 value }
  | some .id => .ok { s with options.uuid := value }
  | some .scy => .ok { s with options.security := value }
  | some .aid => .ok { s with options.alterId := (parseInt value).1 }
  | some .packetEncoding => .ok { s with options.packetEncoding := value }
  | some .xudp => .ok (if isTrue value then { s with options.packetEncoding := text "xudp" } else s)
  | some .tls => .ok (if isTrue value || value = text "tls" then { s with tls.enabled := true } else s)
  | some .insecure => .ok (if isTrue value then { s with tls.insecure := true } else s)
  | some .fp => .ok { s with tls := setFingerprint s.tls value }
  | some .net => do
    let transport ← vmessTransport proxy value
    let s := if value = text "h2" then { s with tls.enabled := true } else s
    return if transport.isSome then { s with options.transport := transport } else s
  | some .tcpFastOpen => .ok (if isTrue value then { s with options.dialer.tcpFastOpen := true } else s)
  | none => .ok s

def vmessServerName (proxy : List (Bytes × Bytes)) : Bytes :=
  let network := valueAt proxy "net"
  let http := network = text "h2" || network = text "tcp" && valueAt proxy "type" = text "http"
  if http || network = text "ws" || network = text "http" then
    v2rayHostTLSServerName lib (valueAt proxy "add") (valueAt proxy "host")
  else []

def finishServerName (tls : OutboundTLSOptions) (hostName sni : Bytes) : OutboundTLSOptions :=
  if sni ≠ [] then { tls with serverName := sni }
  else if hostName ≠ [] then { tls with serverName := hostName }
  else tls

def parseVMessLink (link : Bytes) : Parsed Outbound := do
  let proxy ← vmessProxy lib link
  let s ← rangeMap lib proxy ⟨⟨{ security := text "auto" }, linkTLS false (valueAt proxy "add")⟩, []⟩ (vmessParam proxy)
  let hostName := if s.tls.enabled then vmessServerName lib proxy else []
  let tls := finishServerName s.tls hostName (valueAt proxy "sni")
  return ⟨text "vmess", s.tag, some ⟨.vmess, { s.options with tls := if tls.enabled then some tls else none }⟩⟩

/-! ### VLESS -/

inductive VLESSKey where
  | type | security | insecure | serverName | alpn | fp | flow | pbk | sid | tcpFastOpen

def vlessKeys : List (String × VLESSKey) :=
  [("type", .type), ("security", .security), ("insecure", .insecure), ("skip-cert-verify", .insecure),
    ("serviceName", .serverName), ("sni", .serverName), ("peer", .serverName), ("alpn", .alpn), ("fp", .fp),
    ("flow", .flow), ("pbk", .pbk), ("sid", .sid), ("tfo", .tcpFastOpen), ("tcp-fast-open", .tcpFastOpen),
    ("tcp_fast_open", .tcpFastOpen)]

def vlessTransport (proxy : List (Bytes × Bytes)) (type : Bytes) : Parsed (Option V2RayTransportOptions) :=
  let transport : V2RayTransportOptions := { httpOptions := { headers := some [] } }
  if type = text "ws" then some <$> websocketTransport proxy transport
  else if type = text "http" then
    let host := valueAt proxy "host"
    .ok (some { transport with
      type := text "http"
      httpOptions :=
        { host := if host ≠ [] then host.splitOn 0x2C else [], path := valueAt proxy "path", headers := some [] } })
  else if type = text "grpc" then
    .ok (some { transport with type := text "grpc", grpcOptions := ⟨valueAt proxy "serviceName"⟩ })
  else .ok none

def setReality (tls : OutboundTLSOptions) (change : OutboundRealityOptions → OutboundRealityOptions) :
    OutboundTLSOptions :=
  { tls with reality := tls.reality.map change }

def vlessParam (proxy : List (Bytes × Bytes)) (s : Reading VLESSOutboundOptions) (key value : Bytes) :
    Parsed (Reading VLESSOutboundOptions) :=
  match lookup vlessKeys key with
  | some .type => do
    let transport ← vlessTransport proxy value
    return if transport.isSome then { s with options.transport := transport } else s
  | some .security =>
    .ok (if value = text "tls" then { s with tls.enabled := true }
      else if value = text "reality" then
        { s with tls := setReality { s.tls with enabled := true } fun it => { it with enabled := true } }
      else s)
  | some .insecure => .ok (if isTrue value then { s with tls.insecure := true } else s)
  | some .serverName => .ok { s with tls.serverName := value }
  | some .alpn => .ok { s with tls.alpn := value.splitOn 0x2C }
  | some .fp => .ok { s with tls := setFingerprint s.tls value }
  | some .flow =>
    .ok (if value = text "xtls-rprx-vision" then { s with options.flow := text "xtls-rprx-vision" } else s)
  | some .pbk => .ok { s with tls := setReality s.tls fun it => { it with publicKey := value } }
  | some .sid => .ok { s with tls := setReality s.tls fun it => { it with shortID := value } }
  | some .tcpFastOpen => .ok (if isTrue value then { s with options.dialer.tcpFastOpen := true } else s)
  | none => .ok s

def vlessServerName (server : Bytes) (proxy : List (Bytes × Bytes)) : Bytes :=
  if valueAt proxy "security" = text "tls" && valueAt proxy "sni" = [] && valueAt proxy "peer" = [] &&
      valueAt proxy "serviceName" = [] &&
      (valueAt proxy "type" = text "ws" || valueAt proxy "type" = text "http") then
    v2rayHostTLSServerName lib server (valueAt proxy "host")
  else []

def parseVLESSLink (link : Bytes) : Parsed Outbound := do
  let url ← returning (lib.parseURL link)
  let user ← url.requireUser "missing uuid"
  let proxy ← url.query.proxy
  let options : VLESSOutboundOptions := { uuid := user.1, server := url.server }
  let s ← rangeMap lib proxy ⟨options, linkTLS false url.hostname⟩ (vlessParam proxy)
  let tls := finishServerName s.tls (vlessServerName lib url.hostname proxy) (valueAt proxy "sni")
  return ⟨text "vless", url.fragment, some ⟨.vless, { s.options with tls := if tls.enabled then some tls else none }⟩⟩

inductive TrojanKey where
  | insecure | serverName | alpn | fp | type | tcpFastOpen

def trojanKeys : List (String × TrojanKey) :=
  [("insecure", .insecure), ("allowInsecure", .insecure), ("skip-cert-verify", .insecure),
    ("serviceName", .serverName), ("sni", .serverName), ("peer", .serverName), ("alpn", .alpn), ("fp", .fp),
    ("type", .type), ("tfo", .tcpFastOpen), ("tcp-fast-open", .tcpFastOpen), ("tcp_fast_open", .tcpFastOpen)]

def trojanTransport (proxy : List (Bytes × Bytes)) (type : Bytes) : Parsed (Option V2RayTransportOptions) :=
  if type = text "ws" then some <$> websocketTransport proxy linkTransport
  else if type = text "grpc" then
    .ok (some { linkTransport with type := text "grpc", grpcOptions := ⟨valueAt proxy "grpc-service-name"⟩ })
  else .ok none

def trojanParam (proxy : List (Bytes × Bytes)) (s : Reading TrojanOutboundOptions) (key value : Bytes) :
    Parsed (Reading TrojanOutboundOptions) :=
  match lookup trojanKeys key with
  | some .insecure => .ok (if isTrue value then { s with tls.insecure := true } else s)
  | some .serverName => .ok { s with tls.serverName := value }
  | some .alpn => .ok { s with tls.alpn := value.splitOn 0x2C }
  | some .fp => .ok { s with tls := setFingerprint s.tls value }
  | some .type => do
    let transport ← trojanTransport proxy value
    return if transport.isSome then { s with options.transport := transport } else s
  | some .tcpFastOpen => .ok (if isTrue value then { s with options.dialer.tcpFastOpen := true } else s)
  | none => .ok s

def parseTrojanLink (link : Bytes) : Parsed Outbound := do
  let url ← returning (lib.parseURL link)
  let user ← url.requireUser "missing password"
  let proxy ← url.query.proxy
  let options : TrojanOutboundOptions := { server := url.server, password := user.1 }
  let s ← rangeMap lib proxy ⟨options, linkTLS true url.hostname⟩ (trojanParam proxy)
  return ⟨text "trojan", url.fragment, some ⟨.trojan, { s.options with tls := some s.tls }⟩⟩

inductive HysteriaKey where
  | auth | serverName | alpn | ca | caStr | up | upMbps | down | downMbps | obfs | insecure | tcpFastOpen

def hysteriaKeys : List (String × HysteriaKey) :=
  [("auth", .auth), ("peer", .serverName), ("sni", .serverName), ("alpn", .alpn), ("ca", .ca), ("ca_str", .caStr),
    ("up", .up), ("up_mbps", .upMbps), ("down", .down), ("down_mbps", .downMbps), ("obfs", .obfs),
    ("obfsParam", .obfs), ("insecure", .insecure), ("skip-cert-verify", .insecure), ("tfo", .tcpFastOpen),
    ("tcp-fast-open", .tcpFastOpen), ("tcp_fast_open", .tcpFastOpen)]

def hysteriaParam (s : Reading HysteriaOutboundOptions) (key value : Bytes) : Reading HysteriaOutboundOptions :=
  match lookup hysteriaKeys key with
  | some .auth => { s with options.authString := value }
  | some .serverName => { s with tls.serverName := value }
  | some .alpn => { s with tls.alpn := value.splitOn 0x2C }
  | some .ca => { s with tls.certificatePath := value }
  | some .caStr => { s with tls.certificate := value.splitOn newline }
  | some .up => { s with options.up := some ((lib.networkBytes value).getD 0) }
  | some .upMbps => { s with options.upMbps := (parseInt value).1 }
  | some .down => { s with options.down := some ((lib.networkBytes value).getD 0) }
  | some .downMbps => { s with options.downMbps := (parseInt value).1 }
  | some .obfs => { s with options.obfs := value }
  | some .insecure => if isTrue value then { s with tls.insecure := true } else s
  | some .tcpFastOpen => if isTrue value then { s with options.dialer.tcpFastOpen := true } else s
  | none => s

def parseHysteriaLink (link : Bytes) : Parsed Outbound := do
  let url ← returning (lib.parseURL link)
  let options : HysteriaOutboundOptions := { server := url.server }
  let s ← url.query.range ⟨options, linkTLS true url.hostname⟩ fun s key value => .ok (hysteriaParam lib s key value)
  return ⟨text "hysteria", url.fragment, some ⟨.hysteria, { s.options with tls := some s.tls }⟩⟩

inductive Hysteria2Key where
  | up | down | mport | obfs | obfsPassword | sni | pinSHA256 | insecure

def hysteria2Keys : List (String × Hysteria2Key) :=
  [("up", .up), ("down", .down), ("mport", .mport), ("obfs", .obfs), ("obfs-password", .obfsPassword), ("sni", .sni),
    ("pinSHA256", .pinSHA256), ("insecure", .insecure), ("skip-cert-verify", .insecure)]

/-- The options point to `obfs` from the time on when they are obfuscated. -/
structure Hysteria2Reading extends Reading Hysteria2OutboundOptions where
  obfs : Hysteria2Obfs
  obfuscated : Bool

def hysteria2Param (s : Hysteria2Reading) (key value : Bytes) : Hysteria2Reading :=
  match lookup hysteria2Keys key with
  | some .up => { s with options.upMbps := (parseInt value).1 }
  | some .down => { s with options.downMbps := (parseInt value).1 }
  | some .mport => { s with options.serverPorts := clashPorts value }
  | some .obfs =>
    if value = text "salamander" then { s with obfs.type := text "salamander", obfuscated := true } else s
  | some .obfsPassword => { s with obfs.password := value }
  | some .sni => { s with tls.serverName := value }
  | some .pinSHA256 => { s with tls.certificatePinSHA256 := value }
  | some .insecure => if isTrue value then { s with tls.insecure := true } else s
  | none => s

def parseHysteria2Link (link : Bytes) : Parsed Outbound := do
  let url ← returning (lib.parseURL link)
  let port := if url.port ≠ [] then stringToUint 16 url.port else 443
  let options : Hysteria2OutboundOptions :=
    { server := ⟨url.hostname, port⟩, password := (url.user.map Prod.fst).getD [] }
  let s ← url.query.range ⟨⟨options, linkTLS true url.hostname⟩, {}, false⟩ fun s key value =>
    .ok (hysteria2Param s key value)
  let obfs := if s.obfuscated then some s.obfs else none
  return ⟨text "hysteria2", url.fragment, some ⟨.hysteria2, { s.options with obfs := obfs, tls := some s.tls }⟩⟩

inductive AnyTLSKey where
  | insecure | sni | alpn | fp | tcpFastOpen

def anyTLSKeys : List (String × AnyTLSKey) :=
  [("insecure", .insecure), ("sni", .sni), ("alpn", .alpn), ("fp", .fp), ("tfo", .tcpFastOpen),
    ("tcp-fast-open", .tcpFastOpen), ("tcp_fast_open", .tcpFastOpen)]

def anyTLSParam (s : Reading AnyTLSOutboundOptions) (key value : Bytes) : Reading AnyTLSOutboundOptions :=
  match lookup anyTLSKeys key with
  | some .insecure => if isTrue value then { s with tls.insecure := true } else s
  | some .sni => { s with tls.serverName := value }
  | some .alpn => { s with tls.alpn := value.splitOn 0x2C }
  | some .fp => { s with tls := setFingerprint s.tls value }
  | some .tcpFastOpen => if isTrue value then { s with options.dialer.tcpFastOpen := true } else s
  | none => s

def parseAnyTLSLink (link : Bytes) : Parsed Outbound := do
  let url ← returning (lib.parseURL link)
  let user ← url.requireUser "missing password"
  let proxy ← url.query.proxy
  let options : AnyTLSOutboundOptions := { server := url.server, password := user.1 }
  let s ← rangeMap lib proxy ⟨options, linkTLS true url.hostname⟩ fun s key value => .ok (anyTLSParam s key value)
  return ⟨text "anytls", url.fragment, some ⟨.anyTLS, { s.options with tls := some s.tls }⟩⟩

/-- `^(.*?)(://)(.*?)([@?#].*)?$`: the scheme, the next part and the rest. -/
def matchLink (link : Bytes) : Option (Bytes × Bytes × Bytes) :=
  if link.contains newline then none
  else (cut (text "://") link).map fun parts =>
    let isEnd : UInt8 → Bool := fun byte => byte = 0x40 || byte = 0x3F || byte = 0x23
    (parts.1, parts.2.takeWhile (!isEnd ·), parts.2.dropWhile (!isEnd ·))

inductive Scheme where
  | tuic | trojan | vless | hysteria | hysteria2 | anytls | ss | vmess

def schemes : List (String × Scheme) :=
  [("tuic", .tuic), ("trojan", .trojan), ("vless", .vless), ("hysteria", .hysteria), ("hy2", .hysteria2),
    ("hysteria2", .hysteria2), ("anytls", .anytls), ("ss", .ss), ("vmess", .vmess)]

def parseSubscriptionLink (link : Bytes) : Parsed Outbound :=
  match matchLink link with
  | none => fail (.new "invalid link")
  | some (scheme, body, rest) =>
    let decoded := scheme ++ text "://" ++ decodeBase64URLSafe lib.rawURLDecode body ++ rest
    match lookup schemes scheme with
    | some .tuic => parseTuicLink lib link
    | some .trojan => parseTrojanLink lib link
    | some .vless => parseVLESSLink lib link
    | some .hysteria => parseHysteriaLink lib link
    | some .hysteria2 => parseHysteria2Link lib link
    | some .anytls => parseAnyTLSLink lib link
    | some .ss => parseShadowsocksLink lib decoded
    | some .vmess => parseVMessLink lib decoded
    | none => fail (.extend (.new "unsupported scheme: ") scheme)

end

end SingBox.Subscription
