/-
**Overrides** (`overrideOutbounds`, `overrideEndpoints`, `overrideDialerOption` and `overrideTLSOption` in
`provider/parser/parser.go`).

For each type there is a branch which asserts the dynamic type of the options; a wrong one is a panic.
-/

import SingBox.Subscription.Link

namespace SingBox.Subscription

open SingBox.Lib

/-! ### Dialers and TLS -/

structure OverrideDialerOptions where
  (detour bindInterface inet4BindAddress inet6BindAddress protectPath : Option Bytes := none)
  routingMark : Option Nat := none
  reuseAddr : Option Bool := none
  connectTimeout : Option Int := none
  (tcpFastOpen tcpMultiPath : Option Bool := none)
  (tcpKeepAlive tcpKeepAliveInterval : Option Int := none)
  udpFragment : Option Bool := none
  domainResolver : Option DomainResolveOptions := none
  networkStrategy : Option Nat := none
  (networkType fallbackNetworkType : Option (List Nat) := none)
  (fallbackDelay tcpKeepAliveCount : Option Int := none)
  disableTCPKeepAlive : Option Bool := none
  domainStrategy : Option Nat := none
  deriving DecidableEq

/-- `option.OverrideTLSOptions`, with the fields that are read. -/
structure OverrideTLSOptions where
  (enabled disableSNI : Option Bool := none)
  (serverName certificateServerName : Option Bytes := none)
  (insecure kernelTx kernelRx : Option Bool := none)

structure OverrideAnyTLSOptions where
  clientMetadata : Option Bytes := none
  disableReuse : Option Bool := none

/-- The overrides of a provider, its tag and the tags in its subscription. -/
structure Overrides where
  dialer : Option OverrideDialerOptions
  tls : Option OverrideTLSOptions
  anyTLS : Option OverrideAnyTLSOptions
  tags : List Bytes
  providerTag : Bytes

/-- A detour is kept if it names something in the subscription. -/
def rewriteDetour (tags : List Bytes) (providerTag detour : Bytes) : Bytes :=
  if detour = [] then []
  else if tags.any (· = detour) then
    if providerTag ≠ [] then providerTag ++ text "/" ++ detour else detour
  else []

/-- The domain resolver is replaced even if the override has none. -/
def overrideDialerOption (options : DialerOptions) (override : Option OverrideDialerOptions) (tags : List Bytes)
    (providerTag : Bytes) : DialerOptions :=
  let options := { options with detour := rewriteDetour tags providerTag options.detour }
  match override with
  | none => options
  | some override =>
    if override = {} then options
    else
      { options with
        detour := if options.detour = [] then override.detour.getD [] else options.detour
        bindInterface := override.bindInterface.getD options.bindInterface
        inet4BindAddress := override.inet4BindAddress <|> options.inet4BindAddress
        inet6BindAddress := override.inet6BindAddress <|> options.inet6BindAddress
        protectPath := override.protectPath.getD options.protectPath
        routingMark := override.routingMark.getD options.routingMark
        reuseAddr := override.reuseAddr.getD options.reuseAddr
        connectTimeout := override.connectTimeout.getD options.connectTimeout
        tcpFastOpen := override.tcpFastOpen.getD options.tcpFastOpen
        tcpMultiPath := override.tcpMultiPath.getD options.tcpMultiPath
        tcpKeepAlive := override.tcpKeepAlive.getD options.tcpKeepAlive
        tcpKeepAliveInterval := override.tcpKeepAliveInterval.getD options.tcpKeepAliveInterval
        udpFragment := override.udpFragment <|> options.udpFragment
        domainResolver := override.domainResolver
        networkStrategy := override.networkStrategy <|> options.networkStrategy
        networkType := override.networkType.getD options.networkType
        fallbackNetworkType := override.fallbackNetworkType.getD options.fallbackNetworkType
        fallbackDelay := override.fallbackDelay.getD options.fallbackDelay
        tcpKeepAliveCount := override.tcpKeepAliveCount.getD options.tcpKeepAliveCount
        disableTCPKeepAlive := override.disableTCPKeepAlive.getD options.disableTCPKeepAlive
        domainStrategy := override.domainStrategy.getD options.domainStrategy }

/-- The comparison with the default compares values of different types, and never finds them equal. -/
def overrideTLSOption (options : Option OutboundTLSOptions) (override : Option OverrideTLSOptions) :
    Option OutboundTLSOptions :=
  match options, override with
  | none, _ => none
  | some options, none => some options
  | some options, some override =>
    if override.enabled = some false then some {}
    else some
      { options with
        disableSNI := override.disableSNI.getD options.disableSNI
        serverName := override.serverName.getD options.serverName
        certificateServerName := override.certificateServerName.getD options.certificateServerName
        insecure := override.insecure.getD options.insecure
        kernelTx := override.kernelTx.getD options.kernelTx
        kernelRx := override.kernelRx.getD options.kernelRx }

def overrideAnyTLSOption (options : AnyTLSOutboundOptions) (override : Option OverrideAnyTLSOptions) :
    AnyTLSOutboundOptions :=
  match override with
  | none => options
  | some override =>
    { options with
      clientMetadata := override.clientMetadata <|> options.clientMetadata
      disableReuse := override.disableReuse.getD options.disableReuse }

/-! ### Outbounds -/

namespace Overrides

variable (overrides : Overrides)

def overrideDialer (options : DialerOptions) : DialerOptions :=
  overrideDialerOption options overrides.dialer overrides.tags overrides.providerTag

def overrideTLS (options : Option OutboundTLSOptions) : Option OutboundTLSOptions :=
  overrideTLSOption options overrides.tls

def overrideOptions : (kind : Kind) → kind.Options → kind.Options
  | .http, options =>
    { options with dialer := overrides.overrideDialer options.dialer, tls := overrides.overrideTLS options.tls }
  | .socks, options => { options with dialer := overrides.overrideDialer options.dialer }
  | .tuic, options | .vmess, options | .vless, options | .trojan, options | .hysteria, options
  | .shadowTLS, options | .hysteria2, options =>
    { options with dialer := overrides.overrideDialer options.dialer, tls := overrides.overrideTLS options.tls }
  | .anyTLS, options =>
    let options : AnyTLSOutboundOptions :=
      { options with dialer := overrides.overrideDialer options.dialer, tls := overrides.overrideTLS options.tls }
    overrideAnyTLSOption options overrides.anyTLS
  | .shadowsocks, options | .snell, options | .wireGuard, options | .tailscale, options =>
    { options with dialer := overrides.overrideDialer options.dialer }
  | .ssh, options | .direct, options | .tor, options | .naive, options | .shadowsocksR, options
  | .group, options | .stub, options => options

end Overrides

/-- The types that `overrideOutbounds` has a branch for, with the dynamic types that it asserts. -/
def overriddenOutbounds : List (String × Kind) :=
  [("http", .http), ("socks", .socks), ("tuic", .tuic), ("vmess", .vmess), ("vless", .vless), ("trojan", .trojan),
    ("hysteria", .hysteria), ("shadowtls", .shadowTLS), ("hysteria2", .hysteria2), ("anytls", .anyTLS),
    ("shadowsocks", .shadowsocks), ("snell", .snell)]

def overriddenEndpoints : List (String × Kind) := [("wireguard", .wireGuard), ("tailscale", .tailscale)]

/-- `outbound.Options.(*T)`. -/
def assertKind {ε : Type} (options : Option AnyOptions) (kind : Kind) : Checked ε kind.Options :=
  match options with
  | some options => if same : options.kind = kind then .ok (same ▸ options.value) else .error .panic
  | none => .error .panic

def overrideOne {ε : Type} (overrides : Overrides) (branches : List (String × Kind)) (outbound : Outbound) :
    Checked ε Outbound :=
  match lookup branches outbound.type with
  | some kind => do
    let options ← assertKind outbound.options kind
    return { outbound with options := some ⟨kind, overrides.overrideOptions kind options⟩ }
  | none => .ok outbound

def overrideOutbounds {ε : Type} (overrides : Overrides) (outbounds : List Outbound) : Checked ε (List Outbound) :=
  outbounds.mapM (overrideOne overrides overriddenOutbounds)

def overrideEndpoints {ε : Type} (overrides : Overrides) (endpoints : List Outbound) : Checked ε (List Outbound) :=
  endpoints.mapM (overrideOne overrides overriddenEndpoints)

/-! ### The assertions hold -/

def Agree (branches registry : List (String × Kind)) : Prop :=
  ∀ entry ∈ branches, lookup registry (text entry.1) = some entry.2

section Typed

variable {ε : Type} {branches registry : List (String × Kind)} {outbound : Outbound}

theorem exists_options_of_typed (agree : Agree branches registry) (typed : outbound.Typed registry) {kind : Kind}
    (branch : lookup branches outbound.type = some kind) :
    ∃ options, outbound.options = some options ∧ options.kind = kind := by
  obtain ⟨name, member, same⟩ := mem_of_lookup branch
  have registered := agree _ member
  rw [same, ← typed] at registered
  exact Option.map_eq_some_iff.mp registered

theorem overrideOne_meets (overrides : Overrides) (agree : Agree branches registry) (typed : outbound.Typed registry) :
    Checked.Meets (Outbound.Typed registry) (overrideOne overrides branches outbound : Checked ε Outbound) := by
  rw [overrideOne]
  cases branch : lookup branches outbound.type with
  | none => exact typed
  | some kind =>
    obtain ⟨options, here, rfl⟩ := exists_options_of_typed agree typed branch
    dsimp only
    rw [here, assertKind, dif_pos rfl]
    rw [Outbound.Typed, here] at typed
    exact typed

/-- **Overriding does not panic** on outbounds whose options are of their types, and keeps them so. -/
theorem overrideOutbounds_meets (overrides : Overrides) {outbounds : List Outbound}
    (typed : ∀ outbound ∈ outbounds, outbound.Typed outboundRegistry) :
    Checked.Meets (fun overridden => ∀ outbound ∈ overridden, outbound.Typed outboundRegistry)
      (overrideOutbounds overrides outbounds : Checked ε (List Outbound)) :=
  Checked.meets_mapM fun outbound member =>
    overrideOne_meets overrides (by unfold Agree; decide) (typed outbound member)

theorem overrideEndpoints_meets (overrides : Overrides) {endpoints : List Outbound}
    (typed : ∀ endpoint ∈ endpoints, endpoint.Typed endpointRegistry) :
    Checked.Meets (fun overridden => ∀ endpoint ∈ overridden, endpoint.Typed endpointRegistry)
      (overrideEndpoints overrides endpoints : Checked ε (List Outbound)) :=
  Checked.meets_mapM fun endpoint member =>
    overrideOne_meets overrides (by unfold Agree; decide) (typed endpoint member)

end Typed

end SingBox.Subscription
