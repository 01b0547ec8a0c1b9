/-
**Clash subscriptions that are parsed without a panic.**

`parseClashSubscription_returns_iff`: the parser returns exactly if the document is not null and the options of plugins
that it prints can be printed, and then all options are those of their types.
-/

import SingBox.Subscription.Clash
import SingBox.Subscription.LinkSafe

namespace SingBox.Subscription

open SingBox.Lib Checked

variable {lib : ClashLibrary}

theorem get_clashHeaders {entries : List (Bytes × Bytes)} {key : Bytes} {host : List Bytes}
    (found : get (entries.map fun entry => (entry.1, [entry.2])) key = some host) : ∃ value, host = [value] := by
  obtain ⟨entry, member, here⟩ := List.exists_of_findSome?_eq_some found
  obtain ⟨header, _, rfl⟩ := List.mem_map.mp member
  split_ifs at here
  exact ⟨header.2, (Option.some.inj here).symm⟩

theorem clashUpgradeHost_value (headers : Option (List (Bytes × Bytes))) :
    PanicsUnless True (clashUpgradeHost (clashHeaders headers)) := by
  rw [clashUpgradeHost]
  cases found : (clashHeaders headers).bind fun entries => get entries (text "Host") with
  | none => exact .value _
  | some host =>
    obtain ⟨entries, known, here⟩ := Option.bind_eq_some_iff.mp found
    obtain ⟨list, _, rfl⟩ := Option.map_eq_some_iff.mp known
    obtain ⟨value, rfl⟩ := get_clashHeaders here
    exact .value value

theorem clashTransport_value (network : Bytes) (httpOpts : ClashHTTP) (h2Opts : ClashHTTP2)
    (grpcServiceName : Bytes) (wsOpts : ClashWS) :
    PanicsUnless True (clashTransport network httpOpts h2Opts grpcServiceName wsOpts) := by
  rw [clashTransport]
  split_ifs
  · exact .value _
  · exact .value _
  · exact .value _
  · exact (clashUpgradeHost_value wsOpts.headers).map
  · exact .value _
  · exact .value _

/-! ### Plugins -/

def Printable (lib : ClashLibrary) (value : Option lib.Value) : Prop :=
  ∀ it ∈ value, (lib.valueText it).isSome

theorem printValue_panicsUnless (value : lib.Value) :
    PanicsUnless (Printable lib (some value)) (printValue lib value) := by
  rw [printValue]
  cases printed : lib.valueText value with
  | none =>
    refine ⟨fun all => ?_, fun _ => rfl⟩
    have := all value rfl
    rw [printed] at this
    cases this
  | some output =>
    refine .of_ok ?_
    rintro it ⟨rfl⟩
    rw [printed]
    rfl

theorem printable_none : Printable lib none := fun _ impossible => by cases impossible

theorem clashStringOption_panicsUnless (options : ClashMap lib.Value) (key : String) :
    PanicsUnless (Printable lib (get options (text key)).join) (clashStringOption lib options key) := by
  rw [clashStringOption]
  cases get options (text key) with
  | none => exact .of_ok printable_none
  | some value =>
    cases value with
    | none => exact .of_ok printable_none
    | some value => exact printValue_panicsUnless value

theorem pluginOption_panicsUnless (entry : Bytes × Option lib.Value) :
    PanicsUnless (Printable lib entry.2) (pluginOption lib entry) := by
  obtain ⟨-, value⟩ := entry
  cases value with
  | none => exact .of_ok printable_none
  | some value => exact (printValue_panicsUnless value).map

theorem pluginOptionsBuild_panicsUnless (options : ClashMap lib.Value) :
    PanicsUnless (∀ entry ∈ options, Printable lib entry.2) (pluginOptionsBuild lib options) := by
  refine (PanicsUnless.mapM fun entry _ => pluginOption_panicsUnless entry).map.congr ?_
  exact forall_congr' fun entry => imp_congr_left (lib.order.perm options).mem_iff

/-! ### Proxies -/

def SafeOptions (lib : ClashLibrary) : (kind : ClashKind) → kind.Options lib.Value → Prop
  | .ss, options => ∀ entry ∈ pluginEntries lib options.plugin options.pluginOpts, Printable lib entry.2
  | .snell, options =>
    Printable lib (get options.obfsOpts (text "mode")).join ∧ Printable lib (get options.obfsOpts (text "host")).join
  | _, _ => True

def ClashKind.built : ClashKind → Kind
  | .ss => .shadowsocks
  | .tuic => .tuic
  | .vmess => .vmess
  | .vless => .vless
  | .socks5 => .socks
  | .http => .http
  | .trojan => .trojan
  | .hysteria => .hysteria
  | .hysteria2 => .hysteria2
  | .ssh => .ssh
  | .snell => .snell
  | .anytls => .anyTLS
  | .wireguard => .wireGuard
  | .tailscale => .tailscale

theorem buildOptions_panicsUnless (kind : ClashKind) (options : kind.Options lib.Value) :
    PanicsUnless (SafeOptions lib kind options) (buildOptions lib kind options) := by
  cases kind with
  | ss => exact (pluginOptionsBuild_panicsUnless _).map.map
  | snell =>
    refine ((clashStringOption_panicsUnless options.obfsOpts "mode").bind fun mode => ?_).map
    exact (clashStringOption_panicsUnless options.obfsOpts "host").map
  | vmess | vless | trojan => exact (clashTransport_value _ _ _ _ _).map.map
  | _ => exact .value _

theorem kind_of_map {α : Type} {kind : Kind} {computation : Parsed α} {f : α → kind.Options} {built : AnyOptions}
    (done : (computation >>= fun value => .ok ⟨kind, f value⟩) = .ok built) : built.kind = kind := by
  obtain ⟨value, -, same⟩ := bind_eq_ok_iff.mp done
  rw [← Except.ok.inj same]

theorem buildOptions_kind {kind : ClashKind} {options : kind.Options lib.Value} {built : AnyOptions}
    (done : buildOptions lib kind options = .ok built) : built.kind = kind.built := by
  cases kind with
  | ss | snell | vmess | vless | trojan => exact kind_of_map done
  | _ => exact Except.ok.inj done ▸ rfl

/-! ### The document -/

def ClashProxy.Safe (proxy : ClashProxy lib.Value) : Prop :=
  ∀ options ∈ proxy.options, SafeOptions lib options.1 options.2

/-- The document is not null, and what is printed of its proxies can be printed. -/
def SafeClash (lib : ClashLibrary) (content : Bytes) : Prop :=
  unmarshalConfig lib content ≠ .ok none ∧
    ∀ proxies, unmarshalConfig lib content = .ok (some proxies) → ∀ proxy ∈ proxies, ClashProxy.Safe proxy

def ServersTyped (servers : Servers) : Prop :=
  (∀ outbound ∈ servers.1, outbound.Typed outboundRegistry) ∧ ∀ endpoint ∈ servers.2, endpoint.Typed endpointRegistry

open ClashProxy

theorem ClashProxy.build_panicsUnless (proxy : ClashProxy lib.Value) :
    PanicsUnless (ClashProxy.Safe proxy) (build lib proxy) := by
  rw [build, ClashProxy.Safe]
  cases proxy.options with
  | none => exact .of_ok (by simp)
  | some options => exact (buildOptions_panicsUnless options.1 options.2).map.congr (by simp)

theorem buildAll_panicsUnless (proxies : List (ClashProxy lib.Value)) :
    PanicsUnless (∀ proxy ∈ proxies, ClashProxy.Safe proxy) (proxies.mapM (build lib)) :=
  PanicsUnless.mapM fun proxy _ => build_panicsUnless proxy

variable {proxy : ClashProxy lib.Value}

theorem ClashProxy.build_eq {options : (kind : ClashKind) × kind.Options lib.Value}
    (known : proxy.options = some options) {outbound : Outbound} (done : build lib proxy = .ok outbound) :
    outbound.type = options.1.singType ∧ outbound.options.map AnyOptions.kind = some options.1.built := by
  rw [build, singType, known] at done
  obtain ⟨value, built, same⟩ := bind_eq_ok_iff.mp done
  rw [← Except.ok.inj same]
  exact ⟨rfl, congrArg some (buildOptions_kind built)⟩

theorem exists_options_of_isOutbound (is : ClashProxy.isOutbound lib proxy) : ∃ options, proxy.options = some options ∧
      lookup outboundRegistry options.1.singType = some options.1.built := by
  obtain ⟨name, _ | ⟨kind, options⟩⟩ := proxy
  · cases is
  refine ⟨⟨kind, options⟩, rfl, ?_⟩
  cases kind with
  | wireguard | tailscale => cases is
  | _ => rfl

theorem exists_options_of_isEndpoint (is : ClashProxy.isEndpoint lib proxy) : ∃ options, proxy.options = some options ∧
      lookup endpointRegistry options.1.singType = some options.1.built := by
  obtain ⟨name, _ | ⟨kind, options⟩⟩ := proxy
  · cases is
  refine ⟨⟨kind, options⟩, rfl, ?_⟩
  cases kind with
  | wireguard | tailscale => rfl
  | _ => cases is

theorem ClashProxy.isOutbound_of_not_safe (fails : ¬ ClashProxy.Safe proxy) : isOutbound lib proxy := by
  obtain ⟨name, _ | ⟨kind, options⟩⟩ := proxy
  · exact absurd (fun _ impossible => by cases impossible) fails
  · cases kind with
    | ss | snell => rfl
    | _ => exact absurd (fun _ same => Option.some.inj same ▸ trivial) fails

theorem forall_safe_iff {proxies : List (ClashProxy lib.Value)} :
    ((∀ proxy ∈ proxies.filter (isOutbound lib), ClashProxy.Safe proxy) ∧
        ∀ proxy ∈ proxies.filter (isEndpoint lib), ClashProxy.Safe proxy) ↔
      ∀ proxy ∈ proxies, ClashProxy.Safe proxy := by
  constructor
  · rintro ⟨outbounds, _⟩ proxy member
    by_contra fails
    exact fails (outbounds proxy (List.mem_filter.mpr ⟨member, isOutbound_of_not_safe fails⟩))
  · intro all
    exact ⟨fun proxy member => all proxy (List.mem_filter.mp member).1,
      fun proxy member => all proxy (List.mem_filter.mp member).1⟩

theorem mapM_build_typed {registry : List (String × Kind)} {test : ClashProxy lib.Value → Bool}
    (registered : ∀ proxy, test proxy → ∃ options, proxy.options = some options ∧
      lookup registry options.1.singType = some options.1.built)
    {proxies : List (ClashProxy lib.Value)} {built : List Outbound}
    (done : (proxies.filter test).mapM (build lib) = .ok built) : ∀ outbound ∈ built, outbound.Typed registry := by
  have each : ∀ proxy ∈ proxies.filter test, ∀ outbound, build lib proxy = .ok outbound → outbound.Typed registry := by
    intro proxy member outbound here
    obtain ⟨options, known, found⟩ := registered proxy (List.mem_filter.mp member).2
    obtain ⟨type, kind⟩ := build_eq known here
    rw [Outbound.Typed, type, kind, found]
  exact forall_of_mapM_eq_ok each done

/-- **A Clash subscription is parsed without a panic** exactly if its document is not null and what is printed of its
proxies can be printed. -/
theorem parseClashSubscription_returns_iff (content : Bytes) :
    Returns (parseClashSubscription lib content) ↔ SafeClash lib content := by
  rw [parseClashSubscription, SafeClash]
  cases unmarshalConfig lib content with
  | error err => exact iff_of_true trivial ⟨fun same => (by cases same), fun _ same => by cases same⟩
  | ok config =>
    cases config with
    | none => exact iff_of_false id fun both => both.1 rfl
    | some proxies =>
      have outbounds := buildAll_panicsUnless (proxies.filter (isOutbound lib))
      have endpoints := buildAll_panicsUnless (proxies.filter (isEndpoint lib))
      refine (outbounds.bind fun first => endpoints.map).returns_iff.trans ?_
      rw [forall_safe_iff]
      constructor
      · intro all
        refine ⟨fun same => (by cases same), fun other same => ?_⟩
        rw [← Option.some.inj (Except.ok.inj same)]
        exact all
      · exact fun both => both.2 proxies rfl

theorem parseClashSubscription_typed {content : Bytes} {servers : Servers}
    (done : parseClashSubscription lib content = .ok servers) : ServersTyped servers := by
  rw [parseClashSubscription] at done
  cases config : unmarshalConfig lib content with
  | error err =>
    rw [config] at done
    cases done
  | ok proxies =>
    cases proxies with
    | none =>
      rw [config] at done
      cases done
    | some proxies =>
      rw [config] at done
      obtain ⟨first, built, done⟩ := bind_eq_ok_iff.mp done
      obtain ⟨second, builtToo, same⟩ := bind_eq_ok_iff.mp done
      rw [← Except.ok.inj same]
      exact ⟨mapM_build_typed (fun _ => exists_options_of_isOutbound) built,
        mapM_build_typed (fun _ => exists_options_of_isEndpoint) builtToo⟩

end SingBox.Subscription
