/-
**The detours of a subscription** (`updateProviderFromContent` in `provider/remote/remote.go`, with
`overrideDialerOption`).

In a subscription the name of a detour is untrusted: it should mean a server of the same subscription, and is
rewritten to the tag that the provider gives to that one, or dropped. A type that the overrides have a branch for may
still name a server that the filters drop, and one that they have no branch for (`ssh`, `naive`, `tor`, `shadowsocksr`
and `direct`) keeps whatever its detour was in the subscription.
-/

import SingBox.Subscription.Parse

namespace SingBox.Subscription

open SingBox.Lib SingBox.Lib.Checked List Except

def Kind.dialer? : (kind : Kind) → kind.Options → Option DialerOptions
  | .http, options | .socks, options | .shadowsocks, options | .snell, options | .tuic, options
  | .vmess, options | .vless, options | .trojan, options | .hysteria, options | .hysteria2, options
  | .anyTLS, options | .shadowTLS, options | .ssh, options | .direct, options | .tor, options | .naive, options
  | .shadowsocksR, options => some options.dialer
  | .group, _ | .stub, _ => none
  | .wireGuard, options | .tailscale, options => some options.dialer

def Outbound.detour? (outbound : Outbound) : Option Bytes := do
  let options ← outbound.options
  let dialer ← options.kind.dialer? options.value
  return dialer.detour

/-! ### What a remote provider applies -/

structure TagFilter where
  (exclude includes : Option (Bytes → Bool))

def TagFilter.keeps (filter : TagFilter) (tag : Bytes) : Bool :=
  filter.exclude.all (fun matchString => !matchString tag) && filter.includes.all (fun matchString => matchString tag)

def TagFilter.servers (filter : TagFilter) (servers : Servers) : Servers :=
  (servers.1.filter fun it => filter.keeps it.tag, servers.2.filter fun it => filter.keeps it.tag)

section Update

variable (lib : ParserLibrary) (overrideDialer : Option OverrideDialerOptions)
  (overrideTLS : Option OverrideTLSOptions) (overrideAnyTLS : Option OverrideAnyTLSOptions) (tag : Bytes)
  (filter : TagFilter) (content : Bytes)

/-- `updateProviderFromContent`: the options that are applied. -/
def updateProviderFromContent : Checked ParseError Servers := do
  let servers ← parseSubscription lib overrideDialer overrideTLS overrideAnyTLS tag content
  return filter.servers servers

end Update

def overrideDetour (overrideDialer : Option OverrideDialerOptions) : Option Bytes := do
  let override ← overrideDialer
  override.detour

def serverTag (providerTag tag : Bytes) : Bytes := providerTag ++ text "/" ++ tag

def DetourConfined (overrideDialer : Option OverrideDialerOptions) (providerTag : Bytes) (tags : List Bytes)
    (detour : Bytes) : Prop :=
  detour = [] ∨ overrideDetour overrideDialer = some detour ∨ ∃ tag ∈ tags, detour = serverTag providerTag tag

def Confined (overrideDialer : Option OverrideDialerOptions) (providerTag : Bytes) (applied : Servers) : Prop :=
  ∀ server ∈ applied.1 ++ applied.2, ∀ detour, server.detour? = some detour →
    DetourConfined overrideDialer providerTag (providerTags applied) detour

def findServers (content : Bytes) : List (Bytes → Parsed Servers) → Option Servers
  | [] => none
  | parser :: parsers =>
    match parser content with
    | .ok servers => if noServers servers then findServers content parsers else some servers
    | .error _ => findServers content parsers

def DetourSafe (overrideDialer : Option OverrideDialerOptions) (providerTag : Bytes) (filter : TagFilter)
    (tags : List Bytes) (branches : List (String × Kind)) (server : Outbound) : Prop :=
  ∀ detour, server.detour? = some detour →
    if (lookup branches server.type).isSome then
      detour ≠ [] → detour ∈ tags →
        filter.keeps detour ∨ overrideDetour overrideDialer = some (serverTag providerTag detour)
    else DetourConfined overrideDialer providerTag (tags.filter filter.keeps) detour

def DetoursSafe (overrideDialer : Option OverrideDialerOptions) (providerTag : Bytes) (filter : TagFilter)
    (found : Servers) : Prop :=
  (∀ outbound ∈ found.1, filter.keeps outbound.tag →
    DetourSafe overrideDialer providerTag filter (providerTags found) overriddenOutbounds outbound) ∧
  ∀ endpoint ∈ found.2, filter.keeps endpoint.tag →
    DetourSafe overrideDialer providerTag filter (providerTags found) overriddenEndpoints endpoint

/-! ### One detour -/

section Detour

variable {overrideDialer : Option OverrideDialerOptions} {providerTag : Bytes} {filter : TagFilter} {tags : List Bytes}

def overriddenDetour (overrideDialer : Option OverrideDialerOptions) (tags : List Bytes) (providerTag detour : Bytes) :
    Bytes :=
  if rewriteDetour tags providerTag detour = [] then (overrideDetour overrideDialer).getD []
  else rewriteDetour tags providerTag detour

theorem overrideDialerOption_detour (options : DialerOptions) :
    (overrideDialerOption options overrideDialer tags providerTag).detour =
      overriddenDetour overrideDialer tags providerTag options.detour := by
  rw [overrideDialerOption.eq_def, overriddenDetour]
  cases overrideDialer with
  | none =>
    split_ifs with empty
    · exact empty
    · rfl
  | some override =>
    by_cases default : override = {}
    · rw [default]
      split_ifs with empty
      · exact empty
      · rfl
    · dsimp only
      rw [if_neg default]
      rfl

theorem serverTag_inj {tag other : Bytes} : serverTag providerTag tag = serverTag providerTag other ↔ tag = other :=
  append_right_inj _

theorem rewriteDetour_of_mem (named : providerTag ≠ []) {detour : Bytes} (some : detour ≠ []) (inside : detour ∈ tags) :
    rewriteDetour tags providerTag detour = serverTag providerTag detour := by
  rw [rewriteDetour, if_neg some, if_pos, if_pos named]
  · rfl
  · exact any_eq_true.mpr ⟨detour, inside, decide_eq_true rfl⟩

theorem rewriteDetour_of_not_mem {detour : Bytes} (outside : detour ∉ tags) :
    rewriteDetour tags providerTag detour = [] := by
  rw [rewriteDetour]
  split_ifs with empty inside prefixed
  · rfl
  · obtain ⟨tag, member, same⟩ := any_eq_true.mp inside
    exact absurd (of_decide_eq_true same ▸ member) outside
  · obtain ⟨tag, member, same⟩ := any_eq_true.mp inside
    exact absurd (of_decide_eq_true same ▸ member) outside
  · rfl

theorem detourConfined_default {tags : List Bytes} :
    DetourConfined overrideDialer providerTag tags ((overrideDetour overrideDialer).getD []) := by
  cases configured : overrideDetour overrideDialer with
  | none => exact .inl rfl
  | some detour => exact .inr (.inl configured)

theorem detourConfined_overridden_iff (named : providerTag ≠ []) {detour : Bytes} :
    DetourConfined overrideDialer providerTag (tags.filter filter.keeps)
        (overriddenDetour overrideDialer tags providerTag detour) ↔ (detour ≠ [] → detour ∈ tags →
        filter.keeps detour ∨ overrideDetour overrideDialer = some (serverTag providerTag detour)) := by
  by_cases empty : detour = []
  · rw [empty]
    exact iff_of_true detourConfined_default fun some => absurd rfl some
  by_cases inside : detour ∈ tags
  · have tagged : serverTag providerTag detour ≠ [] := by
      simp [serverTag, named]
    rw [overriddenDetour, rewriteDetour_of_mem named empty inside, if_neg tagged, DetourConfined]
    simp only [tagged, false_or, serverTag_inj, mem_filter, exists_eq_right', inside, true_and]
    rw [or_comm]
    exact ⟨fun it _ _ => it, fun it => it empty trivial⟩
  · rw [overriddenDetour, rewriteDetour_of_not_mem inside]
    exact iff_of_true detourConfined_default fun _ member => absurd member inside

end Detour

/-! ### One server -/

def Kind.DialerOverridden (kind : Kind) : Prop :=
  ∀ (overrides : Overrides) (options : kind.Options),
    kind.dialer? (overrides.overrideOptions kind options) = (kind.dialer? options).map overrides.overrideDialer

theorem overrideAnyTLSOption_dialer (options : AnyTLSOutboundOptions) (override : Option OverrideAnyTLSOptions) :
    (overrideAnyTLSOption options override).dialer = options.dialer := by
  cases override with
  | none | some override => rfl

theorem dialerOverridden_anyTLS : Kind.DialerOverridden .anyTLS := by
  intro overrides options
  exact congrArg some (overrideAnyTLSOption_dialer _ _)

theorem overriddenOutbounds_dialer : ∀ entry ∈ overriddenOutbounds, entry.2.DialerOverridden := by
  simp only [overriddenOutbounds, forall_mem_cons]
  refine ⟨?_, ?_, ?_, ?_, ?_, ?_, ?_, ?_, ?_, dialerOverridden_anyTLS, ?_, ?_, ?_⟩
  case refine_12 => exact forall_mem_nil _
  all_goals exact fun _ _ => rfl

theorem overriddenEndpoints_dialer : ∀ entry ∈ overriddenEndpoints, entry.2.DialerOverridden := by
  simp only [overriddenEndpoints, forall_mem_cons]
  exact ⟨fun _ _ => rfl, fun _ _ => rfl, forall_mem_nil _⟩

section Server

variable {ε : Type} {overrides : Overrides} {branches : List (String × Kind)} {server overridden : Outbound}

theorem overrideOne_tag (done : (overrideOne overrides branches server : Checked ε Outbound) = .ok overridden) :
    overridden.tag = server.tag := by
  rw [overrideOne] at done
  cases branch : lookup branches server.type with
  | none =>
    rw [branch] at done
    rw [← ok.inj done]
  | some kind =>
    rw [branch] at done
    obtain ⟨options, -, same⟩ := bind_eq_ok_iff.mp done
    rw [← ok.inj same]

theorem eq_some_of_assertKind {options : Option AnyOptions} {kind : Kind} {value : kind.Options}
    (done : (assertKind options kind : Checked ε _) = .ok value) : options = some ⟨kind, value⟩ := by
  cases options with
  | none => cases done
  | some options =>
    rw [assertKind] at done
    split_ifs at done with same
    cases same
    rw [← ok.inj done]

theorem overrideOne_detour (dialers : ∀ entry ∈ branches, entry.2.DialerOverridden)
    (done : (overrideOne overrides branches server : Checked ε Outbound) = .ok overridden) :
    overridden.detour? = if (lookup branches server.type).isSome then
        server.detour?.map (overriddenDetour overrides.dialer overrides.tags overrides.providerTag)
      else server.detour? := by
  rw [overrideOne] at done
  cases branch : lookup branches server.type with
  | none =>
    rw [branch] at done
    rw [← ok.inj done]
    rfl
  | some kind =>
    rw [branch] at done
    obtain ⟨options, asserted, same⟩ := bind_eq_ok_iff.mp done
    obtain ⟨name, member, -⟩ := mem_of_lookup branch
    rw [← ok.inj same, Outbound.detour?, Outbound.detour?, eq_some_of_assertKind asserted]
    show ((kind.dialer? (overrides.overrideOptions kind options)).bind fun dialer => some dialer.detour) =
      ((kind.dialer? options).bind fun dialer => some dialer.detour).map _
    rw [dialers _ member overrides options]
    cases kind.dialer? options with
    | none => rfl
    | some dialer => exact congrArg some (overrideDialerOption_detour dialer)

end Server

/-! ### A subscription -/

section Subscription

variable {lib : ParserLibrary} {overrideDialer : Option OverrideDialerOptions}
  {overrideTLS : Option OverrideTLSOptions} {overrideAnyTLS : Option OverrideAnyTLSOptions} {providerTag : Bytes}
  {filter : TagFilter} {content : Bytes}

theorem exists_found_of_tryParsers {parsers : List (Bytes → Parsed Servers)} {pErr : List Error} {servers : Servers}
    (done : tryParsers overrideDialer overrideTLS overrideAnyTLS providerTag content parsers pErr = .ok servers) :
    ∃ found, findServers content parsers = some found ∧
      (overrideServers overrideDialer overrideTLS overrideAnyTLS providerTag found : Checked ParseError Servers) =
        .ok servers := by
  induction parsers generalizing pErr with
  | nil =>
    rw [tryParsers, causeErrors] at done
    split_ifs at done
    cases done
  | cons parser parsers ih =>
    obtain ⟨result, tried, done⟩ := bind_eq_ok_iff.mp done
    rw [findServers]
    cases parsed : parser content with
    | ok found =>
      rw [parsed] at tried
      rw [← ok.inj tried] at done
      dsimp only at done ⊢
      split_ifs at done ⊢ with none
      · exact ih done
      · exact ⟨found, rfl, done⟩
    | error fault =>
      rw [parsed] at tried
      cases fault with
      | error err =>
        rw [← ok.inj tried] at done
        exact ih done
      | panic | loops => cases tried

section

variable {ε : Type} {overrides : Overrides} {branches : List (String × Kind)} {servers overridden : List Outbound}

theorem forall_confined_iff (named : providerTag ≠ [])
    (same : overrides.dialer = overrideDialer ∧ overrides.providerTag = providerTag)
    (dialers : ∀ entry ∈ branches, entry.2.DialerOverridden)
    (done : servers.mapM (overrideOne overrides branches : Outbound → Checked ε Outbound) = .ok overridden) :
    (∀ server ∈ overridden.filter fun it => filter.keeps it.tag, ∀ detour, server.detour? = some detour →
        DetourConfined overrideDialer providerTag (overrides.tags.filter filter.keeps) detour) ↔
      ∀ server ∈ servers, filter.keeps server.tag →
        DetourSafe overrideDialer providerTag filter overrides.tags branches server := by
  simp only [mem_filter, and_imp]
  refine (forall_mem_iff_of_forall₂ (forall₂_of_mapM_eq_ok done) fun server changed one => ?_).symm
  rw [overrideOne_tag one, DetourSafe, overrideOne_detour dialers one, same.1, same.2]
  refine imp_congr_right fun _ => ?_
  split_ifs with branch
  · simp only [Option.map_eq_some_iff, forall_exists_index, and_imp, forall_apply_eq_imp_iff₂]
    exact forall_congr' fun detour => imp_congr_right fun _ => (detourConfined_overridden_iff named).symm
  · exact .rfl

theorem map_tag_of_overridden
    (done : servers.mapM (overrideOne overrides branches : Outbound → Checked ε Outbound) = .ok overridden) :
    overridden.map Outbound.tag = servers.map Outbound.tag := by
  have related := forall₂_of_mapM_eq_ok done
  clear done
  induction related with
  | nil => rfl
  | cons one _ ih => rw [map_cons, map_cons, overrideOne_tag one, ih]

end

theorem providerTags_filter (servers : Servers) :
    providerTags (filter.servers servers) = (providerTags servers).filter filter.keeps := by
  rw [providerTags, providerTags, filter_append, filter_map, filter_map]
  rfl

/-- **Which subscriptions stay with their provider.** -/
theorem confined_iff (lib : ParserLibrary) (overrideDialer : Option OverrideDialerOptions)
    (overrideTLS : Option OverrideTLSOptions) (overrideAnyTLS : Option OverrideAnyTLSOptions) (filter : TagFilter)
    {providerTag content : Bytes} (named : providerTag ≠ []) {applied : Servers}
    (accepted : updateProviderFromContent lib overrideDialer overrideTLS overrideAnyTLS providerTag filter content =
      .ok applied) : Confined overrideDialer providerTag applied ↔
      ∀ found, findServers content (subscriptionParsers lib) = some found →
        DetoursSafe overrideDialer providerTag filter found := by
  obtain ⟨servers, parsed, kept⟩ := bind_eq_ok_iff.mp accepted
  obtain ⟨found, first, overridden⟩ := exists_found_of_tryParsers parsed
  obtain ⟨outbounds, outboundsDone, overridden⟩ := bind_eq_ok_iff.mp overridden
  obtain ⟨endpoints, endpointsDone, both⟩ := bind_eq_ok_iff.mp overridden
  have tags : providerTags servers = providerTags found := by
    rw [← ok.inj both, providerTags, providerTags, map_tag_of_overridden outboundsDone,
      map_tag_of_overridden endpointsDone]
  rw [first, ← ok.inj kept, Confined, providerTags_filter, tags]
  simp only [Option.some.injEq, forall_eq', forall_mem_append]
  rw [← ok.inj both]
  exact and_congr (forall_confined_iff named ⟨rfl, rfl⟩ overriddenOutbounds_dialer outboundsDone)
    (forall_confined_iff named ⟨rfl, rfl⟩ overriddenEndpoints_dialer endpointsDone)

/-! ### Documents of servers with a type, a tag and a detour -/

def serverFields : List Bytes := ["type", "tag", "detour"].map text

def serverText (values : List Bytes) : Bytes :=
  text "\x7b" ++ [0x2C].intercalate ((serverFields.zip values).map fun field =>
    text "\"" ++ field.1 ++ text "\":\"" ++ field.2 ++ text "\"") ++ text "\x7d"

def documentText (servers : List (List Bytes)) : Bytes :=
  text "\x7b\"outbounds\":[" ++ [0x2C].intercalate (servers.map serverText) ++ text "]\x7d"

def stringField (element : Json) (name : String) : Bytes :=
  ((element.object?.bind fun fields => get fields (text name)).bind Json.string?).getD []

/-- Libraries that know one document. They read it as JSON is read. -/
def documentLibrary (servers : List (List Bytes)) : ParserLibrary :=
  { numberOfOutbounds with
    decodeObject := fun content =>
      if content = documentText servers then
        .ok [(text "outbounds", .array (servers.map fun values => .object (serverFields.zip (values.map .string))))]
      else .error .invalid
    document := fun fields => .ok (((get fields (text "outbounds")).bind Json.array?).getD [], [])
    decodeHead := fun element => .ok (stringField element "type", stringField element "tag")
    unmarshalOptions := fun kind element =>
      match kind with
      | .ssh | .socks => .ok { dialer := { detour := stringField element "detour" } }
      | _ => .error .invalid }

def socksServer (tag detour : Bytes) : Outbound :=
  ⟨text "socks", tag, some ⟨.socks, { dialer := { detour := detour } }⟩⟩

def sshServer (tag detour : Bytes) : Outbound := ⟨text "ssh", tag, some ⟨.ssh, { dialer := { detour := detour } }⟩⟩

/-- A detour to the other server is rewritten to it, and one to an outbound of the user is removed. -/
theorem socks_confined :
    let servers := [["socks", "a", "b"].map text, ["socks", "b", "home"].map text]
    let applied := ([socksServer (text "a") (text "provider/b"), socksServer (text "b") []], [])
    updateProviderFromContent (documentLibrary servers) none none none (text "provider") ⟨none, none⟩
        (documentText servers) = .ok applied ∧ Confined none (text "provider") applied := by
  intro servers applied
  have accepted : updateProviderFromContent (documentLibrary servers) none none none (text "provider") ⟨none, none⟩
      (documentText servers) = .ok applied := rfl
  refine ⟨accepted, (confined_iff _ none none none ⟨none, none⟩ (by decide) accepted).mpr ?_⟩
  intro found first
  cases first
  refine ⟨fun outbound member _ detour _ => ?_, List.forall_mem_nil _⟩
  -- SOCKS servers have a branch, and nothing is filtered out
  rcases List.mem_pair.mp member with rfl | rfl <;> exact fun _ _ => .inl rfl

/-- The detour of an SSH server is kept as it is in the subscription. -/
theorem ssh_not_confined :
    let servers := [["ssh", "server", "home"].map text]
    let applied := ([sshServer (text "server") (text "home")], [])
    updateProviderFromContent (documentLibrary servers) none none none (text "provider") ⟨none, none⟩
        (documentText servers) = .ok applied ∧ ¬ Confined none (text "provider") applied := by
  refine ⟨rfl, fun confined => ?_⟩
  rcases confined _ List.mem_cons_self (text "home") rfl with empty | configured | ⟨tag, member, same⟩
  · exact absurd empty (by decide)
  · cases configured
  · rw [List.mem_singleton.mp member] at same
    exact absurd same (by decide)

end Subscription

end SingBox.Subscription
