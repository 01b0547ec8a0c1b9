/-
**Links that are parsed without a panic.**

Two parameters can make a parser panic. The heartbeat interval of a TUIC link must not be a duration, and the path of
a websocket transport must not have a newline, which it can have when it is escaped in the query or in JSON.
-/

import SingBox.Subscription.Link

namespace SingBox.Subscription

open SingBox.Lib Checked

/-! ### Rules -/

section Rules

variable {α : Type} {post : α → Prop}

theorem meets_returning_iff {β : Type} {result : Except Error β} {next : β → Parsed α} :
    Meets post (returning result >>= next) ↔ ∀ value, result = .ok value → Meets post (next value) := by
  cases result with
  | ok value => exact ⟨fun it other same => Except.ok.inj same ▸ it, fun it => it value rfl⟩
  | error err => exact iff_of_true trivial fun value same => by cases same

theorem meets_requireUser_iff {url : LinkURL} {missing : String} {next : Bytes × Bytes → Parsed α} :
    Meets post (url.requireUser missing >>= next) ↔
      ∀ user, url.user = some user → user.1 ≠ [] → Meets post (next user) := by
  rw [LinkURL.requireUser]
  cases url.user with
  | none => exact iff_of_true trivial fun user same => by cases same
  | some user =>
    dsimp only
    split_ifs with empty
    · refine iff_of_true trivial fun other same some => absurd ?_ some
      rw [← Option.some.inj same, empty]
    · exact ⟨fun it other same _ => Option.some.inj same ▸ it, fun it => it user rfl empty⟩

variable {σ : Type} {init : σ} {param : σ → Bytes → Bytes → Parsed σ} {safe : Bytes → Bytes → Prop}
  (round : ∀ s key value, PanicsUnless (safe key value) (param s key value))

include round

theorem Query.range_panicsUnless {query : Query} :
    PanicsUnless (∀ entry ∈ query.entries, safe entry.1 (entry.2.headD [])) (query.range init param) := by
  refine .foldlM fun state entry member => ?_
  -- a parameter has a value
  obtain ⟨first, rest, values⟩ := List.exists_cons_of_ne_nil (query.nonempty entry member)
  rw [values]
  exact round state entry.1 first

theorem rangeMap_panicsUnless {lib : LinkLibrary} {m : List (Bytes × Bytes)} :
    PanicsUnless (∀ entry ∈ m, safe entry.1 entry.2) (rangeMap lib m init param) := by
  refine (PanicsUnless.foldlM fun state entry _ => round state entry.1 entry.2).congr ?_
  exact forall_congr' fun entry => imp_congr_left (lib.order.perm m).mem_iff

end Rules

/-! ### Paths -/

theorem findWsPath_length {path : Bytes} (line : newline ∉ path) : (findWsPath path).length = 3 := by
  rw [findWsPath, if_neg (by simpa using line)]
  cases early : (List.range path.length).findSome? _ with
  | none => rfl
  | some groups =>
    obtain ⟨i, _, here⟩ := List.exists_of_findSome?_eq_some early
    obtain ⟨digits, _, result⟩ := Option.bind_eq_some_iff.mp here
    split_ifs at result
    rw [← Option.some.inj result]
    rfl

theorem v2rayTransportWsPath_panicsUnless (options : V2RayWebsocketOptions) (path : Bytes) :
    PanicsUnless (newline ∉ path) (v2rayTransportWsPath options path) := by
  constructor
  · intro line
    have three := findWsPath_length line
    rw [v2rayTransportWsPath]
    simp only [elem, three, Nat.one_lt_ofNat, Nat.lt_add_one, dif_pos, bind, Except.bind]
    split_ifs <;> exact ⟨_, rfl⟩
  · intro member
    have none : findWsPath path = [] := by
      rw [findWsPath, if_pos (by simpa using member)]
    rw [v2rayTransportWsPath, none]
    rfl

theorem v2rayTransportWs_panicsUnless (host path : Bytes) :
    PanicsUnless (newline ∉ path) (v2rayTransportWs host path) := by
  rw [v2rayTransportWs]
  by_cases empty : path = []
  · rw [empty]
    exact .of_ok List.not_mem_nil
  · rw [if_pos empty]
    exact v2rayTransportWsPath_panicsUnless _ path

section

variable {proxy : List (Bytes × Bytes)} {transport : V2RayTransportOptions}

theorem transport_panicsUnless {network : Bytes} {other : Parsed (Option V2RayTransportOptions)}
    (total : PanicsUnless True other) : PanicsUnless (network = text "ws" → newline ∉ valueAt proxy "path")
      (if network = text "ws" then some <$> websocketTransport proxy transport else other) := by
  split_ifs with websocket
  · exact (v2rayTransportWs_panicsUnless _ _).map.map.congr (imp_iff_right websocket).symm
  · exact total.congr (iff_of_true trivial fun here => absurd here websocket)

theorem vmessTransport_panicsUnless (network : Bytes) :
    PanicsUnless (network = text "ws" → newline ∉ valueAt proxy "path") (vmessTransport proxy network) := by
  apply transport_panicsUnless
  split_ifs
  · exact .value _
  · cases get proxy (text "type") with
    | none => exact .value _
    | some type =>
      dsimp only
      split_ifs <;> exact .value _
  · exact .value _
  · exact .value _

end

/-! ### Parameters -/

theorem stringToDuration_panicsUnless (lib : LinkLibrary) (value : Bytes) :
    PanicsUnless (lib.parseDuration value = none) (stringToDuration lib value) := by
  rw [stringToDuration]
  cases lib.parseDuration value with
  | none => exact .of_ok rfl
  | some duration => exact ⟨fun impossible => (by cases impossible), fun _ => rfl⟩

section

variable {lib : LinkLibrary} {proxy : List (Bytes × Bytes)} {key value : Bytes}

theorem tuicParam_panicsUnless (s : Reading TUICOutboundOptions) :
    PanicsUnless (lookup tuicKeys key = some .heartbeatInterval → lib.parseDuration value = none)
      (tuicParam lib s key value) := by
  rw [tuicParam]
  cases lookup tuicKeys key with
  | none => exact .of_ok (by simp)
  | some known =>
    cases known with
    | heartbeatInterval => exact (stringToDuration_panicsUnless lib value).map.congr (by simp)
    | _ => exact .of_ok (by simp)

theorem vmessParam_panicsUnless (s : VMessReading) :
    PanicsUnless (lookup vmessKeys key = some .net → value = text "ws" → newline ∉ valueAt proxy "path")
      (vmessParam proxy s key value) := by
  rw [vmessParam]
  cases lookup vmessKeys key with
  | none => exact .of_ok (by simp)
  | some known =>
    cases known with
    | net => exact (vmessTransport_panicsUnless value).map.congr (by simp)
    | _ => exact .of_ok (by simp)

theorem vlessParam_panicsUnless (s : Reading VLESSOutboundOptions) :
    PanicsUnless (lookup vlessKeys key = some .type → value = text "ws" → newline ∉ valueAt proxy "path")
      (vlessParam proxy s key value) := by
  rw [vlessParam]
  cases lookup vlessKeys key with
  | none => exact .of_ok (by simp)
  | some known =>
    cases known with
    | type => exact (transport_panicsUnless (by split_ifs <;> exact .value _)).map.congr (by simp)
    | _ => exact .of_ok (by simp)

theorem trojanParam_panicsUnless (s : Reading TrojanOutboundOptions) :
    PanicsUnless (lookup trojanKeys key = some .type → value = text "ws" → newline ∉ valueAt proxy "path")
      (trojanParam proxy s key value) := by
  rw [trojanParam]
  cases lookup trojanKeys key with
  | none => exact .of_ok (by simp)
  | some known =>
    cases known with
    | type => exact (transport_panicsUnless (by split_ifs <;> exact .value _)).map.congr (by simp)
    | _ => exact .of_ok (by simp)

end

/-! ### Parsers -/

def SafeTuicLink (lib : LinkLibrary) (link : Bytes) : Prop :=
  ∀ url user, lib.parseURL link = .ok url → url.user = some user → user.1 ≠ [] →
    ∀ entry ∈ url.query.entries, entry.1 = text "heartbeat_interval" → lib.parseDuration (entry.2.headD []) = none

/-- The path of a websocket transport has no newline. -/
def SafeWebsocket (key : String) (proxy : List (Bytes × Bytes)) : Prop :=
  (text key, text "ws") ∈ proxy → newline ∉ valueAt proxy "path"

def SafeQueryLink (lib : LinkLibrary) (link : Bytes) : Prop :=
  ∀ url user proxy, lib.parseURL link = .ok url → url.user = some user → user.1 ≠ [] →
    url.query.proxy = .ok proxy → SafeWebsocket "type" proxy

def SafeVMessLink (lib : LinkLibrary) (link : Bytes) : Prop :=
  ∀ proxy, vmessProxy lib link = .ok proxy → SafeWebsocket "net" proxy

section

variable {lib : LinkLibrary} {link : Bytes} {key : Bytes}

theorem safeWebsocket_iff {name : String} {proxy : List (Bytes × Bytes)} {isKey : Bytes → Prop}
    (same : ∀ key, isKey key ↔ key = text name) :
    (∀ entry ∈ proxy, isKey entry.1 → entry.2 = text "ws" → newline ∉ valueAt proxy "path") ↔
      SafeWebsocket name proxy := by
  constructor
  · intro all member
    exact all _ member ((same _).mpr rfl) rfl
  intro safe entry member here websocket
  apply safe
  rw [← (same _).mp here, ← websocket]
  exact member

theorem range_value {σ : Type} {query : Query} {init : σ} {param : σ → Bytes → Bytes → σ} :
    PanicsUnless True (query.range init fun s key value => .ok (param s key value)) :=
  (Query.range_panicsUnless fun s key value => PanicsUnless.value (param s key value)).congr (by simp)

theorem rangeMap_value {σ : Type} {m : List (Bytes × Bytes)} {init : σ} {param : σ → Bytes → Bytes → σ} :
    PanicsUnless True (rangeMap lib m init fun s key value => .ok (param s key value)) :=
  (rangeMap_panicsUnless fun s key value => PanicsUnless.value (param s key value)).congr (by simp)

theorem quoteNumbers_append {pre : Bytes} (unquoted : 0x22 ∉ pre) (rest : Bytes) :
    quoteNumbers (pre ++ rest) 0 = pre ++ quoteNumbers rest 0 := by
  induction pre with
  | nil => rfl
  | cons byte pre ih =>
    have other : 0x22 ≠ byte := List.ne_of_not_mem_cons unquoted
    have others : 0x22 ∉ pre := List.not_mem_of_not_mem_cons unquoted
    have none : quotedValue (byte :: (pre ++ rest)) = none := by
      rw [quotedValue, if_pos]
      exact fun same => other (Option.some.inj same).symm
    rw [List.cons_append, quoteNumbers, none]
    exact congrArg (byte :: ·) (ih others)

theorem vmessURLProxy_returns : Returns (vmessURLProxy lib link) := by
  rw [vmessURLProxy, Returns, meets_returning_iff]
  intro url _
  rw [meets_requireUser_iff]
  intro user _ _
  exact range_value.returns_iff.mpr trivial

theorem vmessProxy_returns (rest : Bytes) : Returns (vmessProxy lib (text "vmess://" ++ rest)) := by
  have whole : 8 ≤ (quoteNumbers (text "vmess://" ++ rest) 0).length := by
    rw [quoteNumbers_append (by decide), List.length_append]
    exact Nat.le_add_right 8 _
  rw [vmessProxy, Returns, meets_bind_iff, meets_sliceFrom_iff]
  refine ⟨whole, ?_⟩
  cases lib.unmarshalStrings ((quoteNumbers (text "vmess://" ++ rest) 0).drop 8) with
  | ok proxy => trivial
  | error err => exact vmessURLProxy_returns

/-! #### Parsers that cannot panic -/

-- what is said of the outbound is no more than that its options are of its type
variable {post : Outbound → Prop} (weaker : ∀ outbound, Outbound.Typed outboundRegistry outbound → post outbound)
include weaker

theorem parseShadowsocksLink_meets : Meets post (parseShadowsocksLink lib link) := by
  rw [parseShadowsocksLink, meets_returning_iff]
  intro url _
  rw [meets_requireUser_iff]
  intro user _ _
  rw [meets_bind_iff, meets_ensure_iff]
  exact fun _ => weaker _ rfl

theorem parseHysteriaLink_meets : Meets post (parseHysteriaLink lib link) := by
  rw [parseHysteriaLink, meets_returning_iff]
  intro url _
  rw [meets_bind_iff]
  refine (range_value.meets_iff fun _ _ => ?_).mpr trivial
  exact weaker _ rfl

theorem parseHysteria2Link_meets : Meets post (parseHysteria2Link lib link) := by
  rw [parseHysteria2Link, meets_returning_iff]
  intro url _
  rw [meets_bind_iff]
  refine (range_value.meets_iff fun _ _ => ?_).mpr trivial
  exact weaker _ rfl

theorem parseAnyTLSLink_meets : Meets post (parseAnyTLSLink lib link) := by
  rw [parseAnyTLSLink, meets_returning_iff]
  intro url _
  rw [meets_requireUser_iff]
  intro user _ _
  rw [meets_bind_iff]
  refine (range_value.meets_iff fun proxy _ => ?_).mpr trivial
  rw [meets_bind_iff]
  refine (rangeMap_value.meets_iff fun _ _ => ?_).mpr trivial
  exact weaker _ rfl

/-! #### Parsers that can panic -/

theorem parseTuicLink_meets_iff : Meets post (parseTuicLink lib link) ↔ SafeTuicLink lib link := by
  rw [parseTuicLink, meets_returning_iff]
  refine forall_congr' fun url => ?_
  rw [meets_requireUser_iff, ← forall_comm]
  refine forall_congr' fun found => forall_congr' fun user => ?_
  refine imp_congr_right fun _ => imp_congr_right fun _ => ?_
  rw [meets_bind_iff]
  refine ((Query.range_panicsUnless fun s key value => tuicParam_panicsUnless s).meets_iff fun _ _ => ?_).trans ?_
  · exact weaker _ rfl
  · simp only [lookup_eq_some_iff (rfl : lookup tuicKeys (text "heartbeat_interval") = _) (by simp [tuicKeys])]

theorem meets_queryLink_iff {σ : Type} {missing : String} {init : LinkURL → Bytes × Bytes → σ}
    {param : List (Bytes × Bytes) → σ → Bytes → Bytes → Parsed σ}
    {finish : LinkURL → List (Bytes × Bytes) → σ → Outbound} {isKey : Bytes → Prop} (round : ∀ proxy s key value,
      PanicsUnless (isKey key → value = text "ws" → newline ∉ valueAt proxy "path") (param proxy s key value))
    (same : ∀ key, isKey key ↔ key = text "type") (typed : ∀ url proxy s, (finish url proxy s).Typed outboundRegistry) :
    Meets post (returning (lib.parseURL link) >>= fun url =>
        url.requireUser missing >>= fun user => url.query.proxy >>= fun proxy =>
          rangeMap lib proxy (init url user) (param proxy) >>= fun s => .ok (finish url proxy s)) ↔
      SafeQueryLink lib link := by
  have body : ∀ url user proxy, Meets post
      (rangeMap lib proxy (init url user) (param proxy) >>= fun s => .ok (finish url proxy s)) ↔
        SafeWebsocket "type" proxy := by
    intro url user proxy
    rw [meets_bind_iff]
    exact ((rangeMap_panicsUnless (round proxy)).meets_iff fun s _ => weaker _ (typed url proxy s)).trans (safeWebsocket_iff same)
  rw [meets_returning_iff]
  constructor
  · intro all url user proxy found named some built
    have here := meets_requireUser_iff.mp (all url found) user named some
    rw [built] at here
    exact (body url user proxy).mp here
  · intro safe url found
    rw [meets_requireUser_iff]
    intro user named some
    obtain ⟨proxy, built⟩ : ∃ proxy, url.query.proxy = .ok proxy := range_value.ok trivial
    rw [built]
    exact (body url user proxy).mpr (safe url user proxy found named some built)

theorem parseVMessLink_meets_iff (rest : Bytes) : Meets post (parseVMessLink lib (text "vmess://" ++ rest)) ↔
      SafeVMessLink lib (text "vmess://" ++ rest) := by
  rw [parseVMessLink, meets_bind_iff, (vmessProxy_returns rest).iff_forall_ok]
  refine forall_congr' fun proxy => imp_congr_right fun _ => ?_
  rw [meets_bind_iff]
  refine ((rangeMap_panicsUnless fun s key value => vmessParam_panicsUnless s).meets_iff fun _ _ => ?_).trans ?_
  · exact weaker _ rfl
  · exact safeWebsocket_iff fun _ => lookup_eq_some_iff rfl (by simp [vmessKeys])

end

/-! ### Links -/

/-- The condition of the parser that a link is given to. -/
def SafeSubscriptionLink (lib : LinkLibrary) (link : Bytes) : Prop :=
  match matchLink link with
  | none => True
  | some (scheme, body, rest) =>
    match lookup schemes scheme with
    | some .tuic => SafeTuicLink lib link
    | some .trojan | some .vless => SafeQueryLink lib link
    | some .vmess => SafeVMessLink lib (scheme ++ text "://" ++ decodeBase64URLSafe lib.rawURLDecode body ++ rest)
    | _ => True

theorem parseSubscriptionLink_meets_iff {post : Outbound → Prop}
    (weaker : ∀ outbound, Outbound.Typed outboundRegistry outbound → post outbound) (lib : LinkLibrary) (link : Bytes) :
    Meets post (parseSubscriptionLink lib link) ↔ SafeSubscriptionLink lib link := by
  rw [parseSubscriptionLink, SafeSubscriptionLink]
  cases matchLink link with
  | none => exact iff_of_true trivial trivial
  | some parts =>
    obtain ⟨scheme, body, rest⟩ := parts
    dsimp only
    cases found : lookup schemes scheme with
    | none => exact iff_of_true trivial trivial
    | some known =>
      cases known with
      | tuic => exact parseTuicLink_meets_iff weaker
      | trojan =>
        exact meets_queryLink_iff weaker (fun _ s _ _ => trojanParam_panicsUnless s)
          (fun _ => lookup_eq_some_iff rfl (by simp [trojanKeys])) fun _ _ _ => rfl
      | vless =>
        exact meets_queryLink_iff weaker (fun _ s _ _ => vlessParam_panicsUnless s)
          (fun _ => lookup_eq_some_iff rfl (by simp [vlessKeys])) fun _ _ _ => rfl
      | hysteria => exact iff_of_true (parseHysteriaLink_meets weaker) trivial
      | hysteria2 => exact iff_of_true (parseHysteria2Link_meets weaker) trivial
      | anytls => exact iff_of_true (parseAnyTLSLink_meets weaker) trivial
      | ss => exact iff_of_true (parseShadowsocksLink_meets weaker) trivial
      | vmess =>
        have same : scheme = text "vmess" := (lookup_eq_some_iff rfl (by simp [schemes])).mp found
        have whole : scheme ++ text "://" ++ decodeBase64URLSafe lib.rawURLDecode body ++ rest =
            text "vmess://" ++ (decodeBase64URLSafe lib.rawURLDecode body ++ rest) := by
          rw [same]
          rfl
        rw [whole]
        exact parseVMessLink_meets_iff weaker _

theorem parseSubscriptionLink_returns_iff (lib : LinkLibrary) (link : Bytes) :
    Returns (parseSubscriptionLink lib link) ↔ SafeSubscriptionLink lib link :=
  parseSubscriptionLink_meets_iff (fun _ _ => trivial) lib link

theorem parseSubscriptionLink_typed {lib : LinkLibrary} {link : Bytes} {outbound : Outbound}
    (done : parseSubscriptionLink lib link = .ok outbound) : outbound.Typed outboundRegistry := by
  have returns : Returns (parseSubscriptionLink lib link) := by
    rw [done]
    trivial
  have safe := (parseSubscriptionLink_returns_iff lib link).mp returns
  exact ((parseSubscriptionLink_meets_iff (fun _ typed => typed) lib link).mpr safe).of_ok done

end SingBox.Subscription
