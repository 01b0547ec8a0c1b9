/-
**The retry after a rejected response** (`dns/router.go`: `matchDNS`, `exchangeLoop`, `Lookup`).

If the response of a rule with an address limit is rejected, the search goes on behind the rule, with a fresh copy of
the options of the query. So what the matching `route-options` rules before it had laid over the options is gone. The
verdict on a rule does not depend on the options, so that a search is the rule that it stops at (`target`) and the
options that were laid over those of the query on the way (`laid`).
-/

import SingBox.Dns.Router

namespace SingBox.Dns

open SingBox.Route List

/-! ### Options laid over options -/

attribute [ext] DNSQueryOptions

namespace DNSRouteOptions

def onto (later earlier : DNSRouteOptions) : DNSRouteOptions where
  strategy := if later.strategy ≠ .asIS then later.strategy else earlier.strategy
  disableCache := later.disableCache || earlier.disableCache
  rewriteTTL := later.rewriteTTL.or earlier.rewriteTTL
  clientSubnet := if later.clientSubnet.isValid then later.clientSubnet else earlier.clientSubnet
  lazyCacheTTL := later.lazyCacheTTL.or earlier.lazyCacheTTL

theorem apply_onto (later earlier : DNSRouteOptions) (options : DNSQueryOptions) :
    (later.onto earlier).apply options = later.apply (earlier.apply options) := by
  rw [DNSQueryOptions.ext_iff]
  refine ⟨rfl, ?_, rfl, Bool.or_assoc _ _ _, Option.or_assoc, ?_, Option.or_assoc⟩
  · unfold onto apply
    grind
  · unfold onto apply
    grind

end DNSRouteOptions

/-- **Nothing is lost**: an option that was set earlier is set again, or is what there is without it. -/
@[mk_iff] structure Harmless (earlier later : DNSRouteOptions) (plain : DNSQueryOptions) : Prop where
  strategy : later.strategy = .asIS → earlier.strategy ≠ .asIS → plain.strategy = earlier.strategy
  disableCache : earlier.disableCache = true → plain.disableCache = true
  rewriteTTL : later.rewriteTTL = none → ∀ ttl, earlier.rewriteTTL = some ttl → plain.rewriteTTL = some ttl
  clientSubnet : later.clientSubnet.isValid = false → earlier.clientSubnet.isValid = true →
    plain.clientSubnet = earlier.clientSubnet
  lazyCacheTTL : later.lazyCacheTTL = none → ∀ ttl, earlier.lazyCacheTTL = some ttl → plain.lazyCacheTTL = some ttl

theorem or_eq_iff {later earlier plain : Option UInt32} : later.or plain = later.or (earlier.or plain) ↔
      (later = none → ∀ ttl, earlier = some ttl → later.or plain = some ttl) := by
  cases later with
  | some ttl => simp
  | none =>
    cases earlier with
    | none | some ttl => simp

theorem fill_apply_eq_iff (transport : Transport) (earlier later : DNSRouteOptions) (options : DNSQueryOptions) :
    transport.fill (later.apply options) = transport.fill (later.apply (earlier.apply options)) ↔
      Harmless earlier later (transport.fill (later.apply options)) := by
  rw [DNSQueryOptions.ext_iff, harmless_iff]
  unfold Transport.fill DNSRouteOptions.apply
  -- the fields that are not optional values are compared in both cases of the transport
  cases transport.legacy with
  | none | some legacy =>
    simp only [or_eq_iff, true_and]
    refine and_congr ?_ (and_congr ?_ (and_congr .rfl (and_congr ?_ .rfl))) <;> grind

/-! ### The verdict on a rule -/

/-- What a search does at a rule: it passes over it, with the options that it lays over those of the query, or stops. -/
inductive Verdict where
  | pass (overlay : DNSRouteOptions)
  | route (transport : Transport) (overlay : DNSRouteOptions)
  | reject (method : RejectMethod) (rcode : Int)
  | predefined (action : Predefined)

/-- What a search finds at a rule, by its verdict; `search` is the search behind it. -/
def Verdict.next (current : RuleEntry) (rest : List RuleEntry) (search : DNSQueryOptions → Matched)
    (options : DNSQueryOptions) : Verdict → Matched
  | pass overlay => search (overlay.apply options)
  | route transport overlay => .route transport (some current.rule) (transport.fill (overlay.apply options)) rest
  | reject method rcode => .reject method rcode
  | predefined action => .predefined action options

inductive Target where
  | route (transport : Transport) (rule : Option DNSRule) (rest : List RuleEntry)
  | reject (method : RejectMethod) (rcode : Int)
  | predefined (action : Predefined)

/-- What a search finds, with the options that it comes with. -/
def Target.found (options : DNSQueryOptions) : Target → Matched
  | route transport rule rest => .route transport rule (transport.fill options) rest
  | reject method rcode => .reject method rcode
  | predefined action => .predefined action options

/-- The options of what was found; a rejection has none. -/
def Matched.options : Matched → Option DNSQueryOptions
  | route _ _ options _ => some options
  | reject _ _ => none
  | predefined _ options => some options

section Search

variable (router : Router) (metadata : InboundContext) (allowFakeIP isAddressQuery : Bool)

def verdict (current : RuleEntry) : Verdict :=
  if current.disabled then .pass {}
  else if DNSRule.withAddressLimit current.rule && !isAddressQuery then .pass {}
  else if !DNSRule.Match current.rule metadata.resetRuleCache then .pass {}
  else
    match current.action with
    | .route server action =>
      match router.transport server with
      | none => .pass {}
      | some transport =>
        if transport.isFakeIP && !allowFakeIP then .pass {}
        else .route transport { action with disableCache := transport.isFakeIP || action.disableCache }
    | .routeOptions action => .pass action
    | .reject method rcode => .reject method rcode
    | .predefined action => .predefined action

def target : List RuleEntry → Target
  | [] => .route router.defaultTransport none []
  | current :: rest =>
    match verdict router metadata allowFakeIP isAddressQuery current with
    | .pass _ => target rest
    | .route transport _ => .route transport (some current.rule) rest
    | .reject method rcode => .reject method rcode
    | .predefined action => .predefined action

def laid : List RuleEntry → DNSRouteOptions
  | [] => {}
  | current :: rest =>
    match verdict router metadata allowFakeIP isAddressQuery current with
    | .pass overlay => (laid rest).onto overlay
    | .route _ overlay => overlay
    | .reject _ _ | .predefined _ => {}

end Search

section Laws

variable {router : Router} {metadata : InboundContext} {allowFakeIP isAddressQuery : Bool}

theorem matchDNS_cons (current : RuleEntry) (rest : List RuleEntry) (options : DNSQueryOptions) :
    matchDNS router metadata allowFakeIP isAddressQuery (current :: rest) options =
      (verdict router metadata allowFakeIP isAddressQuery current).next current rest
        (matchDNS router metadata allowFakeIP isAddressQuery rest) options := by
  conv_lhs => unfold matchDNS
  unfold verdict
  split_ifs
  · rfl
  · rfl
  · rfl
  cases current.action with
  | route server action =>
    dsimp only
    cases router.transport server with
    | none => rfl
    | some transport =>
      dsimp only
      split_ifs
      · rfl
      dsimp only [Verdict.next]
      congr 2
      rw [DNSQueryOptions.ext_iff]
      exact ⟨rfl, rfl, rfl, (Bool.or_assoc _ _ _).symm, rfl, rfl, rfl⟩
  | routeOptions action | reject method rcode | predefined action => rfl

theorem matchDNS_eq (rules : List RuleEntry) (options : DNSQueryOptions) :
    matchDNS router metadata allowFakeIP isAddressQuery rules options =
      (target router metadata allowFakeIP isAddressQuery rules).found
        ((laid router metadata allowFakeIP isAddressQuery rules).apply options) := by
  induction rules generalizing options with
  | nil => rfl
  | cons current rest ih =>
    rw [matchDNS_cons, target, laid]
    cases verdict router metadata allowFakeIP isAddressQuery current with
    | pass overlay =>
      dsimp only [Verdict.next]
      rw [ih, DNSRouteOptions.apply_onto]
    | route transport overlay | reject method rcode | predefined action => rfl

/-! ### Rules that are passed over -/

def Passed (router : Router) (metadata : InboundContext) (allowFakeIP isAddressQuery : Bool)
    (rules : List RuleEntry) : Prop :=
  ∀ current ∈ rules, ∃ overlay, verdict router metadata allowFakeIP isAddressQuery current = .pass overlay

theorem matchDNS_append {before : List RuleEntry}
    (passed : Passed router metadata allowFakeIP isAddressQuery before) (rest : List RuleEntry)
    (options : DNSQueryOptions) : matchDNS router metadata allowFakeIP isAddressQuery (before ++ rest) options =
      matchDNS router metadata allowFakeIP isAddressQuery rest
        ((laid router metadata allowFakeIP isAddressQuery before).apply options) := by
  induction before generalizing options with
  | nil => rfl
  | cons current before ih =>
    obtain ⟨⟨overlay, pass⟩, others⟩ := forall_mem_cons.mp passed
    rw [cons_append, matchDNS_cons, laid, pass]
    dsimp only [Verdict.next]
    rw [ih others, DNSRouteOptions.apply_onto]

theorem passed_of_found {before after : List RuleEntry} {current : RuleEntry} {options found : DNSQueryOptions}
    {transport : Transport} {rule : DNSRule}
    (selected : matchDNS router metadata allowFakeIP isAddressQuery (before ++ current :: after) options =
      .route transport (some rule) found after) : Passed router metadata allowFakeIP isAddressQuery before := by
  induction before generalizing options with
  | nil => exact forall_mem_nil _
  | cons first before ih =>
    rw [cons_append, matchDNS_cons] at selected
    cases pass : verdict router metadata allowFakeIP isAddressQuery first with
    | pass overlay =>
      rw [pass] at selected
      exact forall_mem_cons.mpr ⟨⟨overlay, pass⟩, ih selected⟩
    | route other overlay =>
      -- the rules behind this one are more than there are behind the one that was found
      rw [pass] at selected
      have same : before ++ current :: after = after := (Matched.route.inj selected).2.2.2
      have longer := congrArg length same
      rw [length_append, length_cons] at longer
      omega
    | reject method rcode | predefined action =>
      rw [pass] at selected
      cases selected

def RuleEntry.disable (current : RuleEntry) : RuleEntry := { current with disabled := true }

/-! ### The loop -/

/-- **A place in the rules that a loop comes to**, with the rules before it: those that were found and rejected are
disabled. -/
inductive Tried (router : Router) (metadata : InboundContext) (allowFakeIP isAddressQuery : Bool)
    (options : DNSQueryOptions) (rules : List RuleEntry) : List RuleEntry → List RuleEntry → Prop
  | start : Tried router metadata allowFakeIP isAddressQuery options rules [] rules
  | rejected {absent before after : List RuleEntry} {current : RuleEntry} {transport : Transport}
      {found : DNSQueryOptions}
      (tried : Tried router metadata allowFakeIP isAddressQuery options rules absent (before ++ current :: after))
      (selected : matchDNS router metadata allowFakeIP isAddressQuery (before ++ current :: after) options =
        .route transport (some current.rule) found after) :
      Tried router metadata allowFakeIP isAddressQuery options rules (absent ++ (before ++ [current.disable])) after

theorem Tried.passed {options : DNSQueryOptions} {rules absent rest : List RuleEntry}
    (tried : Tried router metadata allowFakeIP isAddressQuery options rules absent rest) :
    Passed router metadata allowFakeIP isAddressQuery absent := by
  induction tried with
  | start => exact forall_mem_nil _
  | @rejected absent before after current transport found tried selected ih =>
    intro entry member
    rcases mem_append.mp member with old | new
    · exact ih entry old
    rcases mem_append.mp new with scanned | rejected
    · exact passed_of_found selected entry scanned
    · rw [mem_singleton.mp rejected]
      exact ⟨{}, rfl⟩

/-- The next attempt with the options as they are, and with those that were laid over. -/
theorem found_eq_iff (goal : Target) (earlier later : DNSRouteOptions) (options : DNSQueryOptions) :
    goal.found (later.apply options) = goal.found (later.apply (earlier.apply options)) ↔
      ∀ plain, (goal.found (later.apply options)).options = some plain → Harmless earlier later plain := by
  cases goal with
  | route transport rule rest =>
    have options_iff : (Target.route transport rule rest).found (later.apply options) =
        (Target.route transport rule rest).found (later.apply (earlier.apply options)) ↔
          transport.fill (later.apply options) = transport.fill (later.apply (earlier.apply options)) := by
      simp [Target.found]
    rw [options_iff, fill_apply_eq_iff]
    simp [Target.found, Matched.options]
  | reject method rcode => simp [Target.found, Matched.options]
  | predefined action =>
    -- there is no transport that adds options
    have plainly := fill_apply_eq_iff { tag := [] } earlier later options
    simp only [Transport.fill] at plainly
    simp [Target.found, Matched.options, plainly]

end Laws

/-- The call of the client for a rule that was found. -/
def Router.attempt (router : Router) (ctx : QueryContext) (message : Msg) (transport : Transport)
    (rule : DNSRule) (options : DNSQueryOptions) (world : World) : ExchangeResult × World :=
  router.ask
    { transport := transport.tag
      message := message
      options := router.withDefaultStrategy options
      responseChecker := DNSRule.addressLimitResponseCheck (some rule) ctx.metadata.resetRuleCache
      context := ctx.toContext } world

section Loop

variable {router : Router} {ctx : QueryContext} {message : Msg} {question : Question} {options found : DNSQueryOptions}
  {allowFakeIP : Bool} {rules absent before after rest : List RuleEntry} {current : RuleEntry} {rule : DNSRule}
  {transport : Transport} {world : World}

def Router.Rejects (router : Router) (ctx : QueryContext) (message : Msg) (transport : Transport)
    (rule : DNSRule) (options : DNSQueryOptions) (world : World) : Prop :=
  DNSRule.withAddressLimit rule = true ∧
    ((router.attempt ctx message transport rule options world).1.err = some .responseRejectedCached ∨
      (router.attempt ctx message transport rule options world).1.err = some .responseRejected)

theorem exchangeLoop_of_rejects (follow : Follow)
    (selected : matchDNS router ctx.metadata allowFakeIP (isAddressQuery message) rules options =
      .route transport (some rule) found rest)
    (rejects : router.Rejects ctx message transport rule found world) :
    exchangeLoop router follow ctx message question options allowFakeIP rules world =
      exchangeLoop router follow ctx message question options allowFakeIP rest
        (router.attempt ctx message transport rule found world).2 := by
  have checked : (DNSRule.addressLimitResponseCheck (some rule) ctx.metadata.resetRuleCache).isSome = true := by
    rw [DNSRule.addressLimitResponseCheck, rejects.1]
    rfl
  rw [exchangeLoop]
  split <;> rename_i matched <;> cases selected.symm.trans matched
  rw [if_pos]
  · rfl
  · rw [checked, Bool.true_and, Bool.or_eq_true, decide_eq_true_iff, decide_eq_true_iff]
    exact rejects.2

/-- **The retry behaves as if the rejecting rule were absent** exactly if the options that were laid over before it
are not missed. -/
theorem exchangeLoop_retry_iff (follow : Follow) (question : Question)
    (tried : Tried router ctx.metadata allowFakeIP (isAddressQuery message) options rules absent
      (before ++ current :: after))
    (selected : matchDNS router ctx.metadata allowFakeIP (isAddressQuery message) (before ++ current :: after) options =
      .route transport (some current.rule) found after)
    (rejects : router.Rejects ctx message transport current.rule found world) :
    exchangeLoop router follow ctx message question options allowFakeIP (before ++ current :: after) world =
        exchangeLoop router follow ctx message question options allowFakeIP after
          (router.attempt ctx message transport current.rule found world).2 ∧
      (matchDNS router ctx.metadata allowFakeIP (isAddressQuery message) after options =
          matchDNS router ctx.metadata allowFakeIP (isAddressQuery message)
            (absent ++ (before ++ [current.disable]) ++ after) options ↔
        ∀ plain, (matchDNS router ctx.metadata allowFakeIP (isAddressQuery message) after options).options =
            some plain → Harmless
            (laid router ctx.metadata allowFakeIP (isAddressQuery message) (absent ++ (before ++ [current.disable])))
            (laid router ctx.metadata allowFakeIP (isAddressQuery message) after) plain) := by
  refine ⟨exchangeLoop_of_rejects follow selected rejects, ?_⟩
  rw [matchDNS_append (tried.rejected selected).passed, matchDNS_eq, matchDNS_eq]
  exact found_eq_iff _ _ _ _

end Loop

/-! ### Examples -/

def everyQuery : DNSRule := .default {}

/-- `ip_cidr: 192.168.0.0/16`. -/
def homeAddresses : DNSRule :=
  .default { destinationIPCIDRItems := [ipCIDRItem sampleLibrary false [⟨.v4 0xC0A80000, .v4 0xC0A8FFFF⟩]] }

def optionsEntry (action : DNSRouteOptions) : RuleEntry := { rule := everyQuery, action := .routeOptions action }

def limitedEntry : RuleEntry := { rule := homeAddresses, action := .route [104] {} }

def restEntry (action : DNSRouteOptions) : RuleEntry := { rule := everyQuery, action := .route [114] action }

theorem noSubnet_ok : Prefix.none.isValid = true ∨ Prefix.none = .none := Or.inr rfl

/-- A rule with an address limit between a rule that sets options and one for the rest. Every transport answers with
`10.0.0.1`. -/
def limitedRouter (action : DNSRouteOptions) (last : DNSRouteOptions := {}) : Router where
  env :=
    { lib := plainLibrary
      client := { subnet_ok := noSubnet_ok }
      upstream := fun _ _ => .ok sampleResponse
      clock := fun tick => tick }
  rules := [optionsEntry action, limitedEntry, restEntry last]
  transport server := some { tag := server }
  defaultTransport := { tag := [100] }

def sampleMessage : Msg := { question := [sampleQuestion] }

/-- **A rule sets a time-to-live, and the retry forgets it**: a search without the rejecting rule has it. -/
theorem retry_forgets : matchDNS (limitedRouter { rewriteTTL := some 5 }) {} true true
          [optionsEntry { rewriteTTL := some 5 }, limitedEntry, restEntry {}] {} =
        .route { tag := [104] } (some limitedEntry.rule) { rewriteTTL := some 5 } [restEntry {}] ∧
      (limitedRouter { rewriteTTL := some 5 }).Rejects {} sampleMessage { tag := [104] }
        limitedEntry.rule { rewriteTTL := some 5 } {} ∧
      matchDNS (limitedRouter { rewriteTTL := some 5 }) {} true true [restEntry {}] {} ≠
        matchDNS (limitedRouter { rewriteTTL := some 5 }) {} true true
          [optionsEntry { rewriteTTL := some 5 }, limitedEntry.disable, restEntry {}] {} := by
  refine ⟨rfl, ⟨by decide, .inr (by decide +kernel)⟩, fun same => ?_⟩
  have ttl := congrArg (fun matched => matched.options.bind DNSQueryOptions.rewriteTTL) same
  exact absurd ttl (by decide)

/-- The rule for the rest sets a time-to-live itself, and nothing is missed. -/
theorem retry_set_again : matchDNS (limitedRouter { rewriteTTL := some 5 } { rewriteTTL := some 7 }) {} true true
        [restEntry { rewriteTTL := some 7 }] {} =
      matchDNS (limitedRouter { rewriteTTL := some 5 } { rewriteTTL := some 7 }) {} true true
        [optionsEntry { rewriteTTL := some 5 }, limitedEntry.disable, restEntry { rewriteTTL := some 7 }] {} := by
  let router := limitedRouter { rewriteTTL := some 5 } { rewriteTTL := some 7 }
  have tried : Tried router {} true (isAddressQuery sampleMessage) {} router.rules []
      ([optionsEntry { rewriteTTL := some 5 }] ++ limitedEntry :: [restEntry { rewriteTTL := some 7 }]) := .start
  have selected : matchDNS router {} true (isAddressQuery sampleMessage)
      ([optionsEntry { rewriteTTL := some 5 }] ++ limitedEntry :: [restEntry { rewriteTTL := some 7 }]) {} =
        .route { tag := [104] } (some limitedEntry.rule) { rewriteTTL := some 5 } [restEntry { rewriteTTL := some 7 }] := rfl
  have rejects : router.Rejects {} sampleMessage { tag := [104] } limitedEntry.rule { rewriteTTL := some 5 } {} :=
    ⟨by decide, .inr (by decide +kernel)⟩
  have retried := exchangeLoop_retry_iff (followPredefinedCNAME router 0) sampleQuestion tried selected rejects
  refine retried.2.mpr fun plain _ => ⟨fun _ set => absurd rfl set, fun set => ?_, fun unset => ?_, fun _ set => ?_,
    fun _ ttl set => ?_⟩
  · cases set
  · cases unset
  · cases set
  · cases set

end SingBox.Dns
