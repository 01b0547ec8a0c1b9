/-
**The DNS router** (`dns/router.go`, and the DNS actions of `route/rule/rule_action.go`).

The router picks a transport for a query by its rules, in order (`matchDNS`). If a rule has an address
limit and the response is rejected, the search goes on behind that rule. A rule may also answer itself:
with an error code, or with predefined records, whose last CNAME target is then resolved as a query of
its own.

A response from an expired entry of the cache is refreshed in the background, by the same query with a
context that skips the cache. The background calls that are started are returned as `Refresh`es.

CNAME targets are followed up to a `depth`. In the source there is no such bound: the chain of names
in the context ends every loop.
-/

import SingBox.Dns.Lookup
import SingBox.Route.DnsRule

namespace SingBox.Dns

open SingBox.Route

/-! ### Rules and transports -/

/-- `adapter.DNSTransport`; `legacy` holds the strategy and the subnet of a `LegacyDNSTransport`. -/
structure Transport where
  tag : Bytes
  isFakeIP : Bool := false
  legacy : Option (DomainStrategy × Prefix) := none

/-- `RuleActionDNSRouteOptions`. -/
structure DNSRouteOptions where
  strategy : DomainStrategy := .asIS
  disableCache : Bool := false
  rewriteTTL : Option UInt32 := none
  clientSubnet : Prefix := .none
  lazyCacheTTL : Option UInt32 := none

/-- `RuleActionPredefined`. -/
structure Predefined where
  rcode : Int := rcodeSuccess
  (answer ns extra : List RR := [])

/-- The methods of `RuleActionReject` that a DNS rule may have. -/
inductive RejectMethod where
  | default
  | drop

/-- The action of a DNS rule; a code of `-1` leaves the choice to the router. -/
inductive DNSRuleAction where
  | route (server : Bytes) (options : DNSRouteOptions)
  | routeOptions (options : DNSRouteOptions)
  | reject (method : RejectMethod) (rcode : Int)
  | predefined (action : Predefined)

structure RuleEntry where
  rule : DNSRule
  disabled : Bool := false
  action : DNSRuleAction

structure Router where
  env : Environment
  rules : List RuleEntry
  transport : Bytes → Option Transport
  defaultTransport : Transport
  defaultDomainStrategy : DomainStrategy := .asIS
  defaultRejectRcode : Int := -1

structure QueryContext extends Context where
  metadata : InboundContext := {}
  aliasChain : Option (List Bytes) := none

/-- `UpdateDnsCacheToContext`. -/
def QueryContext.update (ctx : QueryContext) : QueryContext := { ctx with updating := true }

inductive Refresh where
  | exchange (ctx : QueryContext) (message : Msg) (options : DNSQueryOptions)
  | lookup (ctx : QueryContext) (domain : Bytes) (options : DNSQueryOptions)

/-- The options of a rule are laid over those of the query. -/
def DNSRouteOptions.apply (action : DNSRouteOptions) (options : DNSQueryOptions) : DNSQueryOptions :=
  { options with
    strategy := if action.strategy ≠ .asIS then action.strategy else options.strategy
    disableCache := action.disableCache || options.disableCache
    rewriteTTL := action.rewriteTTL.or options.rewriteTTL
    clientSubnet :=
      if action.clientSubnet.isValid then action.clientSubnet else options.clientSubnet
    lazyCacheTTL := action.lazyCacheTTL.or options.lazyCacheTTL }

def Transport.fill (transport : Transport) (options : DNSQueryOptions) : DNSQueryOptions :=
  match transport.legacy with
  | none => options
  | some (strategy, clientSubnet) =>
    { options with
      strategy := if options.strategy = .asIS then strategy else options.strategy
      clientSubnet :=
        if !options.clientSubnet.isValid then clientSubnet else options.clientSubnet }

/-! ### Matching -/

/-- What `matchDNS` finds. A route has the options of the query, the rule (none for the default
transport) and the rules behind it. -/
inductive Matched where
  | route (transport : Transport) (rule : Option DNSRule) (options : DNSQueryOptions) (rest : List RuleEntry)
  | reject (method : RejectMethod) (rcode : Int)
  | predefined (action : Predefined) (options : DNSQueryOptions)

section Router

variable (router : Router)

/-- `matchDNS`, from a place in the rules on. -/
def matchDNS (metadata : InboundContext) (allowFakeIP isAddressQuery : Bool) :
    List RuleEntry → DNSQueryOptions → Matched
  | [], options => .route router.defaultTransport none (router.defaultTransport.fill options) []
  | current :: rest, options =>
    if current.disabled then matchDNS metadata allowFakeIP isAddressQuery rest options
    else if DNSRule.withAddressLimit current.rule && !isAddressQuery then
      matchDNS metadata allowFakeIP isAddressQuery rest options
    else if !DNSRule.Match current.rule metadata.resetRuleCache then
      matchDNS metadata allowFakeIP isAddressQuery rest options
    else
      match current.action with
      | .route server action =>
        match router.transport server with
        | none => matchDNS metadata allowFakeIP isAddressQuery rest options
        | some transport =>
          if transport.isFakeIP && !allowFakeIP then
            matchDNS metadata allowFakeIP isAddressQuery rest options
          else
            let options := action.apply options
            let options :=
              { options with disableCache := transport.isFakeIP || options.disableCache }
            .route transport (some current.rule) (transport.fill options) rest
      | .routeOptions action =>
        matchDNS metadata allowFakeIP isAddressQuery rest (action.apply options)
      | .reject method rcode => .reject method rcode
      | .predefined action => .predefined action options

theorem matchDNS_rest {metadata : InboundContext} {allowFakeIP isAddressQuery : Bool}
    {rules rest : List RuleEntry} {options found : DNSQueryOptions} {transport : Transport}
    {rule : DNSRule} (matched : matchDNS router metadata allowFakeIP isAddressQuery rules options =
      .route transport (some rule) found rest) : rest.length < rules.length := by
  fun_induction matchDNS router metadata allowFakeIP isAddressQuery rules options
  case case1 | case9 | case10 => cases matched
  case case7 => cases matched; exact Nat.lt_succ_self _
  all_goals next ih => exact Nat.lt_succ_of_lt (ih matched)

/-! ### Predefined records -/

/-- `rewriteRecords`: a name that starts with a star takes on the name of the question. -/
def rewriteRecords (records : List RR) (question : Question) : List RR :=
  records.map fun it =>
    match it.header.name with
    | 42 :: suffix =>
      if suffix.isSuffixOf question.name then { it with header.name := question.name } else it
    | _ => it

def Predefined.response (action : Predefined) (request : Msg) (question : Question) : Msg :=
  { id := request.id
    response := true
    authoritative := true
    recursionDesired := true
    recursionAvailable := true
    rcode := action.rcode
    question := request.question
    answer := rewriteRecords action.answer question
    ns := rewriteRecords action.ns question
    extra := rewriteRecords action.extra question }

def cnameTarget (current : Bytes) (record : RR) : Option Bytes :=
  match record.data with
  | .cname target => if record.header.name = current then some target else none
  | _ => none

def isUnvisited (visited : List Bytes) (record : RR) : Bool :=
  match record.data with
  | .cname target => target ∉ visited
  | _ => false

theorem data_of_cnameTarget {current target : Bytes} {record : RR} (names : cnameTarget current record = some target) :
    record.data = .cname target := by
  revert names
  fun_cases cnameTarget current record with
  | case1 other data => rintro ⟨⟩; exact data
  | case2 | case3 => exact nofun

theorem unvisited_lt {records : List RR} {visited : List Bytes} {current target : Bytes}
    (found : records.findSome? (cnameTarget current) = some target) (fresh : target ∉ visited) :
    (records.filter (isUnvisited (target :: visited))).length < (records.filter (isUnvisited visited)).length := by
  obtain ⟨record, member, names⟩ := List.exists_of_findSome?_eq_some found
  have target_eq := data_of_cnameTarget names
  have fewer : (records.filter (isUnvisited (target :: visited))) =
      (records.filter (isUnvisited visited)).filter (isUnvisited (target :: visited)) := by
    rw [List.filter_filter]
    refine List.filter_congr fun other _ => ?_
    unfold isUnvisited
    split
    · simp only [List.mem_cons]
      simp +contextual
    · rfl
  rw [fewer]
  refine List.length_filter_lt_length_iff_exists.mpr ⟨record, ?_, ?_⟩
  · refine List.mem_filter.mpr ⟨member, ?_⟩
    simp [isUnvisited, target_eq, fresh]
  · simp [isUnvisited, target_eq]

/-- The loop of `findLastCNAMETarget`: the last name of the chain, unless the chain comes back to a
name. -/
def lastCNAME (records : List RR) (visited : List Bytes) (current : Bytes) : Option Bytes :=
  match _found : records.findSome? (cnameTarget current) with
  | none => some current
  | some target =>
    if _seen : target ∈ visited then none else lastCNAME records (target :: visited) target
termination_by (records.filter (isUnvisited visited)).length
decreasing_by exact unvisited_lt _found _seen

def findLastCNAMETarget (name : Bytes) (records : List RR) : Bytes :=
  match lastCNAME records [name] name with
  | none => []
  | some current =>
    if current = name then []
    else if records.any fun it => (it.isA || it.isAAAA) && it.header.name = current then []
    else current

/-- `ContextWithAliasResolution`; nothing if a loop was detected. -/
def contextWithAliasResolution (ctx : QueryContext) (source target : Bytes) : Option QueryContext :=
  if source = target then none
  else
    let existing := ctx.aliasChain.getD []
    if existing.contains target then none
    else some { ctx with aliasChain := some (source :: target :: existing) }

/-! ### Exchange -/

/-- What an exchange of the router comes to: the result, and the background calls that were started. -/
structure ExchangeResult where
  response : Option Msg := none
  err : Option DnsError := none
  stale : Bool := false
  refreshes : List Refresh := []

def isAddressQuery (message : Msg) : Bool :=
  message.question.any fun question =>
    question.qtype = typeA || question.qtype = typeAAAA || question.qtype = typeHTTPS

def Router.withDefaultStrategy (options : DNSQueryOptions) : DNSQueryOptions :=
  if options.strategy = .asIS then { options with strategy := router.defaultDomainStrategy }
  else options

def Router.rejection (message : Msg) (question : Question) : RejectMethod → Int → ExchangeResult
  | .default, rcode =>
    let rcode :=
      if rcode ≠ -1 then rcode
      else if router.defaultRejectRcode = -1 then rcodeRefused
      else router.defaultRejectRcode
    { response := some { id := message.id, response := true, rcode := rcode, question := [question] } }
  | .drop, _ => { err := some .dropped }

def Router.ask (call : Call) (world : World) : ExchangeResult × World :=
  let exchanged := router.env.exchange call world
  ({ response := exchanged.1.response
     err := exchanged.1.err
     stale := exchanged.1.stale }, exchanged.2)

/-- How the CNAME target of a predefined response is followed: from the context, the query, the
response and the options. -/
abbrev Follow :=
  QueryContext → Msg → Question → Msg → DNSQueryOptions → World → ExchangeResult × World

/-- `exchangeLoop`, from a place in the rules on. -/
def exchangeLoop (follow : Follow) (ctx : QueryContext) (message : Msg) (question : Question)
    (options : DNSQueryOptions) (allowFakeIP : Bool) (rules : List RuleEntry) (world : World) :
    ExchangeResult × World :=
  match _matched : matchDNS router ctx.metadata allowFakeIP (isAddressQuery message) rules options with
  | .reject method rcode => (router.rejection message question method rcode, world)
  | .predefined action dnsOptions =>
    follow ctx message question (action.response message question) dnsOptions world
  | .route transport none dnsOptions _ =>
    router.ask
      { transport := transport.tag
        message := message
        options := router.withDefaultStrategy dnsOptions
        context := ctx.toContext } world
  | .route transport (some rule) dnsOptions rest =>
    let responseCheck := DNSRule.addressLimitResponseCheck (some rule) ctx.metadata.resetRuleCache
    let asked := router.ask
      { transport := transport.tag
        message := message
        options := router.withDefaultStrategy dnsOptions
        responseChecker := responseCheck
        context := ctx.toContext } world
    let rejected :=
      asked.1.err = some .responseRejectedCached || asked.1.err = some .responseRejected
    if responseCheck.isSome && rejected then
      exchangeLoop follow ctx message question options allowFakeIP rest asked.2
    else asked
termination_by rules.length
decreasing_by exact matchDNS_rest router _matched

def QueryContext.forQuestion (ctx : QueryContext) (lib : DnsLibrary) (question : Question) : QueryContext :=
  { ctx with
    metadata :=
      { ctx.metadata with
        destination := {}
        queryType := question.qtype
        ipVersion :=
          if question.qtype = typeA then 4
          else if question.qtype = typeAAAA then 6
          else ctx.metadata.ipVersion
        domain := fqdnToDomain lib question.name } }

def mergeFollowed (qtype : UInt16) (response : Msg) (followed : Option Msg) : Msg :=
  match followed with
  | none => response
  | some followResp =>
    if followResp.rcode ≠ rcodeSuccess ∨ followResp.answer.length = 0 then response
    else
      { response with
        answer := response.answer ++ followResp.answer.filter fun it =>
          it.header.rrtype = qtype || it.header.rrtype = typeCNAME }

def followPredefinedCNAME : Nat → Follow
  | 0, _, _, _, response, _, world => ({ response := some response }, world)
  | depth + 1, ctx, _, question, response, options, world =>
    if question.qtype ≠ typeA ∧ question.qtype ≠ typeAAAA then
      ({ response := some response }, world)
    else
      let cnameTarget := findLastCNAMETarget question.name response.answer
      if cnameTarget = [] then ({ response := some response }, world)
      else
        match contextWithAliasResolution ctx question.name cnameTarget with
        | none => ({ response := some response }, world)
        | some aliasCtx =>
          let followQuestion : Question := ⟨cnameTarget, question.qtype, classINET⟩
          let followMsg : Msg := { recursionDesired := true, question := [followQuestion] }
          let followCtx := aliasCtx.forQuestion router.env.lib followQuestion
          let followed := exchangeLoop router (followPredefinedCNAME depth) followCtx followMsg
            followQuestion options false router.rules world
          let refreshes :=
            if followed.1.stale then [Refresh.exchange followCtx.update followMsg options] else []
          ({ response := some (mergeFollowed question.qtype response followed.1.response)
             refreshes := followed.1.refreshes ++ refreshes }, followed.2)

def Router.transportOf (tag : Bytes) : Transport := (router.transport tag).getD { tag := tag }

def Router.queryOptions (options : DNSQueryOptions) : DNSQueryOptions :=
  match options.transport with
  | none => options
  | some tag => router.withDefaultStrategy ((router.transportOf tag).fill options)

/-! ### Lookup -/

/-- What the rules make of a lookup: an error, predefined records, or a lookup of the client, in the
world that it finds. -/
inductive Selected where
  | rejected
  | predefined (action : Predefined)
  | looked (call : LookupCall)

def Router.lookupCall (ctx : QueryContext) (domain : Bytes) (transport : Bytes)
    (options : DNSQueryOptions) (responseCheck : Option (List Addr → Bool)) : LookupCall :=
  { context := ctx.toContext
    transport := transport
    domain := domain
    options := router.withDefaultStrategy options
    responseChecker := responseCheck }

/-- The loop of `Lookup`, from a place in the rules on: the call that has the last word, and the world
before it. -/
def lookupLoop (ctx : QueryContext) (domain : Bytes) (options : DNSQueryOptions)
    (rules : List RuleEntry) (world : World) : Selected × World :=
  match _matched : matchDNS router ctx.metadata false true rules options with
  | .reject _ _ => (.rejected, world)
  | .predefined action _ => (.predefined action, world)
  | .route transport none dnsOptions _ =>
    (.looked (router.lookupCall ctx domain transport.tag dnsOptions none), world)
  | .route transport (some rule) dnsOptions rest =>
    let responseCheck := DNSRule.addressLimitResponseCheck (some rule) ctx.metadata.resetRuleCache
    let call := router.lookupCall ctx domain transport.tag dnsOptions responseCheck
    let looked := router.env.lookup call world
    if responseCheck.isSome && looked.1.err.isSome then
      lookupLoop ctx domain options rest looked.2
    else (.looked call, world)
termination_by rules.length
decreasing_by exact matchDNS_rest router _matched

/-- What a lookup of the router comes to: the result, and the background calls that were started. -/
structure RouterLookup where
  addresses : List Addr := []
  err : Option DnsError := none
  refreshes : List Refresh := []

/-- `printResult`: no address is an error. -/
def RouterLookup.print (result : RouterLookup) : RouterLookup :=
  if result.err.isNone && result.addresses.isEmpty then { result with err := some .emptyResult }
  else result

/-- The end of `Lookup`, with the result of a lookup of the client. -/
def Router.finishLookup (ctx : QueryContext) (domain : Bytes) (options : DNSQueryOptions)
    (call : LookupCall) (world : World) : RouterLookup × World :=
  let looked := router.env.lookup call world
  (RouterLookup.print
    { addresses := looked.1.addresses
      err := looked.1.err
      refreshes := if looked.1.stale then [.lookup ctx.update domain options] else [] }, looked.2)

def Predefined.addresses (action : Predefined) (lib : DnsLibrary) (question : Question) : List Addr :=
  (rewriteRecords action.answer question).flatMap fun record =>
    match record.data with
    | .a ip | .aaaa ip => [lib.addrFromIP ip]
    | _ => []

def QueryContext.forDomain (ctx : QueryContext) (lib : DnsLibrary) (domain : Bytes) : QueryContext :=
  { ctx with
    metadata :=
      { ctx.metadata with destination := {}, domain := fqdnToDomain lib domain } }

/-- `Router.Lookup`, with the lookup of a CNAME target, if it may be followed. -/
def Router.lookupFollowing
    (follow : Option (QueryContext → Bytes → DNSQueryOptions → World → RouterLookup × World))
    (ctx : QueryContext) (domain : Bytes) (options : DNSQueryOptions) (world : World) :
    RouterLookup × World :=
  let lib := router.env.lib
  let ctx := ctx.forDomain lib domain
  match options.transport with
  | some tag =>
    let options := router.queryOptions options
    router.finishLookup ctx domain options (router.lookupCall ctx domain tag options none) world
  | none =>
    match lookupLoop router ctx domain options router.rules world with
    | (.rejected, world) => ({ err := some .ruleRejected }, world)
    | (.looked call, world) => router.finishLookup ctx domain options call world
    | (.predefined action, world) =>
      let question : Question := ⟨lib.fqdn domain, typeNone, classINET⟩
      let answer := rewriteRecords action.answer question
      if action.rcode ≠ rcodeSuccess then ({ err := some (.rcode action.rcode) }, world)
      else if !(action.addresses lib question).isEmpty then
        ({ addresses := action.addresses lib question }, world)
      else
        let cnameTarget := findLastCNAMETarget question.name answer
        let empty : RouterLookup := {}
        if cnameTarget = [] then (empty.print, world)
        else
          match contextWithAliasResolution ctx question.name cnameTarget, follow with
          | some aliasCtx, some follow =>
            let followed := follow aliasCtx (fqdnToDomain lib cnameTarget) options world
            (followed.1.print, followed.2)
          | _, _ => (empty.print, world)

def Router.lookup : Nat → QueryContext → Bytes → DNSQueryOptions → World → RouterLookup × World
  | 0 => router.lookupFollowing none
  | depth + 1 => router.lookupFollowing (some (Router.lookup depth))

end Router

end SingBox.Dns
