/-
**`Client.Lookup`** (`dns/client.go`).

A lookup asks for the addresses of a domain: for one family if the strategy wants one only, or else for
both. Each family is first looked up in the cache of responses (`questionCache`) and then exchanged.

The flag `stale` travels from the cache through three functions to the router. It gets lost for an entry
with an error code, and, when both families are looked up, if there is no address at all.
-/

import SingBox.Dns.Addresses

namespace SingBox.Dns

/-- A client with all that it depends on. The clock has a reading for each time it is looked at. -/
structure Environment where
  lib : DnsLibrary
  client : Client
  upstream : Upstream
  clock : Nat → Nat

/-- What changes: the client, and how often the clock was looked at. -/
structure World where
  state : ClientState := {}
  ticks : Nat := 0

/-- What a lookup returns. -/
structure LookupResult where
  addresses : List Addr := []
  err : Option DnsError := none
  stale : Bool := false
  deriving DecidableEq

def fqdnToDomain (lib : DnsLibrary) (fqdn : Bytes) : Bytes :=
  if lib.isFqdn fqdn then fqdn.dropLast else fqdn

section Lookup

variable (env : Environment)

/-- `Exchange`, by the clock. -/
def Environment.exchange (call : Call) (world : World) : Outcome × World :=
  let exchanged := Dns.exchange env.lib env.client env.upstream call (env.clock world.ticks)
    (env.clock (world.ticks + 1)) world.state
  (exchanged.1, { state := exchanged.2, ticks := world.ticks + 2 })

/-- What `questionCache` makes of a response from the cache. -/
def cachedResult (response : Msg) (stale : Bool) : LookupResult :=
  if response.rcode ≠ rcodeSuccess then { err := some (.rcode response.rcode) }
  else { addresses := messageToAddresses env.lib response, stale := stale }

/-- `questionCache`; nothing is `ErrNotCached`. -/
def questionCache (key : DnsCacheKey) (transportTag : Bytes) (now : Nat) (state : ClientState) :
    Option LookupResult × ClientState :=
  let loaded := loadResponse env.lib env.client key transportTag now state.cache
  (loaded.1.map fun result => cachedResult env result.1 result.2.2, { state with cache := loaded.2 })

/-- What `lookupToExchange` makes of an outcome. -/
def exchangedResult (outcome : Outcome) : LookupResult :=
  match outcome.err, outcome.response with
  | some err, _ => { err := some err }
  | none, none => {}
  | none, some response =>
    if response.rcode ≠ rcodeSuccess then { err := some (.rcode response.rcode) }
    else { addresses := messageToAddresses env.lib response }

structure LookupCall where
  context : Context := {}
  transport : Bytes
  domain : Bytes
  options : DNSQueryOptions := {}
  responseChecker : Option (List Addr → Bool) := none

section

variable (call : LookupCall)

def LookupCall.question (qType : UInt16) : Question :=
  ⟨env.lib.fqdn (fqdnToDomain env.lib call.domain), qType, classINET⟩

def LookupCall.strategy : DomainStrategy :=
  if call.options.lookupStrategy ≠ .asIS then call.options.lookupStrategy
  else call.options.strategy

def LookupCall.key (qType : UInt16) : DnsCacheKey :=
  ⟨call.question env qType, env.client.effectiveClientSubnet call.options⟩

def LookupCall.toCall (qType : UInt16) : Call :=
  { transport := call.transport
    message := { recursionDesired := true, question := [call.question env qType] }
    options := { call.options with strategy := call.strategy }
    responseChecker := call.responseChecker
    context := call.context }

def LookupCall.readsCache : Bool :=
  !(env.client.disableCache || call.options.disableCache) && !call.context.updating

/-- `lookupToExchange`. The clock has three readings for it: one for the look into the cache, two for the exchange. -/
def lookupToExchange (qType : UInt16) (world : World) : LookupResult × World :=
  let cached :=
    if call.readsCache env then
      questionCache env (call.key env qType) call.transport (env.clock world.ticks) world.state
    else (none, world.state)
  match cached with
  | (some result, state) => (result, { state := state, ticks := world.ticks + 3 })
  | (none, state) =>
    let exchanged := env.exchange (call.toCall env qType) { state := state, ticks := world.ticks + 1 }
    (exchangedResult env exchanged.1, exchanged.2)

end

/-- `E.Errors` of two. -/
def joinErrors : Option DnsError → Option DnsError → Option DnsError
  | some first, some second => some (.both first second)
  | some first, none => some first
  | none, second => second

def sortAddresses (response4 response6 : List Addr) (strategy : DomainStrategy) : List Addr :=
  if strategy = .preferIPv6 then response6 ++ response4 else response4 ++ response6

/-- What is left of a family: nothing if it fails. -/
def LookupResult.kept (result : LookupResult) : LookupResult :=
  if result.err.isSome then {} else result

/-- What `Lookup` makes of the two families. -/
def bothFamilies (strategy : DomainStrategy) (exchange4 exchange6 : LookupResult) : LookupResult :=
  let response4 := exchange4.kept.addresses
  let response6 := exchange6.kept.addresses
  if response4.isEmpty && response6.isEmpty then { err := joinErrors exchange4.err exchange6.err }
  else
    { addresses := sortAddresses response4 response6 strategy
      stale := exchange4.kept.stale || exchange6.kept.stale }

/-- `Lookup`. The two families are asked at the same time; one after another is one of the orders. -/
def Environment.lookup (call : LookupCall) (world : World) : LookupResult × World :=
  match call.strategy with
  | .ipv4Only => lookupToExchange env call typeA world
  | .ipv6Only => lookupToExchange env call typeAAAA world
  | strategy =>
    let exchange4 := lookupToExchange env call typeA world
    let exchange6 := lookupToExchange env call typeAAAA exchange4.2
    (bothFamilies strategy exchange4.1 exchange6.1, exchange6.2)

end Lookup

end SingBox.Dns
