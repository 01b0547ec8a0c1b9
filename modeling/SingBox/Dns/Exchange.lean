/-
**`Client.Exchange`** (`dns/client.go`).

A call first looks for an answer without asking: two guards, the refresh that is already running, the cache, the loop
check and the store of rejected responses (`startExchange`). If there is none, the transport is asked, and its answer
is checked, stored and returned (`finishExchange`). The two halves are separate events of the machine `exchanges`,
whose event sequences are the interleavings of any number of calls. The in-flight markers only make a call wait; this
machine lets it go on at any time instead, which has more runs.
-/

import SingBox.Dns.Cache
import SingBox.Lib.Holding
import SingBox.Lib.Machine

namespace SingBox.Dns

open SingBox.Lib Function

/-! ### Calls -/

inductive DomainStrategy where
  | asIS
  | preferIPv4
  | preferIPv6
  | ipv4Only
  | ipv6Only
  deriving DecidableEq, Repr

/-- The types that a strategy does not want to know about. -/
def DomainStrategy.excludes (strategy : DomainStrategy) (qtype : UInt16) : Bool :=
  (qtype = typeA && strategy = .ipv6Only) || (qtype = typeAAAA && strategy = .ipv4Only)

/-- `adapter.DNSQueryOptions`; a transport is known by its tag. -/
structure DNSQueryOptions where
  transport : Option Bytes := none
  (strategy lookupStrategy : DomainStrategy := .asIS)
  disableCache : Bool := false
  rewriteTTL : Option UInt32 := none
  clientSubnet : Prefix := .none
  lazyCacheTTL : Option UInt32 := none

/-- The errors that the client and the router tell apart; `both` is `E.Errors` of two. -/
inductive DnsError where
  | rcode (code : Int)
  | loopback (transportTag : Bytes)
  | responseRejected
  | responseRejectedCached
  | failed (text : Bytes)
  | both (first second : DnsError)
  | emptyResult
  | ruleRejected
  | dropped
  deriving DecidableEq, Repr

/-- What the client looks for in a context: whether the call refreshes the cache
(`UpdateDnsCacheFromContext`), and the transport that the call is made for
(`transportTagFromContext`). -/
structure Context where
  updating : Bool := false
  transportTag : Option Bytes := none

/-- The arguments of `Exchange`. -/
structure Call where
  transport : Bytes
  message : Msg
  options : DNSQueryOptions := {}
  responseChecker : Option (List Addr → Bool) := none
  context : Context := {}

/-- What `Exchange` returns. -/
structure Outcome where
  response : Option Msg := none
  err : Option DnsError := none
  stale : Bool := false
  deriving DecidableEq

inductive TransportError where
  | rcode (code : Int)
  | failed (text : Bytes)

/-- `DNSTransport.Exchange`, for the transport with a tag. -/
abbrev Upstream := Bytes → Msg → Except TransportError Msg

/-- `adapter.DNSCacheKey`, the key of a rejected response. -/
structure RdrcKey where
  transportName : Bytes
  questionName : Bytes
  qType : UInt16
  clientSubnet : Prefix
  deriving DecidableEq

/-- `Client`, the part that changes. -/
structure ClientState where
  cache : Cache := fun _ => none
  rejections : RdrcKey → Bool := fun _ => false
  updating : CacheSlot → Bool := fun _ => false

section Exchange

variable (lib : DnsLibrary) (client : Client) (upstream : Upstream)

/-! ### What is asked -/

def Client.effectiveClientSubnet (options : DNSQueryOptions) : Prefix :=
  let clientSubnet :=
    if options.clientSubnet.isValid then options.clientSubnet else client.clientSubnet
  if clientSubnet.isValid then clientSubnet.masked else clientSubnet

/-- The request that a call makes, and what the cache may be used for. -/
structure Request where
  message : Msg
  question : Question
  key : DnsCacheKey
  cacheReadable : Bool
  cacheWritable : Bool

def Client.prepare (call : Call) (question : Question) : Request :=
  let clientSubnet := client.effectiveClientSubnet call.options
  let message := prepareExchangeMessage call.message clientSubnet
  let external := if clientSubnet.isValid then none else extractClientSubnet message
  let clientSubnet := if clientSubnet.isValid then clientSubnet else external.getD .none
  let cacheReadable := isSimpleDNSRequest message clientSubnet && !client.disableCache && !call.options.disableCache
  { message := message
    question := question
    key := ⟨question, clientSubnet⟩
    cacheReadable := cacheReadable
    cacheWritable := cacheReadable && (external.isNone || client.cacheClientSubnet) }

/-- The request of a call that gets past the guards: there is a question, and the strategy does not
exclude its type. -/
def Client.request (call : Call) : Option Request :=
  match call.message.question with
  | [] => none
  | question :: _ =>
    if call.options.strategy.excludes question.qtype then none
    else some (client.prepare call question)

def DnsCacheKey.rdrcKey (key : DnsCacheKey) (transportTag : Bytes) : RdrcKey :=
  ⟨transportTag, key.question.name, key.question.qtype, key.clientSubnet⟩

/-- The key under which a store keeps a rejection: without the subnet if that is not valid, and not
at all if the store cannot tell subnets apart. -/
def Client.storedKey (key : RdrcKey) : Option RdrcKey :=
  match client.rdrc with
  | none => none
  | some store =>
    if !key.clientSubnet.isValid then some { key with clientSubnet := .none }
    else
      match store with
      | .plain => none
      | .withKey => some key

def loadRDRC (key : RdrcKey) (state : ClientState) : Bool :=
  match client.storedKey key with
  | none => false
  | some stored => state.rejections stored

def saveRDRCAsync (key : RdrcKey) (state : ClientState) : ClientState :=
  match client.storedKey key with
  | none => state
  | some stored => { state with rejections := Function.update state.rejections stored true }

/-! ### The first half -/

/-- A call is over, or its request is still to be sent. -/
inductive Begun where
  | done (outcome : Outcome)
  | ask (request : Request)

/-- The answer from the cache. A stale one is only used if it may be refreshed. -/
def loadCached (call : Call) (request : Request) (now : Nat) (cache : Cache) : Option Outcome × Cache :=
  if request.cacheReadable && !call.context.updating then
    let loaded := loadResponse lib client request.key call.transport now cache
    match loaded.1 with
    | none => (none, loaded.2)
    | some (response, _, stale) =>
      if !stale || request.cacheWritable then
        (some { response := some { response with id := request.message.id }, stale := stale }, loaded.2)
      else (none, loaded.2)
  else (none, cache)

/-- `Exchange`, up to the call of the transport. -/
def startExchange (call : Call) (now : Nat) (state : ClientState) : Begun × ClientState :=
  match client.request call with
  | none =>
    let rcode := if call.message.question.isEmpty then rcodeFormatError else rcodeSuccess
    (.done { response := some (fixedResponseStatus call.message rcode) }, state)
  | some request =>
    let slot := client.slot request.key call.transport
    if call.context.updating && state.updating slot then (.done {}, state)
    else
      let loaded := loadCached lib client call request now state.cache
      let state := { state with cache := loaded.2 }
      match loaded.1 with
      | some outcome => (.done outcome, state)
      | none =>
        if call.context.transportTag = some call.transport then
          (.done { err := some (.loopback call.transport) }, state)
        else if request.cacheReadable && call.responseChecker.isSome &&
            loadRDRC client (request.key.rdrcKey call.transport) state then
          (.done { err := some .responseRejectedCached }, state)
        else if call.context.updating then
          (.ask request, { state with updating := Function.update state.updating slot true })
        else (.ask request, state)

/-! ### The second half -/

/-- What the transport answers; a response code that it returns as an error is a response as well. -/
def answer (call : Call) (request : Request) : Except Bytes Msg :=
  match upstream call.transport request.message with
  | .ok response => .ok (stripDNSPadding response)
  | .error (.rcode code) => .ok (fixedResponseStatus request.message code)
  | .error (.failed text) => .error text

/-- The response codes that are cached, and that a checker is asked about. -/
def settled (rcode : Int) : Bool := rcode = rcodeSuccess || rcode = rcodeNameError

def rejects (responseChecker : Option (List Addr → Bool)) (response : Msg) : Bool :=
  match responseChecker with
  | none => false
  | some check =>
    if !settled response.rcode then true
    else if response.answer.isEmpty then !check []
    else !check (messageToAddresses lib response)

/-- An HTTPS question that is asked for one family only. -/
def Call.filtersHints (call : Call) (question : Question) : Bool :=
  question.qtype = typeHTTPS && (call.options.strategy = .ipv4Only || call.options.strategy = .ipv6Only)

def filterHints (strategy : DomainStrategy) (record : RR) : RR :=
  match record.data with
  | .https values =>
    { record with
      data := .https (values.filter fun it =>
        if strategy = .ipv4Only then it.key != svcbIPv6Hint else it.key != svcbIPv4Hint) }
  | _ => record

def Call.filtered (call : Call) (question : Question) (response : Msg) : Msg :=
  if call.filtersHints question then
    { response with answer := response.answer.map (filterHints call.options.strategy) }
  else response

/-- The time-to-live of a response: of its SOA record if it has no answer, or else the lowest positive
one of its records (the loop is that of `loadResponse`, on 32 bits). -/
def responseTTL (options : DNSQueryOptions) (response : Msg) : UInt32 :=
  let negative := if response.answer.isEmpty then (extractNegativeTTL response).getD 0 else 0
  let timeToLive := if negative = 0 then UInt32.ofNat (originTTL response) else negative
  let timeToLive := if timeToLive < client.minCacheTTL then client.minCacheTTL else timeToLive
  let timeToLive := if timeToLive > client.maxCacheTTL then client.maxCacheTTL else timeToLive
  options.rewriteTTL.getD timeToLive

def optRecord (message : Msg) : Option RR := (lib.isEdns0 message).bind fun i => message.extra[i]?

/-- The OPT record of the response is removed, or replaced, if the request has none or an older
one. -/
def fixEDNS (request response : Msg) : Msg :=
  match optRecord lib response with
  | none => response
  | some responseOpt =>
    let plain := { response with extra := response.extra.filter fun it => !it.isOPT }
    match optRecord lib request with
    | none => plain
    | some requestOpt =>
      if lib.optVersion requestOpt < lib.optVersion responseOpt then
        { plain with
          extra := plain.extra ++ [lib.edns0Record (lib.optUDPSize responseOpt) (lib.optDo responseOpt)] }
      else response

/-- The response with the TTL that it is stored and returned with. -/
def Call.stamped (call : Call) (question : Question) (response : Msg) : Msg :=
  let response := call.filtered question response
  response.mapTTL fun _ => responseTTL client call.options response

/-- `Exchange`, from the answer of the transport. -/
def settle (call : Call) (request : Request) (response : Msg) (now : Nat) (state : ClientState) :
    Outcome × ClientState :=
  let cacheWritable := request.cacheWritable && settled response.rcode
  if rejects lib call.responseChecker response then
    ({ response := some response, err := some .responseRejected },
      if cacheWritable then saveRDRCAsync client (request.key.rdrcKey call.transport) state
      else state)
  else
    let stored := call.stamped client request.question response
    ({ response := some (fixEDNS lib request.message { stored with id := request.message.id }) },
      if cacheWritable then
        { state with
          cache := storeCache lib client request.key call.transport stored
            (responseTTL client call.options (call.filtered request.question response))
            call.options.lazyCacheTTL now state.cache }
      else state)

/-- A call that refreshes the cache leaves the set of those that do. -/
def endUpdate (call : Call) (request : Request) (state : ClientState) : ClientState :=
  let slot := client.slot request.key call.transport
  if call.context.updating then
    { state with updating := Function.update state.updating slot false }
  else state

/-- `Exchange`, from the call of the transport. -/
def finishExchange (call : Call) (request : Request) (now : Nat) (state : ClientState) : Outcome × ClientState :=
  let state := endUpdate client call request state
  match answer upstream call request with
  | .error text => ({ err := some (.failed text) }, state)
  | .ok response => settle lib client call request response now state

/-- `Exchange`, without an interruption. -/
def exchange (call : Call) (now later : Nat) (state : ClientState) : Outcome × ClientState :=
  match startExchange lib client call now state with
  | (.done outcome, state) => (outcome, state)
  | (.ask request, state) => finishExchange lib client upstream call request later state

/-! ### Any number of calls -/

structure System where
  state : ClientState := {}
  pending : Nat → Option (Call × Request) := fun _ => none

/-- A call starts, a transport answers, an entry leaves the cache, a rejection is forgotten. -/
inductive Event where
  | start (id : Nat) (call : Call) (now : Nat)
  | finish (id : Nat) (now : Nat)
  | evict (slot : CacheSlot)
  | forget (key : RdrcKey)

/-- **The client under any number of calls.** A call that ends is returned with its outcome. -/
def exchanges : Machine System Event (Call × Outcome) where
  step system event :=
    match event with
    | .start id call now =>
      if (system.pending id).isSome then (system, none)
      else
        match startExchange lib client call now system.state with
        | (.done outcome, state) => ({ system with state := state }, some (call, outcome))
        | (.ask request, state) =>
          ({ state := state, pending := Function.update system.pending id (some (call, request)) }, none)
    | .finish id now =>
      match system.pending id with
      | none => (system, none)
      | some (call, request) =>
        let finished := finishExchange lib client upstream call request now system.state
        ({ state := finished.2, pending := Function.update system.pending id none }, some (call, finished.1))
    | .evict slot =>
      ({ system with state.cache := Function.update system.state.cache slot none }, none)
    | .forget key =>
      ({ system with state.rejections := Function.update system.state.rejections key false }, none)

end Exchange

section Laws

variable {lib : DnsLibrary} {client : Client} {upstream : Upstream}

/-! ### What the first half does -/

variable {call : Call} {entry : CacheEntry} {now : Nat} {request : Request} {state : ClientState}

section

variable {slot : CacheSlot}

theorem loadCached_keeps {cache : Cache} (found : (loadCached lib client call request now cache).2 slot = some entry) :
    ∃ before, cache slot = some before ∧ SameResponse entry before := by
  revert found
  fun_cases loadCached lib client call request now cache with
  | case1 | case2 | case3 => exact loadResponse_keeps
  | case4 => exact fun found => ⟨entry, found, .refl entry⟩

theorem loadCached_eq_some {cache : Cache} {outcome : Outcome}
    (loaded : (loadCached lib client call request now cache).1 = some outcome) :
    (request.cacheReadable = true ∧ call.context.updating = false) ∧ ∃ entry,
      cache (client.slot request.key call.transport) = some entry ∧
        outcome =
          { response := some { (serveEntry lib client entry now).1 with id := request.message.id }
            stale := (serveEntry lib client entry now).2.2 } := by
  revert loaded
  fun_cases loadCached lib client call request now cache with
  | case1 | case3 | case4 => rintro ⟨⟩
  | case2 readable _ response ttl stale served =>
    rintro ⟨⟩
    obtain ⟨reads, fresh⟩ := Bool.and_eq_true_iff.mp readable
    obtain ⟨entry, held, -, same⟩ := loadResponse_eq_some.mp served
    refine ⟨⟨reads, by simpa using fresh⟩, entry, held, ?_⟩
    rw [← same]

theorem request_eq_prepare (asked : client.request call = some request) :
    ∃ question rest, call.message.question = question :: rest ∧ request = client.prepare call question := by
  unfold Client.request at asked
  split at asked
  · cases asked
  rename_i question rest questions
  split at asked
  · cases asked
  · cases asked
    exact ⟨question, rest, questions, rfl⟩

/-- **The first half ends a call** that gets past the guards because of a refresh that runs, from the
cache, because of a loop, or with a stored rejection. -/
theorem startExchange_done {after : ClientState} {outcome : Outcome} (asked : client.request call = some request)
    (ended : startExchange lib client call now state = (.done outcome, after)) :
    outcome = {} ∨ (loadCached lib client call request now state.cache).1 = some outcome ∨
      outcome = { err := some (.loopback call.transport) } ∨
      outcome = { err := some .responseRejectedCached } ∧ request.cacheReadable = true ∧
        loadRDRC client (request.key.rdrcKey call.transport) state = true := by
  revert ended
  fun_cases startExchange lib client call now state with
  | case1 none => cases none.symm.trans asked
  | case2 =>
    rintro ⟨⟩
    exact .inl rfl
  | case3 own is _ _ _ _ outcome loaded =>
    cases asked.symm.trans is
    intro ended
    cases congrArg Prod.fst ended
    exact .inr (.inl loaded)
  | case4 =>
    intro ended
    cases congrArg Prod.fst ended
    exact .inr (.inr (.inl rfl))
  | case5 own is _ _ _ _ _ _ refused =>
    cases asked.symm.trans is
    intro ended
    cases congrArg Prod.fst ended
    simp only [Bool.and_eq_true] at refused
    exact .inr (.inr (.inr ⟨rfl, refused.1.1, refused.2⟩))
  | case6 | case7 => rintro ⟨⟩

theorem startExchange_ask {after : ClientState}
    (asks : startExchange lib client call now state = (.ask request, after)) : client.request call = some request ∧
      (call.context.updating = true → state.updating (client.slot request.key call.transport) = false) ∧
      after.updating = if call.context.updating then update state.updating (client.slot request.key call.transport) true
        else state.updating := by
  revert asks
  fun_cases startExchange lib client call now state with
  | case1 | case2 | case3 | case4 | case5 => rintro ⟨⟩
  | case6 own asked _ busy _ _ _ _ _ updating =>
    rintro ⟨⟩
    exact ⟨asked, fun _ => by simpa [updating] using busy, (if_pos updating).symm⟩
  | case7 own asked _ _ _ _ _ _ _ updating =>
    intro asks
    obtain ⟨⟨⟩, rfl⟩ := Prod.mk.inj asks
    exact ⟨asked, fun also => absurd also updating, (if_neg updating).symm⟩

theorem startExchange_state (lib : DnsLibrary) (client : Client) (call : Call) (now : Nat) (state : ClientState) :
    (startExchange lib client call now state).2.rejections = state.rejections ∧
      ((startExchange lib client call now state).2.cache = state.cache ∨ ∃ request,
        (startExchange lib client call now state).2.cache = (loadCached lib client call request now state.cache).2) ∧
      ∀ outcome, (startExchange lib client call now state).1 = .done outcome →
        (startExchange lib client call now state).2.updating = state.updating := by
  fun_cases startExchange lib client call now state with
  | case1 | case2 => exact ⟨rfl, .inl rfl, fun _ _ => rfl⟩
  | case3 request | case4 request | case5 request => exact ⟨rfl, .inr ⟨request, rfl⟩, fun _ _ => rfl⟩
  | case6 request | case7 request =>
    refine ⟨rfl, .inr ⟨request, rfl⟩, fun _ ended => ?_⟩
    cases ended

theorem startExchange_keeps (found : (startExchange lib client call now state).2.cache slot = some entry) :
    ∃ before, state.cache slot = some before ∧ SameResponse entry before := by
  rcases (startExchange_state lib client call now state).2.1 with same | loaded
  · rw [same] at found
    exact ⟨entry, found, .refl entry⟩
  · obtain ⟨request, same⟩ := loaded
    rw [same] at found
    exact loadCached_keeps found

/-! ### What the second half does -/

/-- A call has stored a message: the answer of its transport, which its checker accepted. -/
structure Wrote (lib : DnsLibrary) (client : Client) (upstream : Upstream) (call : Call)
    (request : Request) (slot : CacheSlot) (message : Msg) : Prop where
  writable : request.cacheWritable = true
  slot_eq : slot = client.slot request.key call.transport
  answered : ∃ response, answer upstream call request = .ok response ∧
    settled response.rcode = true ∧ rejects lib call.responseChecker response = false ∧
    message = call.stamped client request.question response

/-- A call has stored a rejection: its checker rejected the answer of its transport. -/
structure Refused (lib : DnsLibrary) (client : Client) (upstream : Upstream) (call : Call)
    (request : Request) (key : RdrcKey) : Prop where
  writable : request.cacheWritable = true
  key_eq : client.storedKey (request.key.rdrcKey call.transport) = some key
  answered : ∃ response, answer upstream call request = .ok response ∧
    settled response.rcode = true ∧ rejects lib call.responseChecker response = true

theorem saveRDRCAsync_rejections {key stored : RdrcKey}
    (found : (saveRDRCAsync client key state).rejections stored = true) :
    state.rejections stored = true ∨ client.storedKey key = some stored := by
  revert found
  fun_cases saveRDRCAsync client key state with
  | case1 => exact .inl
  | case2 place saved =>
    by_cases same : stored = place
    · exact fun _ => .inr (same ▸ saved)
    · simpa only [update_of_ne same] using .inl

theorem saveRDRCAsync_cache (key : RdrcKey) (state : ClientState) :
    (saveRDRCAsync client key state).cache = state.cache := by
  unfold saveRDRCAsync
  split <;> rfl

theorem storeCache_eq_some {key : DnsCacheKey} {transportTag : Bytes} {message : Msg}
    {timeToLive : UInt32} {lazyCacheTTL : Option UInt32} {cache : Cache}
    (found : storeCache lib client key transportTag message timeToLive lazyCacheTTL now cache slot = some entry) :
    cache slot = some entry ∨ slot = client.slot key transportTag ∧ entry.value.msg = message := by
  unfold storeCache at found
  split at found
  · exact .inl found
  by_cases same : slot = client.slot key transportTag
  · rw [same, update_self] at found
    refine .inr ⟨same, ?_⟩
    rw [← Option.some.inj found]
    unfold newEntry
    split <;> rfl
  · rw [update_of_ne same] at found
    exact .inl found

@[simp] theorem endUpdate_cache (call : Call) (request : Request) (state : ClientState) :
    (endUpdate client call request state).cache = state.cache := by
  unfold endUpdate
  split <;> rfl

@[simp] theorem endUpdate_rejections (call : Call) (request : Request) (state : ClientState) :
    (endUpdate client call request state).rejections = state.rejections := by
  unfold endUpdate
  split <;> rfl

theorem finishExchange_cache
    (found : (finishExchange lib client upstream call request now state).2.cache slot = some entry) :
    state.cache slot = some entry ∨ Wrote lib client upstream call request slot entry.value.msg := by
  rw [← endUpdate_cache call request state]
  unfold finishExchange at found
  split at found
  · exact .inl found
  rename_i response answered
  unfold settle at found
  dsimp only at found
  split at found
  · refine .inl ?_
    split at found
    · rw [saveRDRCAsync_cache] at found
      exact found
    · exact found
  · rename_i accepted
    split at found
    · rename_i writable
      obtain ⟨mayWrite, settles⟩ := Bool.and_eq_true_iff.mp writable
      rcases storeCache_eq_some found with old | ⟨place, written⟩
      · exact .inl old
      · exact .inr ⟨mayWrite, place, response, answered, settles, Bool.eq_false_iff.mpr accepted, written⟩
    · exact .inl found

end

/-- **What the second half leaves in the store of rejections** was there before, or the call saved
it. -/
theorem finishExchange_rejections {key : RdrcKey}
    (found : (finishExchange lib client upstream call request now state).2.rejections key = true) :
    state.rejections key = true ∨ Refused lib client upstream call request key := by
  rw [← endUpdate_rejections call request state]
  unfold finishExchange at found
  split at found
  · exact .inl found
  rename_i response answered
  unfold settle at found
  dsimp only at found
  split at found
  · rename_i refused
    split at found
    · rename_i writable
      obtain ⟨mayWrite, settles⟩ := Bool.and_eq_true_iff.mp writable
      rcases saveRDRCAsync_rejections found with old | saved
      · exact .inl old
      · exact .inr ⟨mayWrite, saved, response, answered, settles, refused⟩
    · exact .inl found
  · split at found <;> exact .inl found

/-! ### What a run leaves behind -/

def Starts (events : List Event) (call : Call) : Prop := ∃ id now, Event.start id call now ∈ events

theorem Starts.concat {events : List Event} (starts : Starts events call) (event : Event) :
    Starts (events ++ [event]) call := by
  obtain ⟨id, now, member⟩ := starts
  exact ⟨id, now, List.mem_append_left _ member⟩

/-- **What the client holds goes back to calls**: every entry of the cache and every stored rejection
to the call that wrote it, every request that it waits for to the call that made it. -/
structure Accounted (lib : DnsLibrary) (client : Client) (upstream : Upstream)
    (past : List Event) (system : System) : Prop where
  cached : ∀ slot entry, system.state.cache slot = some entry → ∃ call request, Starts past call ∧
    client.request call = some request ∧ Wrote lib client upstream call request slot entry.value.msg
  refused : ∀ key, system.state.rejections key = true → ∃ call request, Starts past call ∧
    client.request call = some request ∧ Refused lib client upstream call request key
  pending : ∀ id call request, system.pending id = some (call, request) →
    Starts past call ∧ client.request call = some request

theorem accounted_initial : Accounted lib client upstream [] {} := by
  refine ⟨fun slot entry held => ?_, fun key held => ?_, fun id call request held => ?_⟩
  · exact nomatch held
  · cases held
  · exact nomatch held

section

variable {past : List Event}

theorem Accounted.concat {system : System} (accounted : Accounted lib client upstream past system)
    (event : Event) : Accounted lib client upstream (past ++ [event]) system := by
  refine ⟨fun slot entry held => ?_, fun key held => ?_, fun id call request held => ?_⟩
  · obtain ⟨call, request, starts, rest⟩ := accounted.cached slot entry held
    exact ⟨call, request, starts.concat event, rest⟩
  · obtain ⟨call, request, starts, rest⟩ := accounted.refused key held
    exact ⟨call, request, starts.concat event, rest⟩
  · obtain ⟨starts, asked⟩ := accounted.pending id call request held
    exact ⟨starts.concat event, asked⟩

theorem Accounted.of_state {system after : System} (accounted : Accounted lib client upstream past system)
    (cache : ∀ slot entry, after.state.cache slot = some entry →
      ∃ before, system.state.cache slot = some before ∧ entry.value.msg = before.value.msg)
    (rejections : ∀ key, after.state.rejections key = true → system.state.rejections key = true)
    (pending : ∀ id call request, after.pending id = some (call, request) →
      system.pending id = some (call, request) ∨ Starts past call ∧ client.request call = some request) :
    Accounted lib client upstream past after := by
  refine ⟨fun slot entry held => ?_, fun key held => ?_, fun id call request held => ?_⟩
  · obtain ⟨before, heldBefore, same⟩ := cache slot entry held
    rw [same]
    exact accounted.cached slot before heldBefore
  · exact accounted.refused key (rejections key held)
  · rcases pending id call request held with old | new
    · exact accounted.pending id call request old
    · exact new

variable {system : System} {id : Nat} (accounted : Accounted lib client upstream past system)

include accounted

theorem accounted_start : Accounted lib client upstream (past ++ [.start id call now])
      ((exchanges lib client upstream).step system (.start id call now)).1 := by
  have starts : Starts (past ++ [.start id call now]) call :=
    ⟨id, now, List.mem_append_right _ List.mem_cons_self⟩
  have known := accounted.concat (.start id call now)
  have keeps slot entry (held : (startExchange lib client call now system.state).2.cache slot = some entry) :
      ∃ before, system.state.cache slot = some before ∧ entry.value.msg = before.value.msg := by
    obtain ⟨before, heldBefore, same⟩ := startExchange_keeps held
    exact ⟨before, heldBefore, same.msg⟩
  have rejections key (held : (startExchange lib client call now system.state).2.rejections key = true) :
      system.state.rejections key = true := (startExchange_state lib client call now system.state).1 ▸ held
  unfold exchanges
  dsimp only
  split
  · exact known
  rename_i idle
  cases begun : startExchange lib client call now system.state with
  | mk result state =>
    rw [begun] at keeps rejections
    cases result with
    | done outcome => exact known.of_state keeps rejections fun _ _ _ held => .inl held
    | ask request =>
      refine known.of_state keeps rejections fun other call' request' held => ?_
      rcases (update_some_iff (Option.not_isSome_iff_eq_none.mp idle)).mp held with ⟨-, same⟩ | old
      · cases same
        exact .inr ⟨starts, (startExchange_ask begun).1⟩
      · exact .inl old

theorem accounted_finish : Accounted lib client upstream (past ++ [.finish id now])
      ((exchanges lib client upstream).step system (.finish id now)).1 := by
  have known := accounted.concat (.finish id now)
  unfold exchanges
  dsimp only
  split
  · exact known
  rename_i call request waits
  obtain ⟨starts, asked⟩ := known.pending id call request waits
  refine ⟨fun slot entry held => ?_, fun key held => ?_, fun other call' request' held => ?_⟩
  · rcases finishExchange_cache held with old | wrote
    · exact known.cached slot entry old
    · exact ⟨call, request, starts, asked, wrote⟩
  · rcases finishExchange_rejections held with old | refused
    · exact known.refused key old
    · exact ⟨call, request, starts, asked, refused⟩
  · exact known.pending other call' request' (update_none_iff.mp held).2

end

theorem accounted_step (past : List Event) (system : System) (event : Event)
    (accounted : Accounted lib client upstream past system) : Accounted lib client upstream (past ++ [event])
      ((exchanges lib client upstream).step system event).1 := by
  cases event with
  | start id call now => exact accounted_start accounted
  | finish id now => exact accounted_finish accounted
  | evict slot =>
    exact (accounted.concat _).of_state (fun other entry held => ⟨entry, (update_none_iff.mp held).2, rfl⟩)
      (fun _ held => held) (fun _ _ _ held => .inl held)
  | forget key =>
    refine (accounted.concat _).of_state (fun _ entry held => ⟨entry, held, rfl⟩)
      (fun other held => ?_) (fun _ _ _ held => .inl held)
    by_cases same : other = key
    · simp only [exchanges, same, update_self] at held
      cases held
    · simpa only [exchanges, update_of_ne same] using held

theorem accounted_run (lib : DnsLibrary) (client : Client) (upstream : Upstream) (events : List Event) :
    Accounted lib client upstream events ((exchanges lib client upstream).run {} events) :=
  (exchanges lib client upstream).run_invariant (Accounted lib client upstream) accounted_initial accounted_step events

end Laws

end SingBox.Dns
