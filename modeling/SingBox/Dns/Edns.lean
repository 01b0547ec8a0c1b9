/-
**The OPT record of a response** (`dns/client.go`: `Exchange`, `loadResponse`).

An answer goes to the cache before its OPT record is fitted to the request. A fresh answer loses the record if the
request has none, and gets a new one if the request has an older version. An answer from the cache keeps the record. A
stale answer gets five seconds as the TTL of all records, so that the flags of the OPT record are lost, and gets an
OPT record if there is none. `Came` says which way a response came, `Consistent` what a request is due.
-/

import SingBox.Dns.AddressLimit
import SingBox.Dns.Calls

namespace SingBox.Dns

open SingBox.Lib List

/-! ### OPT records -/

/-- The TTL field of the last OPT record: the extended response code, the version and the flags. -/
def Msg.optTTL (message : Msg) : Option UInt32 :=
  ((message.extra.map RR.header).reverse.find? fun header => header.rrtype == typeOPT).map Header.ttl

def ednsVersion (ttl : UInt32) : UInt8 := ((ttl >>> 16) &&& 0xFF).toUInt8

/-- **What the library does with OPT records**: it takes the last one, it reads the version in the TTL field, and a new
record is of version zero. -/
structure DnsLibrary.Edns (lib : DnsLibrary) : Prop where
  finds : ∀ message : Msg, lib.isEdns0 message =
    (message.extra.reverse.findIdx? RR.isOPT).map fun i => message.extra.length - 1 - i
  version : ∀ record, lib.optVersion record = ednsVersion record.header.ttl
  made : ∀ size dnssec, (lib.edns0Record size dnssec).header.rrtype = typeOPT ∧
    ednsVersion (lib.edns0Record size dnssec).header.ttl = 0

theorem edns_plainLibrary : plainLibrary.Edns where
  finds _ := rfl
  version _ := rfl
  made _ dnssec := by
    refine ⟨rfl, ?_⟩
    cases dnssec
    · show ednsVersion 0 = 0
      decide
    · show ednsVersion 0x8000 = 0
      decide

section Records

variable {lib : DnsLibrary}

theorem optTTL_map {first second : Msg} {f : RR → RR} (mapped : second.extra = first.extra.map f)
    (kept : ∀ record : RR, (f record).isOPT = record.isOPT ∧
      (record.isOPT = true → (f record).header.ttl = record.header.ttl)) : second.optTTL = first.optTTL := by
  unfold Msg.optTTL
  rw [mapped]
  generalize first.extra = extra
  induction extra using reverseRecOn with
  | nil => rfl
  | append_singleton extra record ih =>
    obtain ⟨kind, ttl⟩ := kept record
    simp only [map_append, map_cons, map_nil, reverse_append, reverse_cons, reverse_nil,
      nil_append, cons_append, find?_cons]
    unfold RR.isOPT at kind ttl
    rw [kind]
    cases opt : record.header.rrtype == typeOPT with
    | true => simp only [Option.map_some, ttl opt]
    | false => exact ih

theorem optTTL_append {message : Msg} {records : List RR} {record : RR} (last : message.extra = records ++ [record])
    (opt : record.header.rrtype = typeOPT) : message.optTTL = some record.header.ttl := by
  unfold Msg.optTTL
  simp [last, opt]

theorem optTTL_eq_none {message : Msg} : message.optTTL = none ↔ ∀ record ∈ message.extra, record.isOPT = false := by
  unfold Msg.optTTL RR.isOPT
  simp

theorem DnsLibrary.Edns.optRecord (edns : lib.Edns) (message : Msg) :
    (optRecord lib message).map (fun record => record.header.ttl) = message.optTTL := by
  have found : Dns.optRecord lib message = message.extra.reverse.find? RR.isOPT := by
    rw [Dns.optRecord, edns.finds, find?_eq_bind_findIdx?_getElem?, Option.bind_map]
    refine Option.bind_congr fun i searched => ?_
    obtain ⟨inside, -⟩ := findIdx?_eq_some_iff_getElem.mp searched
    exact (getElem?_reverse (by simpa using inside)).symm
  rw [found]
  unfold Msg.optTTL
  rw [← map_reverse, find?_map, Option.map_map]
  rfl

theorem DnsLibrary.Edns.isEdns0_eq_none (edns : lib.Edns) (message : Msg) :
    lib.isEdns0 message = none ↔ message.optTTL = none := by
  rw [edns.finds, Option.map_eq_none_iff, findIdx?_eq_none_iff, optTTL_eq_none]
  simp only [mem_reverse]

/-! ### What the client does to them -/

theorem optTTL_mapTTL (f : UInt32 → UInt32) (message : Msg) : (message.mapTTL f).optTTL = message.optTTL := by
  refine optTTL_map rfl fun record => ?_
  split
  · exact ⟨rfl, fun _ => rfl⟩
  · rename_i counted
    exact ⟨rfl, fun opt => absurd opt counted⟩

theorem optTTL_stamped (client : Client) (call : Call) (question : Question) (message : Msg) :
    (call.stamped client question message).optTTL = message.optTTL := by
  unfold Call.stamped
  rw [optTTL_mapTTL]
  unfold Call.filtered
  split <;> rfl

theorem optTTL_getRoundRobin (client : Client) (stored : DnsMsg) :
    (getRoundRobin client stored).1.optTTL = stored.msg.optTTL := by
  unfold getRoundRobin
  split <;> rfl

theorem optTTL_countDown (message : Msg) (left : Nat) : (countDown message left).optTTL = message.optTTL := by
  unfold countDown
  split <;> exact optTTL_mapTTL _ _

theorem optTTL_setTTL (message : Msg) (ttl : UInt32) :
    (message.mapRecords fun record => record.setTTL ttl).optTTL = message.optTTL.map fun _ => ttl := by
  unfold Msg.optTTL Msg.mapRecords
  rw [map_map, ← map_reverse, ← map_reverse, find?_map, find?_map, Option.map_map, Option.map_map, Option.map_map]
  rfl

theorem map_header_modify {records : List RR} {i : Nat} {f : RR → RR} (kept : ∀ record, (f record).header = record.header) :
    (records.modify i f).map RR.header = records.map RR.header := by
  apply ext_getElem?
  intro place
  rw [getElem?_map, getElem?_map, getElem?_modify]
  cases records[place]? with
  | none => rfl
  | some record =>
    show some (RR.header (if _ then _ else record)) = some record.header
    split
    · rw [kept]
    · rfl

theorem optTTL_markStale (edns : lib.Edns) (message : Msg) :
    (markStale lib message).optTTL = some (message.optTTL.getD 0) := by
  unfold markStale
  cases found : lib.isEdns0 message with
  | none =>
    rw [(edns.isEdns0_eq_none message).mp found]
    exact optTTL_append (show _ = message.extra ++ [newOPT 4096 [.ede 3]] from rfl) rfl
  | some i =>
    have present : message.optTTL ≠ none := by
      rw [Ne, ← edns.isEdns0_eq_none, found]
      exact Option.some_ne_none i
    obtain ⟨ttl, there⟩ := Option.ne_none_iff_exists'.mp present
    dsimp only
    rw [Msg.optTTL, map_header_modify fun record => by split <;> rfl, ← Msg.optTTL, there]
    rfl

theorem optTTL_staleResponse (edns : lib.Edns) (message : Msg) :
    (staleResponse lib message).optTTL = some (if message.optTTL = none then 0 else 5) := by
  unfold staleResponse
  rw [optTTL_markStale edns, optTTL_setTTL]
  cases message.optTTL with
  | none | some ttl => rfl

/-- **The OPT record of a fresh answer**: there is none, or it is removed, kept or replaced. -/
inductive Fitted (request response fitted : Option UInt32) : Prop
  | none (absent : response = .none) (still : fitted = .none)
  | removed {sent : UInt32} (present : response = some sent) (unasked : request = .none) (gone : fitted = .none)
  | kept {sent asked : UInt32} (present : response = some sent) (asks : request = some asked)
      (known : ednsVersion sent ≤ ednsVersion asked) (same : fitted = some sent)
  | replaced {sent asked new : UInt32} (present : response = some sent) (asks : request = some asked)
      (unknown : ednsVersion asked < ednsVersion sent) (made : fitted = some new) (zero : ednsVersion new = 0)

theorem fixEDNS_fits (edns : lib.Edns) (request response : Msg) :
    Fitted request.optTTL response.optTTL (fixEDNS lib request response).optTTL := by
  have responses := edns.optRecord response
  have requests := edns.optRecord request
  unfold fixEDNS
  cases responded : optRecord lib response with
  | none =>
    rw [responded] at responses
    exact .none responses.symm responses.symm
  | some responseOpt =>
    rw [responded] at responses
    cases requested : optRecord lib request with
    | none =>
      rw [requested] at requests
      refine .removed responses.symm requests.symm (optTTL_eq_none.mpr fun record member => ?_)
      simpa using (mem_filter.mp member).2
    | some requestOpt =>
      rw [requested] at requests
      dsimp only
      rw [edns.version, edns.version]
      split_ifs with older
      · obtain ⟨kind, zero⟩ := edns.made (lib.optUDPSize responseOpt) (lib.optDo responseOpt)
        exact .replaced responses.symm requests.symm older (optTTL_append rfl kind) zero
      · exact .kept responses.symm requests.symm (UInt8.not_lt.mp older) responses.symm

variable {request response fitted : Option UInt32}

theorem Fitted.same_iff (fits : Fitted request response fitted) : fitted = response ↔
      ∀ sent, response = some sent → ∃ asked, request = some asked ∧ ednsVersion sent ≤ ednsVersion asked := by
  cases fits with
  | none absent still => simp [absent, still]
  | removed present unasked gone => simp [present, unasked, gone]
  | kept present asks known same => simp [present, asks, same, known]
  | replaced present asks unknown made zero =>
    simp only [present, asks, made, Option.some.injEq, forall_eq', exists_eq_left']
    refine iff_of_false (fun same => ?_) (UInt8.not_le.mpr unknown)
    rw [← same, zero] at unknown
    exact UInt8.not_lt_zero unknown

theorem Fitted.none_iff (fits : Fitted request response fitted) :
    fitted = Option.none ↔ response = Option.none ∨ request = Option.none := by
  cases fits with
  | none absent still => exact iff_of_true still (.inl absent)
  | removed present unasked gone => exact iff_of_true gone (.inr unasked)
  | kept present asks known same => simp [same, present, asks]
  | replaced present asks unknown made zero => simp [made, present, asks]

end Records

/-! ### The ways of a response -/

def sentBy (request : Msg) : Except TransportError Msg → Option Msg
  | .ok message => some message
  | .error (.rcode code) => some (fixedResponseStatus request code)
  | .error (.failed _) => none

theorem answer_sent {reply : Except TransportError Msg} {call : Call} {request : Request} {response : Msg}
    (answered : answer (fun _ _ => reply) call request = .ok response) :
    ∃ sent, sentBy request.message reply = some sent ∧ response.optTTL = sent.optTTL := by
  rcases reply with (code | text) | message
  · cases answered
    exact ⟨_, rfl, rfl⟩
  · cases answered
  · cases answered
    refine ⟨message, rfl, optTTL_map rfl fun record => ?_⟩
    split <;> exact ⟨rfl, fun _ => rfl⟩

/-- The ways of a response: before the cache is looked at, from the transport, from the cache, and from the cache after
its time. -/
inductive Path where
  | guarded
  | fresh
  | cached
  | stale
  deriving DecidableEq

/-- Which way a response came, and what the transport had sent for it. -/
inductive Came (lib : DnsLibrary) (client : Client) (past : List CallEvent) (system : Calls) :
    CallEvent → Call → Outcome → Path → Msg → Prop
  | guarded {event : CallEvent} {call : Call} {rcode : Int} (guarded : client.request call = none) :
      Came lib client past system event call { response := some (fixedResponseStatus call.message rcode) } .guarded
        (fixedResponseStatus call.message rcode)
  | fresh {id now : Nat} {reply : Except TransportError Msg} {call : Call} {request : Request} {sent : Msg}
      (asked : client.request call = some request) (replied : sentBy request.message reply = some sent) :
      Came lib client past system (.reply id reply now) call
        (finishExchange lib client (fun _ _ => reply) call request now system.state).1 .fresh sent
  | stored {event : CallEvent} {call writer : Call} {request written : Request} {entry : CacheEntry} {now : Nat}
      {reply : Except TransportError Msg} {sent : Msg} (asked : client.request call = some request)
      (held : system.state.cache (client.slot request.key call.transport) = some entry)
      (begins : Begins past writer) (answers : Answers past reply) (wrote : client.request writer = some written)
      (entered : Wrote lib client (fun _ _ => reply) writer written (client.slot request.key call.transport)
        entry.value.msg)
      (replied : sentBy written.message reply = some sent) :
      Came lib client past system event call
        { response := some { (serveEntry lib client entry now).1 with id := request.message.id }
          stale := (serveEntry lib client entry now).2.2 }
        (if (serveEntry lib client entry now).2.2 then .stale else .cached) sent

/-- **What a request is due**: no OPT record if it has none, and else the flags that the transport sent. -/
def Consistent (request sent response : Msg) : Prop :=
  if request.optTTL = none then response.optTTL = none else response.optTTL = sent.optTTL

def Client.sends (client : Client) (call : Call) : Msg :=
  prepareExchangeMessage call.message (client.effectiveClientSubnet call.options)

def EdnsOk (client : Client) (call : Call) (sent : Msg) : Path → Prop
  | .guarded => True
  | .fresh =>
    if call.message.optTTL = none then sent.optTTL = none ∨ (client.sends call).optTTL = none
    else ∀ ttl, sent.optTTL = some ttl →
      ∃ asked, (client.sends call).optTTL = some asked ∧ ednsVersion ttl ≤ ednsVersion asked
  | .cached => call.message.optTTL = none → sent.optTTL = none
  | .stale => call.message.optTTL ≠ none ∧ sent.optTTL = some 5

section Ways

variable {lib : DnsLibrary} {client : Client} {call : Call} {sent response : Msg}

theorem consistent_cached (same : response.optTTL = sent.optTTL) :
    Consistent call.message sent response ↔ EdnsOk client call sent .cached := by
  unfold Consistent EdnsOk
  rw [same]
  split_ifs with plain
  · exact ⟨fun absent _ => absent, fun absent => absent plain⟩
  · exact iff_of_true rfl fun impossible => absurd impossible plain

theorem consistent_stale (marked : response.optTTL = some (if sent.optTTL = none then 0 else 5)) :
    Consistent call.message sent response ↔ EdnsOk client call sent .stale := by
  unfold Consistent EdnsOk
  rw [marked]
  by_cases plain : call.message.optTTL = none
  · rw [if_pos plain]
    exact iff_of_false (Option.some_ne_none _) fun both => both.1 plain
  rw [if_neg plain]
  by_cases absent : sent.optTTL = none
  · rw [absent]
    exact iff_of_false (Option.some_ne_none _) fun both => Option.some_ne_none 5 both.2.symm
  · rw [if_neg absent]
    exact ⟨fun same => ⟨plain, same.symm⟩, fun both => both.2.symm⟩

theorem optTTL_serveEntry {entry : CacheEntry} {now : Nat} (fresh : (serveEntry lib client entry now).2.2 = false) :
    (serveEntry lib client entry now).1.optTTL = entry.value.msg.optTTL := by
  revert fresh
  fun_cases serveEntry lib client entry now with
  | case1 => exact fun _ => optTTL_getRoundRobin client entry.value
  | case2 => rintro ⟨⟩
  | case3 => exact fun _ => (optTTL_countDown _ _).trans (optTTL_getRoundRobin client entry.value)

theorem optTTL_serveEntry_stale (edns : lib.Edns) {entry : CacheEntry} {now : Nat}
    (late : (serveEntry lib client entry now).2.2 = true) :
    (serveEntry lib client entry now).1.optTTL = some (if entry.value.msg.optTTL = none then 0 else 5) := by
  revert late
  fun_cases serveEntry lib client entry now with
  | case1 | case3 => rintro ⟨⟩
  | case2 => exact fun _ => (optTTL_staleResponse edns _).trans (by rw [optTTL_getRoundRobin client entry.value])

end Ways

/-! ### After every run -/

section Runs

variable {lib : DnsLibrary} {client : Client} {past : List CallEvent} {system : Calls} {event : CallEvent} {call : Call}
  {outcome : Outcome} {response : Msg}

theorem Sound.first_came (sound : Sound lib client past system) (edns : lib.Edns) {now : Nat} {after : ClientState}
    (ended : startExchange lib client call now system.state = (.done outcome, after))
    (returned : outcome.response = some response) :
    ∃ path sent, Came lib client past system event call outcome path sent ∧
      (Consistent call.message sent response ↔ EdnsOk client call sent path) := by
  cases asked : client.request call with
  | none =>
    unfold startExchange at ended
    rw [asked] at ended
    cases ended
    cases returned
    exact ⟨.guarded, _, .guarded asked, iff_of_true (by unfold Consistent; split <;> rfl) trivial⟩
  | some request =>
    rcases startExchange_done asked ended with rfl | loaded | rfl | ⟨rfl, -⟩
    · cases returned
    · obtain ⟨-, entry, held, rfl⟩ := loadCached_eq_some loaded
      cases returned
      obtain ⟨writer, written, reply, begins, answers, wrote, entered⟩ := sound.cached _ entry held
      obtain ⟨stripped, answered, -, -, stamped⟩ := entered.answered
      obtain ⟨sent, replied, same⟩ := answer_sent answered
      have stored : entry.value.msg.optTTL = sent.optTTL := by
        rw [stamped, optTTL_stamped, same]
      refine ⟨_, sent, .stored asked held begins answers wrote entered replied, ?_⟩
      split_ifs with late
      · refine consistent_stale ?_
        rw [← stored]
        exact optTTL_serveEntry_stale edns late
      · refine consistent_cached ?_
        rw [← stored]
        exact optTTL_serveEntry (Bool.eq_false_iff.mpr late)
    · cases returned
    · cases returned

theorem finishExchange_came (edns : lib.Edns) {id now : Nat} {reply : Except TransportError Msg} {request : Request}
    (asked : client.request call = some request)
    (accepted : (finishExchange lib client (fun _ _ => reply) call request now system.state).1.err = none)
    (returned : (finishExchange lib client (fun _ _ => reply) call request now system.state).1.response = some response) :
    ∃ path sent, Came lib client past system (.reply id reply now) call
        (finishExchange lib client (fun _ _ => reply) call request now system.state).1 path sent ∧
      (Consistent call.message sent response ↔ EdnsOk client call sent path) := by
  have answers : ∃ stripped, answer (fun _ _ => reply) call request = .ok stripped ∧
      response = fixEDNS lib request.message
        { call.stamped client request.question stripped with id := request.message.id } := by
    revert accepted returned
    fun_cases finishExchange lib client (fun _ _ => reply) call request now system.state with
    | case1 => rintro - ⟨⟩
    | case2 _ stripped answered =>
      fun_cases settle with
      | case1 => rintro ⟨⟩
      | case2 =>
        rintro - ⟨⟩
        exact ⟨stripped, answered, rfl⟩
  obtain ⟨stripped, answered, rfl⟩ := answers
  obtain ⟨sent, replied, same⟩ := answer_sent answered
  have prepared : request.message = client.sends call := by
    obtain ⟨-, -, -, rfl⟩ := request_eq_prepare asked
    rfl
  have fits := fixEDNS_fits edns request.message
    { call.stamped client request.question stripped with id := request.message.id }
  have stamped : { call.stamped client request.question stripped with id := request.message.id }.optTTL = sent.optTTL :=
    (optTTL_stamped client call request.question stripped).trans same
  rw [stamped, prepared] at fits
  rw [prepared]
  refine ⟨.fresh, sent, .fresh asked replied, ?_⟩
  unfold Consistent EdnsOk
  split_ifs
  · exact fits.none_iff
  · exact fits.same_iff

end Runs

/-- **OPT records after every run**: every response came in one of the ways, and is what its request is due exactly if
the condition of that way holds. -/
theorem edns_consistent_iff {lib : DnsLibrary} (edns : lib.Edns) (client : Client) (events : List CallEvent)
    (event : CallEvent) (call : Call) (outcome : Outcome) (response : Msg)
    (out : ((calls lib client).step ((calls lib client).run {} events) event).2 = some (.exchanged call outcome))
    (accepted : outcome.err = none) (returned : outcome.response = some response) :
    ∃ path sent, Came lib client events ((calls lib client).run {} events) event call outcome path sent ∧
      (Consistent call.message sent response ↔ EdnsOk client call sent path) := by
  have sound : Sound lib client events ((calls lib client).run {} events) := calls_sound events
  generalize returns : Returned.exchanged call outcome = whole at out
  cases sound.returns out with
  | first now ended =>
    cases returns
    exact sound.first_came edns ended returned
  | second request asked =>
    cases returns
    exact finishExchange_came edns asked accepted returned
  | gaveUp =>
    cases returns
    cases returned
  | looked now loaded => cases returns

/-- A query without an OPT record, and an answer with one that has the DO bit. -/
def plainCall : Call := { sampleCall with responseChecker := none }

def ednsResponse : Msg := { sampleResponse with extra := [⟨⟨[46], typeOPT, 1232, 0x8000⟩, .opt []⟩] }

/-- The fresh answer to such a query has lost its OPT record. -/
theorem edns_removed : ∃ path sent,
    Came plainLibrary {} [.begin plainCall none 0] ((calls plainLibrary {}).run {} [.begin plainCall none 0])
      (.reply 0 (.ok ednsResponse) 0) plainCall { response := some { sampleResponse with id := 7 } } path sent ∧
    (Consistent plainCall.message sent { sampleResponse with id := 7 } ↔ EdnsOk {} plainCall sent path) := by
  refine edns_consistent_iff edns_plainLibrary {} [.begin plainCall none 0] (.reply 0 (.ok ednsResponse) 0) plainCall
    { response := some { sampleResponse with id := 7 } } _ ?_ rfl rfl
  have same : (((calls plainLibrary {}).run {} [.begin plainCall none 0]).finish plainLibrary {} 0
      ⟨plainCall, Client.prepare {} plainCall sampleQuestion, [], true, none⟩ (.ok ednsResponse) 0).2 =
      some (.exchanged plainCall { response := some { sampleResponse with id := 7 } }) := by
    refine congrArg (fun outcome => some (Returned.exchanged plainCall outcome)) ?_
    decide +kernel
  exact same

/-- **The answer from the cache keeps its OPT record**: the second of two equal queries without one gets it. An hour
later the flags are gone, for a query that has such a record. -/
theorem not_consistent_cached :
    (plainCall.message.optTTL = none ∧
      ((((calls plainLibrary {}).step
        ((calls plainLibrary {}).run {} [.begin plainCall none 0, .reply 0 (.ok ednsResponse) 0])
        (.begin plainCall none 1)).2.bind Returned.outcome).bind Outcome.response).map Msg.optTTL = some (some 0x8000)) ∧
    ((((calls plainLibrary { useLazyCache := true, lazyCacheTTL := 7200 }).step
        ((calls plainLibrary { useLazyCache := true, lazyCacheTTL := 7200 }).run {}
          [.begin plainCall none 0, .reply 0 (.ok ednsResponse) 0])
        (.begin { plainCall with message.extra := [newOPT 1232 []] } none (3600 * second))).2.bind
          Returned.outcome).bind Outcome.response).map Msg.optTTL = some (some 5) := by
  decide +kernel

end SingBox.Dns
