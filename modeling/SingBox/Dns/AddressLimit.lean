/-
**Address limits and the caches of the client** (`dns/client.go`, `Exchange`).

A rule with address items gives its calls a `responseChecker`, which is asked about the answer of a transport only. A
cached response and a stored rejection were decided by the checker of the call that wrote them, so they are right for
a later call if that checker does not accept, or reject, more than the one of the later call (`Agrees`).
-/

import SingBox.Dns.Addresses

namespace SingBox.Dns

open SingBox.Lib Option

section AddressLimit

variable {lib : DnsLibrary} {client : Client} {upstream : Upstream}

/-! ### Requests that may be cached -/

section

variable {message : Msg} {clientSubnet : Prefix} (simple : isSimpleDNSRequest message clientSubnet = true)

include simple

/-- **A simple request** has one question, and a subnet option exactly if it is cached under a subnet. -/
theorem subnetOption_of_simple : message.question.length = 1 ∧
      if clientSubnet.isValid then ∃ option, message.extra.findSome? subnetOption? = some option ∧
          clientSubnetFromOption option = some clientSubnet else message.extra.findSome? subnetOption? = none := by
  unfold isSimpleDNSRequest at simple
  split at simple
  · cases simple
  rename_i sizes
  refine ⟨not_not.mp (not_or.mp sizes).1, ?_⟩
  split at simple
  · rename_i none
    rw [if_neg (by simpa using simple), none]
    rfl
  · rename_i record only
    rw [only, List.findSome?_cons, subnetOption?]
    split at simple
    · rename_i options data
      split at simple
      · cases simple
      split at simple
      · rename_i invalid
        rw [if_neg (by simpa using invalid), List.isEmpty_iff.mp (Bool.and_eq_true_iff.mp simple).2]
        rfl
      · rename_i valid
        rw [if_pos (by simpa using valid)]
        split at simple
        · exact ⟨_, rfl, of_decide_eq_true simple⟩
        · cases simple
    · cases simple
  · cases simple

theorem extractClientSubnet_of_simple :
    extractClientSubnet message = if clientSubnet.isValid then some clientSubnet else none := by
  have carried := (subnetOption_of_simple simple).2
  unfold extractClientSubnet
  split_ifs at carried ⊢
  · obtain ⟨option, found, same⟩ := carried
    rw [found, ← same]
  · rw [carried]

end

theorem question_prepareExchangeMessage (message : Msg) (clientSubnet : Prefix) :
    (prepareExchangeMessage message clientSubnet).question = message.question := by
  fun_cases prepareExchangeMessage message clientSubnet with
  | case1 => fun_cases setClientSubnet message clientSubnet <;> rfl
  | case2 => rfl

variable {call : Call} {request : Request} {response : Msg}

theorem simple_of_readable {question : Question} (readable : (client.prepare call question).cacheReadable = true) :
    isSimpleDNSRequest (client.prepare call question).message (client.prepare call question).key.clientSubnet = true :=
  (Bool.and_eq_true_iff.mp (Bool.and_eq_true_iff.mp readable).1).1

theorem request_of_readable (asked : client.request call = some request)
    (readable : request.cacheReadable = true) : request.message.question = [request.key.question] ∧
      extractClientSubnet request.message =
        if request.key.clientSubnet.isValid then some request.key.clientSubnet else none := by
  obtain ⟨question, rest, questions, rfl⟩ := request_eq_prepare asked
  have simple := simple_of_readable readable
  refine ⟨?_, extractClientSubnet_of_simple simple⟩
  have same : (client.prepare call question).message.question = question :: rest :=
    (question_prepareExchangeMessage _ _).trans questions
  have single := (subnetOption_of_simple simple).1
  rw [same] at single ⊢
  rw [List.eq_nil_of_length_eq_zero (Nat.succ.inj single)]
  rfl

theorem readable_of_writable (asked : client.request call = some request)
    (writable : request.cacheWritable = true) : request.cacheReadable = true := by
  obtain ⟨question, -, -, rfl⟩ := request_eq_prepare asked
  exact (Bool.and_eq_true_iff.mp writable).1

/-! ### Transports -/

/-- The response code and the addresses that a transport answers with. -/
def reply (lib : DnsLibrary) : Except TransportError Msg → Option (Int × List Addr)
  | .ok response => some (response.rcode, messageToAddresses lib response)
  | .error (.rcode code) => some (code, [])
  | .error (.failed _) => none

/-- **Deterministic transports**: the reply depends on the questions and the client subnet. -/
def Upstream.Deterministic (lib : DnsLibrary) (upstream : Upstream) : Prop :=
  ∀ transportTag first second, first.question = second.question →
    extractClientSubnet first = extractClientSubnet second →
    reply lib (upstream transportTag first) = reply lib (upstream transportTag second)

/-- The records of the answers have the type of their header. -/
def Upstream.Typed (upstream : Upstream) : Prop :=
  ∀ transportTag message response, upstream transportTag message = .ok response →
    ∀ record ∈ response.answer, record.Typed

theorem answer_eq_ok (answered : answer upstream call request = .ok response) :
    reply lib (upstream call.transport request.message) = some (response.rcode, messageToAddresses lib response) := by
  revert answered
  fun_cases answer upstream call request with
  | case1 original replied => rintro ⟨⟩; rw [replied]; rfl
  | case2 code replied => rintro ⟨⟩; simp [replied, reply, messageToAddresses, fixedResponseStatus]
  | case3 => exact nofun

theorem answer_of_reply {rcode : Int} {addresses : List Addr}
    (replied : reply lib (upstream call.transport request.message) = some (rcode, addresses)) :
    ∃ response, answer upstream call request = .ok response ∧ response.rcode = rcode ∧
      messageToAddresses lib response = addresses := by
  revert replied
  fun_cases answer upstream call request with
  | case1 response is => rw [is]; rintro ⟨⟩; exact ⟨_, rfl, rfl, rfl⟩
  | case2 code is =>
    rw [is]
    rintro ⟨⟩
    refine ⟨_, rfl, rfl, ?_⟩
    simp [messageToAddresses, fixedResponseStatus]
  | case3 error is => rw [is]; rintro ⟨⟩

theorem typed_answer (typed : upstream.Typed) (answered : answer upstream call request = .ok response) :
    ∀ record ∈ response.answer, record.Typed := by
  revert answered
  fun_cases answer upstream call request with
  | case1 original replied => rintro ⟨⟩; exact typed _ _ original replied
  | case2 => rintro ⟨⟩; exact List.forall_mem_nil _
  | case3 => exact nofun

/-! ### The verdict of a checker -/

def Call.accepts (call : Call) (addresses : List Addr) : Bool :=
  match call.responseChecker with
  | none => true
  | some check => check addresses

theorem rejects_eq (call : Call) (settles : settled response.rcode = true) :
    rejects lib call.responseChecker response = !call.accepts (messageToAddresses lib response) := by
  unfold rejects Call.accepts
  cases call.responseChecker with
  | none => rfl
  | some check =>
    dsimp only
    rw [if_neg (by rw [settles]; decide)]
    split
    · rename_i empty
      rw [messageToAddresses, List.isEmpty_iff.mp empty, List.flatMap_nil, ite_self]
    · rfl

theorem settled_of_accepted {check : List Addr → Bool} (checked : call.responseChecker = some check)
    (accepted : rejects lib call.responseChecker response = false) : settled response.rcode = true := by
  by_contra unsettled
  rw [checked, rejects, if_pos (by simpa using unsettled)] at accepted
  exact absurd accepted.symm Bool.false_ne_true

variable {question : Question}

theorem messageToAddresses_stamped (unfiltered : call.filtersHints question = false) (response : Msg) :
    messageToAddresses lib (call.stamped client question response) = messageToAddresses lib response := by
  unfold Call.stamped Call.filtered
  rw [if_neg (by rw [unfiltered]; decide)]
  exact messageToAddresses_mapTTL _ _

theorem typed_stamped (unfiltered : call.filtersHints question = false)
    (typed : ∀ record ∈ response.answer, record.Typed) :
    ∀ record ∈ (call.stamped client question response).answer, record.Typed := by
  unfold Call.stamped Call.filtered
  rw [if_neg (by rw [unfiltered]; decide)]
  intro record member
  obtain ⟨original, inside, rfl⟩ := List.mem_map.mp member
  split
  · exact typed original inside
  · exact ⟨(typed original inside).a, (typed original inside).aaaa⟩

/-! ### Calls that agree -/

/-- **An earlier call agrees with a later one.** If both have the same place in the cache, the earlier
one filters no hints and accepts no more; if both have the same key in the store of rejections, it
asks the same and rejects no more. -/
structure Agrees (client : Client) (earlier call : Call) (request : Request) : Prop where
  cached : ∀ first, client.request earlier = some first →
    client.slot first.key earlier.transport = client.slot request.key call.transport →
    earlier.filtersHints first.question = false ∧
      ∀ addresses, earlier.accepts addresses = true → call.accepts addresses = true
  refused : ∀ first key, client.request earlier = some first →
    client.storedKey (first.key.rdrcKey earlier.transport) = some key →
    client.storedKey (request.key.rdrcKey call.transport) = some key →
    first.key = request.key ∧ ∀ addresses, call.accepts addresses = true → earlier.accepts addresses = true

theorem agrees_self (asked : client.request call = some request)
    (unfiltered : call.filtersHints request.question = false) : Agrees client call call request where
  cached first askedFirst _ := by
    obtain rfl : first = request := some.inj (askedFirst.symm.trans asked)
    exact ⟨unfiltered, fun _ accepts => accepts⟩
  refused first _ askedFirst _ _ := by
    obtain rfl : first = request := some.inj (askedFirst.symm.trans asked)
    exact ⟨rfl, fun _ accepts => accepts⟩

/-- What is rotated may be checked: the records have the type of their header, and the checker does
not look at the order. -/
structure Rotatable (upstream : Upstream) (call : Call) : Prop where
  typed : upstream.Typed
  orderless : ∀ first second : List Addr, first.Perm second → call.accepts first = call.accepts second

theorem transportName_storedKey {key stored : RdrcKey} (saved : client.storedKey key = some stored) :
    stored.transportName = key.transportName := by
  revert saved
  fun_cases Client.storedKey client key with
  | case1 | case3 => exact nofun
  | case2 | case4 => rintro ⟨⟩; rfl

theorem accepts_serveEntry {earlier : Call} {first : Request} {entry : CacheEntry} {now : Nat}
    (rotation : client.roundRobinCache = true → Rotatable upstream call)
    (asked : client.request earlier = some first) (agrees : Agrees client earlier call request)
    (wrote : Wrote lib client upstream earlier first (client.slot request.key call.transport) entry.value.msg) :
    call.accepts (messageToAddresses lib (serveEntry lib client entry now).1) = true := by
  obtain ⟨unfiltered, accepts⟩ := agrees.cached first asked wrote.slot_eq.symm
  obtain ⟨response, answered, settles, accepted, stored⟩ := wrote.answered
  rw [rejects_eq earlier settles] at accepted
  have stands : call.accepts (messageToAddresses lib entry.value.msg) = true := by
    rw [stored, messageToAddresses_stamped unfiltered]
    exact accepts _ (by simpa using accepted)
  rw [messageToAddresses_serveEntry]
  by_cases rotates : client.roundRobinCache = true
  · obtain ⟨typed, orderless⟩ := rotation rotates
    have typedEntry : ∀ record ∈ entry.value.msg.answer, record.Typed := by
      rw [stored]
      exact typed_stamped unfiltered (typed_answer typed answered)
    rw [orderless _ _ (perm_messageToAddresses typedEntry)]
    exact stands
  · rw [getRoundRobin, if_neg rotates]
    exact stands

theorem rejects_of_loadRDRC {earlier : Call} {first : Request} {key : RdrcKey}
    (deterministic : upstream.Deterministic lib) (asked : client.request call = some request)
    (readable : request.cacheReadable = true) (askedFirst : client.request earlier = some first)
    (agrees : Agrees client earlier call request) (refused : Refused lib client upstream earlier first key)
    (saved : client.storedKey (request.key.rdrcKey call.transport) = some key) :
    ∃ response, answer upstream call request = .ok response ∧
      call.accepts (messageToAddresses lib response) = false := by
  obtain ⟨sameKey, accepts⟩ := agrees.refused first key askedFirst refused.key_eq saved
  obtain ⟨response, answered, settles, rejected⟩ := refused.answered
  have sameTransport : earlier.transport = call.transport :=
    (transportName_storedKey refused.key_eq).symm.trans (transportName_storedKey saved)
  obtain ⟨questions, subnet⟩ := request_of_readable asked readable
  obtain ⟨questionsFirst, subnetFirst⟩ :=
    request_of_readable askedFirst (readable_of_writable askedFirst refused.writable)
  rw [sameKey] at questionsFirst subnetFirst
  have replied := deterministic call.transport first.message request.message
    (questionsFirst.trans questions.symm) (subnetFirst.trans subnet.symm)
  rw [← sameTransport, answer_eq_ok answered, sameTransport] at replied
  obtain ⟨now, answeredNow, -, sameAddresses⟩ := answer_of_reply replied.symm
  refine ⟨now, answeredNow, ?_⟩
  rw [sameAddresses]
  rw [rejects_eq earlier settles] at rejected
  by_contra accepted
  rw [accepts _ (by simpa using accepted)] at rejected
  cases rejected

/-! ### The address limit -/

theorem returned_cases {system : System} {event : Event} {outcome : Outcome}
    (returned : ((exchanges lib client upstream).step system event).2 = some (call, outcome)) :
    (∃ now after, startExchange lib client call now system.state = (.done outcome, after)) ∨
      ∃ id request now, system.pending id = some (call, request) ∧
        outcome = (finishExchange lib client upstream call request now system.state).1 := by
  cases event with
  | start id started now =>
    simp only [exchanges] at returned
    split at returned
    · cases returned
    split at returned
    · rename_i result state begun
      obtain ⟨rfl, rfl⟩ := Prod.mk.inj (some.inj returned)
      exact .inl ⟨now, state, begun⟩
    · cases returned
  | finish id now =>
    simp only [exchanges] at returned
    split at returned
    · cases returned
    · rename_i pendingCall request waits
      obtain ⟨rfl, rfl⟩ := Prod.mk.inj (some.inj returned)
      exact .inr ⟨id, request, now, waits, rfl⟩
  | evict slot | forget key => simp only [exchanges, reduceCtorEq] at returned

structure LimitKept (lib : DnsLibrary) (upstream : Upstream) (call : Call) (request : Request)
    (outcome : Outcome) : Prop where
  accepted : ∀ response, outcome.response = some response → outcome.err = none →
    call.accepts (messageToAddresses lib response) = true
  rejected : outcome.err = some .responseRejected ∨ outcome.err = some .responseRejectedCached →
    ∃ response, answer upstream call request = .ok response ∧
      (call.accepts (messageToAddresses lib response) = false ∨ settled response.rcode = false)

theorem limitKept_of_other {outcome : Outcome} (none : outcome.response = none)
    (rejected : outcome.err ≠ some .responseRejected)
    (rejectedCached : outcome.err ≠ some .responseRejectedCached) :
    LimitKept lib upstream call request outcome where
  accepted response held := by
    rw [none] at held
    exact nomatch held
  rejected failed := by
    rcases failed with failed | failed
    · exact absurd failed rejected
    · exact absurd failed rejectedCached

theorem limitKept_of_response {stale : Bool}
    (accepts : call.accepts (messageToAddresses lib response) = true) :
    LimitKept lib upstream call request { response := some response, stale := stale } where
  accepted other held _ := by
    rw [← some.inj held]
    exact accepts
  rejected failed := by
    rcases failed with failed | failed <;> exact nomatch failed

theorem limitKept_finish {now : Nat} {state : ClientState} {check : List Addr → Bool}
    (checked : call.responseChecker = some check) (unfiltered : call.filtersHints request.question = false) :
    LimitKept lib upstream call request (finishExchange lib client upstream call request now state).1 := by
  unfold finishExchange
  split
  · exact limitKept_of_other rfl nofun nofun
  rename_i response answered
  unfold settle
  split
  · rename_i rejected
    refine ⟨fun other held none => (nomatch none), fun _ => ⟨response, answered, ?_⟩⟩
    by_cases settles : settled response.rcode = true
    · rw [rejects_eq call settles] at rejected
      exact .inl (by simpa using rejected)
    · exact .inr (Bool.eq_false_iff.mpr settles)
  · rename_i accepted
    refine limitKept_of_response ?_
    have same : messageToAddresses lib { call.stamped client request.question response with
        id := request.message.id } = messageToAddresses lib response :=
      (messageToAddresses_congr rfl rfl).trans (messageToAddresses_stamped unfiltered response)
    rw [messageToAddresses_fixEDNS, same]
    have accepts := Bool.eq_false_iff.mpr accepted
    rw [rejects_eq call (settled_of_accepted checked accepts)] at accepts
    simpa using accepts

/-- **The caches keep an address limit**: in every run, a call that filters no hints and with which the earlier calls
agree returns a response only if its checker accepts the addresses, and a rejection only if it rejects the transport's
answer. -/
theorem addressLimit_kept (deterministic : upstream.Deterministic lib) (before : List Event)
    (event : Event) (call : Call) (outcome : Outcome) (check : List Addr → Bool) (request : Request)
    (returned : ((exchanges lib client upstream).step
      ((exchanges lib client upstream).run {} before) event).2 = some (call, outcome))
    (checked : call.responseChecker = some check) (asked : client.request call = some request)
    (unfiltered : call.filtersHints request.question = false)
    (rotation : client.roundRobinCache = true → Rotatable upstream call)
    (agree : ∀ earlier, Starts before earlier → Agrees client earlier call request) :
    LimitKept lib upstream call request outcome := by
  have accounted := accounted_run lib client upstream before
  rcases returned_cases returned with ⟨now, after, ended⟩ | ⟨id, own, now, waits, rfl⟩
  · rcases startExchange_done asked ended with rfl | cached | rfl | ⟨rfl, readable, stored⟩
    · exact limitKept_of_other rfl nofun nofun
    · -- from the cache
      obtain ⟨-, entry, held, rfl⟩ := loadCached_eq_some cached
      obtain ⟨earlier, first, starts, askedFirst, wrote⟩ := accounted.cached _ _ held
      refine limitKept_of_response ?_
      exact accepts_serveEntry rotation askedFirst (agree earlier starts) wrote
    · exact limitKept_of_other rfl nofun nofun
    · -- from the store of rejections
      refine ⟨fun other held => (nomatch held), fun _ => ?_⟩
      unfold loadRDRC at stored
      split at stored
      · cases stored
      rename_i key saved
      obtain ⟨earlier, first, starts, askedFirst, refused⟩ := accounted.refused _ stored
      obtain ⟨response, answered, rejected⟩ := rejects_of_loadRDRC deterministic asked readable
        askedFirst (agree earlier starts) refused saved
      exact ⟨response, answered, .inl rejected⟩
  · obtain ⟨-, askedOwn⟩ := accounted.pending _ _ _ waits
    obtain rfl : own = request := some.inj (askedOwn.symm.trans asked)
    exact limitKept_finish checked unfiltered

theorem returned_start {system : System} {id : Nat} {now : Nat} {outcome : Outcome}
    (ended : ((exchanges lib client upstream).step system (.start id call now)).2.map Prod.snd = some outcome) :
    ((exchanges lib client upstream).step system (.start id call now)).2 = some (call, outcome) := by
  obtain ⟨⟨other, result⟩, returned, same⟩ := map_eq_some_iff.mp ended
  have sameCall : other = call := by
    simp only [exchanges] at returned
    split at returned
    · cases returned
    · split at returned
      · exact (Prod.mk.inj (some.inj returned)).1.symm
      · cases returned
  rw [returned, sameCall, ← same]

end AddressLimit

/-- A query for one name, under a rule that wants the address `10.0.0.1`. -/
def sampleCall : Call where
  transport := [100]
  message := { id := 7, recursionDesired := true, question := [sampleQuestion] }
  responseChecker := some fun addresses => addresses.contains (.v4 0x0A000001)

def sampleUpstream : Upstream := fun _ _ => .ok sampleResponse

/-- The second of two such queries is answered from the cache, within the limit. -/
theorem addressLimit_sample : ∃ outcome : Outcome,
    ((exchanges plainLibrary {} sampleUpstream).step
      ((exchanges plainLibrary {} sampleUpstream).run {}
        [.start 0 sampleCall 0, .finish 0 0]) (.start 1 sampleCall 1)).2 =
        some (sampleCall, outcome) ∧
      outcome.response = some { (sampleResponse.mapTTL fun _ => 59) with id := 7 } ∧
      LimitKept plainLibrary sampleUpstream sampleCall (Client.prepare {} sampleCall sampleQuestion) outcome := by
  have asked : Client.request {} sampleCall = some (Client.prepare {} sampleCall sampleQuestion) :=
    rfl
  have unfiltered : sampleCall.filtersHints sampleQuestion = false := by decide
  have ended : ((exchanges plainLibrary {} sampleUpstream).step
      ((exchanges plainLibrary {} sampleUpstream).run {}
        [.start 0 sampleCall 0, .finish 0 0]) (.start 1 sampleCall 1)).2.map Prod.snd =
      some { response := some { (sampleResponse.mapTTL fun _ => 59) with id := 7 } } := by
    decide +kernel
  refine ⟨_, returned_start ended, rfl, ?_⟩
  refine addressLimit_kept (fun _ _ _ _ _ => rfl) _ _ _ _ _ _ (returned_start ended) rfl asked
    unfiltered (fun rotates => nomatch rotates) fun earlier starts => ?_
  obtain ⟨id, now, member⟩ := starts
  have same : earlier = sampleCall := by
    rcases List.mem_cons.mp member with start | finish
    · exact (Event.start.inj start).2.1
    · exact nomatch List.mem_singleton.mp finish
  rw [same]
  exact agrees_self asked unfiltered

/-- The same query under `ipv6_only`, and a rule that accepts nothing. -/
def excludedCall : Call :=
  { sampleCall with
    options := { strategy := .ipv6Only }
    responseChecker := some fun _ => false }

/-- It returns an empty response, although the rule does not accept one. -/
theorem addressLimit_excluded : ∃ outcome response,
    ((exchanges plainLibrary {} sampleUpstream).step {} (.start 0 excludedCall 0)).2 =
      some (excludedCall, outcome) ∧ outcome.response = some response ∧ outcome.err = none ∧
    excludedCall.accepts (messageToAddresses plainLibrary response) = false := by
  have ended : ((exchanges plainLibrary {} sampleUpstream).step {}
      (.start 0 excludedCall 0)).2.map Prod.snd =
      some { response := some (fixedResponseStatus excludedCall.message rcodeSuccess) } := by
    decide +kernel
  exact ⟨_, _, returned_start ended, rfl, rfl, rfl⟩

end SingBox.Dns
