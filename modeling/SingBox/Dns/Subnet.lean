/-
**Client subnets and the cache** (`dns/client.go`: `Exchange`, `lookupToExchange`, `questionCache`;
`dns/extension_edns0_subnet.go`).

The subnet that an answer is for comes from the rule, from the client, or from the message itself, in this order
(`SubnetOf`). A message whose own subnet option cannot be read has none of them: the key of its request has no subnet,
although the option is sent. `isSimpleDNSRequest` keeps such requests away from the cache.
-/

import SingBox.Dns.AddressLimit
import SingBox.Dns.Calls

namespace SingBox.Dns

open SingBox.Lib

def Msg.subnetOption (message : Msg) : Option EDNS0Subnet := message.extra.findSome? subnetOption?

/-- The subnet of a rule or of the client comes before that of the message. -/
def Client.configures (client : Client) (call : Call) : Prop :=
  call.options.clientSubnet.isValid = true ∨ client.clientSubnet.isValid = true

/-- Where the subnet of an answer comes from. -/
inductive SubnetOf (client : Client) (call : Call) : Option Prefix → Prop
  | rule (valid : call.options.clientSubnet.isValid = true) :
      SubnetOf client call (some call.options.clientSubnet.masked)
  | client (unset : call.options.clientSubnet.isValid = false) (valid : client.clientSubnet.isValid = true) :
      SubnetOf client call (some client.clientSubnet.masked)
  | forwarded {option : EDNS0Subnet} {subnet : Prefix} (unset : ¬ client.configures call)
      (carried : call.message.subnetOption = some option) (read : clientSubnetFromOption option = some subnet) :
      SubnetOf client call (some subnet)
  | absent (unset : ¬ client.configures call) (nothing : call.message.subnetOption = none) : SubnetOf client call none

/-- The exchange that a lookup makes if the cache has nothing. -/
def FamilyLookup.call (lookup : FamilyLookup) : Call :=
  { transport := lookup.transport
    message := { recursionDesired := true, question := [lookup.question] }
    options := lookup.options
    context := lookup.context }

def servedFromCache (client : Client) (event : CallEvent) : Returned → Option (Call × Msg)
  | .exchanged call outcome =>
    match event with
    | .reply _ _ _ => none
    | _ => if (client.request call).isNone then none else outcome.response.map fun response => (call, response)
  | .looked lookup response _ => some (lookup.call, response)

def StoredBy (lib : DnsLibrary) (client : Client) (past : List CallEvent) (cache : Cache) (response : Msg)
    (writer : Call) : Prop :=
  ∃ slot entry now id request answer, cache slot = some entry ∧
    response = { (serveEntry lib client entry now).1 with id := id } ∧ Begins past writer ∧ Answers past answer ∧
    client.request writer = some request ∧ Wrote lib client (fun _ _ => answer) writer request slot entry.value.msg

section Keys

variable {client : Client} {call : Call} {request : Request}

theorem effectiveClientSubnet_isValid :
    (client.effectiveClientSubnet call.options).isValid = true ↔ client.configures call := by
  unfold Client.effectiveClientSubnet Client.configures
  dsimp only
  by_cases ruled : call.options.clientSubnet.isValid = true
  · rw [if_pos ruled, if_pos ruled]
    exact iff_of_true (Prefix.isValid_masked ruled) (.inl ruled)
  rw [if_neg ruled]
  split_ifs with valid
  · exact iff_of_true (Prefix.isValid_masked valid) (.inr valid)
  · exact iff_of_false valid (not_or.mpr ⟨ruled, valid⟩)

theorem subnetOf_configured (configured : client.configures call) :
    SubnetOf client call (some (client.effectiveClientSubnet call.options)) := by
  unfold Client.effectiveClientSubnet
  by_cases ruled : call.options.clientSubnet.isValid = true
  · rw [if_pos ruled, if_pos ruled]
    exact .rule ruled
  · have valid : client.clientSubnet.isValid = true := configured.resolve_left ruled
    rw [if_neg ruled, if_pos valid]
    exact .client (Bool.eq_false_iff.mpr ruled) valid

theorem prepare_unconfigured (unset : ¬ client.configures call) (question : Question) :
    (client.prepare call question).message = call.message ∧
      (client.prepare call question).key.clientSubnet = (extractClientSubnet call.message).getD .none := by
  have invalid : (client.effectiveClientSubnet call.options).isValid = false :=
    Bool.eq_false_iff.mpr (effectiveClientSubnet_isValid.not.mpr unset)
  unfold Client.prepare prepareExchangeMessage
  dsimp only
  rw [invalid]
  exact ⟨rfl, rfl⟩

def DnsCacheKey.subnet (key : DnsCacheKey) : Option Prefix :=
  if key.clientSubnet.isValid then some key.clientSubnet else none

theorem subnetOf_key (asked : client.request call = some request) (readable : request.cacheReadable = true) :
    SubnetOf client call request.key.subnet ∧ call.message.question = [request.key.question] := by
  obtain ⟨questions, -⟩ := request_of_readable asked readable
  obtain ⟨question, -, -, rfl⟩ := request_eq_prepare asked
  refine ⟨?_, (question_prepareExchangeMessage _ _).symm.trans questions⟩
  unfold DnsCacheKey.subnet
  by_cases configured : client.configures call
  · have valid := effectiveClientSubnet_isValid.mpr configured
    simp only [Client.prepare, if_pos valid]
    exact subnetOf_configured configured
  have carried := (subnetOption_of_simple (simple_of_readable readable)).2
  obtain ⟨message, -⟩ := prepare_unconfigured configured question
  rw [message] at carried
  split_ifs at carried ⊢
  · obtain ⟨option, found, same⟩ := carried
    exact .forwarded configured found same
  · exact .absent configured carried

theorem subnetOf_lookup (lookup : FamilyLookup) : SubnetOf client lookup.call
      (DnsCacheKey.subnet ⟨lookup.question, client.effectiveClientSubnet lookup.options⟩) := by
  show SubnetOf client lookup.call (if (client.effectiveClientSubnet lookup.call.options).isValid then some _ else none)
  by_cases configured : client.configures lookup.call
  · rw [if_pos (effectiveClientSubnet_isValid.mpr configured)]
    exact subnetOf_configured configured
  · rw [if_neg (effectiveClientSubnet_isValid.not.mpr configured)]
    exact .absent configured rfl

theorem not_writable_of_forwarded (closed : client.cacheClientSubnet = false) (unset : ¬ client.configures call)
    {option : EDNS0Subnet} (carried : call.message.subnetOption = some option)
    (asked : client.request call = some request) : request.cacheWritable = false := by
  obtain ⟨question, -, -, rfl⟩ := request_eq_prepare asked
  obtain ⟨message, key⟩ := prepare_unconfigured unset question
  rw [Bool.eq_false_iff]
  intro writable
  have simple := simple_of_readable (readable_of_writable asked writable)
  have extracted : extractClientSubnet call.message = clientSubnetFromOption option := by
    unfold extractClientSubnet
    rw [show call.message.extra.findSome? subnetOption? = some option from carried]
  rw [message, key] at simple
  cases read : clientSubnetFromOption option with
  | none =>
    -- the option cannot be read: the key has no subnet, but the request is not simple
    rw [extracted, read] at simple
    have missing : call.message.subnetOption = none := (subnetOption_of_simple simple).2
    cases missing.symm.trans carried
  | some subnet =>
    have invalid : (client.effectiveClientSubnet call.options).isValid = false :=
      Bool.eq_false_iff.mpr (effectiveClientSubnet_isValid.not.mpr unset)
    have external := (Bool.and_eq_true_iff.mp writable).2
    rw [invalid, closed] at external
    change ((extractClientSubnet (client.prepare call question).message).isNone || false) = true at external
    rw [message, extracted, read] at external
    cases external

end Keys

section Runs

variable {lib : DnsLibrary} {client : Client} {past : List CallEvent} {system : Calls}

theorem Sound.stored_subnet (sound : Sound lib client past system) {key : DnsCacheKey} {transport : Bytes}
    {entry : CacheEntry} {response : Msg} {now : Nat} {id : UInt16}
    (held : system.state.cache (client.slot key transport) = some entry)
    (same : response = { (serveEntry lib client entry now).1 with id := id }) :
    ∃ writer, StoredBy lib client past system.state.cache response writer ∧ writer.message.question = [key.question] ∧
      SubnetOf client writer key.subnet := by
  obtain ⟨writer, request, answer, begins, answers, asked, wrote⟩ := sound.cached _ entry held
  have sameKey : key = request.key := congrArg CacheSlot.key wrote.slot_eq
  obtain ⟨subnet, question⟩ := subnetOf_key asked (readable_of_writable asked wrote.writable)
  rw [sameKey]
  exact ⟨writer, ⟨_, entry, now, _, request, answer, held, same, begins, answers, asked, wrote⟩, question, subnet⟩

theorem Sound.served (sound : Sound lib client past system) {event : CallEvent} {call : Call} {response : Msg}
    (served : ((calls lib client).step system event).2.bind (servedFromCache client event) = some (call, response)) :
    ∃ writer subnet, StoredBy lib client past system.state.cache response writer ∧
      writer.message.question = call.message.question ∧ SubnetOf client writer subnet ∧ SubnetOf client call subnet := by
  obtain ⟨returned, out, taken⟩ := Option.bind_eq_some_iff.mp served
  cases sound.returns out with
  | @first event asker outcome after now ended =>
    have answered : client.request asker ≠ none ∧ outcome.response = some response ∧ asker = call := by
      unfold servedFromCache at taken
      dsimp only at taken
      split at taken
      · cases taken
      split_ifs at taken with guarded
      obtain ⟨found, same, pair⟩ := Option.map_eq_some_iff.mp taken
      obtain ⟨rfl, rfl⟩ := Prod.mk.inj pair
      exact ⟨fun none => guarded (by rw [none]; rfl), same, rfl⟩
    obtain ⟨past, same, rfl⟩ := answered
    obtain ⟨request, asked⟩ := Option.ne_none_iff_exists'.mp past
    rcases startExchange_done asked ended with rfl | loaded | rfl | ⟨rfl, -⟩
    · cases same
    · obtain ⟨⟨readable, -⟩, entry, held, rfl⟩ := loadCached_eq_some loaded
      obtain ⟨subnet, question⟩ := subnetOf_key asked readable
      obtain ⟨writer, stored, questions, sameSubnet⟩ := sound.stored_subnet held (Option.some.inj same).symm
      exact ⟨writer, _, stored, questions.trans question.symm, sameSubnet, subnet⟩
    · cases same
    · cases same
  | second request asked => cases taken
  | gaveUp =>
    unfold servedFromCache at taken
    dsimp only at taken
    split at taken
    · cases taken
    · split_ifs at taken
      cases taken
  | @looked event lookup found ttl stale now loaded =>
    cases taken
    obtain ⟨entry, held, -, same⟩ := loadResponse_eq_some.mp loaded
    have served : response = { (serveEntry lib client entry now).1 with id := (serveEntry lib client entry now).1.id } :=
      congrArg Prod.fst same
    obtain ⟨writer, stored, questions, subnet⟩ := sound.stored_subnet held served
    exact ⟨writer, _, stored, questions, subnet, subnetOf_lookup lookup⟩

theorem finishExchange_cache_of_not_writable {upstream : Upstream} {call : Call} {request : Request} {now : Nat}
    {state : ClientState} (closed : request.cacheWritable = false) :
    (finishExchange lib client upstream call request now state).2.cache = state.cache := by
  rw [← endUpdate_cache call request state]
  unfold finishExchange
  split
  · rfl
  · unfold settle
    rw [closed]
    split <;> rfl

end Runs

/-- **The cache keeps client subnets apart**: after any run, what an event takes from it was stored by an earlier call
with the same question and normalised subnet; and if forwarded subnets are not cached, a call with a subnet in its
message alone stores nothing. -/
theorem cache_isolated_by_subnet (lib : DnsLibrary) (client : Client) (events : List CallEvent) :
    (∀ event call response,
      ((calls lib client).step ((calls lib client).run {} events) event).2.bind (servedFromCache client event) =
        some (call, response) →
      ∃ writer subnet, StoredBy lib client events ((calls lib client).run {} events).state.cache response writer ∧
        writer.message.question = call.message.question ∧ SubnetOf client writer subnet ∧ SubnetOf client call subnet) ∧
    (client.cacheClientSubnet = false → ∀ id answer now flight option,
      ((calls lib client).run {} events).flights id = some flight → ¬ client.configures flight.call →
      flight.call.message.subnetOption = some option →
      ((calls lib client).step ((calls lib client).run {} events) (.reply id answer now)).1.state.cache =
        ((calls lib client).run {} events).state.cache) := by
  have sound : Sound lib client events ((calls lib client).run {} events) := calls_sound events
  refine ⟨fun event call response served => sound.served served, ?_⟩
  intro closed id answer now flight option there unset carried
  have notWritable := not_writable_of_forwarded closed unset carried (sound.flown id flight there).asked
  unfold calls at there ⊢
  dsimp only
  rw [there]
  dsimp only
  split
  · rfl
  · exact finishExchange_cache_of_not_writable notWritable

/-- A query for the network `10.1.0.0/16`, which it names itself. -/
def forwardingCall : Call :=
  { sampleCall with
    responseChecker := none
    message.extra := [newOPT 1232 [.subnet ⟨1, 16, 0, [10, 1, 2, 3]⟩]] }

/-- The same query, for which a rule has the subnet. -/
def ruledCall : Call :=
  { sampleCall with
    responseChecker := none
    options := { clientSubnet := Prefix.prefixFrom (.v4 0x0A010909) 16 } }

/-- If forwarded subnets are cached, the answer to the one query is taken for the other; if not, it is not stored. -/
theorem subnet_shared_by_rule : (∃ call response, ((calls plainLibrary { cacheClientSubnet := true }).step
        ((calls plainLibrary { cacheClientSubnet := true }).run {}
          [.begin forwardingCall none 0, .reply 0 (.ok sampleResponse) 0]) (.begin ruledCall none 1)).2.bind
            (servedFromCache { cacheClientSubnet := true } (.begin ruledCall none 1)) = some (call, response) ∧
      ∃ writer subnet, SubnetOf { cacheClientSubnet := true } writer subnet ∧
        SubnetOf { cacheClientSubnet := true } call subnet) ∧
    ((calls plainLibrary {}).step ((calls plainLibrary {}).run {} [.begin forwardingCall none 0])
        (.reply 0 (.ok sampleResponse) 0)).1.state.cache =
      ((calls plainLibrary {}).run {} [.begin forwardingCall none 0]).state.cache := by
  constructor
  · have served : (((calls plainLibrary { cacheClientSubnet := true }).step
        ((calls plainLibrary { cacheClientSubnet := true }).run {}
          [.begin forwardingCall none 0, .reply 0 (.ok sampleResponse) 0]) (.begin ruledCall none 1)).2.bind
            (servedFromCache { cacheClientSubnet := true } (.begin ruledCall none 1))).isSome = true := by
      decide +kernel
    obtain ⟨⟨call, response⟩, taken⟩ := Option.isSome_iff_exists.mp served
    obtain ⟨writer, subnet, -, -, first, second⟩ :=
      (cache_isolated_by_subnet plainLibrary { cacheClientSubnet := true } _).1 _ call response taken
    exact ⟨call, response, taken, writer, subnet, first, second⟩
  · refine (cache_isolated_by_subnet plainLibrary {} _).2 rfl 0 _ 0 _ ⟨1, 16, 0, [10, 1, 2, 3]⟩ rfl ?_ rfl
    show ¬ Client.configures {} forwardingCall
    unfold Client.configures
    decide

end SingBox.Dns
