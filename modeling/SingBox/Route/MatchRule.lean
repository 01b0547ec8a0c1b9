/-
**The router's rule loop** (`route/route.go`: `matchRule`, `actionSniffOverrideDestination`, `actionResolve`).

The rules are tried in order. A rule that matches acts: it may change the context of the connection, sniff it, resolve
its destination, or select what happens with the connection, which ends the loop. What the sniff actions have read is
collected, and the caller forwards it first. On a packet connection, a sniff action that is left undecided by packets
that were read before hands them back, and the loop appends them to themselves.
-/

import SingBox.Route.Item
import SingBox.Route.Sniff

namespace SingBox.Route

open SingBox.Lib List

/-! ### Rules and their actions -/

structure RuleActionRouteOptions where
  overrideAddress : Socksaddr := {}
  overridePort : UInt16 := 0
  networkStrategy : Option UInt8 := none
  (networkType fallbackNetworkType : List UInt8 := [])
  fallbackDelay : Int := 0
  (udpDisableDomainUnmapping udpConnect : Bool := false)
  udpTimeout : Int := 0
  tlsFragment : Bool := false
  tlsFragmentFallbackDelay : Int := 0
  tlsRecordFragment : Bool := false

/-- `RuleActionResolve`, as far as the router reads it. -/
structure RuleActionResolve where
  server : Bytes := []
  strategy : UInt8 := 0
  matchOnly : Bool := false

inductive RuleAction (lib : SniffLibrary) where
  | route (outbound : Bytes) (options : RuleActionRouteOptions)
  | routeOptions (options : RuleActionRouteOptions)
  | bypass (outbound : Bytes)
  | direct
  | reject
  | hijackDNS
  | sniff (action : RuleActionSniff lib)
  | sniffOverrideDestination
  | resolve (action : RuleActionResolve)

structure RouteRule (lib : SniffLibrary) where
  disabled : Bool := false
  rule : Rule
  action : RuleAction lib

section Loop

variable {lib : SniffLibrary} {World : Type} (router : Router lib World)

structure Matching (lib : SniffLibrary) (World : Type) where
  metadata : RouteContext lib
  world : World
  conn : InputConn lib
  buffers : List Bytes := []
  packetBuffers : List PacketBuffer := []

def applyRouteOptions (options : RuleActionRouteOptions) (metadata : RouteContext lib) : RouteContext lib :=
  let overrides := router.isValid options.overrideAddress
  let metadata :=
    if (overrides || options.overridePort > 0) && !router.isValid metadata.routeOriginalDestination then
      { metadata with routeOriginalDestination := metadata.destination }
    else metadata
  let metadata :=
    if overrides then
      { metadata with
        destination := { options.overrideAddress with port := metadata.destination.port }
        destinationAddresses := [] }
    else metadata
  let metadata :=
    if options.overridePort > 0 then
      { metadata with destination := { metadata.destination with port := options.overridePort } }
    else metadata
  { metadata with
    networkStrategy := options.networkStrategy.or metadata.networkStrategy
    networkType := if options.networkType.length > 0 then options.networkType else metadata.networkType
    fallbackNetworkType := if options.fallbackNetworkType.length > 0 then options.fallbackNetworkType
      else metadata.fallbackNetworkType
    fallbackDelay := if options.fallbackDelay ≠ 0 then options.fallbackDelay
      else metadata.fallbackDelay
    udpDisableDomainUnmapping := options.udpDisableDomainUnmapping || metadata.udpDisableDomainUnmapping
    udpConnect := options.udpConnect || metadata.udpConnect
    udpTimeout := if options.udpTimeout > 0 then options.udpTimeout else metadata.udpTimeout
    tlsFragment := options.tlsFragment || metadata.tlsFragment
    tlsFragmentFallbackDelay := if options.tlsFragment then options.tlsFragmentFallbackDelay
      else metadata.tlsFragmentFallbackDelay
    tlsRecordFragment := options.tlsRecordFragment || metadata.tlsRecordFragment }

def actionSniffOverrideDestination (conn : InputConn lib) (metadata : RouteContext lib) : RouteContext lib :=
  if !router.isDomain metadata.destination && router.isDomainName metadata.sniffHost then
    let destination : Socksaddr := { fqdn := metadata.sniffHost, port := metadata.destination.port }
    match conn with
    | .stream _ => { metadata with destination := destination }
    | .packet _ =>
      { metadata with
        originDestination := metadata.destination
        destination := destination
        destOverride := true }
    | .neither => metadata
  else metadata

def actionResolve (action : RuleActionResolve) (metadata : RouteContext lib) (world : World) :
    Except lib.Err (RouteContext lib) × World :=
  if !router.isDomain metadata.destination then (.ok metadata, world)
  else if decide (action.server ≠ []) && !router.hasTransport action.server world then
    (.error (router.missingTransport action.server), world)
  else
    let (result, world) := router.lookup action.server action.strategy metadata.toInboundContext
      metadata.destination.fqdn world
    match result with
    | .error error => (.error error, world)
    | .ok addresses =>
      let metadata :=
        if action.matchOnly then { metadata with cacheIPs := addresses }
        else { metadata with destinationAddresses := addresses }
      let metadata :=
        if addresses.length > 0 then
          if addresses.all Addr.is4 then { metadata with ipVersion := 4 }
          else if addresses.all fun addr => addr.isValid && !addr.is4 then
            { metadata with ipVersion := 6 }
          else metadata
        else metadata
      (.ok metadata, world)

inductive Passed (lib : SniffLibrary) (World : Type) where
  | next (state : Matching lib World)
  | selected (state : Matching lib World)

def collect (state : Matching lib World) (sniffed : Sniffed lib World) : Matching lib World :=
  let state :=
    { state with metadata := sniffed.metadata, world := sniffed.world, conn := sniffed.conn }
  match sniffed.buffer with
  | some newBuffer => { state with buffers := state.buffers ++ [newBuffer] }
  | none =>
    if sniffed.packetBuffers.length > 0 then
      { state with packetBuffers := state.packetBuffers ++ sniffed.packetBuffers }
    else state

def applySniff (preMatch : Bool) (action : RuleActionSniff lib) (state : Matching lib World) :
    Ended lib (Passed lib World) :=
  if preMatch then
    -- `N.NetworkICMP`
    if state.metadata.network ≠ [0x69, 0x63, 0x6D, 0x70] then .returned (.selected state)
    else .returned (.next state)
  else
    match actionSniff router action state.metadata state.world state.conn state.buffers state.packetBuffers with
    | .waiting => .waiting
    | .fatal error => .fatal error
    | .returned sniffed => .returned (.next (collect state sniffed))

def applyAction (preMatch supportBypass : Bool) (action : RuleAction lib)
    (state : Matching lib World) : Ended lib (Passed lib World) :=
  match action with
  | .route outbound options =>
    if router.isPass outbound state.world then .returned (.next state)
    else .returned (.selected { state with metadata := applyRouteOptions router options state.metadata })
  | .routeOptions options =>
    .returned (.next { state with metadata := applyRouteOptions router options state.metadata })
  | .bypass outbound =>
    if !supportBypass && decide (outbound = []) then .returned (.next state)
    else .returned (.selected state)
  | .direct => .returned (.next state)
  | .reject | .hijackDNS => .returned (.selected state)
  | .sniff action => applySniff router preMatch action state
  | .sniffOverrideDestination =>
    if state.metadata.sniffHost ≠ [] then
      .returned (.next { state with
        metadata := actionSniffOverrideDestination router state.conn state.metadata })
    else .returned (.next state)
  | .resolve action =>
    match actionResolve router action state.metadata state.world with
    | (.error error, _) => .fatal error
    | (.ok metadata, world) =>
      .returned (.next { state with metadata := metadata, world := world })

def resetCache (state : Matching lib World) : Matching lib World :=
  { state with metadata :=
    { state.metadata with toInboundContext := state.metadata.toInboundContext.resetRuleCache } }

def applies (rule : RouteRule lib) (state : Matching lib World) : Bool :=
  !rule.disabled && Rule.Match rule.rule (resetCache state).metadata.toInboundContext

def tryRule (preMatch supportBypass : Bool) (rule : RouteRule lib) (state : Matching lib World) :
    Ended lib (Passed lib World) :=
  if rule.disabled then .returned (.next state)
  else if !applies rule state then .returned (.next (resetCache state))
  else applyAction router preMatch supportBypass rule.action (resetCache state)

/-- The loop, with the number of the rule that is tried next. The result has the number of the rule that
was selected. -/
def matchRules (preMatch supportBypass : Bool) : Nat → List (RouteRule lib) → Matching lib World →
    Ended lib (Option Nat × Matching lib World)
  | _, [], state => .returned (none, state)
  | index, rule :: rest, state =>
    match tryRule router preMatch supportBypass rule state with
    | .waiting => .waiting
    | .fatal error => .fatal error
    | .returned (.selected state) => .returned (some index, state)
    | .returned (.next state) => matchRules preMatch supportBypass (index + 1) rest state

/-- What `matchRule` does before the loop. -/
def prepare (metadata : RouteContext lib) (world : World) : Except lib.Err (RouteContext lib) × World :=
  let (processInfo, world) := router.searchProcessInfo metadata.toInboundContext world
  let metadata := { metadata with processInfo := processInfo }
  let address := metadata.destination.addr
  let setVersion (metadata : RouteContext lib) : RouteContext lib :=
    if router.isIPv4 metadata.destination then { metadata with ipVersion := 4 }
    else if router.isIPv6 metadata.destination then { metadata with ipVersion := 6 }
    else metadata
  if address.isValid && router.fakeIPContains address world then
    match router.fakeIPLookup address world with
    | (none, world) => (.error router.missingFakeIP, world)
    | (some domain, world) =>
      if domain ≠ [] then
        (.ok (setVersion { metadata with
          originDestination := metadata.destination
          destination := { fqdn := domain, port := metadata.destination.port }
          fakeIP := true }), world)
      else (.ok (setVersion metadata), world)
  else if metadata.domain = [] then
    let (domain, world) := router.lookupReverseMapping address world
    (.ok (setVersion { metadata with domain := domain.getD metadata.domain }), world)
  else (.ok (setVersion metadata), world)

def matchRule (rules : List (RouteRule lib)) (preMatch supportBypass : Bool)
    (metadata : RouteContext lib) (world : World) (conn : InputConn lib) :
    Ended lib (Option Nat × Matching lib World) :=
  match prepare router metadata world with
  | (.error error, _) => .fatal error
  | (.ok metadata, world) =>
    matchRules router preMatch supportBypass 0 rules { metadata := metadata, world := world, conn := conn }

/-! ### What the loop collects -/

/-- **A rule meets packets that were read before, and they leave its sniff action undecided.** -/
def resends (rule : RouteRule lib) (state : Matching lib World) : Bool :=
  applies rule state &&
    match rule.action with
    | .sniff action => decide (state.packetBuffers ≠ []) &&
        undecided router action (resetCache state).metadata state.conn state.packetBuffers
    | _ => false

def Passed.state : Passed lib World → Matching lib World
  | .next state | .selected state => state

/-- What a rule has read it has also collected; if it resends, then the packets of before once more. -/
structure Collects (rule : RouteRule lib) (state after : Matching lib World) : Prop where
  bytes : ∃ data, after.conn.readBytes = state.conn.readBytes ++ data ∧
    after.buffers.flatten = state.buffers.flatten ++ data
  packets : ∃ more, after.conn.readPackets = state.conn.readPackets ++ more ∧
    after.packetBuffers = state.packetBuffers ++ if resends router rule state then state.packetBuffers ++ more else more

variable {after state : Matching lib World} {rule : RouteRule lib} {before : List PacketBuffer}

theorem Collects.of_same (quiet : resends router rule state = false)
    (conn : after.conn = state.conn) (buffers : after.buffers = state.buffers)
    (packetBuffers : after.packetBuffers = state.packetBuffers) :
    Collects router rule state after where
  bytes := ⟨[], by rw [conn, append_nil], by rw [buffers, append_nil]⟩
  packets := by
    refine ⟨[], by rw [conn, append_nil], ?_⟩
    rw [quiet, packetBuffers]
    exact (append_nil _).symm

theorem conn_collect (state : Matching lib World) (sniffed : Sniffed lib World) :
    (collect state sniffed).conn = sniffed.conn := by
  unfold collect
  split
  · rfl
  · split <;> rfl

theorem buffers_collect (state : Matching lib World) (sniffed : Sniffed lib World) :
    (collect state sniffed).buffers.flatten = state.buffers.flatten ++ sniffed.buffer.getD [] := by
  unfold collect
  split
  · rename_i newBuffer some
    rw [some, flatten_append, flatten_singleton]
    rfl
  · rename_i none
    rw [none, Option.getD_none, append_nil]
    split <;> rfl

theorem packetBuffers_collect {sniffed : Sniffed lib World}
    (packets : sniffed.buffer = none ∨ sniffed.packetBuffers = []) :
    (collect state sniffed).packetBuffers = state.packetBuffers ++ sniffed.packetBuffers := by
  unfold collect
  split
  · rename_i newBuffer some
    rcases packets with none | empty
    · cases some.symm.trans none
    · rw [empty, append_nil]
  · split
    · rfl
    rename_i none short
    have empty : sniffed.packetBuffers = [] :=
      length_eq_zero_iff.mp (Nat.eq_zero_of_not_pos short)
    rw [empty, append_nil]

section

variable {passed : Passed lib World}

theorem collects_applySniff {action : RuleActionSniff lib} (applied : applies rule state = true)
    (isSniff : rule.action = .sniff action)
    (done : applySniff router false action (resetCache state) = .returned passed) :
    Collects router rule state passed.state := by
  have when : resends router rule state = (decide (state.packetBuffers ≠ []) &&
      undecided router action (resetCache state).metadata state.conn state.packetBuffers) := by
    unfold resends
    rw [applied, isSniff, Bool.true_and]
  unfold applySniff at done
  rw [if_neg Bool.false_ne_true] at done
  split at done
  · cases done
  · cases done
  rename_i sniffed sniffs
  cases done
  obtain ⟨bytes, more, packets, -, handed⟩ := actionSniff_collects router sniffs
  refine ⟨⟨sniffed.buffer.getD [], ?_, buffers_collect _ sniffed⟩, more, ?_, ?_⟩
  · show (collect _ _).conn.readBytes = _
    rw [conn_collect]
    exact bytes
  · show (collect _ _).conn.readPackets = _
    rw [conn_collect]
    exact packets
  · have handed : if undecided router action (resetCache state).metadata state.conn state.packetBuffers then
        sniffed.buffer = none ∧ sniffed.packetBuffers = state.packetBuffers ++ more
      else sniffed.packetBuffers = [] ∧ more = [] := handed
    have kept : (resetCache state).packetBuffers = state.packetBuffers := rfl
    show (collect (resetCache state) sniffed).packetBuffers = _
    rw [when]
    split_ifs at handed with left
    · rw [packetBuffers_collect (.inl handed.1), handed.2, kept, left, Bool.and_true]
      by_cases empty : state.packetBuffers = []
      · rw [empty]
        rfl
      · rw [decide_eq_true empty, if_pos rfl]
    · rw [packetBuffers_collect (.inr handed.1), handed.1, handed.2, kept,
        Bool.eq_false_iff.mpr left, Bool.and_false, if_neg Bool.false_ne_true]

theorem applyAction_same {supportBypass : Bool} {action : RuleAction lib} (other : ∀ sniff, action ≠ .sniff sniff)
    (done : applyAction router false supportBypass action state = .returned passed) :
    passed.state.conn = state.conn ∧ passed.state.buffers = state.buffers ∧
      passed.state.packetBuffers = state.packetBuffers := by
  cases action with
  | sniff action => exact absurd rfl (other action)
  | routeOptions | direct | reject | hijackDNS => cases done; exact ⟨rfl, rfl, rfl⟩
  | route | bypass | sniffOverrideDestination | resolve =>
    unfold applyAction at done
    dsimp only at done
    split at done <;> cases done <;> exact ⟨rfl, rfl, rfl⟩

theorem collects_tryRule {supportBypass : Bool}
    (done : tryRule router false supportBypass rule state = .returned passed) :
    Collects router rule state passed.state := by
  revert done
  fun_cases tryRule router false supportBypass rule state with
  | case1 disabled =>
    rintro ⟨⟩
    refine .of_same router ?_ rfl rfl rfl
    simp [resends, applies, disabled]
  | case2 _ unmatched =>
    rintro ⟨⟩
    refine .of_same router ?_ rfl rfl rfl
    simp [resends, show applies rule state = false by simpa using unmatched]
  | case3 _ matched =>
    intro done
    by_cases isSniff : ∃ action, rule.action = .sniff action
    · obtain ⟨action, isSniff⟩ := isSniff
      rw [isSniff] at done
      exact collects_applySniff router (by simpa using matched) isSniff done
    have other (action) : rule.action ≠ .sniff action := fun it => isSniff ⟨action, it⟩
    obtain ⟨conn, buffers, packetBuffers⟩ := applyAction_same router other done
    refine .of_same router ?_ conn buffers packetBuffers
    unfold resends
    split
    · exact absurd ‹_› (other _)
    · exact Bool.and_false _

end

/-- The rules that the loop tries, each with the state before it. -/
def visits (preMatch supportBypass : Bool) : List (RouteRule lib) → Matching lib World →
    List (RouteRule lib × Matching lib World)
  | [], _ => []
  | rule :: rest, state =>
    (rule, state) :: match tryRule router preMatch supportBypass rule state with
      | .returned (.next state) => visits preMatch supportBypass rest state
      | _ => []

/-- What is collected is what has been read since the beginning. -/
def Exact (before : List PacketBuffer) (state : Matching lib World) : Prop :=
  state.conn.readPackets = before ++ state.packetBuffers

def Overfull (before : List PacketBuffer) (state : Matching lib World) : Prop :=
  state.conn.readPackets.length < before.length + state.packetBuffers.length

theorem Overfull.not_exact (overfull : Overfull before state) : ¬ Exact before state := by
  intro same
  have lengths := congrArg length same
  rw [length_append] at lengths
  unfold Overfull at overfull
  omega

section

variable (collects : Collects router rule state after)

include collects

theorem Collects.exact (quiet : resends router rule state = false) (same : Exact before state) :
    Exact before after := by
  obtain ⟨more, read, collected⟩ := collects.packets
  rw [quiet, if_neg Bool.false_ne_true] at collected
  unfold Exact at same ⊢
  rw [read, collected, same, append_assoc]

theorem Collects.overfull (again : resends router rule state = true) (same : Exact before state) :
    Overfull before after := by
  obtain ⟨more, read, collected⟩ := collects.packets
  have some : state.packetBuffers ≠ [] := by
    unfold resends at again
    split at again
    · exact of_decide_eq_true (Bool.and_eq_true_iff.mp (Bool.and_eq_true_iff.mp again).2).1
    · rw [Bool.and_false] at again
      cases again
  have positive := length_pos_iff.mpr some
  rw [again, if_pos rfl] at collected
  unfold Overfull
  rw [read, collected, same]
  simp only [length_append]
  omega

theorem Collects.stays_overfull (overfull : Overfull before state) : Overfull before after := by
  obtain ⟨more, read, collected⟩ := collects.packets
  unfold Overfull at overfull ⊢
  rw [read, collected]
  split <;> simp only [length_append] <;> omega

end

/-! ### Whole runs -/

section Run

variable {supportBypass : Bool} {rules : List (RouteRule lib)} {state final : Matching lib World}
  {index : Nat} {selected : Option Nat}

theorem matchRules_invariant (inv : Matching lib World → Prop)
    (step : ∀ rule state after, Collects router rule state after → inv state → inv after)
    (done : matchRules router false supportBypass index rules state = .returned (selected, final))
    (start : inv state) : inv final := by
  fun_induction matchRules router false supportBypass index rules state with
  | case1 => cases done; exact start
  | case2 | case3 => cases done
  | case4 _ rule _ state _ passes => cases done; exact step rule state _ (collects_tryRule router passes) start
  | case5 _ rule _ state _ passes ih => exact ih done (step rule state _ (collects_tryRule router passes) start)

variable (done : matchRules router false supportBypass index rules state = .returned (selected, final))

include done

theorem matchRules_bytes {before : Bytes} (start : state.conn.readBytes = before ++ state.buffers.flatten) :
    final.conn.readBytes = before ++ final.buffers.flatten := by
  refine matchRules_invariant router (fun state => state.conn.readBytes = before ++ state.buffers.flatten) ?_ done start
  intro rule state after collects held
  obtain ⟨data, read, collected⟩ := collects.bytes
  rw [read, collected, held, append_assoc]

/-- **The loop collects exactly what it reads if and only if no rule resends.** -/
theorem matchRules_exact_iff {before : List PacketBuffer} (start : Exact before state) :
    Exact before final ↔ ∀ visit ∈ visits router false supportBypass rules state,
      resends router visit.1 visit.2 = false := by
  fun_induction matchRules router false supportBypass index rules state with
  | case1 =>
    cases done
    exact iff_of_true start (forall_mem_nil _)
  | case2 | case3 => cases done
  | case4 _ rule rest state after passes =>
    have collects := collects_tryRule router passes
    cases done
    rw [visits, passes, forall_mem_singleton]
    by_cases again : resends router rule state = true
    · have overfull := collects.overfull router again start
      exact iff_of_false overfull.not_exact fun quiet => Bool.false_ne_true (quiet.symm.trans again)
    · have quiet := Bool.eq_false_iff.mpr again
      exact iff_of_true (collects.exact router quiet start) quiet
  | case5 _ rule rest state after passes ih =>
    have collects := collects_tryRule router passes
    rw [visits, passes, forall_mem_cons]
    by_cases again : resends router rule state = true
    · have overfull := matchRules_invariant router (Overfull before)
        (fun _ _ _ collects => collects.stays_overfull router) done (collects.overfull router again start)
      exact iff_of_false overfull.not_exact fun quiet => Bool.false_ne_true (quiet.1.symm.trans again)
    · have quiet := Bool.eq_false_iff.mpr again
      rw [ih done (collects.exact router quiet start)]
      exact (and_iff_right quiet).symm

end Run

/-- The rules that `matchRule` tries, each with the state before it. -/
def matchRuleVisits (rules : List (RouteRule lib)) (preMatch supportBypass : Bool)
    (metadata : RouteContext lib) (world : World) (conn : InputConn lib) :
    List (RouteRule lib × Matching lib World) :=
  match prepare router metadata world with
  | (.error _, _) => []
  | (.ok metadata, world) =>
    visits router preMatch supportBypass rules { metadata := metadata, world := world, conn := conn }

end Loop

/-- **What `matchRule` hands back** is what it has read: always on a stream, and on a packet connection exactly if no
rule meets packets that were read before and leave it undecided. -/
theorem matchRule_exact_iff {lib : SniffLibrary} {World : Type} (router : Router lib World)
    (rules : List (RouteRule lib)) (supportBypass : Bool) (metadata : RouteContext lib)
    (world : World) (conn : InputConn lib) (selected : Option Nat) (final : Matching lib World)
    (done : matchRule router rules false supportBypass metadata world conn = .returned (selected, final)) :
    final.conn.readBytes = conn.readBytes ++ final.buffers.flatten ∧
      (final.conn.readPackets = conn.readPackets ++ final.packetBuffers ↔
        ∀ visit ∈ matchRuleVisits router rules false supportBypass metadata world conn,
          resends router visit.1 visit.2 = false) := by
  unfold matchRule at done
  unfold matchRuleVisits
  rcases prepared : prepare router metadata world with ⟨result, after⟩
  rw [prepared] at done
  cases result with
  | error error => cases done
  | ok context =>
    refine ⟨matchRules_bytes router done (append_nil _).symm, ?_⟩
    exact matchRules_exact_iff router done (append_nil _).symm

/-! ### Two sniff actions -/

/-- The errors of a read and of a packet sniffer. -/
inductive PacketError where
  | needMoreData
  | timeout
  | invalid
  deriving DecidableEq

def packetLibrary : SniffLibrary where
  Err := PacketError
  SniffContext := Unit
  errors := List.head?
  cause error _ := error
  isNeedMoreData error := error = .needMoreData
  isTimeout error := error = .timeout
  shortBuffer := .invalid

/-- What the sniffers of other protocols say to a QUIC packet. -/
def rejects : Sniffer packetLibrary := fun metadata _ => (some .invalid, metadata)

/-- What `QUICClientHello` does with the first packet of a client hello in several: the protocol is set before the frames
are read. -/
def firstOfSeveral : Sniffer packetLibrary :=
  fun metadata _ => (some .needMoreData, { metadata with protocol := protocolQUIC })

/-- `N.NetworkTCP`. -/
def tcpNetwork : Bytes := [0x74, 0x63, 0x70]

/-- A router that meets such a packet, with one outbound that passes and one host. -/
def sampleRouter : Router packetLibrary Unit where
  sniffers := ⟨rejects, rejects, rejects, rejects, rejects, rejects, rejects, firstOfSeveral, rejects, rejects, rejects,
    rejects, rejects, rejects⟩
  packetSize := 16384
  cacheQUICSniff _ _ _ world := world
  lookupQUICSniff _ _ world := (none, world)
  searchProcessInfo _ world := (none, world)
  fakeIPContains _ _ := false
  fakeIPLookup _ world := (none, world)
  missingFakeIP := .invalid
  lookupReverseMapping _ world := (none, world)
  isPass outbound _ := outbound = [0x70]
  isDomainName host := host ≠ []
  isValid addr := addr.addr.isValid || addr.fqdn ≠ []
  isDomain addr := !addr.addr.isValid && addr.fqdn ≠ []
  isIPv4 addr := addr.addr.is4
  isIPv6 addr := addr.addr.isValid && !addr.addr.is4
  hasTransport _ _ := false
  missingTransport _ := .invalid
  lookup _ _ _ _ world := (.ok [.v4 0x01020304#32], world)

/-- A rule without conditions whose action has one packet sniffer. -/
def sniffRule (name : Bytes) (sniffer : Sniffer packetLibrary) : RouteRule packetLibrary where
  rule := .default {}
  action := .sniff { snifferNames := [name], packetSniffers := [sniffer] }

def dnsRule : RouteRule packetLibrary := sniffRule [0x64, 0x6E, 0x73] sampleRouter.sniffers.domainNameQuery

def quicRule : RouteRule packetLibrary := sniffRule protocolQUIC sampleRouter.sniffers.quicClientHello

def slowClient : PacketConn packetLibrary where
  turns := [.packet ⟨[0xC3], {}⟩, .failed .timeout]

def Ended.result? {α : Type} : Ended packetLibrary α → Option α
  | .returned result => some result
  | _ => none

theorem Ended.eq_returned {α : Type} {ended : Ended packetLibrary α} {result : α} (is : ended.result? = some result) :
    ended = .returned result := by
  cases ended with
  | returned => cases is; rfl
  | fatal | waiting => cases is

/-- With the QUIC sniffer first, the protocol is known to the second action. -/
theorem matchRule_exact_quicFirst : ∃ selected final,
    matchRule sampleRouter [quicRule, dnsRule] false false {} () (.packet slowClient) = .returned (selected, final) ∧
      final.conn.readPackets = [⟨[0xC3], {}⟩] ∧ final.packetBuffers = [⟨[0xC3], {}⟩] := by
  have read : (matchRule sampleRouter [quicRule, dnsRule] false false {} () (.packet slowClient)).result?.map
      (·.2.conn.readPackets) = some [⟨[0xC3], {}⟩] := by
    decide +kernel
  obtain ⟨⟨selected, final⟩, is, packets⟩ := Option.map_eq_some_iff.mp read
  have done := Ended.eq_returned is
  have exact : final.conn.readPackets = final.packetBuffers :=
    (matchRule_exact_iff sampleRouter _ false {} () (.packet slowClient) selected final done).2.mpr (by decide +kernel)
  exact ⟨selected, final, done, packets, exact.symm.trans packets⟩

/-- **The first packet is handed on twice**: the DNS action has read it, and the QUIC action waits for the rest of the
client hello in vain. -/
theorem matchRule_duplicates : ∃ selected final,
    matchRule sampleRouter [dnsRule, quicRule] false false {} () (.packet slowClient) = .returned (selected, final) ∧
      final.conn.readPackets = [⟨[0xC3], {}⟩] ∧ final.packetBuffers = [⟨[0xC3], {}⟩, ⟨[0xC3], {}⟩] := by
  have twice : (matchRule sampleRouter [dnsRule, quicRule] false false {} () (.packet slowClient)).result?.map
      (fun result => (result.2.conn.readPackets, result.2.packetBuffers)) =
        some ([⟨[0xC3], {}⟩], [⟨[0xC3], {}⟩, ⟨[0xC3], {}⟩]) := by
    decide +kernel
  obtain ⟨⟨selected, final⟩, is, same⟩ := Option.map_eq_some_iff.mp twice
  exact ⟨selected, final, Ended.eq_returned is, Prod.mk.inj same⟩

/-! ### Pre-match -/

section PreMatch

variable {lib : SniffLibrary} {World : Type} (router : Router lib World) {rule : RouteRule lib}
  {state final : Matching lib World} {passed : Passed lib World} {supportBypass : Bool}
  {metadata resolved : RouteContext lib}

/-- The actions at which pre-match is final. -/
def RuleAction.decides : RuleAction lib → Bool
  | .route .. | .reject | .hijackDNS => true
  | _ => false

/-- The rule does not sniff. -/
def Quiet (rule : RouteRule lib) (state : Matching lib World) : Prop :=
  applies rule state = true → ∀ action, rule.action ≠ .sniff action

/-- The network is not `N.NetworkICMP`, and no host has been sniffed yet. -/
def Unsniffed (metadata : RouteContext lib) : Prop :=
  metadata.network ≠ [0x69, 0x63, 0x6D, 0x70] ∧ metadata.sniffHost = []

section

variable (unsniffed : Unsniffed metadata) {world after : World}

include unsniffed

theorem Unsniffed.applyRouteOptions (options : RuleActionRouteOptions) :
    Unsniffed (applyRouteOptions router options metadata) := by
  unfold Route.applyRouteOptions
  extract_lets overrides original address overridden destination ported
  have first : Unsniffed original := by
    unfold original
    split <;> exact unsniffed
  have second : Unsniffed overridden := by
    unfold overridden
    split <;> exact first
  show Unsniffed ported
  unfold ported
  split <;> exact second

theorem Unsniffed.actionResolve {action : RuleActionResolve}
    (done : actionResolve router action metadata world = (.ok resolved, after)) : Unsniffed resolved := by
  revert done
  fun_cases Route.actionResolve router action metadata world with
  | case1 => rintro ⟨⟩; exact unsniffed
  | case2 | case3 => rintro ⟨⟩
  | case4 _ _ _ _ found =>
    intro done
    rw [← Except.ok.inj (congrArg Prod.fst done)]
    have kept : Unsniffed found := by
      show Unsniffed (ite ..)
      split <;> exact unsniffed
    show Unsniffed (ite ..)
    split_ifs <;> exact kept

theorem Unsniffed.prepare (done : prepare router metadata world = (.ok resolved, after)) : Unsniffed resolved := by
  revert done
  fun_cases Route.prepare router metadata world with
  | case1 => rintro ⟨⟩
  | case2 | case3 | case4 | case5 =>
    rintro ⟨⟩
    show Unsniffed (ite ..)
    split_ifs <;> exact unsniffed

end

def Matching.over (state : Matching lib World) (conn : InputConn lib) : Matching lib World := { state with conn := conn }

def Passed.over (conn : InputConn lib) : Passed lib World → Passed lib World
  | .next state => .next (state.over conn)
  | .selected state => .selected (state.over conn)

variable (conn : InputConn lib)

/-- Apart from sniffing, pre-match acts as the full match does, on whatever connection. -/
theorem applyAction_preMatch {action : RuleAction lib} (other : ∀ sniff, action ≠ .sniff sniff)
    (unsniffed : Unsniffed state.metadata)
    (done : applyAction router true supportBypass action state = .returned passed) :
    Unsniffed passed.state.metadata ∧
      applyAction router false supportBypass action (state.over conn) = .returned (passed.over conn) := by
  revert done
  fun_cases applyAction router true supportBypass action state with
  | case9 action => exact absurd rfl (other action)
  | case10 known => exact absurd unsniffed.2 known
  | case12 => rintro ⟨⟩
  | case1 _ _ is | case4 _ is => rintro ⟨⟩; exact ⟨unsniffed, if_pos is⟩
  | case2 _ options is => rintro ⟨⟩; exact ⟨unsniffed.applyRouteOptions router options, if_neg is⟩
  | case5 _ is | case11 is => rintro ⟨⟩; exact ⟨unsniffed, if_neg is⟩
  | case3 options => rintro ⟨⟩; exact ⟨unsniffed.applyRouteOptions router options, rfl⟩
  | case6 | case7 | case8 => rintro ⟨⟩; exact ⟨unsniffed, rfl⟩
  | case13 _ _ _ is =>
    rintro ⟨⟩
    refine ⟨unsniffed.actionResolve router is, ?_⟩
    dsimp only [applyAction, Matching.over]
    rw [is]
    rfl

variable (unsniffed : Unsniffed state.metadata)

include unsniffed

theorem tryRule_preMatch (done : tryRule router true supportBypass rule state = .returned passed)
    (decided : ∀ after, passed = .selected after → rule.action.decides = true) :
    Quiet rule state ∧ Unsniffed passed.state.metadata ∧
      tryRule router false supportBypass rule (state.over conn) = .returned (passed.over conn) := by
  revert done
  fun_cases tryRule router true supportBypass rule state with
  | case1 disabled =>
    rintro ⟨⟩
    refine ⟨fun applied => ?_, unsniffed, if_pos disabled⟩
    simp [applies, disabled] at applied
  | case2 enabled unmatched =>
    rintro ⟨⟩
    refine ⟨fun applied => ?_, unsniffed, (if_neg enabled).trans (if_pos unmatched)⟩
    simp [applied] at unmatched
  | case3 enabled matched =>
    intro done
    have stays : Unsniffed (resetCache state).metadata := unsniffed
    have quiet (action : RuleActionSniff lib) : rule.action ≠ .sniff action := by
      intro is
      rw [is] at done decided
      cases (if_pos stays.1).symm.trans done
      cases decided _ rfl
    obtain ⟨next, same⟩ := applyAction_preMatch router conn quiet stays done
    exact ⟨fun _ => quiet, next, (if_neg enabled).trans ((if_neg matched).trans same)⟩

theorem matchRules_preMatch {index : Nat} {selected : Option Nat} {rules : List (RouteRule lib)}
    (done : matchRules router true supportBypass index rules state = .returned (selected, final))
    (decided : ∀ k, selected = some (index + k) → ∀ rule ∈ rules[k]?, rule.action.decides = true) :
    matchRules router false supportBypass index rules (state.over conn) = .returned (selected, final.over conn) ∧
      ∀ visit ∈ visits router false supportBypass rules (state.over conn), Quiet visit.1 visit.2 := by
  fun_induction matchRules router true supportBypass index rules state with
  | case1 =>
    cases done
    exact ⟨rfl, forall_mem_nil _⟩
  | case2 | case3 => cases done
  | case4 _ rule rest state after passes =>
    cases done
    obtain ⟨quiet, -, same⟩ := tryRule_preMatch router conn unsniffed passes fun _ _ => decided 0 rfl rule rfl
    rw [matchRules, visits, same]
    exact ⟨rfl, forall_mem_singleton.mpr quiet⟩
  | case5 index rule rest state after passes ih =>
    obtain ⟨quiet, next, same⟩ := tryRule_preMatch router conn unsniffed passes fun _ is => by cases is
    rw [matchRules, visits, same, forall_mem_cons]
    have decided (k) (is : selected = some (index + 1 + k)) := decided (k + 1) (by rw [is, Nat.add_right_comm]; rfl)
    exact (ih next done decided).imp_right fun rest => ⟨quiet, rest⟩

end PreMatch

/-- **Pre-match agrees with the full match.** If it selects a rule that decides, or none, then the full match ends in
the same state but for the connection, which is untouched, and no rule sniffs on the way. -/
theorem matchRule_preMatch {lib : SniffLibrary} {World : Type} (router : Router lib World)
    (rules : List (RouteRule lib)) (metadata : RouteContext lib) (world : World) (conn : InputConn lib)
    (unsniffed : Unsniffed metadata) (selected : Option Nat) (final : Matching lib World)
    (done : matchRule router rules true false metadata world .neither = .returned (selected, final))
    (decided : ∀ index ∈ selected, ∀ rule ∈ rules[index]?, rule.action.decides = true) :
    matchRule router rules false false metadata world conn = .returned (selected, { final with conn := conn }) ∧
      ∀ visit ∈ matchRuleVisits router rules false false metadata world conn, Quiet visit.1 visit.2 := by
  unfold matchRule at done ⊢
  unfold matchRuleVisits
  rcases prepared : prepare router metadata world with ⟨result, after⟩
  rw [prepared] at done
  cases result with
  | error error => cases done
  | ok context =>
    refine matchRules_preMatch router conn (unsniffed.prepare router prepared) done fun k is => decided k ?_
    rw [is, Nat.zero_add]
    rfl

/-- Four rules before the one that decides: one that sniffs UDP, one with route options, one that routes to an outbound
that passes and one that resolves. -/
def rulesBeforeRoute : List (RouteRule packetLibrary) :=
  [{ rule := .default { items := [networkItem [[0x75, 0x64, 0x70]]] }, action := .sniff {} },
    { rule := .default {}, action := .routeOptions { overridePort := 8443 } },
    { rule := .default {}, action := .route [0x70] {} },
    { rule := .default {}, action := .resolve {} },
    { rule := .default { items := [networkItem [tcpNetwork]] }, action := .route [0x6F] { udpTimeout := 60 } }]

def tcpContext : RouteContext packetLibrary := { network := tcpNetwork, destination := { fqdn := [0x61], port := 443 } }

/-- The full match of a TCP connection to a domain selects the route that pre-match selects, with the port of the second
rule and the address of the fourth. -/
theorem matchRule_preMatch_route : ∃ final,
    matchRule sampleRouter rulesBeforeRoute false false tcpContext () (.stream ⟨[], []⟩) = .returned (some 4, final) ∧
      final.metadata.destination.port = 8443 ∧ final.metadata.destinationAddresses = [.v4 0x01020304#32] := by
  have early : (matchRule sampleRouter rulesBeforeRoute true false tcpContext () .neither).result?.map (fun result =>
      (result.1, result.2.metadata.destination.port, result.2.metadata.destinationAddresses)) =
        some (some 4, 8443, [.v4 0x01020304#32]) := by
    decide +kernel
  obtain ⟨⟨selected, final⟩, is, same⟩ := Option.map_eq_some_iff.mp early
  obtain ⟨rfl, port, addresses⟩ : selected = some 4 ∧ _ := by simpa using same
  have full := matchRule_preMatch sampleRouter rulesBeforeRoute tcpContext () (.stream ⟨[], []⟩) ⟨by decide, rfl⟩ (some 4)
    final (Ended.eq_returned is) (by decide +kernel)
  exact ⟨_, full.1, port, addresses⟩

end SingBox.Route
