/-
**Sniffing** (`common/sniff/sniff.go`, `route/route.go`: `actionSniff`).

A sniff action reads the beginning of a connection to find out what it carries, and hands back what it has read. A
sniffer says yes, no, or that it needs more data; what it says depends on the context of the connection, in which it
may keep the state of a half-read message. The connection is the sequence of the turns that it takes when it is read,
and keeps what it has given out. A call that asks for a turn that never comes does not return.
-/

import SingBox.Route.Rule

namespace SingBox.Route

open SingBox.Lib List

structure SniffLibrary where
  Err : Type
  SniffContext : Type
  /-- `E.Errors`, of the errors that are not nil. -/
  errors : List Err → Option Err
  /-- `E.Cause`. -/
  cause : Err → String → Err
  /-- `errors.Is(err, sniff.ErrNeedMoreData)`. -/
  isNeedMoreData : Err → Bool
  /-- `E.IsTimeout`. -/
  isTimeout : Err → Bool
  /-- `io.ErrShortBuffer`. -/
  shortBuffer : Err

/-- `adapter.InboundContext`, with the fields that the router writes while it matches. -/
structure RouteContext (lib : SniffLibrary) extends InboundContext where
  sniffContext : Option lib.SniffContext := none
  snifferNames : List Bytes := []
  sniffError : Option lib.Err := none
  (originDestination routeOriginalDestination : Socksaddr := {})
  (udpDisableDomainUnmapping udpConnect : Bool := false)
  udpTimeout : Int := 0
  tlsFragment : Bool := false
  tlsFragmentFallbackDelay : Int := 0
  tlsRecordFragment : Bool := false
  networkStrategy : Option UInt8 := none
  (networkType fallbackNetworkType : List UInt8 := [])
  fallbackDelay : Int := 0
  (fakeIP destOverride : Bool := false)

/-- A sniffer, on the bytes of a stream so far or on a packet; `none` is success. -/
abbrev Sniffer (lib : SniffLibrary) := RouteContext lib → Bytes → Option lib.Err × RouteContext lib

/-- The sniffers that an action without a selection uses. -/
structure Sniffers (lib : SniffLibrary) where
  (tlsClientHello httpHost streamDomainNameQuery bitTorrent ssh rdp domainNameQuery quicClientHello : Sniffer lib)
  (quicShortHeader stunMessage utp udpTracker dtlsRecord ntp : Sniffer lib)

/-- `RuleActionSniff`; the timeout is part of the turns of the connection. -/
structure RuleActionSniff (lib : SniffLibrary) where
  snifferNames : List Bytes := []
  (streamSniffers packetSniffers : List (Sniffer lib) := [])

/-! ### Connections -/

/-- One turn of a stream: what `SetReadDeadline` and then `Read` give. -/
structure StreamTurn (lib : SniffLibrary) where
  deadlineError : Option lib.Err := none
  data : Bytes := []
  readError : Option lib.Err := none

/-- `net.Conn`: the turns to come, and what has been read. -/
structure StreamConn (lib : SniffLibrary) where
  turns : List (StreamTurn lib)
  read : Bytes := []

structure PacketBuffer where
  buffer : Bytes
  destination : Socksaddr
  deriving DecidableEq

/-- One turn of a packet connection: a packet, an error of `ReadPacket`, or the end of the context. -/
inductive PacketTurn (lib : SniffLibrary) where
  | packet (packet : PacketBuffer)
  | failed (error : lib.Err)
  | done (error : lib.Err)

/-- `N.PacketConn`: the turns to come, and the packets that have been read. -/
structure PacketConn (lib : SniffLibrary) where
  turns : List (PacketTurn lib)
  read : List PacketBuffer := []

inductive Ended (lib : SniffLibrary) (α : Type) where
  | returned (result : α)
  | fatal (error : lib.Err)
  | waiting

section Sniffing

variable {lib : SniffLibrary}

/-! ### Streams -/

/-- The sniffers of one round of `PeekStream`, with the errors so far. -/
def sniffAll (data : Bytes) : List (Sniffer lib) → Option lib.Err → RouteContext lib →
    Bool × Option lib.Err × RouteContext lib
  | [], sniffError, metadata => (false, sniffError, metadata)
  | sniffer :: rest, sniffError, metadata =>
    match sniffer metadata data with
    | (none, metadata) => (true, none, metadata)
    | (some error, metadata) =>
      sniffAll data rest (lib.errors (sniffError.toList ++ [error])) metadata

/-- `Buffer.ReadOnceFrom`: what is added to the buffer, which may come with an error. -/
def readOnceFrom (size : Nat) (buffer : Bytes) (turn : StreamTurn lib) : Bytes × Option lib.Err :=
  if size ≤ buffer.length then ([], some lib.shortBuffer)
  else (turn.data.take (size - buffer.length), turn.readError)

/-- What `PeekStream` leaves. -/
structure Peeked (lib : SniffLibrary) where
  error : Option lib.Err
  metadata : RouteContext lib
  buffer : Bytes
  conn : StreamConn lib

/-- The rounds of `PeekStream`, into a buffer of the given size. The sniffers see the earlier buffers
and this one. -/
def peekStreamFrom (size : Nat) (buffers : List Bytes) (sniffers : List (Sniffer lib)) :
    (first : Bool) → Option lib.Err → RouteContext lib → Bytes → List (StreamTurn lib) → Bytes → Option (Peeked lib)
  | _, _, _, _, [], _ => none
  | first, sniffError, metadata, buffer, turn :: turns, read =>
    match turn.deadlineError with
    | some error =>
      some ⟨some (lib.cause error "set read deadline"), metadata, buffer, turns, read⟩
    | none =>
      let (data, error) := readOnceFrom size buffer turn
      match error with
      | some error =>
        let error := if first then some (lib.cause error "read payload") else sniffError
        some ⟨error, metadata, buffer ++ data, turns, read ++ data⟩
      | none =>
        let (success, sniffError, metadata) :=
          sniffAll (buffers.flatten ++ (buffer ++ data)) sniffers none metadata
        if success || !sniffError.any lib.isNeedMoreData then
          some ⟨sniffError, metadata, buffer ++ data, turns, read ++ data⟩
        else
          peekStreamFrom size buffers sniffers false sniffError metadata (buffer ++ data) turns (read ++ data)

/-- `PeekStream`, into a new buffer. -/
def peekStream (size : Nat) (buffers : List Bytes) (sniffers : List (Sniffer lib))
    (metadata : RouteContext lib) (conn : StreamConn lib) : Option (Peeked lib) :=
  peekStreamFrom size buffers sniffers true none metadata [] conn.turns conn.read

theorem peekStreamFrom_read {size : Nat} {buffers : List Bytes} {sniffers : List (Sniffer lib)}
    {turns : List (StreamTurn lib)} {first : Bool} {sniffError : Option lib.Err} {metadata : RouteContext lib}
    {buffer read before : Bytes} {peeked : Peeked lib} (start : read = before ++ buffer)
    (done : peekStreamFrom size buffers sniffers first sniffError metadata buffer turns read = some peeked) :
    peeked.conn.read = before ++ peeked.buffer := by
  fun_induction peekStreamFrom size buffers sniffers first sniffError metadata buffer turns read with
  | case1 => cases done
  | case2 => cases done; exact start
  | case3 | case4 => cases done; simp [start]
  | case5 _ _ _ _ _ _ _ _ _ _ _ _ _ _ _ ih => exact ih (by simp [start]) done

/-! ### Packets -/

/-- The sniffers of `PeekPacket`, with the errors so far. -/
def peekPacketFrom (packet : Bytes) : List (Sniffer lib) → List lib.Err → RouteContext lib →
    Option lib.Err × RouteContext lib
  | [], sniffError, metadata => (lib.errors sniffError, metadata)
  | sniffer :: rest, sniffError, metadata =>
    match sniffer metadata packet with
    | (none, metadata) => (none, metadata)
    | (some error, metadata) => peekPacketFrom packet rest (sniffError ++ [error]) metadata

def peekPacket (packet : Bytes) (sniffers : List (Sniffer lib)) (metadata : RouteContext lib) :
    Option lib.Err × RouteContext lib :=
  peekPacketFrom packet sniffers [] metadata

/-- What the router needs of its surroundings, whose state is a `World`. -/
structure Router (lib : SniffLibrary) (World : Type) where
  sniffers : Sniffers lib
  /-- The size of `buf.NewPacket()`. -/
  packetSize : Nat
  cacheQUICSniff : (source destination : Socksaddr) → Bytes → World → World
  lookupQUICSniff : (source destination : Socksaddr) → World → Option Bytes × World
  searchProcessInfo : InboundContext → World → Option ConnectionOwner × World
  /-- The fake-IP store, if there is one: `Contains` and `Lookup`. -/
  fakeIPContains : Addr → World → Bool
  fakeIPLookup : Addr → World → Option Bytes × World
  missingFakeIP : lib.Err
  /-- `LookupReverseMapping`. -/
  lookupReverseMapping : Addr → World → Option Bytes × World
  /-- There is an outbound of this tag and it is, or selects, one that passes. -/
  isPass : Bytes → World → Bool
  /-- `M.IsDomainName`. -/
  isDomainName : Bytes → Bool
  /-- `Socksaddr.IsValid`, `Socksaddr.IsDomain`, `Socksaddr.IsIPv4` and `Socksaddr.IsIPv6`. -/
  (isValid isDomain isIPv4 isIPv6 : Socksaddr → Bool)
  /-- The DNS server is there, and `Lookup`, for the server and the strategy of a resolve action. -/
  hasTransport : Bytes → World → Bool
  missingTransport : Bytes → lib.Err
  lookup : (server : Bytes) → (strategy : UInt8) → InboundContext → Bytes → World → Except lib.Err (List Addr) × World

variable {World : Type} (router : Router lib World)

def quicMoreData (action : RuleActionSniff lib) (metadata : RouteContext lib) : Bool :=
  decide (metadata.snifferNames = action.snifferNames) && metadata.sniffError.any lib.isNeedMoreData

def packetSniffers (action : RuleActionSniff lib) : List (Sniffer lib) :=
  if action.packetSniffers.length > 0 then action.packetSniffers
  else [router.sniffers.domainNameQuery, router.sniffers.quicClientHello,
    router.sniffers.quicShortHeader, router.sniffers.stunMessage, router.sniffers.utp,
    router.sniffers.udpTracker, router.sniffers.dtlsRecord, router.sniffers.ntp]

def streamSniffers (action : RuleActionSniff lib) : List (Sniffer lib) :=
  if action.streamSniffers.length > 0 then action.streamSniffers
  else [router.sniffers.tlsClientHello, router.sniffers.httpHost,
    router.sniffers.streamDomainNameQuery, router.sniffers.bitTorrent, router.sniffers.ssh,
    router.sniffers.rdp]

def sniffPacket (action : RuleActionSniff lib) (packet : PacketBuffer) (metadata : RouteContext lib) :
    Option lib.Err × RouteContext lib :=
  let (error, metadata) :=
    if quicMoreData action metadata then
      peekPacket packet.buffer [router.sniffers.quicClientHello] metadata
    else peekPacket packet.buffer (packetSniffers router action) metadata
  (error, { metadata with snifferNames := action.snifferNames, sniffError := error })

/-- What the packets that were read before lead to. -/
inductive Examined (lib : SniffLibrary) where
  | needMoreData (metadata : RouteContext lib)
  | decided (error : Option lib.Err) (metadata : RouteContext lib)

def examineAgain (action : RuleActionSniff lib) : List PacketBuffer → RouteContext lib → Examined lib
  | [], metadata => .needMoreData metadata
  | packet :: rest, metadata =>
    let (error, metadata) := sniffPacket router action packet metadata
    if error.any lib.isNeedMoreData then examineAgain action rest metadata
    else .decided error metadata

structure ReadOn (lib : SniffLibrary) where
  error : Option lib.Err
  packetBuffers : List PacketBuffer
  metadata : RouteContext lib
  conn : PacketConn lib

/-- The loop that reads packets, up to the first that decides. -/
def readOn (action : RuleActionSniff lib) : List (PacketTurn lib) → List PacketBuffer →
    List PacketBuffer → RouteContext lib → Ended lib (ReadOn lib)
  | [], _, _, _ => .waiting
  | .done error :: _, _, _, _ => .fatal error
  | .failed error :: turns, read, packetBuffers, metadata =>
    if lib.isTimeout error then .returned ⟨some error, packetBuffers, metadata, turns, read⟩
    else .fatal error
  | .packet packet :: turns, read, packetBuffers, metadata =>
    let (error, metadata) := sniffPacket router action packet metadata
    if error.any lib.isNeedMoreData then
      readOn action turns (read ++ [packet]) (packetBuffers ++ [packet]) metadata
    else .returned ⟨error, packetBuffers ++ [packet], metadata, turns, read ++ [packet]⟩

def protocolQUIC : Bytes := [0x71, 0x75, 0x69, 0x63]

/-- The end of the packet path, at the label `finally`. -/
def sniffFinally (error : Option lib.Err) (metadata : RouteContext lib) (world : World) : RouteContext lib × World :=
  if error.isNone && decide (metadata.protocol = protocolQUIC) then
    if metadata.sniffHost ≠ [] then
      (metadata, router.cacheQUICSniff metadata.source metadata.destination metadata.sniffHost world)
    else
      let (sniffHost, world) := router.lookupQUICSniff metadata.source metadata.destination world
      ({ metadata with sniffHost := sniffHost.getD metadata.sniffHost }, world)
  else (metadata, world)

/-! ### The action -/

/-- The connection that is routed: `inputConn`, `inputPacketConn`, or neither. -/
inductive InputConn (lib : SniffLibrary) where
  | stream (conn : StreamConn lib)
  | packet (conn : PacketConn lib)
  | neither

/-- What `actionSniff` returns and leaves. -/
structure Sniffed (lib : SniffLibrary) (World : Type) where
  buffer : Option Bytes := none
  packetBuffers : List PacketBuffer := []
  metadata : RouteContext lib
  world : World
  conn : InputConn lib

/-- `sniff.Skip`: the protocols in which the server speaks first. -/
def Skip (metadata : RouteContext lib) : Bool :=
  metadata.destination.port ∈ ([25, 465, 587, 143, 993, 110, 995] : List UInt16)

def sniffSkipped (action : RuleActionSniff lib) (own other : List (Sniffer lib)) (metadata : RouteContext lib) : Bool :=
  (own.length = 0 && other.length > 0) ||
    (decide (metadata.snifferNames = action.snifferNames) && metadata.sniffError.isSome &&
      !metadata.sniffError.any lib.isNeedMoreData)

/-- `actionSniff` on a stream. -/
def actionSniffStream (action : RuleActionSniff lib) (metadata : RouteContext lib) (world : World)
    (conn : StreamConn lib) (inputBuffers : List Bytes) : Ended lib (Sniffed lib World) :=
  if sniffSkipped action action.streamSniffers action.packetSniffers metadata then
    .returned { metadata := metadata, world := world, conn := .stream conn }
  else
    match peekStream router.packetSize inputBuffers (streamSniffers router action) metadata conn with
    | none => .waiting
    | some peeked =>
      .returned
        { buffer := if peeked.buffer = [] then none else some peeked.buffer
          metadata := { peeked.metadata with
            snifferNames := action.snifferNames, sniffError := peeked.error }
          world := world
          conn := .stream peeked.conn }

/-- `actionSniff` on a packet connection. -/
def actionSniffPacket (action : RuleActionSniff lib) (metadata : RouteContext lib) (world : World)
    (conn : PacketConn lib) (inputPacketBuffers : List PacketBuffer) :
    Ended lib (Sniffed lib World) :=
  if sniffSkipped action action.packetSniffers action.streamSniffers metadata then
    .returned { metadata := metadata, world := world, conn := .packet conn }
  else
    match examineAgain router action inputPacketBuffers metadata with
    | .decided error metadata =>
      let (metadata, world) := sniffFinally router error metadata world
      .returned { metadata := metadata, world := world, conn := .packet conn }
    | .needMoreData metadata =>
      -- the packets that were given become part of the answer
      match readOn router action conn.turns conn.read inputPacketBuffers metadata with
      | .waiting => .waiting
      | .fatal error => .fatal error
      | .returned on =>
        let (metadata, world) := sniffFinally router on.error on.metadata world
        .returned
          { packetBuffers := on.packetBuffers
            metadata := metadata
            world := world
            conn := .packet on.conn }

def actionSniff (action : RuleActionSniff lib) (metadata : RouteContext lib) (world : World)
    (conn : InputConn lib) (inputBuffers : List Bytes) (inputPacketBuffers : List PacketBuffer) :
    Ended lib (Sniffed lib World) :=
  if Skip metadata || decide (metadata.protocol ≠ []) then
    .returned { metadata := metadata, world := world, conn := conn }
  else
    match conn with
    | .stream conn => actionSniffStream router action metadata world conn inputBuffers
    | .packet conn => actionSniffPacket router action metadata world conn inputPacketBuffers
    | .neither => .returned { metadata := metadata, world := world, conn := .neither }

/-! ### What an action hands back -/

namespace InputConn

def readBytes : InputConn lib → Bytes
  | .stream conn => conn.read
  | _ => []

def readPackets : InputConn lib → List PacketBuffer
  | .packet conn => conn.read
  | _ => []

end InputConn

/-- **The packets of before decide nothing**: an action that is not skipped needs more data after all
of them. -/
def undecided (action : RuleActionSniff lib) (metadata : RouteContext lib) (conn : InputConn lib)
    (inputPacketBuffers : List PacketBuffer) : Bool :=
  !(Skip metadata || decide (metadata.protocol ≠ [])) &&
    match conn with
    | .packet _ =>
      !sniffSkipped action action.packetSniffers action.streamSniffers metadata &&
        match examineAgain router action inputPacketBuffers metadata with
        | .needMoreData _ => true
        | .decided _ _ => false
    | _ => false

variable {action : RuleActionSniff lib}

theorem readOn_read {turns : List (PacketTurn lib)} {read packetBuffers : List PacketBuffer}
    {metadata : RouteContext lib} {on : ReadOn lib}
    (done : readOn router action turns read packetBuffers metadata = .returned on) :
    ∃ more, on.conn.read = read ++ more ∧ on.packetBuffers = packetBuffers ++ more := by
  fun_induction readOn router action turns read packetBuffers metadata with
  | case1 | case2 | case4 => cases done
  | case3 => cases done; exact ⟨[], (append_nil _).symm, (append_nil _).symm⟩
  | case5 packet _ _ _ _ _ _ _ _ ih =>
    obtain ⟨more, readMore, buffersMore⟩ := ih done
    refine ⟨packet :: more, ?_, ?_⟩
    · rw [readMore, append_assoc, singleton_append]
    · rw [buffersMore, append_assoc, singleton_append]
  | case6 packet => cases done; exact ⟨[packet], rfl, rfl⟩

variable {inputPacketBuffers : List PacketBuffer} {sniffed : Sniffed lib World}
  {metadata : RouteContext lib} {inputBuffers : List Bytes}

theorem actionSniff_stream {world : World} {conn : StreamConn lib}
    (done : actionSniff router action metadata world (.stream conn) inputBuffers inputPacketBuffers =
      .returned sniffed) : ∃ after, sniffed.conn = .stream after ∧ sniffed.packetBuffers = [] ∧
      after.read = conn.read ++ sniffed.buffer.getD [] := by
  unfold actionSniff at done
  split at done
  · cases done
    exact ⟨conn, rfl, rfl, (append_nil _).symm⟩
  unfold actionSniffStream at done
  dsimp only at done
  split at done
  · cases done
    exact ⟨conn, rfl, rfl, (append_nil _).symm⟩
  split at done
  · cases done
  rename_i peeked peek
  cases done
  refine ⟨peeked.conn, rfl, rfl, ?_⟩
  have read := peekStreamFrom_read (append_nil _).symm peek
  split
  · rename_i empty
    rw [read, empty]
    rfl
  · exact read

/-- **On a packet connection**, an action that the packets of before leave undecided hands them back
again, in front of the ones it has read; any other hands back nothing and reads nothing. -/
theorem actionSniff_packet {world : World} {conn : PacketConn lib}
    (done : actionSniff router action metadata world (.packet conn) inputBuffers inputPacketBuffers =
      .returned sniffed) : ∃ after more, sniffed.conn = .packet after ∧ sniffed.buffer = none ∧
      after.read = conn.read ++ more ∧ if undecided router action metadata (.packet conn) inputPacketBuffers then
        sniffed.packetBuffers = inputPacketBuffers ++ more else sniffed.packetBuffers = [] ∧ more = [] := by
  unfold actionSniff at done
  unfold undecided
  split at done
  · rename_i skipped
    cases done
    refine ⟨conn, [], rfl, rfl, (append_nil _).symm, ?_⟩
    rw [skipped]
    exact ⟨rfl, rfl⟩
  rename_i asked
  rw [Bool.eq_false_iff.mpr asked]
  have done : actionSniffPacket router action metadata world conn inputPacketBuffers = .returned sniffed := done
  revert done
  fun_cases actionSniffPacket router action metadata world conn inputPacketBuffers with
  | case1 skipped | case2 _ _ _ skipped =>
    rintro ⟨⟩
    refine ⟨conn, [], rfl, rfl, (append_nil _).symm, ?_⟩
    simp [skipped]
  | case3 | case4 => rintro ⟨⟩
  | case5 wanted context more on reads =>
    rintro ⟨⟩
    obtain ⟨packets, readMore, buffersMore⟩ := readOn_read router reads
    refine ⟨on.conn, packets, rfl, rfl, readMore, ?_⟩
    simpa [wanted, more] using buffersMore

/-- **What an action hands back, against what it has read.** -/
theorem actionSniff_collects {world : World} {conn : InputConn lib}
    (done : actionSniff router action metadata world conn inputBuffers inputPacketBuffers =
      .returned sniffed) : sniffed.conn.readBytes = conn.readBytes ++ sniffed.buffer.getD [] ∧
      ∃ more, sniffed.conn.readPackets = conn.readPackets ++ more ∧ (sniffed.buffer ≠ none → more = []) ∧
        if undecided router action metadata conn inputPacketBuffers then
          sniffed.buffer = none ∧ sniffed.packetBuffers = inputPacketBuffers ++ more
        else sniffed.packetBuffers = [] ∧ more = [] := by
  cases conn with
  | stream conn =>
    obtain ⟨after, same, packetBuffers, read⟩ := actionSniff_stream router done
    have quiet : undecided router action metadata (.stream conn) inputPacketBuffers = false :=
      Bool.and_false _
    rw [same, quiet]
    exact ⟨read, [], rfl, fun _ => rfl, packetBuffers, rfl⟩
  | packet conn =>
    obtain ⟨after, more, same, buffer, read, packetBuffers⟩ := actionSniff_packet router done
    rw [same, buffer]
    refine ⟨rfl, more, read, fun some => absurd rfl some, ?_⟩
    split_ifs at packetBuffers ⊢ with left
    · exact ⟨rfl, packetBuffers⟩
    · exact packetBuffers
  | neither =>
    have quiet : undecided router action metadata .neither inputPacketBuffers = false :=
      Bool.and_false _
    have kept : sniffed.conn = .neither ∧ sniffed.packetBuffers = [] ∧ sniffed.buffer = none := by
      unfold actionSniff at done
      split at done
      · cases done
        exact ⟨rfl, rfl, rfl⟩
      · cases done
        exact ⟨rfl, rfl, rfl⟩
    rw [kept.1, kept.2.2, quiet]
    exact ⟨rfl, [], rfl, fun _ => rfl, kept.2.1, rfl⟩

end Sniffing

end SingBox.Route
