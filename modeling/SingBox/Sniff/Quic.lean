/-
**Sniffing QUIC** (`common/sniff/quic.go`, `common/sniff/internal/qtls/qtls.go`).

`quicClientHello` takes off the protection of an Initial packet, collects the CRYPTO frames of the payload, puts the
fragments that it has so far into a TLS record and has it parsed. If the ClientHello is not complete then the
fragments are kept for the next packet. The keys are a parameter, and may give any payload of the right length.

The code does not check three things: that a CRYPTO frame ends within the packet, that a fragment has a length (the
search for the next fragment finds an empty one again and again), and that a list in the ClientHello fits into its
extension.
-/

import SingBox.Sniff.Ja3

namespace SingBox.Sniff

open SingBox.Lib SingBox.Lib.Checked

/-! ### Reading -/

/-- `qtls.ReadUvarint`: the first two bits are the length, the others begin a 62-bit number. -/
def qtlsReadUvarint : Reader (BitVec 62) := do
  let firstByte ← readByte
  let rest ← readFull (2 ^ (firstByte.toNat / 64) - 1)
  return BitVec.ofNat 62 (ofBigEndian (UInt8.ofNat (firstByte.toNat % 64) :: rest))

def skipUvarints : Nat → Reader Unit
  | 0 => pure ()
  | count + 1 => do
    let _ ← qtlsReadUvarint
    skipUvarints count

def Shrinks {α : Type} (reader : Reader α) : Prop :=
  ∀ input value rest, reader input = .ok (value, rest) → rest.length ≤ input.length

namespace Shrinks

variable {α β : Type}

theorem pure (value : α) : Shrinks (Pure.pure value) := by
  intro input other rest done
  cases done
  exact le_refl _

theorem throw (error : Error) : Shrinks (MonadExcept.throw error : Reader α) := by
  intro input other rest done
  cases done

theorem bind {reader : Reader α} {next : α → Reader β} (first : Shrinks reader)
    (second : ∀ value, Shrinks (next value)) : Shrinks (reader >>= next) := by
  intro input value rest done
  have steps : (reader input >>= fun pair => next pair.1 pair.2) = .ok (value, rest) := done
  obtain ⟨pair, start, later⟩ := bind_eq_ok_iff.mp steps
  exact le_trans (second pair.1 pair.2 value rest later) (first input pair.1 pair.2 start)

theorem readByte : Shrinks Lib.readByte := by
  intro input value rest done
  cases input with
  | nil => cases done
  | cons byte input =>
    cases done
    exact Nat.le_succ _

theorem readFull (n : Nat) : Shrinks (Lib.readFull n) := by
  intro input value rest done
  unfold Lib.readFull at done
  split at done
  · cases done
  · cases done
    rw [List.length_drop]
    exact Nat.sub_le _ _

theorem qtlsReadUvarint : Shrinks Sniff.qtlsReadUvarint :=
  readByte.bind fun _ => (readFull _).bind fun _ => pure _

theorem skipUvarints (count : Nat) : Shrinks (Sniff.skipUvarints count) := by
  induction count with
  | zero => exact pure ()
  | succ count ih => exact qtlsReadUvarint.bind fun _ => ih

end Shrinks

/-! ### The packet -/

/-- The errors of `QUICClientHello`. -/
inductive QUICError where
  | err (error : Error)
  | decrypt
  /-- `E.Cause1(ErrNeedMoreData, err)`. -/
  | needMoreData (cause : ParseError)
  deriving DecidableEq

/-- **The keys of Initial packets.** They take off the header protection and open the payload, which is
as long as the data without the tag. -/
structure InitialKeys where
  /-- The mask for a sample, with the version and the connection ID. -/
  mask : Nat → Bytes → Bytes → Nat → UInt8
  /-- `Open`, with the packet number, the data and the header. -/
  openData : Nat → Bytes → Nat → Bytes → Bytes → Option Bytes
  length_openData : ∀ {version destConnID packetNumber data header decrypted},
    openData version destConnID packetNumber data header = some decrypted → decrypted.length + 16 = data.length

def versionDraft29 : Nat := 0xff00001d
def version1 : Nat := 0x1
def version2 : Nat := 0x6b3343cf

structure Header where
  typeByte : UInt8
  versionNumber : Nat
  destConnID : Bytes
  packetLen : Nat

def readHeader : Reader Header := do
  let typeByte ← readByte
  if typeByte &&& 0x40 = 0 then throw (.new "bad type byte")
  let versionNumber ← readUint 4
  if versionNumber ≠ versionDraft29 ∧ versionNumber ≠ version1 ∧ versionNumber ≠ version2 then
    throw (.new "bad version")
  let packetType := (typeByte &&& 0x30) >>> 4
  if packetType = 0 ∧ versionNumber = version2 ∨ packetType = 2 ∧ versionNumber ≠ version2 ∨ packetType > 2 then
    throw (.new "bad packet type")
  let destConnIDLen ← readByte
  if destConnIDLen = 0 ∨ destConnIDLen > 20 then
    throw (.new "bad destination connection id length")
  let destConnID ← readFull destConnIDLen.toNat
  let srcConnIDLen ← readByte
  let _ ← readFull srcConnIDLen.toNat
  let tokenLen ← qtlsReadUvarint
  let _ ← readFull tokenLen.toNat
  let packetLen ← qtlsReadUvarint
  return ⟨typeByte, versionNumber, destConnID, packetLen.toNat⟩

def lift {α : Type} : Except Error α → Checked QUICError α
  | .ok value => .ok value
  | .error error => fail (.err error)

/-- The decrypted payload: `decrypted` is a slice of this length at the front of this memory, which is
the rest of the packet's copy. -/
structure Payload where
  memory : Bytes
  size : Nat

/-- The first part of `QUICClientHello`, up to the frames. -/
def openPacket (keys : InitialKeys) (packet : Bytes) : Checked QUICError Payload := do
  let (header, rest) ← lift (readHeader packet)
  let hdrLen := packet.length - rest.length
  ensure (hdrLen + header.packetLen ≤ packet.length) (.err .invalid)
  ensure (4 ≤ rest.length) (.err .eof)
  ensure (16 ≤ (rest.drop 4).length) (.err .eof)
  let mask := keys.mask header.versionNumber header.destConnID ((rest.drop 4).take 16)
  let first ← elem packet 0
  let first := first ^^^ (mask 0 &&& 0xf)
  let protected4 ← slice packet hdrLen (hdrLen + 4)
  let number := protected4.mapIdx fun i byte => byte ^^^ mask (i + 1)
  let packetNumberLength := (first &&& 0x3).toNat + 1
  ensure (hdrLen + packetNumberLength ≤ header.packetLen + hdrLen) (.err .invalid)
  let extHdrLen := hdrLen + packetNumberLength
  let tail ← sliceFrom packet extHdrLen
  let newPacket := (packet.set 0 first).take hdrLen ++ number.take packetNumberLength ++ tail
  let data ← slice newPacket extHdrLen (header.packetLen + hdrLen)
  match keys.openData header.versionNumber header.destConnID
      (ofBigEndian (number.take packetNumberLength)) data (newPacket.take extHdrLen) with
  | none => fail .decrypt
  | some decrypted =>
    return ⟨decrypted ++ newPacket.drop (extHdrLen + decrypted.length), decrypted.length⟩

/-! ### The frames -/

/-- `qCryptoFragment`; the numbers are varints. -/
structure QCryptoFragment where
  (offset length : BitVec 62)
  payload : Bytes
  deriving DecidableEq

/-- What a frame means for the loop: nothing more, a fragment, or bytes to leave out. -/
inductive Frame where
  | plain
  | crypto (offset length : BitVec 62)
  | skip (length : BitVec 62)

/-- The fields of a frame (the `switch` of the frame loop). -/
def readFrame (frameType : UInt8) : Reader Frame :=
  if frameType = 0x00 ∨ frameType = 0x01 then pure .plain
  else if frameType = 0x02 ∨ frameType = 0x03 then do
    skipUvarints 2
    let ackRangeCount ← qtlsReadUvarint
    skipUvarints 1
    skipUvarints (2 * ackRangeCount.toNat)
    if frameType = 0x03 then skipUvarints 3
    return .plain
  else if frameType = 0x06 then do
    let offset ← qtlsReadUvarint
    let length ← qtlsReadUvarint
    return .crypto offset length
  else if frameType = 0x1c then do
    skipUvarints 2
    let length ← qtlsReadUvarint
    return .skip length
  else throw .invalid

def frameLoop (payload : Payload) : (fuel : Nat) → Bytes → List UInt8 → List QCryptoFragment →
    Checked QUICError (List UInt8 × List QCryptoFragment)
  | _, [], frameTypeList, fragments => .ok (frameTypeList, fragments)
  | 0, _ :: _, _, _ => .error .loops
  | fuel + 1, frameType :: rest, frameTypeList, fragments =>
    match readFrame frameType rest with
    | .error error => fail (.err error)
    | .ok (.plain, rest) => frameLoop payload fuel rest (frameTypeList ++ [frameType]) fragments
    | .ok (.skip length, rest) =>
      frameLoop payload fuel (rest.drop length.toNat) (frameTypeList ++ [frameType]) fragments
    | .ok (.crypto offset length, rest) => do
      let index := payload.size - rest.length
      let fragment ← slice payload.memory index (index + length.toNat)
      frameLoop payload fuel (rest.drop length.toNat) (frameTypeList ++ [frameType])
        (fragments ++ [⟨offset, length, fragment⟩])

def readFrames (payload : Payload) : Checked QUICError (List UInt8 × List QCryptoFragment) :=
  frameLoop payload payload.size (payload.memory.take payload.size) [] []

/-! ### The reassembly -/

def findFragment (fragments : List QCryptoFragment) (index : Nat) : Option QCryptoFragment :=
  fragments.find? fun fragment => fragment.offset.toNat == index

/-- Where a fragment ends; two 62-bit numbers do not overflow a `uint64`. -/
def QCryptoFragment.stop (fragment : QCryptoFragment) : Nat :=
  fragment.offset.toNat + fragment.length.toNat

/-- The fragments that the loop `find` puts together, in this order. -/
def chain (fragments : List QCryptoFragment) : (fuel : Nat) → (index : Nat) → Option (List QCryptoFragment)
  | 0, _ => none
  | fuel + 1, index =>
    match findFragment fragments index with
    | none => some []
    | some fragment => (chain fragments fuel fragment.stop).map (fragment :: ·)

/-- `frameLen`, a `uint64`. -/
def frameLen (fragments : List QCryptoFragment) : Nat :=
  (fragments.map fun fragment => fragment.length.toNat).sum % 2 ^ 64

/-- `5 + int(frameLen)`. -/
def bufferSize (fragments : List QCryptoFragment) : Int :=
  (BitVec.ofNat 64 (5 + frameLen fragments)).toInt

/-- `Buffer.Write` into a buffer of the given size. -/
def write (size : Nat) (buffer data : Bytes) : Bytes := buffer ++ data.take (size - buffer.length)

def recordOf (fragments found : List QCryptoFragment) : Bytes :=
  let size := (bufferSize fragments).toNat
  let header : Bytes := [0x16, 0x03, 0x03] ++ bigEndian 2 (frameLen fragments)
  (found.map QCryptoFragment.payload).foldl (write size) (write size [] header)

/-- The record of the fragments, if the search ends. -/
def assemble (fuel : Nat) (fragments : List QCryptoFragment) : Checked QUICError Bytes :=
  if bufferSize fragments < 0 then .error .panic
  else
    match chain fragments fuel 0 with
    | none => .error .loops
    | some found => .ok (recordOf fragments found)

/-! ### The client -/

/-- The fields of the metadata that `QUICClientHello` reads and writes. -/
structure QUICMetadata where
  (protocol sniffHost client : Bytes := [])
  sniffContext : Option (List QCryptoFragment) := none
  deriving DecidableEq

def protocolQUIC : Bytes := [0x71, 0x75, 0x69, 0x63]
def clientChromium : Bytes := [0x63, 0x68, 0x72, 0x6F, 0x6D, 0x69, 0x75, 0x6D]
def clientSafari : Bytes := [0x73, 0x61, 0x66, 0x61, 0x72, 0x69]
def clientFirefox : Bytes := [0x66, 0x69, 0x72, 0x65, 0x66, 0x6F, 0x78]
def clientQUICGo : Bytes := [0x71, 0x75, 0x69, 0x63, 0x2D, 0x67, 0x6F]
def clientUnknown : Bytes := [0x75, 0x6E, 0x6B, 0x6E, 0x6F, 0x77, 0x6E]

def isZero (bytes : List UInt8) : Bool := bytes.all (· == 0)

def isQUICGo (fingerprint : ClientHello) : Bool :=
  fingerprint.ellipticCurves.contains 0x11EC || fingerprint.extensions.contains 0xFF01

def greaseFirst (count : Nat) (numbers : List Nat) : Bool :=
  numbers.length == count && numbers.head?.any fun first => first &&& 0x0F0F == 0x0A0A

def isSafari (fingerprint : ClientHello) : Bool :=
  (greaseFirst 2 fingerprint.versions && greaseFirst 5 fingerprint.ellipticCurves) ||
    (fingerprint.cipherSuites == [0x1302] && fingerprint.ellipticCurves == [29] &&
      fingerprint.signatureAlgorithms == [0x0403])

def clientOf (frameTypeList : List UInt8) (fingerprint : ClientHello) : Checked QUICError Bytes := do
  if frameTypeList.length = 1 then return clientFirefox
  let first ← elem frameTypeList 0
  let rest ← sliceFrom frameTypeList 1
  if first = 0x06 ∧ isZero rest ∧ isSafari fingerprint then return clientSafari
  let last ← elem frameTypeList (frameTypeList.length - 1)
  if last = 0x06 ∧ isZero frameTypeList.dropLast then return clientQUICGo
  if frameTypeList.count 0x06 > 1 ∨ frameTypeList.count 0x01 > 0 then
    return if isQUICGo fingerprint then clientQUICGo else clientChromium
  return clientUnknown

/-! ### The sniffer -/

def decode (keys : InitialKeys) (packet : Bytes) : Checked QUICError (List UInt8 × List QCryptoFragment) := do
  let payload ← openPacket keys packet
  readFrames payload

/-- The last part of `QUICClientHello`, with the record of the fragments that there are. The metadata are
changed even if an error is returned. -/
def identify (frameTypeList : List UInt8) (fragments : List QCryptoFragment)
    (metadata : QUICMetadata) (record : Bytes) :
    Checked QUICError (Option QUICError × QUICMetadata) :=
  let metadata := { metadata with protocol := protocolQUIC, sniffContext := none }
  match compute record with
  | .error (.error error) =>
    .ok (some (.needMoreData error), { metadata with sniffContext := some fragments })
  | .error .panic => .error .panic
  | .error .loops => .error .loops
  | .ok fingerprint =>
    let metadata := { metadata with sniffHost := fingerprint.serverName }
    if metadata.client = [] then do
      let client ← clientOf frameTypeList fingerprint
      return (none, { metadata with client := client })
    else .ok (none, metadata)

/-- `QUICClientHello`: the error that it returns, and what it leaves in the metadata. An error before
the frames have been read leaves the metadata alone. -/
def quicClientHello (keys : InitialKeys) (fuel : Nat) (packet : Bytes) (metadata : QUICMetadata) :
    Checked QUICError (Option QUICError × QUICMetadata) :=
  match decode keys packet with
  | .error (.error error) => .ok (some error, metadata)
  | .error .panic => .error .panic
  | .error .loops => .error .loops
  | .ok (frameTypeList, fragments) => do
    let fragments := fragments ++ metadata.sniffContext.getD []
    let record ← assemble fuel fragments
    identify frameTypeList fragments metadata record

/-- The calls for a sequence of packets, with one metadata. -/
def quicClientHellos (keys : InitialKeys) (fuel : Nat) : List Bytes → QUICMetadata →
    Checked QUICError (List (Option QUICError) × QUICMetadata)
  | [], metadata => .ok ([], metadata)
  | packet :: packets, metadata => do
    let first ← quicClientHello keys fuel packet metadata
    let rest ← quicClientHellos keys fuel packets first.2
    return (first.1 :: rest.1, rest.2)

/-! ### The packet is opened -/

theorem shrinks_guard {α : Type} {condition : Prop} [decidable : Decidable condition] {error : Error}
    {next : PUnit → Reader α} (rest : ∀ it, Shrinks (next it)) :
    Shrinks (@ite _ condition decidable ((MonadExcept.throw error : Reader PUnit) >>= next) (next PUnit.unit)) := by
  split_ifs with stops
  · exact (Shrinks.throw error).bind rest
  · exact rest .unit

theorem shrinks_readHeader : Shrinks readHeader := by
  refine Shrinks.readByte.bind fun _ => ?_
  refine shrinks_guard fun _ => ?_
  refine .bind ((Shrinks.readFull 4).bind fun _ => .pure _) fun _ => ?_
  refine shrinks_guard fun _ => ?_
  refine shrinks_guard fun _ => ?_
  refine Shrinks.readByte.bind fun _ => ?_
  refine shrinks_guard fun _ => ?_
  refine (Shrinks.readFull _).bind fun _ => ?_
  refine Shrinks.readByte.bind fun _ => ?_
  refine (Shrinks.readFull _).bind fun _ => ?_
  refine Shrinks.qtlsReadUvarint.bind fun _ => ?_
  refine (Shrinks.readFull _).bind fun _ => ?_
  exact Shrinks.qtlsReadUvarint.bind fun _ => .pure _

theorem meets_lift {α : Type} {result : Except Error α} {post : α → Prop}
    (holds : ∀ value, result = .ok value → post value) : Meets post (lift result) := by
  cases result with
  | ok value => exact holds value rfl
  | error error => trivial

/-- **The checks of the header cover every access.** -/
theorem returns_openPacket (keys : InitialKeys) (packet : Bytes) : Returns (openPacket keys packet) := by
  refine meets_bind_iff.mpr (meets_lift fun pair read => ?_)
  obtain ⟨header, rest⟩ := pair
  have shorter := shrinks_readHeader packet header rest read
  refine .ensure fun whole => ?_
  refine .ensure fun _ => ?_
  refine .ensure fun sample => ?_
  refine .elem (by omega) ?_
  refine .slice (by omega) (by omega) ?_
  refine .ensure fun number => ?_
  refine .sliceFrom (by omega) ?_
  refine meets_bind_iff.mpr (meets_slice_iff.mpr ⟨⟨by omega, ?_⟩, ?_⟩)
  · have short (byte : UInt8) : (byte &&& 0x3).toNat ≤ 3 := by
      exact Nat.and_le_right
    have short := short (packet[0] ^^^
      (keys.mask header.versionNumber header.destConnID ((rest.drop 4).take 16) 0 &&& 0xf))
    simp only [List.length_append, List.length_take, List.length_set, List.length_mapIdx, List.length_drop]
    omega
  · split <;> trivial

/-! ### The frames are read -/

theorem shrinks_readFrame (frameType : UInt8) : Shrinks (readFrame frameType) := by
  unfold readFrame
  split
  · exact .pure _
  split
  · refine (Shrinks.skipUvarints 2).bind fun _ => ?_
    refine Shrinks.qtlsReadUvarint.bind fun _ => ?_
    refine (Shrinks.skipUvarints 1).bind fun _ => ?_
    refine (Shrinks.skipUvarints _).bind fun _ => ?_
    split
    · exact (Shrinks.skipUvarints 3).bind fun _ => .pure _
    · exact .pure _
  split
  · exact Shrinks.qtlsReadUvarint.bind fun _ =>
      Shrinks.qtlsReadUvarint.bind fun _ => .pure _
  split
  · exact (Shrinks.skipUvarints 2).bind fun _ =>
      Shrinks.qtlsReadUvarint.bind fun _ => .pure _
  · exact .throw _

/-- Where the CRYPTO frames begin and how long they are, for those that the loop comes to: up to the
first that does not end within the memory. -/
def cryptoFrames (payload : Payload) : (fuel : Nat) → Bytes → List (Nat × Nat)
  | fuel + 1, frameType :: rest =>
    match readFrame frameType rest with
    | .ok (.plain, rest) => cryptoFrames payload fuel rest
    | .ok (.skip length, rest) => cryptoFrames payload fuel (rest.drop length.toNat)
    | .ok (.crypto _ length, rest) =>
      (payload.size - rest.length, length.toNat) ::
        if payload.size - rest.length + length.toNat ≤ payload.memory.length then
          cryptoFrames payload fuel (rest.drop length.toNat)
        else []
    | .error _ => []
  | _, _ => []

variable {fragments : List QCryptoFragment} {frameTypeList : List UInt8} {fuel index : Nat}
  {fragment : QCryptoFragment} {record packet : Bytes} {keys : InitialKeys} {metadata : QUICMetadata}
  {result : Option QUICError × QUICMetadata}

theorem returns_frameLoop_iff {payload : Payload} {rest : Bytes} (enough : rest.length ≤ fuel) :
    Returns (frameLoop payload fuel rest frameTypeList fragments) ↔
      ∀ frame ∈ cryptoFrames payload fuel rest, frame.1 + frame.2 ≤ payload.memory.length := by
  have dropped {n : Nat} {after rest : Bytes} (shorter : after.length ≤ rest.length) {fuel : Nat}
      (enough : rest.length + 1 ≤ fuel + 1) : (after.drop n).length ≤ fuel := by
    rw [List.length_drop]
    omega
  fun_induction frameLoop payload fuel rest frameTypeList fragments with
  | case1 fuel => cases fuel <;> exact iff_of_true trivial (List.forall_mem_nil _)
  | case2 => cases enough
  | case3 _ _ _ _ _ _ read => rw [cryptoFrames, read]; exact iff_of_true trivial (List.forall_mem_nil _)
  | case4 _ frameType rest _ _ after read ih =>
    rw [cryptoFrames, read]
    exact ih (le_trans (shrinks_readFrame frameType rest _ after read) (Nat.le_of_succ_le_succ enough))
  | case5 _ frameType rest _ _ length after read ih =>
    rw [cryptoFrames, read]
    exact ih (dropped (shrinks_readFrame frameType rest _ after read) enough)
  | case6 _ frameType rest _ _ offset length after read index ih =>
    rw [cryptoFrames, read, Returns, meets_bind_iff, meets_slice_iff, List.forall_mem_cons]
    by_cases fits : payload.size - after.length + length.toNat ≤ payload.memory.length
    · rw [if_pos fits]
      refine and_congr ?_ (ih _ (dropped (shrinks_readFrame frameType rest _ after read) enough))
      exact ⟨fun it => it.2, fun it => ⟨Nat.le_add_right _ _, it⟩⟩
    · exact iff_of_false (fun it => fits it.1.2) fun it => fits it.1

variable {found : List QCryptoFragment}

theorem frameLoop_types {payload : Payload} {rest : Bytes} {types : List UInt8}
    (done : frameLoop payload fuel rest frameTypeList fragments = .ok (types, found)) :
    found = fragments ∧ types = frameTypeList ∨ frameTypeList.length < types.length := by
  have later {before : List UInt8} {frameType : UInt8} {fragments : List QCryptoFragment}
      (next : found = fragments ∧ types = before ++ [frameType] ∨ (before ++ [frameType]).length < types.length) :
      before.length < types.length := by
    rcases next with ⟨-, same⟩ | more
    · simp [same]
    · exact lt_of_le_of_lt (by simp) more
  fun_induction frameLoop payload fuel rest frameTypeList fragments with
  | case1 => cases done; exact .inl ⟨rfl, rfl⟩
  | case2 | case3 => cases done
  | case4 _ _ _ _ _ _ _ ih | case5 _ _ _ _ _ _ _ _ ih => exact .inr (later (ih done))
  | case6 _ _ _ _ _ _ _ _ _ _ ih =>
    obtain ⟨fragment, -, done⟩ := bind_eq_ok_iff.mp done
    exact .inr (later (ih fragment done))

/-! ### The fragments are put together -/

inductive Reaches (fragments : List QCryptoFragment) : Nat → Prop where
  | start : Reaches fragments 0
  | next {index : Nat} {fragment : QCryptoFragment} (before : Reaches fragments index)
      (found : findFragment fragments index = some fragment) : Reaches fragments fragment.stop

/-- **The search arrives at an empty fragment.** -/
def Stuck (fragments : List QCryptoFragment) : Prop :=
  ∃ index fragment, Reaches fragments index ∧ findFragment fragments index = some fragment ∧ fragment.length = 0

theorem offset_of_findFragment (found : findFragment fragments index = some fragment) : fragment.offset.toNat = index :=
  beq_iff_eq.mp (List.find?_some (p := fun fragment : QCryptoFragment => fragment.offset.toNat == index) found)

theorem chain_succ_of_some (found : findFragment fragments index = some fragment) :
    chain fragments (fuel + 1) index = (chain fragments fuel fragment.stop).map (fragment :: ·) := by
  rw [chain, found]

section

variable {more : Nat}

theorem chain_mono (enough : fuel ≤ more) (done : chain fragments fuel index = some found) :
    chain fragments more index = some found := by
  induction fuel generalizing index found more with
  | zero => cases done
  | succ fuel ih =>
    obtain ⟨more, rfl⟩ := Nat.exists_eq_add_of_le' (le_trans (Nat.le_add_left 1 fuel) enough)
    cases first : findFragment fragments index with
    | none =>
      rw [chain, first] at done ⊢
      exact done
    | some fragment =>
      rw [chain_succ_of_some first] at done
      obtain ⟨rest, ends, same⟩ := Option.map_eq_some_iff.mp done
      rw [chain_succ_of_some first, ih (Nat.le_of_succ_le_succ enough) ends, Option.map_some, same]

theorem chain_of_empty (found : findFragment fragments index = some fragment)
    (empty : fragment.length = 0) (fuel : Nat) : chain fragments fuel index = none := by
  have back : fragment.stop = index := by
    rw [QCryptoFragment.stop, empty, offset_of_findFragment found]
    rfl
  induction fuel with
  | zero => rfl
  | succ fuel ih => rw [chain_succ_of_some found, back, ih, Option.map_none]

theorem chain_of_reaches (reaches : Reaches fragments index) (done : chain fragments fuel 0 = some found) :
    ∃ less rest, chain fragments less index = some rest := by
  induction reaches with
  | start => exact ⟨fuel, found, done⟩
  | next before first ih =>
    obtain ⟨less, rest, ends⟩ := ih
    cases less with
    | zero => cases ends
    | succ less =>
      rw [chain_succ_of_some first] at ends
      obtain ⟨rest, ends, -⟩ := Option.map_eq_some_iff.mp ends
      exact ⟨less, rest, ends⟩

def laterFragments (fragments : List QCryptoFragment) (index : Nat) : Nat :=
  fragments.countP fun fragment => decide (index ≤ fragment.offset.toNat)

theorem laterFragments_lt (found : findFragment fragments index = some fragment) (more : fragment.length ≠ 0) :
    laterFragments fragments fragment.stop < laterFragments fragments index := by
  have start := offset_of_findFragment found
  have positive : 0 < fragment.length.toNat := by
    rcases eq_zero_or_pos fragment.length.toNat with zero | positive
    · exact absurd (BitVec.eq_of_toNat_eq zero) more
    · exact positive
  have stop : fragment.stop = index + fragment.length.toNat := by rw [QCryptoFragment.stop, start]
  have fewer others : laterFragments others fragment.stop ≤ laterFragments others index := by
    refine List.countP_mono_left fun other _ later => ?_
    have later := of_decide_eq_true later
    exact decide_eq_true (by omega)
  obtain ⟨-, before, after, rfl, -⟩ := List.find?_eq_some_iff_append.mp found
  have left := fewer before
  have right := fewer after
  unfold laterFragments at left right ⊢
  rw [List.countP_append, List.countP_append, List.countP_cons_of_neg, List.countP_cons_of_pos]
  · omega
  · exact decide_eq_true (by omega)
  · rw [decide_eq_true_eq]
    omega

/-- **The search ends if it arrives at no empty fragment.** -/
theorem chain_of_not_stuck (free : ¬ Stuck fragments) (reaches : Reaches fragments index)
    (enough : laterFragments fragments index < fuel) : ∃ found, chain fragments fuel index = some found := by
  fun_induction chain fragments fuel index with
  | case1 => cases enough
  | case2 => exact ⟨[], rfl⟩
  | case3 fuel index fragment first ih =>
    have more : fragment.length ≠ 0 := fun empty => free ⟨index, fragment, reaches, first, empty⟩
    have fewer := laterFragments_lt first more
    obtain ⟨found, ends⟩ := ih (reaches.next first) (by omega)
    exact ⟨fragment :: found, by rw [ends, Option.map_some]⟩

theorem chain_ends_iff : (∃ fuel found, chain fragments fuel 0 = some found) ↔ ¬ Stuck fragments := by
  constructor
  · rintro ⟨fuel, found, done⟩ ⟨index, fragment, reaches, first, empty⟩
    obtain ⟨less, rest, ends⟩ := chain_of_reaches reaches done
    rw [chain_of_empty first empty] at ends
    cases ends
  · intro free
    exact ⟨_, chain_of_not_stuck free .start (Nat.lt_succ_self _)⟩

theorem assemble_eq_ok_iff : assemble fuel fragments = .ok record ↔ 0 ≤ bufferSize fragments ∧
      ∃ found, chain fragments fuel 0 = some found ∧ recordOf fragments found = record := by
  unfold assemble
  split_ifs with negative
  · refine iff_of_false (fun it => by cases it) fun it => ?_
    exact absurd it.1 (not_le.mpr negative)
  cases done : chain fragments fuel 0 with
  | none => exact iff_of_false (fun it => by cases it) fun it => by cases it.2.choose_spec.1
  | some found =>
    constructor
    · intro same
      cases same
      exact ⟨not_lt.mp negative, found, rfl, rfl⟩
    · rintro ⟨-, other, same, record⟩
      cases same
      exact congrArg Except.ok record

theorem assemble_mono (enough : fuel ≤ more) (done : assemble fuel fragments = .ok record) :
    assemble more fragments = .ok record := by
  obtain ⟨size, found, ends, same⟩ := assemble_eq_ok_iff.mp done
  exact assemble_eq_ok_iff.mpr ⟨size, found, chain_mono enough ends, same⟩

theorem assemble_unique {first second : Bytes} (one : assemble fuel fragments = .ok first)
    (two : assemble more fragments = .ok second) : first = second := by
  have left := assemble_mono (le_max_left fuel more) one
  have right := assemble_mono (le_max_right fuel more) two
  exact Except.ok.inj (left.symm.trans right)

/-! ### Every call returns -/

/-- **The fragments can be put together and parsed.** -/
structure Assembles (fragments : List QCryptoFragment) : Prop where
  size : 0 ≤ bufferSize fragments
  free : ¬ Stuck fragments
  lists : ∀ fuel record, assemble fuel fragments = .ok record →
    ∀ extension ∈ recordExtensions record, ListFits extension.1 extension.2

/-- **The packet does no harm**, in the state before it: its CRYPTO frames end within it, and the
fragments that there are then can be put together and parsed. -/
structure Benign (keys : InitialKeys) (packet : Bytes) (metadata : QUICMetadata) : Prop where
  frames : ∀ payload, openPacket keys packet = .ok payload →
    ∀ frame ∈ cryptoFrames payload payload.size (payload.memory.take payload.size),
      frame.1 + frame.2 ≤ payload.memory.length
  assembles : ∀ frameTypeList fragments, decode keys packet = .ok (frameTypeList, fragments) →
    Assembles (fragments ++ metadata.sniffContext.getD [])

def Rejected (fragments : List QCryptoFragment) : Prop :=
  ∃ fuel record error, assemble fuel fragments = .ok record ∧ compute record = .error (.error error)

/-- The fragments that are kept are those of an incomplete ClientHello. -/
def KeepsRejected (metadata : QUICMetadata) : Prop :=
  ∀ fragments, metadata.sniffContext = some fragments → Rejected fragments

theorem rejected_nil : Rejected [] := by
  have size : 0 ≤ bufferSize [] := by decide
  have record : recordOf [] [] = [0x16, 0x03, 0x03, 0x00, 0x00] := by decide
  have version : supportedVersion 771 := by decide
  have body : recordBody [0x16, 0x03, 0x03, 0x00, 0x00] = .ok [] := by
    simp [recordBody, elem, ensure, slice, sliceFrom, version, uint16, bind, Except.bind]
  have short : compute [0x16, 0x03, 0x03, 0x00, 0x00] = .error (.error (.length 3)) := by
    rw [compute, body]
    rfl
  exact ⟨1, _, _, assemble_eq_ok_iff.mpr ⟨size, [], rfl, record⟩, short⟩

theorem returns_decode_iff : Returns (decode keys packet) ↔ ∀ payload, openPacket keys packet = .ok payload →
      ∀ frame ∈ cryptoFrames payload payload.size (payload.memory.take payload.size),
        frame.1 + frame.2 ≤ payload.memory.length := by
  have opens := returns_openPacket keys packet
  unfold decode
  cases opened : openPacket keys packet with
  | error fault =>
    rw [opened] at opens
    cases fault with
    | error error => exact iff_of_true trivial fun payload it => by cases it
    | panic | loops => exact opens.elim
  | ok payload =>
    have short : (payload.memory.take payload.size).length ≤ payload.size := by
      rw [List.length_take]
      exact min_le_left _ _
    constructor
    · intro returns other same
      cases same
      exact (returns_frameLoop_iff short).mp returns
    · intro fits
      exact (returns_frameLoop_iff short).mpr (fits payload rfl)

theorem decode_nil (done : decode keys packet = .ok ([], fragments)) : fragments = [] := by
  unfold decode at done
  cases opened : openPacket keys packet with
  | error fault => rw [opened] at done; cases done
  | ok payload =>
    rw [opened] at done
    rcases frameLoop_types (show frameLoop payload payload.size _ [] [] = _ from done) with
      ⟨same, -⟩ | more
    · exact same
    · exact absurd more (Nat.not_lt_zero _)

theorem clientOf_eq_ok (some : frameTypeList ≠ []) (fingerprint : ClientHello) :
    ∃ client, clientOf frameTypeList fingerprint = .ok client := by
  have positive := List.length_pos_iff.mpr some
  have first : (elem frameTypeList 0 : Checked QUICError UInt8) = .ok frameTypeList[0] :=
    dif_pos positive
  have rest : (sliceFrom frameTypeList 1 : Checked QUICError (List UInt8)) = .ok _ :=
    if_pos ⟨positive, le_refl _⟩
  have last : (elem frameTypeList (frameTypeList.length - 1) : Checked QUICError UInt8) =
      .ok frameTypeList[frameTypeList.length - 1] := dif_pos (by omega)
  unfold clientOf
  simp only [first, rest, last, bind, Except.bind]
  split_ifs <;> exact ⟨_, rfl⟩

/-- **The last part returns if the record can be parsed.** -/
theorem identify_eq_ok_iff (known : frameTypeList = [] → ∃ error, compute record = .error (.error error)) :
    (∃ result, identify frameTypeList fragments metadata record = .ok result) ↔
      ∀ extension ∈ recordExtensions record, ListFits extension.1 extension.2 := by
  rw [← compute_returns_iff]
  unfold identify
  cases parsed : compute record with
  | error fault =>
    cases fault with
    | error error => exact iff_of_true ⟨_, rfl⟩ trivial
    | panic => exact iff_of_false (fun it => by cases it.choose_spec) not_meets_panic
    | loops => exact iff_of_false (fun it => by cases it.choose_spec) not_meets_loops
  | ok fingerprint =>
    have some : frameTypeList ≠ [] := by
      intro none
      obtain ⟨error, failed⟩ := known none
      cases parsed.symm.trans failed
    refine iff_of_true ?_ trivial
    dsimp only
    split
    · obtain ⟨client, named⟩ := clientOf_eq_ok some fingerprint
      rw [named]
      exact ⟨_, rfl⟩
    · exact ⟨_, rfl⟩

theorem assembles_iff : Assembles fragments ↔ ∃ fuel record, assemble fuel fragments = .ok record ∧
      ∀ extension ∈ recordExtensions record, ListFits extension.1 extension.2 := by
  constructor
  · intro assembles
    obtain ⟨fuel, found, ends⟩ := chain_ends_iff.mpr assembles.free
    have done := assemble_eq_ok_iff.mpr ⟨assembles.size, found, ends, rfl⟩
    exact ⟨fuel, _, done, assembles.lists fuel _ done⟩
  · rintro ⟨fuel, record, done, fits⟩
    obtain ⟨size, found, ends, -⟩ := assemble_eq_ok_iff.mp done
    refine ⟨size, chain_ends_iff.mp ⟨fuel, found, ends⟩, fun more other again => ?_⟩
    rw [assemble_unique again done]
    exact fits

section

variable (kept : KeepsRejected metadata)

include kept

theorem KeepsRejected.getD : Rejected (metadata.sniffContext.getD []) := by
  cases context : metadata.sniffContext with
  | none => exact rejected_nil
  | some fragments => exact kept fragments context

theorem decode_nil_rejects (decoded : decode keys packet = .ok (frameTypeList, fragments))
    (done : assemble fuel (fragments ++ metadata.sniffContext.getD []) = .ok record)
    (none : frameTypeList = []) : ∃ error, compute record = .error (.error error) := by
  subst none
  rw [decode_nil decoded] at done
  obtain ⟨more, other, error, again, failed⟩ := kept.getD
  rw [assemble_unique again done] at failed
  exact ⟨error, failed⟩

/-- **A call returns if and only if its packet does no harm.** -/
theorem quicClientHello_eq_ok_iff : (∃ fuel result, quicClientHello keys fuel packet metadata = .ok result) ↔
      Benign keys packet metadata := by
  have reads := @returns_decode_iff packet keys
  unfold quicClientHello
  cases decoded : decode keys packet with
  | error fault =>
    rw [decoded] at reads
    cases fault with
    | error error =>
      refine iff_of_true ⟨0, _, rfl⟩ ⟨reads.mp trivial, fun types fragments done => ?_⟩
      cases decoded.symm.trans done
    | panic => exact iff_of_false (fun it => by cases it.choose_spec.choose_spec) fun benign =>
        not_meets_panic (reads.mpr benign.frames)
    | loops => exact iff_of_false (fun it => by cases it.choose_spec.choose_spec) fun benign =>
        not_meets_loops (reads.mpr benign.frames)
  | ok frames =>
    rw [decoded] at reads
    constructor
    · rintro ⟨fuel, result, returned⟩
      refine ⟨reads.mp trivial, fun types others again => ?_⟩
      cases decoded.symm.trans again
      obtain ⟨record, done, identified⟩ := bind_eq_ok_iff.mp returned
      exact assembles_iff.mpr ⟨fuel, record, done,
        (identify_eq_ok_iff (decode_nil_rejects kept decoded done)).mp ⟨result, identified⟩⟩
    · intro benign
      obtain ⟨fuel, record, done, fits⟩ := assembles_iff.mp (benign.assembles _ _ decoded)
      obtain ⟨result, identified⟩ :=
        (identify_eq_ok_iff (decode_nil_rejects kept decoded done)).mpr fits
      exact ⟨fuel, result, bind_eq_ok_iff.mpr ⟨record, done, identified⟩⟩

end

/-! ### A sequence of packets -/

theorem quicClientHello_cases (returned : quicClientHello keys fuel packet metadata = .ok result) :
    (∃ error, decode keys packet = .error (.error error) ∧ result = (some error, metadata)) ∨
    ∃ frameTypeList fragments record, decode keys packet = .ok (frameTypeList, fragments) ∧
      assemble fuel (fragments ++ metadata.sniffContext.getD []) = .ok record ∧
      identify frameTypeList (fragments ++ metadata.sniffContext.getD []) metadata record = .ok result := by
  revert returned
  fun_cases quicClientHello keys fuel packet metadata with
  | case1 error decoded => rintro ⟨⟩; exact .inl ⟨error, decoded, rfl⟩
  | case2 | case3 => rintro ⟨⟩
  | case4 frameTypeList fragments decoded =>
    intro returned
    obtain ⟨record, done, identified⟩ := bind_eq_ok_iff.mp returned
    exact .inr ⟨frameTypeList, fragments, record, decoded, done, identified⟩

theorem quicClientHello_mono (enough : fuel ≤ more)
    (returned : quicClientHello keys fuel packet metadata = .ok result) :
    quicClientHello keys more packet metadata = .ok result := by
  unfold quicClientHello
  rcases quicClientHello_cases returned with
    ⟨error, decoded, rfl⟩ | ⟨types, fragments, record, decoded, done, identified⟩
  · rw [decoded]
  · rw [decoded]
    exact bind_eq_ok_iff.mpr ⟨record, assemble_mono enough done, identified⟩

theorem identify_keeps (identified : identify frameTypeList fragments metadata record = .ok result)
    {others : List QCryptoFragment} (context : result.2.sniffContext = some others) :
    others = fragments ∧ ∃ error, compute record = .error (.error error) := by
  revert identified
  fun_cases identify frameTypeList fragments metadata record with
  | case1 _ error parsed =>
    rintro ⟨⟩
    cases context
    exact ⟨rfl, error, parsed⟩
  | case2 | case3 => rintro ⟨⟩
  | case4 =>
    intro identified
    obtain ⟨client, -, same⟩ := bind_eq_ok_iff.mp identified
    cases same
    cases context
  | case5 => rintro ⟨⟩; cases context

theorem KeepsRejected.step (kept : KeepsRejected metadata)
    (returned : quicClientHello keys fuel packet metadata = .ok result) : KeepsRejected result.2 := by
  rcases quicClientHello_cases returned with
    ⟨error, -, rfl⟩ | ⟨types, fragments, record, -, done, identified⟩
  · exact kept
  · intro others context
    obtain ⟨rfl, error, failed⟩ := identify_keeps identified context
    exact ⟨fuel, record, error, done, failed⟩

theorem quicClientHellos_cons_eq_ok_iff {packets : List Bytes} :
    (∃ result, quicClientHellos keys fuel (packet :: packets) metadata = .ok result) ↔
      ∃ first, quicClientHello keys fuel packet metadata = .ok first ∧
        ∃ rest, quicClientHellos keys fuel packets first.2 = .ok rest := by
  constructor
  · rintro ⟨result, returned⟩
    obtain ⟨first, head, tail⟩ := bind_eq_ok_iff.mp returned
    obtain ⟨rest, done, -⟩ := bind_eq_ok_iff.mp tail
    exact ⟨first, head, rest, done⟩
  · rintro ⟨first, head, rest, done⟩
    exact ⟨_, bind_eq_ok_iff.mpr ⟨first, head, bind_eq_ok_iff.mpr ⟨rest, done, rfl⟩⟩⟩

theorem quicClientHellos_mono (enough : fuel ≤ more) {packets : List Bytes}
    (returned : ∃ result, quicClientHellos keys fuel packets metadata = .ok result) :
    ∃ result, quicClientHellos keys more packets metadata = .ok result := by
  induction packets generalizing metadata with
  | nil => exact ⟨_, rfl⟩
  | cons packet packets ih =>
    obtain ⟨first, head, tail⟩ := quicClientHellos_cons_eq_ok_iff.mp returned
    exact quicClientHellos_cons_eq_ok_iff.mpr ⟨first, quicClientHello_mono enough head, ih tail⟩

end

/-- **Every packet does no harm** in the state in which it comes. -/
def AllBenign (keys : InitialKeys) : List Bytes → QUICMetadata → Prop
  | [], _ => True
  | packet :: packets, metadata => Benign keys packet metadata ∧
    ∀ fuel result, quicClientHello keys fuel packet metadata = .ok result → AllBenign keys packets result.2

theorem quicClientHellos_eq_ok_iff {packets : List Bytes} (kept : KeepsRejected metadata) :
    (∃ fuel result, quicClientHellos keys fuel packets metadata = .ok result) ↔ AllBenign keys packets metadata := by
  induction packets generalizing metadata with
  | nil => exact iff_of_true ⟨0, _, rfl⟩ trivial
  | cons packet packets ih =>
    constructor
    · rintro ⟨fuel, returned⟩
      obtain ⟨first, head, tail⟩ := quicClientHellos_cons_eq_ok_iff.mp returned
      refine ⟨(quicClientHello_eq_ok_iff kept).mp ⟨fuel, first, head⟩, fun more other again => ?_⟩
      -- The first call has one result, whatever the fuel.
      have left := quicClientHello_mono (le_max_left fuel more) head
      have right := quicClientHello_mono (le_max_right fuel more) again
      cases left.symm.trans right
      exact (ih (kept.step head)).mp ⟨fuel, tail⟩
    · rintro ⟨benign, later⟩
      obtain ⟨fuel, first, head⟩ := (quicClientHello_eq_ok_iff kept).mpr benign
      obtain ⟨more, tail⟩ := (ih (kept.step head)).mpr (later fuel first head)
      exact ⟨max fuel more, quicClientHellos_cons_eq_ok_iff.mpr ⟨first,
        quicClientHello_mono (le_max_left _ _) head,
        quicClientHellos_mono (le_max_right _ _) tail⟩⟩

/-- **Every call for a sequence of packets returns if and only if every packet does no harm.** -/
theorem quicClientHello_returns_iff (keys : InitialKeys) (packets : List Bytes)
    (metadata : QUICMetadata) (fresh : metadata.sniffContext = none) :
    (∃ fuel result, quicClientHellos keys fuel packets metadata = .ok result) ↔ AllBenign keys packets metadata := by
  refine quicClientHellos_eq_ok_iff fun fragments context => ?_
  cases fresh.symm.trans context

def plainKeys : InitialKeys where
  mask _ _ _ _               := 0
  openData _ _ _ data _      :=
    if 16 ≤ data.length then some (data.take (data.length - 16)) else none
  length_openData            := by
    intro version destConnID packetNumber data header decrypted done
    split at done
    · cases done
      rw [List.length_take]
      omega
    · cases done

def initialPacket (frames : Bytes) : Bytes :=
  [0xC0, 0x00, 0x00, 0x00, 0x01, 0x01, 0x07, 0x00, 0x00, UInt8.ofNat (frames.length + 17), 0x00] ++
    frames ++ List.replicate 16 0

/-- A ClientHello for the name `a`. -/
def sampleHello : Bytes :=
  [0x01, 0x00, 0x00, 0x35, 0x03, 0x03] ++ List.replicate 32 0 ++ [0x00, 0x00, 0x02, 0x13, 0x01, 0x01, 0x00,
    0x00, 0x0A, 0x00, 0x00, 0x00, 0x06, 0x00, 0x04, 0x00, 0x00, 0x01, 0x61]

/-- An empty packet is an error. The end of the message, behind a PING, needs more data, and its beginning has it. -/
theorem quicClientHello_returns_hello : ({} : QUICMetadata).sniffContext = none ∧
      AllBenign plainKeys [[], initialPacket ([0x01, 0x06, 0x28, 0x11] ++ sampleHello.drop 40),
        initialPacket ([0x06, 0x00, 0x28] ++ sampleHello.take 40)] {} := by
  refine ⟨rfl, (quicClientHello_returns_iff _ _ _ rfl).mp ⟨3, ?_⟩⟩
  have returned : quicClientHellos plainKeys 3 [[], initialPacket ([0x01, 0x06, 0x28, 0x11] ++ sampleHello.drop 40),
      initialPacket ([0x06, 0x00, 0x28] ++ sampleHello.take 40)] {} =
      .ok ([some (.err .eof), some (.needMoreData (.length 2)), none],
        { protocol := protocolQUIC, sniffHost := [0x61], client := clientFirefox }) := by decide +kernel
  exact ⟨_, returned⟩

/-- **Two packets that do harm.** After an empty CRYPTO frame the search never ends, and a CRYPTO frame
that is longer than its packet is a slice out of bounds. -/
theorem quicClientHello_never_returns :
    (∀ fuel, quicClientHello plainKeys fuel (initialPacket [0x06, 0x00, 0x00]) {} = .error .loops) ∧
    ∀ fuel, quicClientHello plainKeys fuel (initialPacket [0x06, 0x00, 0x1E]) {} = .error .panic := by
  constructor
  · intro fuel
    have decoded : decode plainKeys (initialPacket [0x06, 0x00, 0x00]) = .ok ([0x06], [⟨0, 0, []⟩]) := by decide +kernel
    have again : chain [⟨0, 0, []⟩] fuel 0 = none :=
      @chain_of_empty _ _ ⟨0, 0, []⟩ rfl rfl fuel
    have size : ¬ bufferSize [⟨0, 0, []⟩] < 0 := by decide
    have loops : assemble fuel [⟨0, 0, []⟩] = .error .loops := by
      rw [assemble, if_neg size, again]
    rw [quicClientHello, decoded]
    exact congrArg (· >>= _) loops
  · intro fuel
    have decoded : decode plainKeys (initialPacket [0x06, 0x00, 0x1E]) = .error .panic := by
      decide +kernel
    rw [quicClientHello, decoded]

end SingBox.Sniff
