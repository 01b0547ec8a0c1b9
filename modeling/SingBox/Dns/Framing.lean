/-
**DNS messages on a stream** (`dns/transport/tcp.go`: `ReadMessage`, `WriteMessage`).

On a stream, a message is two bytes of length and the packed message. `WriteMessage` takes the length from the message
as it is, with its own `Compress` flag, and then packs a copy with the flag set into a buffer of the size of the
former. `MessageLibrary` is what is called of the DNS library, and `Documented` what is assumed of it.
-/

import SingBox.Dns.Message

namespace SingBox.Dns

open SingBox.Lib List

/-- `Msg.Len`, `Msg.Pack`, `Msg.Unpack`, and the size below which `PackBuffer` leaves the buffer that
it is given alone and packs into a new one. -/
structure MessageLibrary where
  len : Msg → Nat
  pack : Msg → Except Error Bytes
  unpack : Bytes → Except Error Msg
  room : Msg → Nat

/-- What is assumed of the library: `Len` is the packed size, for the `Compress` flag of the message and
whatever its id; a message has a header; unpacking inverts packing (the flag is not in the packed
message); and the uncompressed size with a byte to spare is room enough. -/
structure MessageLibrary.Documented (lib : MessageLibrary) : Prop where
  len_pack : ∀ message raw, lib.pack message = .ok raw → raw.length = lib.len message
  len_id : ∀ (message : Msg) (id : UInt16), lib.len { message with id := id } = lib.len message
  header : ∀ message raw, lib.pack message = .ok raw → 12 ≤ raw.length
  unpack_pack : ∀ message raw, lib.pack message = .ok raw → lib.unpack raw = .ok { message with compress := false }
  room_le : ∀ message : Msg, lib.room message ≤ lib.len { message with compress := false } + 1

section Framing

variable (lib : MessageLibrary)

def readMessage : Reader Msg := do
  let responseLen ← readUint 2
  if responseLen < 10 then throw (.new "short read")
  else
    let buffer ← readFull responseLen
    StateT.lift (lib.unpack buffer)

/-- The copy that `WriteMessage` packs. -/
def exMessage (messageId : UInt16) (message : Msg) : Msg :=
  { message with id := messageId, compress := true }

/-- `WriteMessage`, with what the buffer held before. If the packed message is not in the buffer, that
is what follows the length. -/
def writeMessage (old : Nat → UInt8) (messageId : UInt16) (message : Msg) : Except Error Bytes :=
  let requestLen := lib.len message
  match lib.pack (exMessage messageId message) with
  | .error error => .error error
  | .ok rawMessage =>
    let body :=
      if lib.room (exMessage messageId message) ≤ requestLen + 1 then rawMessage
      else (List.range rawMessage.length).map old
    .ok (bigEndian 2 requestLen ++ body)

/-- A message to write: what the buffer held before, the id and the message. -/
structure Outgoing where
  old : Nat → UInt8
  messageId : UInt16
  message : Msg

def writeMessages : List Outgoing → Except Error Bytes
  | [] => .ok []
  | item :: rest => do
    let bytes ← writeMessage lib item.old item.messageId item.message
    let more ← writeMessages rest
    return bytes ++ more

def Outgoing.received (item : Outgoing) : Msg :=
  { item.message with id := item.messageId, compress := false }

end Framing

def frame (raw : Bytes) : Bytes := bigEndian 2 raw.length ++ raw

/-- **The length and the buffer fit the copy that is packed.** -/
structure Fits (lib : MessageLibrary) (messageId : UInt16) (message : Msg) : Prop where
  length : lib.len message % 65536 = lib.len { message with compress := true }
  room : lib.room (exMessage messageId message) ≤ lib.len message + 1

section Laws

variable {lib : MessageLibrary}

theorem decodes_frame {raw : Bytes} {message : Msg} (small : raw.length ≤ 65535)
    (header : 12 ≤ raw.length) (unpacks : lib.unpack raw = .ok message) :
    Decodes (readMessage lib) (frame raw) True message := by
  have body : Decodes (if raw.length < 10 then throw (.new "short read") else do
      let buffer ← readFull raw.length
      .lift (lib.unpack buffer)) raw True message := by
    rw [if_neg (by omega)]
    refine .of_accepts fun rest => ?_
    have read := (Decodes.full raw).accepts trivial rest
    show (readFull raw.length (raw ++ rest) >>= fun result =>
      StateT.lift (lib.unpack result.1) result.2) = _
    rw [read]
    show (.lift (lib.unpack raw) : Reader Msg) rest = _
    rw [unpacks]
    rfl
  have length : Decodes (readUint 2) (bigEndian 2 raw.length) True raw.length :=
    .uint (by omega)
  exact (length.bind body).of_iff (and_self_iff)

theorem bigEndian_two_inj {first second : Nat} (small : second ≤ 65535) :
    bigEndian 2 first = bigEndian 2 second ↔ first % 65536 = second := by
  refine ⟨fun same => ?_, fun same => ?_⟩
  · have numbers := congrArg ofBigEndian same
    rw [ofBigEndian_bigEndian, ofBigEndian_bigEndian] at numbers
    omega
  · have bytes n : bigEndian 2 n = [.ofNat (n / 256), .ofNat n] := by
      simp [bigEndian]
    rw [bytes]
    congr 1
    · apply UInt8.toNat_inj.mp
      simp only [UInt8.toNat_ofNat']
      omega
    · congr 1
      apply UInt8.toNat_inj.mp
      simp only [UInt8.toNat_ofNat']
      omega

theorem writeMessage_iff (documented : lib.Documented) {messageId : UInt16} {message : Msg}
    {raw : Bytes} (packs : lib.pack (exMessage messageId message) = .ok raw) (small : raw.length ≤ 65535) :
    (∀ old, writeMessage lib old messageId message = .ok (frame raw)) ↔ Fits lib messageId message := by
  have size : raw.length = lib.len { message with compress := true } :=
    (documented.len_pack _ raw packs).trans (documented.len_id { message with compress := true } messageId)
  refine ⟨fun writes => ?_, fun fits old => ?_⟩
  · have parts old : bigEndian 2 (lib.len message) = bigEndian 2 raw.length ∧
        (if lib.room (exMessage messageId message) ≤ lib.len message + 1 then raw
          else (range raw.length).map old) = raw := by
      have written := writes old
      rw [writeMessage, packs] at written
      refine append_inj (Except.ok.inj written) ?_
      rw [length_bigEndian, length_bigEndian]
    refine ⟨?_, ?_⟩
    · rw [← size]
      exact (bigEndian_two_inj small).mp (parts fun _ => 0).1
    -- a buffer that held other bytes shows where the packed message is not
    by_contra full
    have same := (parts fun i => raw.getD i 0 + 1).2
    rw [if_neg full] at same
    have positive : 0 < raw.length :=
      lt_of_lt_of_le (by decide) (documented.header _ raw packs)
    have first := congrArg (fun bytes => bytes[0]?) same
    simp only [getElem?_map, getElem?_range positive, Option.map_some,
      getElem?_eq_getElem positive, getD_eq_getElem?_getD] at first
    exact absurd first (by simp)
  · rw [writeMessage, packs]
    dsimp only
    rw [if_pos fits.room, frame, (bigEndian_two_inj small).mpr (fits.length.trans size.symm)]

def Outgoing.raw (lib : MessageLibrary) (item : Outgoing) : Bytes :=
  match lib.pack (exMessage item.messageId item.message) with
  | .ok raw => raw
  | .error _ => []

/-- A message that can be packed, is not too long, and fits. -/
structure Outgoing.Framed (lib : MessageLibrary) (item : Outgoing) : Prop where
  packs : lib.pack (exMessage item.messageId item.message) = .ok (item.raw lib)
  small : (item.raw lib).length ≤ 65535
  fits : Fits lib item.messageId item.message

theorem writeMessages_framed (documented : lib.Documented) (items : List Outgoing)
    (framed : ∀ item ∈ items, item.Framed lib) :
    writeMessages lib items = .ok (items.flatMap fun item => frame (item.raw lib)) := by
  induction items with
  | nil => rfl
  | cons item rest ih =>
    obtain ⟨head, tail⟩ := forall_mem_cons.mp framed
    have first := (writeMessage_iff documented head.packs head.small).mpr head.fits item.old
    rw [writeMessages, first, ih tail]
    rfl

theorem decodes_frames (documented : lib.Documented) (items : List Outgoing)
    (framed : ∀ item ∈ items, item.Framed lib) : Decodes (readMany (fun _ => readMessage lib) 0 items.length)
      (items.flatMap fun item => frame (item.raw lib)) True (items.map Outgoing.received) := by
  have each : ∀ _ : Nat, ∀ item ∈ items, Decodes (readMessage lib) (frame (item.raw lib)) True item.received := by
    intro _ item member
    have holds := framed item member
    exact decodes_frame holds.small (documented.header _ _ holds.packs) (documented.unpack_pack _ _ holds.packs)
  exact (Decodes.many items 0 each).of_iff (by simp)

/-- **Framing is exact exactly if length and buffer fit**, and every sequence of messages that fit is
read back, with the ids replaced. -/
theorem framing_iff (documented : lib.Documented) : (∀ (messageId : UInt16) (message : Msg) (raw : Bytes),
      lib.pack (exMessage messageId message) = .ok raw → raw.length ≤ 65535 →
        ((∀ old, writeMessage lib old messageId message = .ok (frame raw)) ↔ Fits lib messageId message)) ∧
    ∀ items : List Outgoing, (∀ item ∈ items, item.Framed lib) →
      ∃ stream, writeMessages lib items = .ok stream ∧ ∀ rest,
        readMany (fun _ => readMessage lib) 0 items.length (stream ++ rest) =
          .ok (items.map Outgoing.received, rest) := by
  refine ⟨fun messageId message raw packs small => writeMessage_iff documented packs small, ?_⟩
  intro items framed
  refine ⟨_, writeMessages_framed documented items framed, fun rest => ?_⟩
  exact (decodes_frames documented items framed).accepts trivial rest

theorem fits_of_incompressible (documented : lib.Documented) {message : Msg}
    (messageId : UInt16) (small : lib.len { message with compress := false } ≤ 65535)
    (same : lib.len { message with compress := true } =
      lib.len { message with compress := false }) : Fits lib messageId message := by
  have own : lib.len message = lib.len { message with compress := false } := by
    cases flag : message.compress with
    | false => rw [show { message with compress := false } = message by rw [← flag]]
    | true =>
      rw [← same]
      rw [show { message with compress := true } = message by rw [← flag]]
  refine ⟨?_, ?_⟩
  · rw [own, same]
    exact Nat.mod_eq_of_lt (by omega)
  · rw [own]
    refine (documented.room_le _).trans (Nat.succ_le_succ ?_)
    exact le_of_eq (documented.len_id { message with compress := false } messageId)

end Laws

/-! ### Two messages -/

def queryMessage : Msg := { recursionDesired := true, question := [sampleQuestion] }

/-- The same with an answer: the name is used twice. -/
def sharedMessage : Msg := { queryMessage with answer := sampleResponse.answer }

def queryTail : Bytes := [1, 0, 0, 1, 0, 0, 0, 0, 0, 0, 1, 97, 0, 0, 1, 0, 1]

/-- The packed message with an answer, behind the id: the second name is a pointer to the first if it
is compressed. -/
def sharedTail (compress : Bool) : Bytes :=
  [1, 0, 0, 1, 0, 1, 0, 0, 0, 0, 1, 97, 0, 0, 1, 0, 1] ++
    (if compress then [0xC0, 12] else [1, 97, 0]) ++ [0, 1, 0, 1, 0, 0, 0, 60, 0, 4, 10, 0, 0, 1]

def wireTail (message : Msg) : Option Bytes :=
  if { message with id := 0, compress := false } = queryMessage then some queryTail
  else if { message with id := 0, compress := false } = sharedMessage then
    some (sharedTail message.compress)
  else none

def wireLibrary : MessageLibrary where
  len message := ((wireTail message).map fun tail => 2 + tail.length).getD 0
  pack message :=
    match wireTail message with
    | some tail => .ok (bigEndian 2 message.id.toNat ++ tail)
    | none => .error .invalid
  unpack raw :=
    let id := UInt16.ofNat (ofBigEndian (raw.take 2))
    if raw.drop 2 = queryTail then .ok { queryMessage with id := id }
    else if raw.drop 2 = sharedTail true ∨ raw.drop 2 = sharedTail false then
      .ok { sharedMessage with id := id }
    else .error .invalid
  room message :=
    ((wireTail { message with compress := false }).map fun tail => 2 + tail.length).getD 0 + 1

theorem wireTail_eq_some {message : Msg} {tail : Bytes} (found : wireTail message = some tail) :
    { message with compress := false } = { queryMessage with id := message.id } ∧ tail = queryTail ∨
      { message with compress := false } = { sharedMessage with id := message.id } ∧
        (tail = sharedTail true ∨ tail = sharedTail false) := by
  revert found
  fun_cases wireTail message with
  | case1 query => rintro ⟨⟩; exact .inl ⟨by rw [← query], rfl⟩
  | case2 _ shared =>
    rintro ⟨⟩
    refine .inr ⟨by rw [← shared], ?_⟩
    cases message.compress with
    | true => exact .inl rfl
    | false => exact .inr rfl
  | case3 => exact nofun

theorem wireLibrary_documented : wireLibrary.Documented := by
  have packed {message : Msg} {raw : Bytes} (packs : wireLibrary.pack message = .ok raw) :
      ∃ tail, wireTail message = some tail ∧ raw = bigEndian 2 message.id.toNat ++ tail := by
    simp only [wireLibrary] at packs
    split at packs
    · rename_i tail found
      exact ⟨tail, found, (Except.ok.inj packs).symm⟩
    · exact nomatch packs
  refine ⟨fun message raw packs => ?_, fun _ _ => rfl, fun message raw packs => ?_,
    fun message raw packs => ?_, fun _ => le_rfl⟩
  · obtain ⟨tail, found, rfl⟩ := packed packs
    rw [length_append, length_bigEndian]
    simp only [wireLibrary, found, Option.map_some, Option.getD_some]
  · obtain ⟨tail, found, rfl⟩ := packed packs
    rw [length_append, length_bigEndian]
    rcases wireTail_eq_some found with ⟨-, rfl⟩ | ⟨-, rfl | rfl⟩ <;> decide
  · obtain ⟨tail, found, rfl⟩ := packed packs
    have rest : (bigEndian 2 message.id.toNat ++ tail).drop 2 = tail :=
      drop_left' (length_bigEndian 2 _)
    have id : .ofNat (ofBigEndian ((bigEndian 2 message.id.toNat ++ tail).take 2)) = message.id := by
      rw [take_left' (length_bigEndian 2 _), ofBigEndian_bigEndian,
        Nat.mod_eq_of_lt (show message.id.toNat < 256 ^ 2 from message.id.toNat_lt),
        UInt16.ofNat_toNat]
    simp only [wireLibrary, rest, id]
    rcases wireTail_eq_some found with ⟨same, rfl⟩ | ⟨same, rfl | rfl⟩
    · rw [if_pos rfl, same]
    · rw [if_neg (by decide), if_pos (.inl rfl), same]
    · rw [if_neg (by decide), if_pos (.inr rfl), same]

/-- Two queries, written one after another over a used buffer, are read back. -/
theorem framing_queries : ∃ stream,
    writeMessages wireLibrary [⟨fun _ => 255, 7, queryMessage⟩, ⟨fun _ => 255, 8, queryMessage⟩] = .ok stream ∧
      ∀ rest, readMany (fun _ => readMessage wireLibrary) 0 2 (stream ++ rest) =
        .ok ([{ queryMessage with id := 7 }, { queryMessage with id := 8 }], rest) := by
  refine (framing_iff wireLibrary_documented).2
    [⟨fun _ => 255, 7, queryMessage⟩, ⟨fun _ => 255, 8, queryMessage⟩] fun item member => ?_
  have fits (messageId : UInt16) : Fits wireLibrary messageId queryMessage :=
    fits_of_incompressible wireLibrary_documented messageId (by decide) (by decide)
  rcases List.mem_cons.mp member with rfl | member
  · exact ⟨rfl, by decide, fits 7⟩
  · obtain rfl := List.mem_singleton.mp member
    exact ⟨rfl, by decide, fits 8⟩

/-- A name that is used twice: the length says 36 bytes, and 35 follow. -/
theorem framing_shared : ∃ written, writeMessage wireLibrary (fun _ => 0) 7 sharedMessage = .ok written ∧
      ofBigEndian (written.take 2) = 36 ∧ (written.drop 2).length = 35 :=
  ⟨bigEndian 2 36 ++ (bigEndian 2 7 ++ sharedTail true), rfl, by decide, by decide⟩

end SingBox.Dns
