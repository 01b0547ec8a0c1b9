/-
**The memory that a response takes** (`dns/transport/tcp.go`: `ReadMessage`; `udp.go`: `exchange`,
`recvLoop`; `https.go` and `quic/http3.go`: the response of `exchange`).

The size of the buffer for a response comes from four places: the sizes that have been asked for by EDNS0, the 16-bit
length before a message, the header `Content-Length`, and the end of the body. The last two are as large as the server
likes.
-/

import SingBox.Dns.Framing

namespace SingBox.Dns

open SingBox.Lib SingBox.Lib.Checked

/-- `buf.NewSize`, which panics if there is not so much memory. -/
def newSize (memory n : Nat) : Checked Error Unit := if n ≤ memory then .ok () else .error .panic

/-- The fields of an HTTP response that are read. -/
structure HTTPResponse where
  statusCode : Nat := 200
  status : Bytes := []
  contentLength : Int
  /-- The body, and the error of reading on behind it. -/
  body : Bytes
  bodyErr : Option Error := none

/-- What a server sends, by the kind of transport. -/
inductive Sent where
  /-- Datagrams, after messages that have asked for these sizes. -/
  | datagrams (udpSizes : List (Option UInt16)) (packets : List Bytes)
  /-- A stream of TCP, of TLS or of QUIC. -/
  | stream (input : Bytes)
  /-- A response of HTTPS or of HTTP/3. -/
  | http (response : HTTPResponse)

section Exchange

variable (lib : MessageLibrary) (memory : Nat)

def unpacked (bytes : Bytes) : Checked Error (Option Msg) :=
  match lib.unpack bytes with
  | .ok message => .ok (some message)
  | .error error => fail error

/-- The buffer of `ReadMessage`. -/
def messageSize (input : Bytes) : Nat :=
  match readUint 2 input with
  | .ok (responseLen, _) => if responseLen < 10 then 0 else responseLen
  | .error _ => 0

def streamExchange (input : Bytes) : Nat × Checked Error (Option Msg) :=
  (messageSize input, do
    newSize memory (messageSize input)
    match readMessage lib input with
    | .ok (message, _) => return some message
    | .error error => fail error)

/-- The size of the datagrams that are received: it starts at 2048, and a message with EDNS0 raises it. -/
def udpSize (udpSizes : List (Option UInt16)) : Nat :=
  udpSizes.foldl (fun current asked => max current (asked.elim 0 UInt16.toNat)) 2048

/-- `recvLoop` until a message comes in for one of the callbacks; each buffer is released. -/
def recvLoop (callbacks : UInt16 → Bool) (size : Nat) : List Bytes → Checked Error (Option Msg)
  | [] => .ok none
  | packet :: packets => do
    newSize memory size
    match lib.unpack (packet.take size) with
    | .error _ => recvLoop callbacks size packets
    | .ok message => if callbacks message.id then return some message else recvLoop callbacks size packets

/-- The last part of `HTTPSTransport.exchange` and of `HTTP3Transport.Exchange`. -/
def httpExchange (response : HTTPResponse) : Nat × Checked Error (Option Msg) :=
  if response.statusCode ≠ 200 then (0, fail (.extend (.new "unexpected status: ") response.status))
  else if 0 < response.contentLength then
    (response.contentLength.toNat, do
      newSize memory response.contentLength.toNat
      if response.body.length < response.contentLength.toNat then fail (response.bodyErr.getD .eof)
      else unpacked lib (response.body.take response.contentLength.toNat))
  else
    -- `io.ReadAll` takes as much as it reads
    (response.body.length, do
      newSize memory response.body.length
      match response.bodyErr with
      | some error => fail error
      | none => unpacked lib response.body)

/-- **An exchange**: the largest buffer for the response, and what is returned; `none` waits on. -/
def receive (callbacks : UInt16 → Bool) : Sent → Nat × Checked Error (Option Msg)
  | .datagrams udpSizes packets =>
    (udpSize udpSizes, recvLoop lib memory callbacks (udpSize udpSizes) packets)
  | .stream input => streamExchange lib memory input
  | .http response => httpExchange lib memory response

end Exchange

/-- An HTTP response has a body, or states a length, of 64 KiB at most. -/
def Modest : Sent → Prop
  | .http response => response.statusCode = 200 →
    if 0 < response.contentLength then response.contentLength ≤ 65535 else response.body.length ≤ 65535
  | _ => True

variable {lib : MessageLibrary} {memory : Nat}

theorem returns_unpacked (bytes : Bytes) : Returns (unpacked lib bytes) := by
  unfold unpacked
  split <;> trivial

theorem ofBigEndian_two_lt {input rest : Bytes} {n : Nat} (read : readUint 2 input = .ok (n, rest)) : n < 65536 := by
  rcases input with _ | ⟨high, _ | ⟨low, input⟩⟩
  · cases read
  · cases read
  cases read
  have first := high.toNat_lt
  have second := low.toNat_lt
  simp only [ofBigEndian, List.take, List.foldl]
  omega

theorem messageSize_le (input : Bytes) : messageSize input ≤ 65535 := by
  unfold messageSize
  split
  · next read =>
    have small := ofBigEndian_two_lt read
    split <;> omega
  · exact Nat.zero_le _

theorem udpSize_le (udpSizes : List (Option UInt16)) : udpSize udpSizes ≤ 65535 := by
  have from' (start : Nat) (small : start ≤ 65535) : udpSizes.foldl
      (fun current asked => max current (asked.elim 0 UInt16.toNat)) start ≤ 65535 := by
    induction udpSizes generalizing start with
    | nil => exact small
    | cons asked udpSizes ih =>
      refine ih _ (Nat.max_le.mpr ⟨small, ?_⟩)
      cases asked with
      | none => exact Nat.zero_le _
      | some size => exact Nat.le_of_lt_succ size.toNat_lt
  exact from' 2048 (by decide)

/-- A computation behind an allocation returns if the allocation is possible. -/
theorem returns_newSize_iff {α : Type} {n : Nat} {next : Checked Error α} (returns : Returns next) :
    Returns (newSize memory n >>= fun _ => next) ↔ n ≤ memory := by
  unfold newSize
  split
  · next fits => exact iff_of_true returns fits
  · next large => exact iff_of_false not_meets_panic large

theorem returns_recvLoop {callbacks : UInt16 → Bool} {size : Nat} (fits : size ≤ memory)
    (packets : List Bytes) : Returns (recvLoop lib memory callbacks size packets) := by
  induction packets with
  | nil => trivial
  | cons packet packets ih =>
    refine (returns_newSize_iff ?_).mpr fits
    split
    · exact ih
    · split
      · trivial
      · exact ih

/-- **Which responses take bounded memory**: no buffer is larger than 64 KiB, and the exchange returns. -/
theorem response_bounded_iff (lib : MessageLibrary) (memory : Nat) (enough : 65535 ≤ memory)
    (callbacks : UInt16 → Bool) (sent : Sent) :
    (receive lib memory callbacks sent).1 ≤ 65535 ∧ Returns (receive lib memory callbacks sent).2 ↔ Modest sent := by
  cases sent with
  | datagrams udpSizes packets =>
    have small := udpSize_le udpSizes
    exact iff_of_true ⟨small, returns_recvLoop (by omega) packets⟩ trivial
  | stream input =>
    have small := messageSize_le input
    refine iff_of_true ⟨small, (returns_newSize_iff ?_).mpr (by omega)⟩ trivial
    split <;> trivial
  | http response =>
    show (httpExchange lib memory response).1 ≤ 65535 ∧ Returns (httpExchange lib memory response).2 ↔
      (response.statusCode = 200 → _)
    unfold httpExchange
    by_cases ok : response.statusCode = 200
    · rw [if_neg (not_not.mpr ok)]
      by_cases declared : 0 < response.contentLength
      all_goals
        simp only [declared, if_true, if_false]
        rw [returns_newSize_iff]
        · omega
        · split
          · trivial
          · exact returns_unpacked _
    · rw [if_pos ok]
      exact iff_of_true ⟨Nat.zero_le _, trivial⟩ fun is => absurd is ok

/-- A length of 65535 that nothing follows. -/
theorem response_bounded_stream : (receive wireLibrary 65535 (fun _ => false) (.stream [255, 255])).1 ≤ 65535 ∧
      Returns (receive wireLibrary 65535 (fun _ => false) (.stream [255, 255])).2 :=
  (response_bounded_iff _ 65535 (Nat.le_refl _) _ _).mpr trivial

/-- **A length that the server only states**: a buffer of 4 GiB for a response without a body. With less
memory that is a panic. -/
theorem response_unbounded :
    receive wireLibrary (2 ^ 31) (fun _ => false) (.http { contentLength := 2 ^ 32, body := [] }) =
      (2 ^ 32, .error .panic) := rfl

end SingBox.Dns
