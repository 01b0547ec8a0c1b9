/-
**The handshakes of a websocket client** (`transport/v2raywebsocket/client.go`, `writeRequest` in `conn.go`).

All connections of a client share its header map. `dialContext` takes the sub-protocol out of the map that it is
given, and only early data in a header is sent with a copy of the map: any other dial leaves the client without its
sub-protocol (`handshakes_kept_iff`).
-/

import SingBox.Lib.Machine
import SingBox.Obfs.Http

namespace SingBox.Websocket

open SingBox.Lib Function

/-- `textproto.CanonicalMIMEHeaderKey` and `base64.RawURLEncoding`. -/
structure WebsocketLibrary where
  (canonical encodeToString : Bytes → Bytes)

/-- `http.Header`; a name without values is not there. -/
abbrev Header := Bytes → List Bytes

structure Client where
  path : Bytes
  headers : Header
  maxEarlyData : UInt32
  earlyDataHeaderName : Bytes

structure Handshake where
  path : Bytes
  headers : Header
  protocols : List Bytes

/-- A connection: what is written first, and whether the dialer connects. -/
structure Dial where
  content : Bytes
  connects : Bool

section

variable (lib : WebsocketLibrary)

def protocolKey : Bytes := lib.canonical (Subscription.text "Sec-WebSocket-Protocol")

/-- `headers.Get("Sec-WebSocket-Protocol")`. -/
def protocolHeader (headers : Header) : Bytes := (headers (protocolKey lib)).headD []

/-- `dialContext`, from when it is connected. The map that it is given is left with the headers of the handshake. -/
def dialContext (path : Bytes) (headers : Header) : Handshake where
  path := path
  headers key := if protocolHeader lib headers ≠ [] ∧ key = protocolKey lib then [] else headers key
  protocols := if protocolHeader lib headers ≠ [] then [protocolHeader lib headers] else []

namespace Client

def dialShared (c : Client) (path : Bytes) : Client × Option Handshake :=
  let handshake := dialContext lib path c.headers
  ({ c with headers := handshake.headers }, some handshake)

/-- `DialContext`, or `writeRequest` if there may be early data. -/
def dial (c : Client) (d : Dial) : Client × Option Handshake :=
  let earlyData := d.content.take c.maxEarlyData.toNat
  if d.connects = false then (c, none)
  else if earlyData = [] then c.dialShared lib c.path
  else if c.earlyDataHeaderName = [] then c.dialShared lib (c.path ++ lib.encodeToString earlyData)
  else
    let headers := update c.headers (lib.canonical c.earlyDataHeaderName) [lib.encodeToString earlyData]
    (c, some (dialContext lib c.path headers))

/-- The headers and the sub-protocols of a first handshake without early data, apart from the header that early data
are sent in. -/
def Same (c : Client) (handshake : Handshake) : Prop :=
  let first := dialContext lib c.path c.headers
  let early := fun key => c.earlyDataHeaderName ≠ [] ∧ key = lib.canonical c.earlyDataHeaderName
  (∀ key, ¬ early key → handshake.headers key = first.headers key) ∧
    (¬ early (protocolKey lib) → handshake.protocols = first.protocols)

/-- **The connection presents the configured handshake**, and leaves the configuration alone. -/
def Presents (configured c : Client) (d : Dial) : Prop :=
  (c.dial lib d).1 = configured ∧ ∀ handshake, (c.dial lib d).2 = some handshake → configured.Same lib handshake

/-- There is no sub-protocol, or no handshake, or it is made with a copy of the headers. -/
def Spared (c : Client) (d : Dial) : Prop :=
  protocolHeader lib c.headers = [] ∨ d.connects = false ∨
    d.content.take c.maxEarlyData.toNat ≠ [] ∧ c.earlyDataHeaderName ≠ []

end Client

def clients : Machine Client Dial Handshake where
  step := Client.dial lib

end

namespace Client

variable {lib : WebsocketLibrary} {c : Client}

/-- Early data in a header are seen in that header only. -/
theorem same_early (named : c.earlyDataHeaderName ≠ []) (value : Bytes) : c.Same lib
    (dialContext lib c.path (update c.headers (lib.canonical c.earlyDataHeaderName) [value])) := by
  have outside {key : Bytes} (other : ¬ (c.earlyDataHeaderName ≠ [] ∧ key = lib.canonical c.earlyDataHeaderName)) :
      update c.headers (lib.canonical c.earlyDataHeaderName) [value] key = c.headers key :=
    update_of_ne (fun same => other ⟨named, same⟩) _ _
  refine ⟨fun key other => ?_, fun other => ?_⟩
  · by_cases protocol : key = protocolKey lib
    · subst protocol
      simp [dialContext, protocolHeader, outside other]
    · simp [dialContext, outside other, protocol]
  · simp [dialContext, protocolHeader, outside other]

theorem dialShared_iff (path : Bytes) : ((c.dialShared lib path).1 = c ∧
      ∀ handshake, (c.dialShared lib path).2 = some handshake → c.Same lib handshake) ↔
    protocolHeader lib c.headers = [] := by
  constructor
  · rintro ⟨same, -⟩
    by_contra some
    have headers : (if _ then [] else _) = _ := congrFun (congrArg headers same) (protocolKey lib)
    rw [if_pos ⟨some, rfl⟩] at headers
    rw [protocolHeader, ← headers] at some
    exact some rfl
  · intro none
    refine ⟨by simp [dialShared, dialContext, none], fun handshake made => ?_⟩
    cases made
    exact ⟨fun _ _ => rfl, fun _ => rfl⟩

theorem presents_iff (d : Dial) : c.Presents lib c d ↔ c.Spared lib d := by
  unfold Presents Spared dial
  dsimp only
  split_ifs with failed empty unnamed
  · simp [failed]
  · simpa [failed, empty] using dialShared_iff c.path
  · simpa [failed, unnamed] using dialShared_iff (c.path ++ _)
  · refine iff_of_true ⟨rfl, fun handshake made => ?_⟩ (.inr (.inr ⟨empty, unnamed⟩))
    cases made
    exact same_early unnamed _

end Client

/-- **Every dial presents the configured handshake** exactly if no sub-protocol is configured, or each connection that
is made sends early data in a header. -/
theorem handshakes_kept_iff (lib : WebsocketLibrary) (c : Client) (dials : List Dial) :
    (clients lib).Along (Client.Presents lib c) c dials ↔ ∀ d ∈ dials, c.Spared lib d := by
  induction dials with
  | nil => exact iff_of_true trivial (List.forall_mem_nil _)
  | cons d dials ih =>
    rw [List.forall_mem_cons, ← ih, ← Client.presents_iff]
    refine and_congr_right fun presents => ?_
    rw [show ((clients lib).step c d).1 = c from presents.1]

/-- `textproto.CanonicalMIMEHeaderKey` of a valid name: a capital letter at the beginning and behind each hyphen. -/
def canonicalKey (capital : Bool) : Bytes → Bytes
  | [] => []
  | byte :: name =>
    (if capital && 0x61 ≤ byte && byte ≤ 0x7A then byte - 0x20
      else if !capital && 0x41 ≤ byte && byte ≤ 0x5A then byte + 0x20 else byte) :: canonicalKey (byte = 0x2D) name

example : canonicalKey true (Subscription.text "Sec-WebSocket-Protocol") =
    Subscription.text "Sec-Websocket-Protocol" := by decide

def netHttp : WebsocketLibrary where
  canonical              := canonicalKey true
  encodeToString content := (Obfs.encodeBase64 content).filter (· ≠ 0x3D)

def chatClient : Client :=
  ⟨[0x2F], update (fun _ => []) (protocolKey netHttp) [Subscription.text "chat"], 0, []⟩

/-- The second connection offers no sub-protocol. -/
theorem handshakes_lose_protocol : ((clients netHttp).step chatClient ⟨[], true⟩).2.map Handshake.protocols =
      some [Subscription.text "chat"] ∧
    ((clients netHttp).step ((clients netHttp).step chatClient ⟨[], true⟩).1 ⟨[], true⟩).2.map
      Handshake.protocols = some [] := by
  decide +kernel

end SingBox.Websocket
