/-
**Simple-obfs in HTTP mode** (`transport/simple-obfs/http.go` and `http_server.go`).

The first bytes that the client writes are the body of a request, and what the server writes follows the header of a
response; after that both streams are plain. The server reads the request with a buffered reader of `net/http`, which
it keeps. The client looks for the end of the response header in what its first read gets, and takes an end of the
stream for granted if the end of the header is not there. `net/http` is a parameter, and `HttpLibrary.Accepts` what is
assumed.
-/

import SingBox.Lib.Stream
import SingBox.Subscription.Text

namespace SingBox.Obfs

open SingBox.Lib SingBox.Subscription

def index (sep : Bytes) : Bytes → Option Nat
  | [] => if sep.isEmpty then some 0 else none
  | byte :: s => if sep.isPrefixOf (byte :: s) then some 0 else (index sep s).map (· + 1)

/-- One digit of `base64.URLEncoding`. -/
def base64Digit (n : Nat) : UInt8 :=
  let digit := n % 64
  if digit < 26 then (0x41 + digit).toUInt8
  else if digit < 52 then (0x61 + (digit - 26)).toUInt8
  else if digit < 62 then (0x30 + (digit - 52)).toUInt8
  else if digit = 62 then 0x2D
  else 0x5F

/-- `base64.URLEncoding.EncodeToString`. -/
def encodeBase64 : Bytes → Bytes
  | [] => []
  | [a] => [base64Digit (a.toNat / 4), base64Digit (a.toNat * 16), 0x3D, 0x3D]
  | [a, b] =>
    [base64Digit (a.toNat / 4), base64Digit (a.toNat * 16 + b.toNat / 16), base64Digit (b.toNat * 4), 0x3D]
  | a :: b :: c :: rest =>
    base64Digit (a.toNat / 4) :: base64Digit (a.toNat * 16 + b.toNat / 16) ::
      base64Digit (b.toNat * 4 + c.toNat / 64) :: base64Digit c.toNat :: encodeBase64 rest

example : encodeBase64 (text "light wor") = text "bGlnaHQgd29y" := by decide

/-! ### Requests and responses -/

/-- What a write has from the clock and from the random generators: the date is in the form of `time.RFC1123`. -/
structure HttpDraw where
  random : Bytes
  minor : Nat
  patch : Nat
  date : Bytes
  date_line : 0x0D ∉ date

structure HttpRequest where
  method : Bytes
  (url host : Bytes := [])
  header : List (Bytes × Bytes)
  contentLength : Nat

/-- `request.Header.Get`. -/
def HttpRequest.headerGet (request : HttpRequest) (name : Bytes) : Bytes := (get request.header name).getD []

/-- What is not of the repository: `B.BufferSize`, what `req.Write` writes in front of the body, and what
`http.ReadRequest` and the body of the request make of what has been read. -/
structure HttpLibrary where
  bufferSize : Nat
  writeHeader : HttpRequest → Bytes
  readRequest : Bytes → Parsed HttpRequest
  readBody : HttpRequest → Bytes → Parsed Bytes

/-- The size of the buffer of `bufio.NewReader`. -/
def readerSize : Nat := 4096

def newRequest (host port : Bytes) (draw : HttpDraw) (length : Nat) : HttpRequest where
  method := text "GET"
  url := text "http://" ++ host ++ text "/"
  host := if port ≠ text "80" then host ++ text ":" ++ port else host
  header := [
    (text "User-Agent", text "curl/7." ++ decimal (draw.minor % 54) ++ text "." ++ decimal (draw.patch % 2)),
    (text "Upgrade", text "websocket"),
    (text "Connection", text "Upgrade"),
    (text "Sec-WebSocket-Key", encodeBase64 draw.random)]
  contentLength := length

def responseHeader (draw : HttpDraw) : Bytes :=
  text "HTTP/1.1 101 Switching Protocols\r\nServer: nginx\r\nDate: " ++ draw.date ++
  text "\r\nUpgrade: websocket\r\nConnection: Upgrade\r\nSec-WebSocket-Accept: " ++ encodeBase64 draw.random ++
  text "\r\n\r\n"

/-- **The assumption about `net/http`**: there is no request in nothing, and a request for the host is read as it was
written, with the payload as its body. -/
structure HttpLibrary.Accepts (lib : HttpLibrary) (host port : Bytes) : Prop where
  size : 0 < lib.bufferSize
  nothing : lib.readRequest [] = .more
  back : ∀ draw payload, ∃ parsed : HttpRequest,
    Recognizes lib.readRequest (lib.writeHeader (newRequest host port draw payload.length)) parsed ∧
    parsed.method = text "GET" ∧ parsed.headerGet (text "Connection") = text "Upgrade" ∧
    Recognizes (lib.readBody parsed) payload payload

/-! ### The client -/

structure HTTPObfs where
  host : Bytes
  port : Bytes
  buf : Option Bytes := none
  offset : Nat := 0
  (firstRequest firstResponse : Bool := true)

section Endpoints

variable (lib : HttpLibrary)

def headerEnd : Bytes := text "\r\n\r\n"

def HTTPObfs.read (ho : HTTPObfs) (room : Nat) (conn : Source UInt8) : Option (ReadResult UInt8 × HTTPObfs) :=
  match ho.buf with
  | some buf =>
    let data := (buf.drop ho.offset).take room
    let offset := ho.offset + data.length
    some (⟨data, none, conn⟩,
      if offset = buf.length then { ho with buf := none, offset := offset } else { ho with offset := offset })
  | none =>
    if ho.firstResponse then
      match conn.read lib.bufferSize with
      | none => none
      | some ⟨_, some err, rest⟩ => some (⟨[], some err, rest⟩, ho)
      | some ⟨got, none, rest⟩ =>
        match index headerEnd got with
        | none => some (⟨[], some .eof, rest⟩, ho)
        | some idx =>
          let length := got.length - (idx + 4)
          let data := (got.drop (idx + 4)).take room
          some (⟨data, none, rest⟩,
            if data.length < length then
              { ho with firstResponse := false, buf := some (got.take (idx + 4 + length)), offset := idx + 4 + data.length }
            else { ho with firstResponse := false })
    else (conn.read room).map fun result => (result, ho)

def HTTPObfs.write (ho : HTTPObfs) (draw : HttpDraw) (b : Bytes) : HTTPObfs × Bytes :=
  if ho.firstRequest then
    ({ ho with firstRequest := false }, lib.writeHeader (newRequest ho.host ho.port draw b.length) ++ b)
  else (ho, b)

/-- What the client has of the response and has not returned. -/
def HTTPObfs.kept (ho : HTTPObfs) : Bytes :=
  match ho.buf with
  | none => []
  | some buf => buf.drop ho.offset

/-! ### The server -/

/-- The `reader` is what the buffered reader has read ahead; there is none before the first request. -/
structure HTTPObfsServer where
  (buffer reader : Bytes := [])
  (firstRequest firstResponse : Bool := true)

/-- A read of `bufio.Reader`: what it has read ahead, or one read, for which a large buffer is used itself. -/
def bufioRead (ahead : Bytes) (room : Nat) (conn : Source UInt8) : Option (ReadResult UInt8 × Bytes) :=
  if 0 < ahead.length then some (⟨ahead.take room, none, conn⟩, ahead.drop room)
  else if readerSize ≤ room then (conn.read room).map fun result => (result, [])
  else (conn.read readerSize).map fun result =>
    ({ result with data := result.data.take room }, result.data.drop room)

def HTTPObfsServer.read (c : HTTPObfsServer) (room : Nat) (conn : Source UInt8) :
    Option (ReadResult UInt8 × HTTPObfsServer) :=
  if 0 < c.buffer.length then
    some (⟨c.buffer.take room, none, conn⟩, { c with buffer := c.buffer.drop room })
  else if c.firstRequest then
    match conn.gather lib.readRequest readerSize [] with
    | none => none
    | some (.error err, rest) => some (⟨[], some err, rest⟩, c)
    | some (.ok (request, ahead), rest) =>
      if request.method ≠ text "GET" ∨ request.headerGet (text "Connection") ≠ text "Upgrade" then
        some (⟨[], some .eof, rest⟩, c)
      else
        match rest.gather (lib.readBody request) readerSize ahead with
        | none => none
        -- the body has a length, so that an end is always too early
        | some (.error err, rest) => some (⟨[], some (if err = .eof then .unexpectedEOF else err), rest⟩, c)
        | some (.ok (body, ahead), rest) =>
          some (⟨body.take room, none, rest⟩,
            { c with reader := ahead, firstRequest := false, buffer := body.drop room })
  else (bufioRead c.reader room conn).map fun got => (got.1, { c with reader := got.2 })

def HTTPObfsServer.write (c : HTTPObfsServer) (draw : HttpDraw) (p : Bytes) : HTTPObfsServer × Bytes :=
  if c.firstResponse then ({ c with firstResponse := false }, responseHeader draw ++ p) else (c, p)

def httpClient : Endpoint HTTPObfs HttpDraw UInt8 := ⟨HTTPObfs.write lib, HTTPObfs.read lib, fun ho => ho.kept.length⟩

def httpServer : Endpoint HTTPObfsServer HttpDraw UInt8 :=
  ⟨HTTPObfsServer.write, HTTPObfsServer.read lib, fun c => c.buffer.length + c.reader.length⟩

def httpConnection (host port : Bytes) : Duplex HTTPObfs HTTPObfsServer UInt8 := ⟨{ host := host, port := port }, {}, {}, {}⟩

end Endpoints

end SingBox.Obfs
