/-
**Simple-obfs in TLS mode** (`transport/simple-obfs/tls.go` and `tls_server.go`).

The bytes of a connection are disguised as TLS. The first chunk that the client writes is the session ticket of a
client hello, the first one of the server follows a server hello, and every other chunk is an application data record.
The readers skip the disguise by its length and keep count of what remains of a record that is longer than the buffer
they were given. The part of the client hello behind the session ticket is skipped at the next read of the server.
-/

import SingBox.Lib.Stream
import SingBox.Adapter.Metadata

namespace SingBox.Obfs

open SingBox.Lib

/-! ### Messages -/

def chunkSize : Nat := 2 ^ 14

/-- What a hello has from the clock and from the random generator. -/
structure HelloDraw where
  time : Nat
  random : Bytes
  sessionID : Bytes
  random_length : random.length = 28
  sessionID_length : sessionID.length = 32

def record (b : Bytes) : Bytes := [0x17, 0x03, 0x03] ++ bigEndian 2 b.length ++ b

def clientHelloHead (draw : HelloDraw) (data server : Bytes) : Bytes :=
  -- handshake, TLS 1.0 version, length
  [22] ++ [0x03, 0x01] ++ bigEndian 2 (212 + data.length + server.length) ++
  -- clientHello, length, TLS 1.2 version
  [1] ++ [0] ++ bigEndian 2 (208 + data.length + server.length) ++ [0x03, 0x03] ++
  -- random with timestamp, sid len, sid
  bigEndian 4 draw.time ++ draw.random ++ [32] ++ draw.sessionID ++
  -- cipher suites
  [0x00, 0x38] ++
  [0xc0, 0x2c, 0xc0, 0x30, 0x00, 0x9f, 0xcc, 0xa9, 0xcc, 0xa8, 0xcc, 0xaa, 0xc0, 0x2b, 0xc0, 0x2f,
    0x00, 0x9e, 0xc0, 0x24, 0xc0, 0x28, 0x00, 0x6b, 0xc0, 0x23, 0xc0, 0x27, 0x00, 0x67, 0xc0, 0x0a,
    0xc0, 0x14, 0x00, 0x39, 0xc0, 0x09, 0xc0, 0x13, 0x00, 0x33, 0x00, 0x9d, 0x00, 0x9c, 0x00, 0x3d,
    0x00, 0x3c, 0x00, 0x35, 0x00, 0x2f, 0x00, 0xff] ++
  -- compression
  [0x01, 0x00] ++
  -- extension length
  bigEndian 2 (79 + data.length + server.length) ++
  -- session ticket
  [0x00, 0x23]

def serverNameHead (server : Bytes) : Bytes :=
  [0x00, 0x00] ++ bigEndian 2 (server.length + 5) ++ bigEndian 2 (server.length + 3) ++ [0]

/-- The extensions behind the server name: ec_point, groups, signature, encrypt then mac, extended master secret. -/
def helloExtensions : Bytes :=
  [0x00, 0x0b, 0x00, 0x04, 0x03, 0x01, 0x00, 0x02] ++
  [0x00, 0x0a, 0x00, 0x0a, 0x00, 0x08, 0x00, 0x1d, 0x00, 0x17, 0x00, 0x19, 0x00, 0x18] ++
  [0x00, 0x0d, 0x00, 0x20, 0x00, 0x1e, 0x06, 0x01, 0x06, 0x02, 0x06, 0x03, 0x05,
    0x01, 0x05, 0x02, 0x05, 0x03, 0x04, 0x01, 0x04, 0x02, 0x04, 0x03, 0x03, 0x01,
    0x03, 0x02, 0x03, 0x03, 0x02, 0x01, 0x02, 0x02, 0x02, 0x03] ++
  [0x00, 0x16, 0x00, 0x00] ++ [0x00, 0x17, 0x00, 0x00]

def clientHelloTail (server : Bytes) : Bytes :=
  serverNameHead server ++ (bigEndian 2 server.length ++ (server ++ helloExtensions))

def makeClientHelloMsg (draw : HelloDraw) (data server : Bytes) : Bytes :=
  clientHelloHead draw data server ++ (bigEndian 2 data.length ++ (data ++ clientHelloTail server))

def serverHelloHead (draw : HelloDraw) : Bytes :=
  [0x16] ++ bigEndian 2 0x0301 ++ bigEndian 2 91 ++ [2, 0, 0, 87, 0x03, 0x03] ++ bigEndian 4 draw.time ++
  draw.random ++ [32] ++ draw.sessionID ++
  [0xcc, 0xa8, 0, 0, 0, 0xff, 1, 0, 1, 0, 0, 0x17, 0, 0, 0, 0x0b, 0, 2, 1, 0] ++ [0x14, 0x03, 0x03, 0, 1, 1] ++
  [0x16, 0x03, 0x03]

def makeTLSServerHello (draw : HelloDraw) (payload : Bytes) : Bytes :=
  serverHelloHead draw ++ (bigEndian 2 payload.length ++ payload)

/-- The loop of both writers over the chunks; `fuel` bounds their number. -/
def writeChunks {σ : Type} (write : σ → Bytes → σ × Bytes) : Nat → σ → Bytes → σ × Bytes
  | 0, c, _ => (c, [])
  | fuel + 1, c, b =>
    if b.isEmpty then (c, [])
    else
      let first := write c (b.take chunkSize)
      let rest := writeChunks write fuel first.1 (b.drop chunkSize)
      (rest.1, first.2 ++ rest.2)

structure TLSObfs where
  server : Bytes
  remain : Nat := 0
  (firstRequest firstResponse : Bool := true)

def TLSObfs.writeChunk (draw : HelloDraw) (c : TLSObfs) (b : Bytes) : TLSObfs × Bytes :=
  if c.firstRequest then ({ c with firstRequest := false }, makeClientHelloMsg draw b c.server)
  else (c, record b)

def TLSObfs.write (c : TLSObfs) (draw : HelloDraw) (b : Bytes) : TLSObfs × Bytes :=
  writeChunks (TLSObfs.writeChunk draw) b.length c b

structure TLSObfsServer where
  remain : Nat := 0
  firstRequest : Bool := true
  sessionTicketDone : Bool := false
  firstResponse : Bool := true

def TLSObfsServer.writeChunk (draw : HelloDraw) (c : TLSObfsServer) (p : Bytes) : TLSObfsServer × Bytes :=
  if c.firstResponse then ({ c with firstResponse := false }, makeTLSServerHello draw p) else (c, record p)

def TLSObfsServer.write (c : TLSObfsServer) (draw : HelloDraw) (p : Bytes) : TLSObfsServer × Bytes :=
  writeChunks (TLSObfsServer.writeChunk draw) p.length c p

/-! ### Reading -/

/-- `TLSObfs.read`. An error at the length is dropped, and a piece that comes with an error leaves no remainder. -/
def TLSObfs.readRecord (c : TLSObfs) (room discardN : Nat) (conn : Source UInt8) :
    Option (ReadResult UInt8 × TLSObfs) :=
  match conn.readFull discardN with
  | none => none
  | some ⟨_, some err, rest⟩ => some (⟨[], some err, rest⟩, c)
  | some ⟨_, none, rest⟩ =>
    match rest.readFull 2 with
    | none => none
    | some ⟨_, some _, rest⟩ => some (⟨[], none, rest⟩, c)
    | some ⟨sizeBuf, none, rest⟩ =>
      if room < ofBigEndian sizeBuf then
        match rest.read room with
        | none => none
        | some ⟨b, some err, rest⟩ => some (⟨b, some err, rest⟩, c)
        | some ⟨b, none, rest⟩ => some (⟨b, none, rest⟩, { c with remain := ofBigEndian sizeBuf - b.length })
      else (rest.readFull (ofBigEndian sizeBuf)).map fun result => (result, c)

def TLSObfs.read (c : TLSObfs) (room : Nat) (conn : Source UInt8) : Option (ReadResult UInt8 × TLSObfs) :=
  if 0 < c.remain then
    (conn.readFull (min c.remain room)).map fun result =>
      (result, { c with remain := c.remain - result.data.length })
  -- type + ver + lensize + 91 = 96, type + ver + lensize + 1 = 6, type + ver = 3
  else if c.firstResponse then { c with firstResponse := false }.readRecord room 105 conn
  else c.readRecord room 3 conn

/-- `TLSObfsServer.read`. -/
def TLSObfsServer.readRecord (c : TLSObfsServer) (room discardLen : Nat) (conn : Source UInt8) :
    Option (ReadResult UInt8 × TLSObfsServer) :=
  match conn.readFull discardLen with
  | none => none
  | some ⟨_, some err, rest⟩ => some (⟨[], some err, rest⟩, c)
  | some ⟨_, none, rest⟩ =>
    match rest.readFull 2 with
    | none => none
    | some ⟨_, some err, rest⟩ => some (⟨[], some err, rest⟩, c)
    | some ⟨lengthBytes, none, rest⟩ =>
      if room < ofBigEndian lengthBytes then
        (rest.read room).map fun result =>
          (result, { c with remain := ofBigEndian lengthBytes - result.data.length })
      else (rest.readFull (ofBigEndian lengthBytes)).map fun result => (result, c)

def TLSObfsServer.skipHello (c : TLSObfsServer) (conn : Source UInt8) : Option (ReadResult UInt8 × TLSObfsServer) :=
  match { c with sessionTicketDone := true }.readRecord 256 7 conn with
  | none => none
  | some (⟨_, some err, rest⟩, c) => some (⟨[], some err, rest⟩, c)
  | some (⟨_, none, rest⟩, c) =>
    match rest.readFull (4 * 16 + 2) with
    | none => none
    | some ⟨_, err, rest⟩ => some (⟨[], err, rest⟩, c)

def TLSObfsServer.read (c : TLSObfsServer) (room : Nat) (conn : Source UInt8) :
    Option (ReadResult UInt8 × TLSObfsServer) :=
  if 0 < c.remain then
    (conn.readFull (min c.remain room)).map fun result =>
      (result, { c with remain := c.remain - result.data.length })
  else if c.firstRequest then { c with firstRequest := false }.readRecord room (9 * 16 - 4) conn
  else if !c.sessionTicketDone then
    match c.skipHello conn with
    | none => none
    | some (⟨_, some err, rest⟩, c) => some (⟨[], some err, rest⟩, c)
    | some (⟨_, none, rest⟩, c) => c.readRecord room 3 rest
  else c.readRecord room 3 conn

def tlsClient : Endpoint TLSObfs HelloDraw UInt8 := ⟨TLSObfs.write, TLSObfs.read, fun _ => 0⟩

def tlsServer : Endpoint TLSObfsServer HelloDraw UInt8 := ⟨TLSObfsServer.write, TLSObfsServer.read, fun _ => 0⟩

def tlsConnection (server : Bytes) : Duplex TLSObfs TLSObfsServer UInt8 := ⟨{ server := server }, {}, {}, {}⟩

end SingBox.Obfs
