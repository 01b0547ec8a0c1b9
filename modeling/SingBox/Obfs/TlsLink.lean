/-
**Simple-obfs in TLS mode is transparent for server names of up to 256 bytes.**

Three facts about the code: what a write puts on the way (`writeChunks_records`), how a frame is read whose skipped
part has the length that the reader expects (`ReadsFrame`), and that what is left of a client hello is skipped
exactly (`skipHello_eq`). `Direction` is what both ways of a connection have in common: `OnWay` says what can be on
the way, by the state of the writer and of the reader, and `Direction.carries` that the rule for streams applies.
-/

import SingBox.Obfs.Tls

namespace SingBox.Obfs

open SingBox.Lib List Source

theorem length_clientHelloHead (draw : HelloDraw) (data server : Bytes) :
    (clientHelloHead draw data server).length = 9 * 16 - 4 := by
  simp [clientHelloHead, length_bigEndian, draw.random_length, draw.sessionID_length]

theorem length_serverNameHead (server : Bytes) : (serverNameHead server).length = 7 := by
  simp [serverNameHead, length_bigEndian]

theorem length_helloExtensions : helloExtensions.length = 4 * 16 + 2 := rfl

/-! ### Writing -/

def IsChunk (c : Bytes) : Prop := 0 < c.length ∧ c.length ≤ chunkSize

def records (chunks : List Bytes) : Bytes := chunks.flatMap record

theorem records_cons (c : Bytes) (cs : List Bytes) :
    records (c :: cs) = [0x17, 0x03, 0x03] ++ (bigEndian 2 c.length ++ (c ++ records cs)) := by
  simp [records, record]

theorem records_append (cs more : List Bytes) : records (cs ++ more) = records cs ++ records more :=
  flatMap_append

theorem length_flatten_le_records (cs : List Bytes) : cs.flatten.length ≤ (records cs).length := by
  induction cs with
  | nil => exact le_refl 0
  | cons c cs ih =>
    rw [records_cons, flatten_cons]
    simp only [length_append]
    omega

theorem isChunk_take {b : Bytes} (some : b ≠ []) : IsChunk (b.take chunkSize) := by
  have positive : 0 < b.length := length_pos_of_ne_nil some
  rw [IsChunk, length_take, chunkSize]
  omega

theorem writeChunks_records {σ : Type} {write : σ → Bytes → σ × Bytes} {s : σ}
    (plain : ∀ b, write s b = (s, record b)) {fuel : Nat} {b : Bytes} (fits : b.length ≤ fuel) :
    ∃ cs, (∀ c ∈ cs, IsChunk c) ∧ cs.flatten = b ∧ writeChunks write fuel s b = (s, records cs) := by
  induction fuel generalizing b with
  | zero =>
    rw [eq_nil_of_length_eq_zero (Nat.le_zero.mp fits)]
    exact ⟨[], forall_mem_nil _, rfl, rfl⟩
  | succ fuel ih =>
    by_cases empty : b = []
    · rw [empty]
      exact ⟨[], forall_mem_nil _, rfl, rfl⟩
    have shorter : (b.drop chunkSize).length ≤ fuel := by
      rw [length_drop, chunkSize]
      omega
    obtain ⟨cs, chunks, whole, rest⟩ := ih shorter
    refine ⟨b.take chunkSize :: cs, forall_mem_cons.mpr ⟨isChunk_take empty, chunks⟩, ?_, ?_⟩
    · rw [flatten_cons, whole, take_append_drop]
    · rw [writeChunks, if_neg (fun is => empty (isEmpty_iff.mp is))]
      simp only [plain, rest]
      rfl

theorem writeChunks_hello {σ : Type} {write : σ → Bytes → σ × Bytes} {s s' : σ} {hello : Bytes → Bytes}
    (first : ∀ b, write s b = (s', hello b)) (plain : ∀ b, write s' b = (s', record b)) {b : Bytes} (some : b ≠ []) :
    ∃ c cs, IsChunk c ∧ (∀ c ∈ cs, IsChunk c) ∧ c ++ cs.flatten = b ∧
      writeChunks write b.length s b = (s', hello c ++ records cs) := by
  obtain ⟨fuel, length⟩ : ∃ fuel, b.length = fuel + 1 :=
    Nat.exists_eq_succ_of_ne_zero (ne_of_gt (length_pos_of_ne_nil some))
  have shorter : (b.drop chunkSize).length ≤ fuel := by
    rw [length_drop, chunkSize]
    omega
  obtain ⟨cs, chunks, whole, rest⟩ := writeChunks_records plain shorter
  refine ⟨b.take chunkSize, cs, isChunk_take some, chunks, ?_, ?_⟩
  · rw [whole, take_append_drop]
  · rw [length, writeChunks, if_neg (fun is => some (isEmpty_iff.mp is))]
    simp only [first, rest]

/-! ### Reading -/

theorem ofBigEndian_length {b : Bytes} (small : b.length < 65536) : ofBigEndian (bigEndian 2 b.length) = b.length := by
  rw [ofBigEndian_bigEndian]
  exact Nat.mod_eq_of_lt small

/-- What a reader gets of a frame: the first `n` bytes, and all of it if there is room. -/
structure Gets (room : Nat) (payload : Bytes) (n : Nat) : Prop where
  le : n ≤ payload.length
  pos : 0 < payload.length → 0 < n
  all : payload.length ≤ room → n = payload.length

variable {room discardN discardLen : Nat} {c : TLSObfsServer} {conn : Source UInt8} {result : ReadResult UInt8}

theorem read_payload (positive : 0 < room) {payload rest : Bytes} {closed : Bool} {splits : List Nat} :
    ∃ n splits', Gets room payload n ∧ if room < payload.length then read ⟨payload ++ rest, closed, splits⟩ room =
          some ⟨payload.take n, none, ⟨payload.drop n ++ rest, closed, splits'⟩⟩ else
        readFull ⟨payload ++ rest, closed, splits⟩ payload.length =
          some ⟨payload.take n, none, ⟨payload.drop n ++ rest, closed, splits'⟩⟩ := by
  split_ifs with long
  · have arrived : payload ++ rest ≠ [] := ne_nil_of_length_pos (by rw [length_append]; omega)
    obtain ⟨n, some, fits, -, got⟩ := read_of_ne_nil (s := ⟨payload ++ rest, closed, splits⟩) positive arrived
    have inside : n ≤ payload.length := by omega
    refine ⟨n, splits.tail, ⟨inside, fun _ => some, fun enough => absurd long (not_lt.mpr enough)⟩, ?_⟩
    rw [got, take_append_of_le_length inside, drop_append_of_le_length inside]
  · obtain ⟨splits', got⟩ : ∃ splits', readFull ⟨payload ++ rest, closed, splits⟩ payload.length =
        some ⟨payload, none, ⟨rest, closed, splits'⟩⟩ := readFull_append rfl closed splits
    refine ⟨payload.length, splits', ⟨le_refl _, id, fun _ => rfl⟩, ?_⟩
    rw [got, take_length, drop_length, nil_append]

/-- **A reader of frames**: it skips `discard` bytes and reads a length and what there is room for of the payload. -/
structure ReadsFrame {τ : Type} (read : Nat → Source UInt8 → Option (ReadResult UInt8 × τ)) (discard : Nat)
    (next : Nat → τ) : Prop where
  frame : ∀ {room : Nat}, 0 < room → ∀ {skipped payload rest : Bytes}, skipped.length = discard →
    payload.length < 65536 → ∀ closed splits, ∃ n splits', Gets room payload n ∧
      read room ⟨skipped ++ (bigEndian 2 payload.length ++ (payload ++ rest)), closed, splits⟩ =
        some (⟨payload.take n, none, ⟨payload.drop n ++ rest, closed, splits'⟩⟩, next (payload.length - n))
  waits : ∀ room splits, read room ⟨[], false, splits⟩ = none

theorem ReadsFrame.of_eq {τ : Type} {read read' : Nat → Source UInt8 → Option (ReadResult UInt8 × τ)} {discard : Nat}
    {next : Nat → τ} (reads : ReadsFrame read' discard next) (same : ∀ room conn, read room conn = read' room conn) :
    ReadsFrame read discard next := by
  rwa [show read = read' from funext₂ same]

/-- What the server reads with: what is left of a record, whether it expects the hello, and whether it has skipped what
follows the session ticket. -/
def TLSObfsServer.reader (c : TLSObfsServer) : Nat × Bool × Bool := (c.remain, c.firstRequest, c.sessionTicketDone)

/-- What the client reads with: nothing follows the payload of a server hello. -/
def TLSObfs.reader (c : TLSObfs) : Nat × Bool × Bool := (c.remain, c.firstResponse, true)

open TLSObfs

theorem TLSObfs.readRecord_nil {c : TLSObfs} (positive : 0 < discardN) (closed : Bool) (splits : List Nat) :
    c.readRecord room discardN ⟨[], closed, splits⟩ =
      if closed then some (⟨[], some .eof, ⟨[], closed, splits⟩⟩, c) else none := by
  rw [readRecord, readFull_nil positive]
  cases closed <;> rfl

theorem TLSObfs.readsFrame {c : TLSObfs} (idle : c.remain = 0) (some : 0 < discardN) :
    ReadsFrame (c.readRecord · discardN) discardN fun n => { c with remain := n } where
  frame positive _ payload _ skips small closed splits := by
    obtain ⟨splits₁, first⟩ := readFull_append skips closed splits
    obtain ⟨splits₂, second⟩ := readFull_append (length_bigEndian 2 payload.length) closed splits₁
    obtain ⟨n, splits₃, gets, third⟩ := read_payload positive
    refine ⟨n, splits₃, gets, ?_⟩
    rw [readRecord, first]
    dsimp only
    rw [second]
    dsimp only
    rw [ofBigEndian_length small]
    split_ifs with long
    · rw [if_pos long] at third
      rw [third]
      dsimp only
      rw [length_take_of_le gets.le]
    · rw [if_neg long] at third
      rw [third, gets.all (not_lt.mp long), Nat.sub_self, ← idle]
      rfl
  waits _ splits := readRecord_nil some false splits

open TLSObfsServer

theorem TLSObfsServer.readRecord_nil (positive : 0 < discardLen) (closed : Bool) (splits : List Nat) :
    c.readRecord room discardLen ⟨[], closed, splits⟩ =
      if closed then some (⟨[], some .eof, ⟨[], closed, splits⟩⟩, c) else none := by
  rw [readRecord, readFull_nil positive]
  cases closed <;> rfl

theorem TLSObfsServer.readsFrame (idle : c.remain = 0) (some : 0 < discardLen) :
    ReadsFrame (c.readRecord · discardLen) discardLen fun n => { c with remain := n } where
  frame positive _ payload _ skips small closed splits := by
    obtain ⟨splits₁, first⟩ := readFull_append skips closed splits
    obtain ⟨splits₂, second⟩ := readFull_append (length_bigEndian 2 payload.length) closed splits₁
    obtain ⟨n, splits₃, gets, third⟩ := read_payload positive
    refine ⟨n, splits₃, gets, ?_⟩
    rw [readRecord, first]
    dsimp only
    rw [second]
    dsimp only
    rw [ofBigEndian_length small]
    split_ifs with long
    · rw [if_pos long] at third
      rw [third]
      dsimp only [Option.map_some]
      rw [length_take_of_le gets.le]
    · rw [if_neg long] at third
      rw [third, gets.all (not_lt.mp long), Nat.sub_self, ← idle]
      rfl
  waits _ splits := readRecord_nil some false splits

theorem readFull_remainder (positive : 0 < room) {payload rest : Bytes} (closed : Bool) (splits : List Nat) :
    ∃ n splits', Gets room payload n ∧ readFull ⟨payload ++ rest, closed, splits⟩ (min payload.length room) =
        some ⟨payload.take n, none, ⟨payload.drop n ++ rest, closed, splits'⟩⟩ := by
  have inside : min payload.length room ≤ payload.length := min_le_left _ _
  have enough : min payload.length room ≤ (payload ++ rest).length := by
    rw [length_append]
    omega
  obtain ⟨splits', got⟩ := readFull_of_le (s := ⟨payload ++ rest, closed, splits⟩) enough
  refine ⟨min payload.length room, splits', ⟨inside, by omega, by omega⟩, ?_⟩
  rw [got, take_append_of_le_length inside, drop_append_of_le_length inside]

theorem TLSObfsServer.skipHello_eq (idle : c.remain = 0) {server : Bytes}
    (fits : server.length ≤ 256) (rest : Bytes) (closed : Bool) (splits : List Nat) :
    ∃ splits', c.skipHello ⟨clientHelloTail server ++ rest, closed, splits⟩ =
      some (⟨[], none, ⟨rest, closed, splits'⟩⟩, { c with sessionTicketDone := true }) := by
  have whole : clientHelloTail server ++ rest =
      serverNameHead server ++ (bigEndian 2 server.length ++ (server ++ (helloExtensions ++ rest))) := by
    simp only [clientHelloTail, append_assoc]
  obtain ⟨n, splits₁, gets, name⟩ := (readsFrame (c := { c with sessionTicketDone := true }) idle (by decide)).frame
    (show 0 < 256 by decide) (length_serverNameHead server) (show server.length < 65536 by omega) closed splits
  obtain ⟨splits₂, extensions⟩ := readFull_append length_helloExtensions closed splits₁
  refine ⟨splits₂, ?_⟩
  rw [skipHello, whole, name]
  dsimp only
  rw [gets.all fits, drop_length, nil_append, extensions, Nat.sub_self, ← idle]

theorem TLSObfsServer.read_between {b : TLSObfsServer} (between : b.reader = (0, false, true)) (room : Nat)
    (conn : Source UInt8) : b.read room conn = b.readRecord room 3 conn := by
  simp only [reader, Prod.mk.injEq] at between
  obtain ⟨idle, request, ticket⟩ := between
  rw [read, if_neg idle.not_gt, if_neg (ne_true_of_eq_false request), if_neg (by rw [ticket]; exact Bool.false_ne_true)]

theorem TLSObfsServer.read_ticket {b : TLSObfsServer} (reading : b.reader = (0, false, false)) {rest : Source UInt8}
    (skipped : b.skipHello conn = some (⟨[], none, rest⟩, c)) (room : Nat) :
    b.read room conn = c.readRecord room 3 rest := by
  simp only [reader, Prod.mk.injEq] at reading
  obtain ⟨idle, request, ticket⟩ := reading
  rw [read, if_neg idle.not_gt, if_neg (ne_true_of_eq_false request), if_pos (by rw [ticket]; rfl), skipped]

/-! ### What a side does not touch -/

theorem TLSObfs.readRecord_writer {c c' : TLSObfs} (read : c.readRecord room discardN conn = some (result, c')) :
    c'.server = c.server ∧ c'.firstRequest = c.firstRequest := by
  revert read
  fun_cases readRecord c room discardN conn with
  | case1 | case3 | case5 => rintro ⟨⟩
  | case2 | case4 | case6 | case7 =>
    rintro ⟨⟩
    exact ⟨rfl, rfl⟩
  | case8 =>
    intro read
    obtain ⟨got, -, ⟨⟩⟩ := Option.map_eq_some_iff.mp read
    exact ⟨rfl, rfl⟩

theorem TLSObfs.read_writer {c c' : TLSObfs} (read : c.read room conn = some (result, c')) :
    c'.server = c.server ∧ c'.firstRequest = c.firstRequest := by
  unfold TLSObfs.read at read
  split_ifs at read with more first
  · obtain ⟨got, -, same⟩ := Option.map_eq_some_iff.mp read
    cases same
    exact ⟨rfl, rfl⟩
  · have kept := readRecord_writer read
    exact kept
  · exact readRecord_writer read

theorem TLSObfsServer.readRecord_writer {c' : TLSObfsServer}
    (read : c.readRecord room discardLen conn = some (result, c')) : c'.firstResponse = c.firstResponse := by
  revert read
  fun_cases readRecord c room discardLen conn with
  | case1 | case3 => rintro ⟨⟩
  | case2 | case4 =>
    rintro ⟨⟩
    rfl
  | case5 | case6 =>
    intro read
    obtain ⟨got, -, ⟨⟩⟩ := Option.map_eq_some_iff.mp read
    rfl

theorem TLSObfsServer.skipHello_writer {c' : TLSObfsServer} (read : c.skipHello conn = some (result, c')) :
    c'.firstResponse = c.firstResponse := by
  revert read
  fun_cases skipHello c conn with
  | case1 | case3 => rintro ⟨⟩
  | case2 _ _ _ _ name | case4 _ _ _ name =>
    rintro ⟨⟩
    have kept := readRecord_writer name
    exact kept

theorem TLSObfsServer.read_writer {c' : TLSObfsServer} (read : c.read room conn = some (result, c')) :
    c'.firstResponse = c.firstResponse := by
  unfold TLSObfsServer.read at read
  split_ifs at read with more first ticket
  · obtain ⟨got, -, same⟩ := Option.map_eq_some_iff.mp read
    cases same
    rfl
  · have kept := readRecord_writer read
    exact kept
  · split at read
    · cases read
    · next skipped =>
      cases read
      exact skipHello_writer skipped
    · next skipped =>
      exact (readRecord_writer read).trans (skipHello_writer skipped)
  · exact readRecord_writer read

theorem writeChunks_keeps {σ α : Type} {write : σ → Bytes → σ × Bytes} {field : σ → α}
    (each : ∀ s b, field (write s b).1 = field s) (fuel : Nat) (s : σ) (b : Bytes) :
    field (writeChunks write fuel s b).1 = field s := by
  induction fuel generalizing s b with
  | zero => rfl
  | succ fuel ih =>
    rw [writeChunks]
    split_ifs
    · rfl
    · exact (ih _ _).trans (each s _)

theorem TLSObfsServer.write_reader (c : TLSObfsServer) (draw : HelloDraw) (p : Bytes) :
    (c.write draw p).1.reader = c.reader := by
  refine writeChunks_keeps (fun c b => ?_) _ c p
  unfold writeChunk
  split_ifs <;> rfl

theorem TLSObfs.write_reader (c : TLSObfs) (draw : HelloDraw) (p : Bytes) : (c.write draw p).1.reader = c.reader := by
  refine writeChunks_keeps (fun c b => ?_) _ c p
  unfold writeChunk
  split_ifs <;> rfl

/-- What a read does that returns the first `n` bytes of a chunk. -/
theorem readsOn_chunk {τ : Type} {B : Endpoint τ HelloDraw UInt8} (nothingHeld : ∀ b, B.held b = 0)
    {Pending : τ → Bytes → Bytes → Prop} {b b' : τ} {closed : Bool} {wire c rest more : Bytes} {n : Nat}
    {splits : List Nat} (next : Pending b' (c.drop n ++ rest) (c.drop n ++ more))
    (shorter : (c.drop n ++ rest).length < wire.length) :
    ReadsOn B Pending b closed wire (c ++ more) ⟨c.take n, none, ⟨c.drop n ++ rest, closed, splits⟩⟩ b' where
  part := by
    refine ⟨c.drop n ++ more, ?_, next⟩
    rw [← append_assoc, take_append_drop]
  honest impossible := absurd impossible Bool.false_ne_true
  less _ := by
    rw [nothingHeld, nothingHeld]
    exact shorter

/-! ### One direction -/

/-- What can be on the way and what it makes up, by whether the hello is still to be written and by what the reader
reads with. A hello has a `head` before the length of the chunk, and a `tail` behind the chunk. -/
inductive OnWay (head : HelloDraw → Bytes → Bytes) (tail : Bytes) (skipped : Bool) :
    Bool → Nat × Bool × Bool → Bool → Bytes → Bytes → Prop
  | fresh (closed : Bool) : OnWay head tail skipped true (0, true, skipped) closed [] []
  | hello (draw : HelloDraw) {c : Bytes} {cs : List Bytes} (chunk : IsChunk c) (chunks : ∀ c ∈ cs, IsChunk c)
      (closed : Bool) : OnWay head tail skipped false (0, true, skipped) closed
        (head draw c ++ (bigEndian 2 c.length ++ (c ++ (tail ++ records cs)))) (c ++ cs.flatten)
  | ticket {c : Bytes} {cs : List Bytes} (chunks : ∀ c ∈ cs, IsChunk c) (closed : Bool) :
      OnWay head tail skipped false (c.length, false, skipped) closed (c ++ (tail ++ records cs)) (c ++ cs.flatten)
  | record {c : Bytes} {cs : List Bytes} (chunks : ∀ c ∈ cs, IsChunk c) (closed : Bool) :
      OnWay head tail skipped false (c.length, false, true) closed (c ++ records cs) (c ++ cs.flatten)
  | ended (first expects ticket : Bool) : OnWay head tail skipped first (0, expects, ticket) true [] []

namespace OnWay

variable {head : HelloDraw → Bytes → Bytes} {tail : Bytes} {skipped first : Bool} {reader : Nat × Bool × Bool}
  {wire unread : Bytes}

theorem length_le {closed : Bool} (state : OnWay head tail skipped first reader closed wire unread) :
    unread.length ≤ wire.length := by
  cases state with
  | fresh => exact le_refl 0
  | @hello draw c cs chunk chunks | @ticket c cs chunks | @record c cs chunks =>
    have records := length_flatten_le_records cs
    simp only [length_append]
    omega
  | ended => exact le_refl 0

theorem close (state : OnWay head tail skipped first reader false wire unread) :
    OnWay head tail skipped first reader true wire unread := by
  cases state with
  | fresh => exact .fresh true
  | hello draw chunk chunks => exact .hello draw chunk chunks true
  | ticket chunks => exact .ticket chunks true
  | record chunks => exact .record chunks true

theorem append (state : OnWay head tail skipped false reader false wire unread) {more : List Bytes}
    (chunks' : ∀ c ∈ more, IsChunk c) :
    OnWay head tail skipped false reader false (wire ++ records more) (unread ++ more.flatten) := by
  have both : ∀ {cs : List Bytes}, (∀ c ∈ cs, IsChunk c) → ∀ c ∈ cs ++ more, IsChunk c :=
    fun chunks => forall_mem_append.mpr ⟨chunks, chunks'⟩
  cases state with
  | hello draw chunk chunks =>
    simp only [append_assoc, ← records_append, ← flatten_append]
    exact .hello draw chunk (both chunks) false
  | ticket chunks =>
    simp only [append_assoc, ← records_append, ← flatten_append]
    exact .ticket (both chunks) false
  | record chunks =>
    simp only [append_assoc, ← records_append, ← flatten_append]
    exact .record (both chunks) false

end OnWay

/-- **A direction of a connection**: how one side writes and how the other one reads. -/
structure Direction {σ τ : Type} (A : Endpoint σ HelloDraw UInt8) (B : Endpoint τ HelloDraw UInt8) where
  head : HelloDraw → Bytes → Bytes
  discard : Nat
  tail : Bytes
  skipped : Bool
  length_head : ∀ draw c, (head draw c).length = discard
  -- the writer, of which some are meant
  named : σ → Prop
  first : σ → Bool
  chunk : HelloDraw → σ → Bytes → σ × Bytes
  write_eq : ∀ a draw b, A.write a draw b = writeChunks (chunk draw) b.length a b
  plain : ∀ {a}, first a = false → ∀ draw b, chunk draw a b = (a, record b)
  hello : ∀ {a}, named a → first a = true → ∀ draw, ∃ a', named a' ∧ first a' = false ∧
    ∀ b, chunk draw a b = (a', head draw b ++ (bigEndian 2 b.length ++ (b ++ tail)))
  keepsRead : ∀ {a room conn result a'}, A.read a room conn = some (result, a') →
    (named a → named a') ∧ first a' = first a
  -- the reader
  reader : τ → Nat × Bool × Bool
  nothingHeld : ∀ b, B.held b = 0
  keepsWrite : ∀ b draw payload, reader (B.write b draw payload).1 = reader b
  remainder : ∀ {b}, 0 < (reader b).1 → ∃ next : Nat → τ, (∀ n, reader (next n) = (n, (reader b).2)) ∧
    ∀ room conn, B.read b room conn = (conn.readFull (min (reader b).1 room)).map fun result =>
      (result, next ((reader b).1 - result.data.length))
  readHello : ∀ {b ticket}, reader b = (0, true, ticket) →
    ∃ next, (∀ n, reader (next n) = (n, false, ticket)) ∧ ReadsFrame (B.read b) discard next
  readRecord : ∀ {b}, reader b = (0, false, true) →
    ∃ next, (∀ n, reader (next n) = (n, false, true)) ∧ ReadsFrame (B.read b) 3 next
  skip : ∀ {b}, reader b = (0, false, skipped) → ∀ rest closed splits, ∃ b' splits', reader b' = (0, false, true) ∧
    ∀ room, B.read b room ⟨tail ++ rest, closed, splits⟩ = B.read b' room ⟨rest, closed, splits'⟩
  ended : ∀ {b}, (reader b).1 = 0 → ∀ room splits, ∃ b', (reader b').1 = 0 ∧
    B.read b room ⟨[], true, splits⟩ = some (⟨[], some .eof, ⟨[], true, splits⟩⟩, b')

namespace Direction

variable {σ τ : Type} {A : Endpoint σ HelloDraw UInt8} {B : Endpoint τ HelloDraw UInt8} (d : Direction A B)

/-- What is on the way for the states of both sides. -/
def Pending (a : σ) (b : τ) (closed : Bool) (wire unread : Bytes) : Prop :=
  d.named a ∧ OnWay d.head d.tail d.skipped (d.first a) (d.reader b) closed wire unread

theorem write {a : σ} {b : τ} {wire unread : Bytes} (pending : d.Pending a b false wire unread) (draw : HelloDraw)
    (payload : Bytes) :
    d.Pending (A.write a draw payload).1 b false (wire ++ (A.write a draw payload).2) (unread ++ payload) := by
  obtain ⟨named, state⟩ := pending
  rw [d.write_eq]
  cases first : d.first a with
  | true =>
    rw [first] at state
    by_cases empty : payload = []
    · rw [empty]
      have nothing : writeChunks (d.chunk draw) ([] : Bytes).length a [] = (a, []) := rfl
      rw [nothing, append_nil, append_nil]
      refine ⟨named, ?_⟩
      rw [first]
      exact state
    · obtain ⟨a', named', started, written⟩ := d.hello named first draw
      obtain ⟨c, cs, chunk, chunks, whole, written⟩ := writeChunks_hello written (d.plain started draw) empty
      rw [written]
      refine ⟨named', ?_⟩
      rw [started]
      generalize d.reader b = reader at state
      cases state with
      | fresh =>
        simp only [append_assoc, ← whole]
        exact .hello draw chunk chunks false
  | false =>
    rw [first] at state
    obtain ⟨more, chunks, whole, written⟩ := writeChunks_records (d.plain first draw) (le_refl payload.length)
    rw [written, ← whole]
    refine ⟨named, ?_⟩
    rw [first]
    exact state.append chunks

section Read

variable {d} {a : σ} {b : τ} {closed : Bool} {room : Nat}

theorem readFrame {b₁ : τ} {next : Nat → τ} {discard : Nat}
    (reads : ReadsFrame (B.read b₁) discard next) {skipped c rest more : Bytes} (chunk : IsChunk c)
    (positive : 0 < room) (skips : skipped.length = discard) (splits : List Nat) {wire : Bytes}
    (longer : (skipped ++ (bigEndian 2 c.length ++ (c ++ rest))).length ≤ wire.length)
    (after : ∀ n, d.Pending a (next (c.drop n).length) closed (c.drop n ++ rest) (c.drop n ++ more)) :
    Outcome B (d.Pending a · closed) b closed wire (c ++ more)
      (B.read b₁ room ⟨skipped ++ (bigEndian 2 c.length ++ (c ++ rest)), closed, splits⟩) := by
  obtain ⟨n, splits', -, read⟩ := reads.frame positive skips (lt_of_le_of_lt chunk.2 (by decide)) closed splits
  rw [← length_drop] at read
  refine .inr ⟨_, _, read, readsOn_chunk d.nothingHeld (after n) ?_⟩
  simp only [length_append, length_drop, length_bigEndian] at longer ⊢
  omega

theorem readNothing (named : d.named a) {b₁ : τ} (idle : (d.reader b₁).1 = 0) {splits : List Nat}
    (waits : closed = false → B.read b₁ room ⟨[], false, splits⟩ = none) {wire : Bytes} :
    Outcome B (d.Pending a · closed) b closed wire [] (B.read b₁ room ⟨[], closed, splits⟩) := by
  cases closed with
  | false => exact .inl ⟨waits rfl, rfl⟩
  | true =>
    obtain ⟨b', idle', read⟩ := d.ended idle room splits
    refine .inr ⟨_, _, read, .ended ⟨named, ?_⟩⟩
    have parts : d.reader b' = (0, (d.reader b').2) := Prod.ext idle' rfl
    rw [parts]
    exact .ended _ _ _

theorem readRecords (named : d.named a) (started : d.first a = false) {b₁ : τ}
    (reading : d.reader b₁ = (0, false, true)) {cs : List Bytes} (chunks : ∀ c ∈ cs, IsChunk c)
    (positive : 0 < room) (splits : List Nat) {wire : Bytes} (longer : (records cs).length ≤ wire.length) :
    Outcome B (d.Pending a · closed) b closed wire cs.flatten (B.read b₁ room ⟨records cs, closed, splits⟩) := by
  obtain ⟨next, after, reads⟩ := d.readRecord reading
  cases cs with
  | nil => exact readNothing named (congrArg Prod.fst reading) fun _ => reads.waits room splits
  | cons c cs =>
    obtain ⟨chunk, chunks⟩ := forall_mem_cons.mp chunks
    rw [records_cons] at longer ⊢
    refine readFrame reads chunk positive rfl splits longer fun n => ⟨named, ?_⟩
    rw [started, after]
    exact .record chunks closed

theorem readRemainder {c rest more : Bytes} (positive : 0 < room) (splits : List Nat)
    (some : 0 < c.length) {stage : Bool × Bool} (reading : d.reader b = (c.length, stage))
    (after : ∀ n b', d.reader b' = ((c.drop n).length, stage) →
      d.Pending a b' closed (c.drop n ++ rest) (c.drop n ++ more)) :
    Outcome B (d.Pending a · closed) b closed (c ++ rest) (c ++ more) (B.read b room ⟨c ++ rest, closed, splits⟩) := by
  obtain ⟨next, kept, reads⟩ := d.remainder (by rw [reading]; exact some)
  obtain ⟨n, splits', gets, read⟩ := readFull_remainder positive closed splits
  have positiveRead := gets.pos some
  have inside := gets.le
  rw [reading] at kept reads
  rw [reads, read]
  refine .inr ⟨_, _, rfl, readsOn_chunk d.nothingHeld (after n _ ?_) ?_⟩
  · rw [kept, length_drop, length_take_of_le inside]
  · simp only [length_append, length_drop]
    omega

theorem read {wire unread : Bytes} (pending : d.Pending a b closed wire unread) (positive : 0 < room)
    (splits : List Nat) : Outcome B (d.Pending a · closed) b closed wire unread
      (B.read b room ⟨wire, closed, splits⟩) := by
  obtain ⟨named, state⟩ := pending
  generalize first : d.first a = started at state
  generalize reading : d.reader b = reader at state
  cases state with
  | fresh =>
    obtain ⟨next, -, reads⟩ := d.readHello reading
    exact readNothing named (congrArg Prod.fst reading) fun _ => reads.waits room splits
  | @hello draw c cs chunk chunks =>
    obtain ⟨next, after, reads⟩ := d.readHello reading
    refine readFrame reads chunk positive (d.length_head draw c) splits (le_refl _) fun n => ⟨named, ?_⟩
    rw [first, after]
    exact .ticket chunks closed
  | @ticket c cs chunks =>
    by_cases empty : c = []
    · -- the rest of the hello is skipped first
      rw [empty] at reading
      obtain ⟨b', splits', between, reads⟩ := d.skip reading (records cs) closed splits
      rw [empty, nil_append, reads]
      refine readRecords named first between chunks positive splits' ?_
      rw [length_append]
      exact Nat.le_add_left _ _
    · exact readRemainder positive splits (length_pos_of_ne_nil empty) reading fun n b' kept =>
        ⟨named, by rw [first, kept]; exact .ticket chunks closed⟩
  | @record c cs chunks =>
    by_cases empty : c = []
    · rw [empty] at reading
      rw [empty]
      exact readRecords named first reading chunks positive splits (le_refl _)
    · exact readRemainder positive splits (length_pos_of_ne_nil empty) reading fun n b' kept =>
        ⟨named, by rw [first, kept]; exact .record chunks closed⟩
  | ended =>
    exact readNothing named (congrArg Prod.fst reading) fun impossible => absurd impossible Bool.noConfusion

end Read

theorem carries : Carries A B (fun _ _ _ _ => True) d.Pending where
  there pending := Nat.le_trans pending.2.length_le (Nat.le_add_right _ _)
  write pending draw payload := d.write pending draw payload
  close pending := ⟨pending.1, pending.2.close⟩
  keepsRead pending _ _ _ _ read := by
    obtain ⟨same, first⟩ := d.keepsRead read
    refine ⟨same pending.1, ?_⟩
    rw [first]
    exact pending.2
  keepsWrite pending draw payload := by
    refine ⟨pending.1, ?_⟩
    rw [d.keepsWrite]
    exact pending.2
  read pending _ _ positive _ := read pending positive _

end Direction

/-! ### Both directions -/

theorem TLSObfsServer.read_ended {b : TLSObfsServer} (idle : b.remain = 0) (room : Nat) (splits : List Nat) :
    ∃ b' : TLSObfsServer, b'.remain = 0 ∧
      b.read room ⟨[], true, splits⟩ = some (⟨[], some .eof, ⟨[], true, splits⟩⟩, b') := by
  rw [read, if_neg idle.not_gt]
  split_ifs
  · exact ⟨{ b with firstRequest := false }, idle, readRecord_nil (by decide) true splits⟩
  · rw [skipHello]
    exact ⟨{ b with sessionTicketDone := true }, idle, rfl⟩
  · exact ⟨b, idle, readRecord_nil (by decide) true splits⟩

theorem TLSObfs.read_ended {b : TLSObfs} (idle : b.remain = 0) (room : Nat) (splits : List Nat) :
    ∃ b' : TLSObfs, b'.remain = 0 ∧
      b.read room ⟨[], true, splits⟩ = some (⟨[], some .eof, ⟨[], true, splits⟩⟩, b') := by
  rw [read, if_neg idle.not_gt]
  split_ifs
  · exact ⟨{ b with firstResponse := false }, idle, readRecord_nil (by decide) true splits⟩
  · exact ⟨b, idle, readRecord_nil (by decide) true splits⟩

def upward {server : Bytes} (fits : server.length ≤ 256) : Direction tlsClient tlsServer where
  head draw c := clientHelloHead draw c server
  discard := 9 * 16 - 4
  tail := clientHelloTail server
  skipped := false
  length_head draw c := length_clientHelloHead draw c server
  named a := a.server = server
  first := TLSObfs.firstRequest
  chunk := TLSObfs.writeChunk
  write_eq _ _ _ := rfl
  plain started draw b := by rw [TLSObfs.writeChunk, if_neg (ne_true_of_eq_false started)]
  hello {a} named first draw := by
    refine ⟨{ a with firstRequest := false }, named, rfl, fun b => ?_⟩
    rw [TLSObfs.writeChunk, if_pos first, named]
    rfl
  keepsRead read := ⟨(TLSObfs.read_writer read).1.trans, (TLSObfs.read_writer read).2⟩
  reader := TLSObfsServer.reader
  nothingHeld _ := rfl
  keepsWrite := TLSObfsServer.write_reader
  remainder {b} some := ⟨fun n => { b with remain := n }, fun _ => rfl, fun _ _ => if_pos some⟩
  readHello {b ticket} reading := by
    simp only [TLSObfsServer.reader, Prod.mk.injEq] at reading
    obtain ⟨idle, request, ticket⟩ := reading
    refine ⟨_, fun n => ?_, (TLSObfsServer.readsFrame (c := { b with firstRequest := false }) idle (by decide)).of_eq
      fun _ _ => (if_neg idle.not_gt).trans (if_pos request)⟩
    rw [TLSObfsServer.reader, ticket]
  readRecord {b} between := by
    have reads := TLSObfsServer.read_between between
    simp only [TLSObfsServer.reader, Prod.mk.injEq] at between
    obtain ⟨idle, request, ticket⟩ := between
    refine ⟨_, fun n => ?_, (TLSObfsServer.readsFrame idle (by decide)).of_eq reads⟩
    rw [TLSObfsServer.reader, request, ticket]
  skip {b} reading rest closed splits := by
    have parts := reading
    simp only [TLSObfsServer.reader, Prod.mk.injEq] at parts
    obtain ⟨splits', skipped⟩ := TLSObfsServer.skipHello_eq parts.1 fits rest closed splits
    have between : TLSObfsServer.reader { b with sessionTicketDone := true } = (0, false, true) := by
      rw [TLSObfsServer.reader, parts.1, parts.2.1]
    refine ⟨{ b with sessionTicketDone := true }, splits', between, fun room => ?_⟩
    show b.read room _ = TLSObfsServer.read _ room _
    rw [TLSObfsServer.read_ticket reading skipped, TLSObfsServer.read_between between]
  ended := TLSObfsServer.read_ended

def downward : Direction tlsServer tlsClient where
  head draw _ := serverHelloHead draw
  discard := 105
  tail := []
  skipped := true
  length_head draw _ := by simp [serverHelloHead, length_bigEndian, draw.random_length, draw.sessionID_length]
  named _ := True
  first := TLSObfsServer.firstResponse
  chunk := TLSObfsServer.writeChunk
  write_eq _ _ _ := rfl
  plain started draw b := by rw [TLSObfsServer.writeChunk, if_neg (ne_true_of_eq_false started)]
  hello {a} _ first draw := by
    refine ⟨{ a with firstResponse := false }, trivial, rfl, fun b => ?_⟩
    rw [TLSObfsServer.writeChunk, if_pos first, List.append_nil]
    rfl
  keepsRead read := ⟨fun _ => trivial, TLSObfsServer.read_writer read⟩
  reader := TLSObfs.reader
  nothingHeld _ := rfl
  keepsWrite := TLSObfs.write_reader
  remainder {b} some := ⟨fun n => { b with remain := n }, fun _ => rfl, fun _ _ => if_pos some⟩
  readHello {b ticket} reading := by
    simp only [TLSObfs.reader, Prod.mk.injEq] at reading
    obtain ⟨idle, response, ticket⟩ := reading
    refine ⟨_, fun n => ?_, (TLSObfs.readsFrame (c := { b with firstResponse := false }) idle (by decide)).of_eq
      fun _ _ => (if_neg idle.not_gt).trans (if_pos response)⟩
    rw [TLSObfs.reader, ticket]
  readRecord {b} between := by
    simp only [TLSObfs.reader, Prod.mk.injEq] at between
    obtain ⟨idle, response, -⟩ := between
    refine ⟨_, fun n => ?_, (TLSObfs.readsFrame idle (by decide)).of_eq fun _ _ => ?_⟩
    · rw [TLSObfs.reader, response]
    · exact (if_neg idle.not_gt).trans (if_neg (ne_true_of_eq_false response))
  skip {b} between _ _ splits := ⟨b, splits, between, fun _ => rfl⟩
  ended := TLSObfs.read_ended

end SingBox.Obfs
