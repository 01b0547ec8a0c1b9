/-
**Simple-obfs in TLS mode is transparent exactly for server names of up to 256 bytes.**

With a longer name the server does not skip all of the client hello: it takes what is left of it for records, and
returns bytes that nobody has written. `Leaks` says that reads with a buffer of one byte get there. If the length of
the name does not fit into 16 bits, a short part of the name is skipped correctly and the rest may look like any
number of empty records, but then the extensions behind the name do not (`leaks_extensions`).
-/

import SingBox.Obfs.TlsLink

namespace SingBox.Obfs

open SingBox.Lib List Source Endpoint

/-- Reads into a buffer of one byte come to return something, if nothing more is written. -/
inductive Leaks : TLSObfsServer → Bytes → Prop
  | here {b b' : TLSObfsServer} {wire : Bytes} {splits : List Nat} {result : ReadResult UInt8}
      (read : b.read 1 ⟨wire, false, splits⟩ = some (result, b')) (some : result.data ≠ []) : Leaks b wire
  | later {b b' : TLSObfsServer} {wire : Bytes} {splits : List Nat} {rest : Source UInt8}
      (read : b.read 1 ⟨wire, false, splits⟩ = some (⟨[], none, rest⟩, b')) (more : Leaks b' rest.items) : Leaks b wire

theorem Leaks.exceeds {b : TLSObfsServer} {wire : Bytes} (leaks : Leaks b wire)
    {s : Duplex TLSObfs TLSObfsServer UInt8} (server : s.server = b) (onTheWay : s.up.wire = wire)
    (opened : s.up.closed = false) (all : s.up.received = s.up.sent) :
    ∃ reads, ¬ ((Duplex.machine tlsClient tlsServer).run s reads).up.received <+:
      ((Duplex.machine tlsClient tlsServer).run s reads).up.sent := by
  induction leaks generalizing s with
  | @here b b' wire splits result read some =>
    refine ⟨[(.server, .read 1 one_pos splits)], fun within => some ?_⟩
    have got : tlsServer.readFrom s.server s.up 1 splits = .some (result, b') := by
      rw [readFrom, server, onTheWay, opened]
      exact read
    simp only [Machine.run, foldl_cons, foldl_nil, Duplex.machine, act, got, taken, all] at within
    have shorter := within.length_le
    rw [length_append] at shorter
    exact eq_nil_of_length_eq_zero (by omega)
  | @later b b' wire splits rest read more ih =>
    have got : tlsServer.readFrom s.server s.up 1 splits = .some (⟨[], none, rest⟩, b') := by
      rw [readFrom, server, onTheWay, opened]
      exact read
    obtain ⟨reads, exceeds⟩ := ih (s := ⟨s.client, b', taken s.up ⟨[], none, rest⟩, s.down⟩) rfl rfl opened
      (by rw [taken]; simpa using all)
    refine ⟨(.server, .read 1 one_pos splits) :: reads, ?_⟩
    have step : ((Duplex.machine tlsClient tlsServer).step s (.server, .read 1 one_pos splits)).1 =
        ⟨s.client, b', taken s.up ⟨[], none, rest⟩, s.down⟩ := by
      simp only [Duplex.machine, act, got]
    rw [Machine.run, foldl_cons, step]
    exact exceeds

theorem Leaks.of_reads {b c : TLSObfsServer} {wire wire' : Bytes} (leaks : Leaks c wire')
    (same : ∀ splits, ∃ splits', b.read 1 ⟨wire, false, splits'⟩ = c.read 1 ⟨wire', false, splits⟩) : Leaks b wire := by
  cases leaks with
  | @here _ c' _ splits result read some =>
    obtain ⟨splits', equal⟩ := same splits
    exact .here (equal.trans read) some
  | @later _ c' _ splits rest read more =>
    obtain ⟨splits', equal⟩ := same splits
    exact .later (equal.trans read) more

open TLSObfsServer

/-! ### Records that nobody has written -/

theorem TLSObfsServer.readRecord_ones (c : TLSObfsServer) {discardLen : Nat} {w : Bytes}
    (long : discardLen + 3 ≤ w.length) (more : List Nat) : ∃ result c', c.readRecord 1 discardLen
        ⟨w, false, replicate discardLen 1 ++ (replicate 2 1 ++ (replicate 1 1 ++ more))⟩ = some (result, c') ∧
      (ofBigEndian ((w.drop discardLen).take 2) = 0 →
        result = ⟨[], none, ⟨w.drop (discardLen + 2), false, replicate 1 1 ++ more⟩⟩ ∧ c' = c) ∧
      (ofBigEndian ((w.drop discardLen).take 2) ≠ 0 → result.data ≠ []) := by
  have left : 1 ≤ (w.drop (discardLen + 2)).length := by
    rw [length_drop]
    omega
  have one : (w.drop (discardLen + 2)).take 1 ≠ [] := by
    refine ne_nil_of_length_pos ?_
    rw [length_take]
    omega
  rw [readRecord, readFull_ones (by omega)]
  dsimp only
  rw [readFull_ones (by rw [length_drop]; omega)]
  dsimp only
  rw [drop_drop]
  generalize ofBigEndian ((w.drop discardLen).take 2) = length
  by_cases zero : length = 0
  · rw [zero]
    exact ⟨_, _, rfl, fun _ => ⟨rfl, rfl⟩, fun impossible => absurd rfl impossible⟩
  split_ifs with longer
  · rw [replicate_one, singleton_append, read_one one_pos (ne_nil_of_length_pos left)]
    exact ⟨_, _, rfl, fun impossible => absurd impossible zero, fun _ => one⟩
  · have isOne : length = 1 := by omega
    rw [isOne, readFull_ones left]
    exact ⟨_, _, rfl, fun impossible => absurd impossible one_ne_zero, fun _ => one⟩

/-- Bytes that are taken for a record leak unless it is empty and what follows does not. -/
theorem leaks_record {b : TLSObfsServer} (between : b.reader = (0, false, true)) {w : Bytes} (long : 6 ≤ w.length)
    (rest : ofBigEndian ((w.drop 3).take 2) = 0 → Leaks b (w.drop 5)) : Leaks b w := by
  obtain ⟨result, b', read, empty, some⟩ := b.readRecord_ones long []
  rw [← read_between between] at read
  by_cases zero : ofBigEndian ((w.drop 3).take 2) = 0
  · obtain ⟨nothing, same⟩ := empty zero
    rw [nothing, same] at read
    exact .later read (rest zero)
  · exact .here read (some zero)

/-- **Whatever is left of a name leaks**: the extensions behind it are not empty records, wherever they are cut. -/
theorem leaks_extensions {b : TLSObfsServer} (between : b.reader = (0, false, true)) (front : Bytes) :
    Leaks b (front ++ helloExtensions) := by
  induction size : front.length using Nat.strongRecOn generalizing front with
  | _ size ih =>
    have long : 6 ≤ (front ++ helloExtensions).length := by
      rw [length_append, length_helloExtensions]
      omega
    refine leaks_record between long fun zero => ?_
    -- which bytes of the extensions are taken for the length depends on what is left of the name
    rcases front with - | ⟨first, - | ⟨second, - | ⟨third, - | ⟨fourth, - | ⟨fifth, front⟩⟩⟩⟩⟩
    · exact absurd (show ofBigEndian ((helloExtensions.drop 3).take 2) = 0 from zero) (by decide)
    · exact absurd (show ofBigEndian ((helloExtensions.drop 2).take 2) = 0 from zero) (by decide)
    · exact absurd (show ofBigEndian ((helloExtensions.drop 1).take 2) = 0 from zero) (by decide)
    · exact absurd (show ofBigEndian (helloExtensions.take 2) = 0 from zero) (by decide)
    · show Leaks b (helloExtensions.drop 1)
      refine leaks_record between (by decide) fun zero => ?_
      exact absurd zero (by decide)
    · show Leaks b (front ++ helloExtensions)
      refine ih front.length ?_ front rfl
      rw [← size]
      simp only [length_cons]
      omega

section LongName

variable {b : TLSObfsServer} {server : Bytes}

theorem leaks_remainder {c : TLSObfsServer} (remains : 0 < c.remain) {w : Bytes} (arrived : w ≠ []) : Leaks c w := by
  have one : min c.remain 1 = 1 := by omega
  have enough : 1 ≤ w.length := length_pos_of_ne_nil arrived
  have read : c.read 1 ⟨w, false, replicate 1 1 ++ []⟩ =
      some (⟨w.take 1, none, ⟨w.drop 1, false, []⟩⟩, { c with remain := c.remain - (w.take 1).length }) := by
    rw [TLSObfsServer.read, if_pos remains, one, readFull_ones enough]
    rfl
  refine .here read (ne_nil_of_length_pos ?_)
  rw [length_take]
  omega

theorem ofBigEndian_bigEndian_two (n : Nat) : ofBigEndian (bigEndian 2 n) = n % 65536 := ofBigEndian_bigEndian 2 n

/-- A name that does not fit in the buffer: a single byte of it is read there, and the rest of it remains. -/
theorem skipHello_of_large (large : 256 < server.length % 65536) (more : List Nat) :
    ∃ splits, b.skipHello ⟨clientHelloTail server, false, splits⟩ =
      some (⟨[], none, ⟨(server.drop 1 ++ helloExtensions).drop (4 * 16 + 2), false, more⟩⟩,
        { b with sessionTicketDone := true, remain := server.length % 65536 - 1 }) := by
  have some : 0 < server.length := by omega
  have arrived : server ++ helloExtensions ≠ [] := ne_nil_of_length_pos (by rw [length_append]; omega)
  have enough : 4 * 16 + 2 ≤ (server.drop 1 ++ helloExtensions).length := by
    rw [length_append, length_helloExtensions]
    omega
  have one : ((server ++ helloExtensions).take 1).length = 1 :=
    length_take_of_le (length_pos_of_ne_nil arrived)
  refine ⟨replicate 7 1 ++ (replicate 2 1 ++ (1 :: (replicate (4 * 16 + 2) 1 ++ more))), ?_⟩
  rw [skipHello, readRecord, clientHelloTail, readFull_ones_append (length_serverNameHead server)]
  dsimp only
  rw [readFull_ones_append (length_bigEndian 2 server.length)]
  dsimp only
  rw [ofBigEndian_bigEndian_two, if_pos large, read_one (by decide) arrived]
  dsimp only [Option.map_some]
  rw [one, drop_append_of_le_length some, readFull_ones enough]

variable (reading : b.reader = (0, false, false))

include reading

theorem leaks_of_large (large : 256 < server.length % 65536) : Leaks b (clientHelloTail server) := by
  have long : 256 ≤ ((server.drop 1 ++ helloExtensions).drop (4 * 16 + 2)).length := by
    rw [length_drop, length_append, length_drop, length_helloExtensions]
    omega
  obtain ⟨result, b', read, empty, some⟩ := readRecord_ones
    { b with sessionTicketDone := true, remain := server.length % 65536 - 1 } 
    (show 3 + 3 ≤ ((server.drop 1 ++ helloExtensions).drop (4 * 16 + 2)).length by omega) []
  obtain ⟨splits, skipped⟩ := skipHello_of_large large _
  rw [← read_ticket reading skipped] at read
  by_cases zero : ofBigEndian ((((server.drop 1 ++ helloExtensions).drop (4 * 16 + 2)).drop 3).take 2) = 0
  · -- nothing is returned, but the next read takes what is left for the remainder
    obtain ⟨nothing, same⟩ := empty zero
    rw [nothing, same] at read
    refine .later read ?_
    refine leaks_remainder (show 0 < server.length % 65536 - 1 by omega) (ne_nil_of_length_pos ?_)
    rw [length_drop]
    omega
  · exact .here read (some zero)

omit reading in
theorem skipHello_of_wrapped (small : server.length % 65536 ≤ 256) (long : 65536 ≤ server.length)
    (more : List Nat) :
    ∃ splits, b.skipHello ⟨clientHelloTail server, false, splits⟩ =
      some (⟨[], none, ⟨server.drop (server.length % 65536 + (4 * 16 + 2)) ++ helloExtensions, false, more⟩⟩,
        { b with sessionTicketDone := true }) := by
  have inside : server.length % 65536 ≤ (server ++ helloExtensions).length := by
    rw [length_append]
    omega
  have enough : 4 * 16 + 2 ≤ ((server ++ helloExtensions).drop (server.length % 65536)).length := by
    rw [length_drop, length_append]
    omega
  have left : (server ++ helloExtensions).drop (server.length % 65536 + (4 * 16 + 2)) =
      server.drop (server.length % 65536 + (4 * 16 + 2)) ++ helloExtensions :=
    drop_append_of_le_length (by omega)
  refine ⟨replicate 7 1 ++ (replicate 2 1 ++ (replicate (server.length % 65536) 1 ++
    (replicate (4 * 16 + 2) 1 ++ more))), ?_⟩
  rw [skipHello, readRecord, clientHelloTail, readFull_ones_append (length_serverNameHead server)]
  dsimp only
  rw [readFull_ones_append (length_bigEndian 2 server.length)]
  dsimp only
  rw [ofBigEndian_bigEndian_two, if_neg (not_lt.mpr small), readFull_ones inside]
  dsimp only [Option.map_some]
  rw [readFull_ones enough, drop_drop, left]

theorem leaks_of_wrapped (small : server.length % 65536 ≤ 256) (long : 65536 ≤ server.length) :
    Leaks b (clientHelloTail server) := by
  have parts := reading
  simp only [reader, Prod.mk.injEq] at parts
  have between : reader { b with sessionTicketDone := true } = (0, false, true) := by
    rw [reader, parts.1, parts.2.1]
  refine (leaks_extensions between (server.drop (server.length % 65536 + (4 * 16 + 2)))).of_reads fun splits => ?_
  obtain ⟨splits', skipped⟩ := skipHello_of_wrapped small long splits
  refine ⟨splits', ?_⟩
  rw [read_ticket reading skipped, read_between between]

/-- **A name of more than 256 bytes leaks.** -/
theorem leaks_of_long (long : 256 < server.length) : Leaks b (clientHelloTail server) := by
  by_cases large : 256 < server.length % 65536
  · exact leaks_of_large reading large
  · exact leaks_of_wrapped reading (not_lt.mp large) (by omega)

end LongName

/-! ### The connection -/

def zeroDraw : HelloDraw := ⟨0, List.replicate 28 0, List.replicate 32 0, rfl, rfl⟩

/-- The client writes a byte, and the server reads it. -/
def oneByte : List (Side × Act HelloDraw UInt8) :=
  [(.client, .write zeroDraw [0]), (.server, .read 1 Nat.one_pos [])]

theorem tlsServer_readFrom (b : TLSObfsServer) (channel : Channel UInt8) (room : Nat) (splits : List Nat) :
    tlsServer.readFrom b channel room splits = b.read room ⟨channel.wire, channel.closed, splits⟩ := rfl

theorem read_oneByte (server : Bytes) :
    ∃ splits, tlsServer.readFrom {} ⟨makeClientHelloMsg zeroDraw [0] server, false, [0], []⟩ 1 [] =
      some (⟨[0], none, ⟨clientHelloTail server, false, splits⟩⟩, { firstRequest := false }) := by
  obtain ⟨n, splits, gets, read⟩ := (readsFrame (c := { firstRequest := false }) rfl (by decide)).frame one_pos
    (length_clientHelloHead zeroDraw [0] server) (show ([0] : Bytes).length < 65536 by decide) false []
  refine ⟨splits, ?_⟩
  rw [gets.all (le_refl 1)] at read
  rw [tlsServer_readFrom, TLSObfsServer.read, if_neg (lt_irrefl 0), if_pos rfl]
  exact read

theorem run_oneByte (server : Bytes) :
    ((Duplex.machine tlsClient tlsServer).run (tlsConnection server) oneByte).server = { firstRequest := false } ∧
      ((Duplex.machine tlsClient tlsServer).run (tlsConnection server) oneByte).up =
        ⟨clientHelloTail server, false, [0], [0]⟩ := by
  obtain ⟨splits, read⟩ := read_oneByte server
  have written : TLSObfs.write { server := server } zeroDraw [0] =
      ({ server := server, firstRequest := false }, makeClientHelloMsg zeroDraw [0] server ++ []) := rfl
  have sent : ((Duplex.machine tlsClient tlsServer).step (tlsConnection server) (.client, .write zeroDraw [0])).1 =
      ⟨{ server := server, firstRequest := false }, {}, ⟨makeClientHelloMsg zeroDraw [0] server, false, [0], []⟩, {}⟩ := by
    show (⟨(TLSObfs.write { server := server } zeroDraw [0]).1, {},
      ⟨[] ++ (TLSObfs.write { server := server } zeroDraw [0]).2, false, [] ++ [0], []⟩, {}⟩ :
        Duplex TLSObfs TLSObfsServer UInt8) = _
    rw [written, append_nil]
    rfl
  rw [oneByte, Machine.run, foldl_cons, foldl_cons, foldl_nil, sent]
  simp only [Duplex.machine, act, read]
  exact ⟨trivial, rfl⟩

theorem exists_not_transparent (server : Bytes) (long : 256 < server.length) :
    ∃ events, ¬ Transparent tlsClient tlsServer (tlsConnection server) events := by
  obtain ⟨reader, channel⟩ := run_oneByte server
  have leaks : Leaks { firstRequest := false } (clientHelloTail server) := leaks_of_long rfl long
  obtain ⟨reads, exceeds⟩ := leaks.exceeds reader (by rw [channel]) (by rw [channel]) (by rw [channel])
  refine ⟨oneByte ++ reads, fun transparent => ?_⟩
  rw [← Machine.run_append] at exceeds
  exact exceeds transparent.1.within

/-- **Simple-obfs in TLS mode is transparent** for all writes, reads and pieces exactly if the server name has at
most 256 bytes. -/
theorem transparent_iff (server : Bytes) :
    (∀ events, Transparent tlsClient tlsServer (tlsConnection server) events) ↔ server.length ≤ 256 := by
  constructor
  · intro all
    by_contra long
    obtain ⟨events, leak⟩ := exists_not_transparent server (not_le.mp long)
    exact leak (all events)
  · intro fits events
    constructor
    · have start : Carries.Inv (upward fits).Pending (tlsConnection server) := ⟨[], rfl, rfl, .fresh false⟩
      refine (upward fits).carries.delivers start ?_
      exact Machine.along_of_forall _ (fun _ _ _ _ _ _ _ _ => trivial) _ _
    · have start : Carries.Inv downward.Pending (tlsConnection server).swap := ⟨[], rfl, trivial, .fresh false⟩
      refine downward.carries.delivers start ?_
      exact Machine.along_of_forall _ (fun _ _ _ _ _ _ _ _ => trivial) _ _

/-- A server name of 257 letters. -/
theorem not_transparent_257 :
    ∃ events, ¬ Transparent tlsClient tlsServer (tlsConnection (List.replicate 257 0x61)) events :=
  exists_not_transparent _ (by rw [List.length_replicate]; decide)

end SingBox.Obfs
