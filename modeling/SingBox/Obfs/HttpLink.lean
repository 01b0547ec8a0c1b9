/-
**Simple-obfs in HTTP mode is transparent while the client sees the whole header.**

The stream to the server is transparent for all pieces (`request_carries`): the buffered reader keeps what it reads
behind the request. The stream to the client is so if the first read that gets something gets the end of the header
(`response_carries`), which stands at the end of the header only.
-/

import SingBox.Obfs.Http

namespace SingBox.Obfs

open SingBox.Lib SingBox.Subscription Source

open List

/-! ### The end of the header -/

section Index

variable {first : UInt8} {more s t : Bytes}

theorem index_cons_of_ne {byte : UInt8} (other : first ≠ byte) (s : Bytes) :
    index (first :: more) (byte :: s) = (index (first :: more) s).map (· + 1) := by
  have apart : ¬ (first :: more).isPrefixOf (byte :: s) = true := by
    simp [other]
  rw [index, if_neg apart]

theorem index_append_of_notMem (absent : first ∉ t) (s : Bytes) :
    index (first :: more) (t ++ s) = (index (first :: more) s).map (· + t.length) := by
  induction t with
  | nil => exact Option.map_id'.symm
  | cons byte t ih =>
    have other : first ≠ byte := fun same => absent (same ▸ mem_cons_self)
    rw [cons_append, index_cons_of_ne other, ih fun member => absent (mem_cons_of_mem _ member), Option.map_map]
    rfl

variable {sep : Bytes}

theorem index_eq_some_iff {i : Nat} :
    index sep s = some i ↔ sep <+: s.drop i ∧ i ≤ s.length ∧ ∀ j < i, ¬ sep <+: s.drop j := by
  induction s generalizing i with
  | nil => cases i <;> simp [index]
  | cons byte s ih =>
    cases i with
    | zero => simp [index]
    | succ i =>
      have before : (∀ j < i + 1, ¬ sep <+: (byte :: s).drop j) ↔
          ¬ sep <+: byte :: s ∧ ∀ j < i, ¬ sep <+: s.drop j := Nat.forall_lt_succ_left
      simp only [index, isPrefixOf_iff_prefix, before]
      split_ifs with front
      · simp [front]
      · simp [front, ih]

theorem index_add_length_le {i : Nat} (found : index sep s = some i) : i + sep.length ≤ s.length := by
  obtain ⟨front, inside, -⟩ := index_eq_some_iff.mp found
  have within := front.length_le
  rw [length_drop] at within
  omega

theorem index_eq_none_of_length_lt (short : s.length < sep.length) : index sep s = none := by
  refine Option.eq_none_iff_forall_ne_some.mpr fun i found => ?_
  have within := index_add_length_le found
  omega

theorem index_append {i : Nat} (found : index sep s = some i) (t : Bytes) : index sep (s ++ t) = some i := by
  have within := index_add_length_le found
  obtain ⟨front, inside, before⟩ := index_eq_some_iff.mp found
  refine index_eq_some_iff.mpr ⟨?_, by rw [length_append]; omega, fun j lt earlier => before j lt ?_⟩
  · rw [drop_append_of_le_length inside]
    exact front.trans (prefix_append _ t)
  -- an occurrence that needs what follows would come after the one that was found
  rw [drop_append_of_le_length (by omega)] at earlier
  refine prefix_of_prefix_length_le earlier (prefix_append _ t) ?_
  rw [length_drop]
  omega

theorem index_le_of_append {i j : Nat} (whole : index sep (s ++ t) = some i)
    (part : index sep t = some j) : i ≤ s.length + j := by
  by_contra later
  refine (index_eq_some_iff.mp whole).2.2 _ (not_le.mp later) ?_
  rw [drop_append, drop_eq_nil_of_le (Nat.le_add_right _ _), Nat.add_sub_cancel_left]
  exact (index_eq_some_iff.mp part).1

end Index

def lineEnd : Bytes := [0x0D, 0x0A]

theorem headerEnd_eq : headerEnd = [0x0D, 0x0A, 0x0D, 0x0A] := by decide

theorem index_headerEnd_le {s : Bytes} {i : Nat} (found : index headerEnd s = some i) : i + 4 ≤ s.length := by
  have within := index_add_length_le found
  rwa [headerEnd_eq] at within

theorem index_lines {lines : List Bytes} (some : lines ≠ [])
    (proper : ∀ line ∈ lines, line ≠ [] ∧ (0x0D : UInt8) ∉ line) (rest : Bytes) :
    ∃ i, i + 2 = (lines.flatMap (· ++ lineEnd)).length ∧
      index headerEnd (lines.flatMap (· ++ lineEnd) ++ (lineEnd ++ rest)) = Option.some i := by
  rw [headerEnd_eq]
  induction lines with
  | nil => exact absurd rfl some
  | cons line lines ih =>
    obtain ⟨-, plain⟩ := proper line mem_cons_self
    cases lines with
    | nil =>
      refine ⟨line.length, ?_, ?_⟩
      · simp [lineEnd]
      · rw [flatMap_cons, flatMap_nil, append_nil, append_assoc, index_append_of_notMem plain]
        show (Option.some 0).map (· + line.length) = _
        rw [Option.map_some, zero_add]
    | cons next lines =>
      obtain ⟨i, ends, found⟩ := ih (cons_ne_nil _ _) fun line member => proper line (mem_cons_of_mem _ member)
      obtain ⟨byte, after, start⟩ :=
        exists_cons_of_ne_nil (proper next (mem_cons_of_mem _ mem_cons_self)).1
      have other : (0x0D : UInt8) ≠ byte := fun same =>
        (proper next (mem_cons_of_mem _ mem_cons_self)).2 (by rw [start, same]; exact mem_cons_self)
      refine ⟨i + 2 + line.length, ?_, ?_⟩
      · rw [flatMap_cons, length_append, length_append, ← ends]
        show i + 2 + line.length + 2 = line.length + 2 + (i + 2)
        omega
      · generalize body : (next :: lines).flatMap (· ++ lineEnd) ++ (lineEnd ++ rest) = tail at found
        have head : ∃ s, tail = byte :: s := by
          rw [← body, start]
          exact ⟨_, rfl⟩
        obtain ⟨s, rfl⟩ := head
        rw [flatMap_cons, append_assoc, body, append_assoc, index_append_of_notMem plain]
        have apart : ¬ isPrefixOf [0x0D, 0x0A, 0x0D, 0x0A] (0x0D :: 0x0A :: byte :: s) = true := by
          simp [other]
        show (index _ (0x0D :: 0x0A :: byte :: s)).map _ = _
        rw [index, if_neg apart, index_cons_of_ne (by decide), found]
        rfl

theorem base64Digit_ne (n : Nat) : base64Digit n ≠ 0x0D := by
  have small : ∀ digit < 64, base64Digit digit ≠ 0x0D := by decide
  have same : base64Digit (n % 64) = base64Digit n := by
    rw [base64Digit, base64Digit, Nat.mod_mod]
  rw [← same]
  exact small _ (Nat.mod_lt _ (by decide))

theorem notMem_encodeBase64 (s : Bytes) : (0x0D : UInt8) ∉ encodeBase64 s := by
  fun_induction encodeBase64 s with
  | case1 => exact not_mem_nil
  | case2 a | case3 a b => simp [(base64Digit_ne _).symm]
  | case4 a b c rest ih => simp [(base64Digit_ne _).symm, ih]

def responseLines (draw : HttpDraw) : List Bytes :=
  [text "HTTP/1.1 101 Switching Protocols", text "Server: nginx", text "Date: " ++ draw.date,
    text "Upgrade: websocket", text "Connection: Upgrade", text "Sec-WebSocket-Accept: " ++ encodeBase64 draw.random]

theorem responseHeader_eq (draw : HttpDraw) :
    responseHeader draw = (responseLines draw).flatMap (· ++ lineEnd) ++ lineEnd := by
  have head : text "HTTP/1.1 101 Switching Protocols\r\nServer: nginx\r\nDate: " =
      text "HTTP/1.1 101 Switching Protocols" ++ (lineEnd ++ (text "Server: nginx" ++ (lineEnd ++ text "Date: "))) := by
    decide
  have middle : text "\r\nUpgrade: websocket\r\nConnection: Upgrade\r\nSec-WebSocket-Accept: " =
      lineEnd ++ (text "Upgrade: websocket" ++ (lineEnd ++ (text "Connection: Upgrade" ++
        (lineEnd ++ text "Sec-WebSocket-Accept: ")))) := by
    decide
  have last : text "\r\n\r\n" = lineEnd ++ lineEnd := by decide
  simp only [responseHeader, responseLines, head, middle, last, flatMap_cons, flatMap_nil, append_assoc, nil_append]

theorem responseLines_proper (draw : HttpDraw) (line : Bytes) (member : line ∈ responseLines draw) :
    line ≠ [] ∧ (0x0D : UInt8) ∉ line := by
  simp only [responseLines, mem_cons, not_mem_nil, or_false] at member
  rcases member with rfl | rfl | rfl | rfl | rfl | rfl
  · decide
  · decide
  · refine ⟨append_ne_nil_of_left_ne_nil (by decide) _, fun member => ?_⟩
    rcases mem_append.mp member with label | date
    · exact absurd label (by decide)
    · exact draw.date_line date
  · decide
  · decide
  · refine ⟨append_ne_nil_of_left_ne_nil (by decide) _, fun member => ?_⟩
    rcases mem_append.mp member with label | accept
    · exact absurd label (by decide)
    · exact notMem_encodeBase64 _ accept

theorem index_responseHeader (draw : HttpDraw) (rest : Bytes) :
    ∃ i, i + 4 = (responseHeader draw).length ∧ index headerEnd (responseHeader draw ++ rest) = some i := by
  have some : responseLines draw ≠ [] := cons_ne_nil _ _
  obtain ⟨i, ends, found⟩ := index_lines some (responseLines_proper draw) rest
  refine ⟨i, ?_, ?_⟩
  · rw [responseHeader_eq, length_append, ← ends]
    rfl
  · rw [responseHeader_eq, append_assoc]
    exact found

theorem drop_index_of_part {draw : HttpDraw} {front part rest : Bytes} (parts : front ++ (part ++ rest) = responseHeader draw)
    {i : Nat} (found : index headerEnd part = some i) : rest = [] ∧ part.drop (i + 4) = [] := by
  obtain ⟨j, ends, whole⟩ := index_responseHeader draw []
  rw [append_nil, ← parts] at whole
  have before := index_le_of_append whole (index_append found rest)
  have within := index_headerEnd_le found
  rw [← parts, length_append, length_append] at ends
  constructor
  · exact eq_nil_of_length_eq_zero (by omega)
  · exact drop_eq_nil_of_le (by omega)

/-! ### From the client to the server -/

def HTTPObfsServer.reading (c : HTTPObfsServer) : Bool × Bytes × Bytes := (c.firstRequest, c.buffer, c.reader)

inductive RequestState (lib : HttpLibrary) (host port : Bytes) : Bool → Bool × Bytes × Bytes → Bytes → Bytes → Prop
  | fresh : RequestState lib host port true (true, [], []) [] []
  | request (draw : HttpDraw) (payload more : Bytes) : RequestState lib host port false (true, [], [])
      (lib.writeHeader (newRequest host port draw payload.length) ++ (payload ++ more)) (payload ++ more)
  | plain (buffer reader wire : Bytes) :
      RequestState lib host port false (false, buffer, reader) wire (buffer ++ (reader ++ wire))

def RequestPending (lib : HttpLibrary) (host port : Bytes) (a : HTTPObfs) (b : HTTPObfsServer) (_closed : Bool)
    (wire unread : Bytes) : Prop :=
  (a.host = host ∧ a.port = port) ∧ RequestState lib host port a.firstRequest b.reading wire unread

open HTTPObfsServer

section Request

variable {lib : HttpLibrary} {host port : Bytes}

theorem RequestState.length_le {first : Bool} {reading : Bool × Bytes × Bytes} {wire unread : Bytes}
    (state : RequestState lib host port first reading wire unread) :
    unread.length ≤ wire.length + (reading.2.1.length + reading.2.2.length) := by
  cases state with
  | fresh => exact le_refl 0
  | request | plain =>
    simp only [length_append]
    omega

theorem RequestPending.write {a : HTTPObfs} {b : HTTPObfsServer} {wire unread : Bytes}
    (pending : RequestPending lib host port a b false wire unread) (draw : HttpDraw) (payload : Bytes) :
    RequestPending lib host port (a.write lib draw payload).1 b false (wire ++ (a.write lib draw payload).2)
      (unread ++ payload) := by
  obtain ⟨⟨named, numbered⟩, state⟩ := pending
  cases first : a.firstRequest with
  | true =>
    rw [HTTPObfs.write, if_pos first, named, numbered]
    refine ⟨⟨rfl, rfl⟩, ?_⟩
    rw [first] at state
    generalize b.reading = reading at state ⊢
    cases state with
    | fresh =>
      have written : RequestState lib host port false (true, [], []) _ (payload ++ []) := .request draw payload []
      rw [append_nil] at written
      exact written
  | false =>
    rw [HTTPObfs.write, if_neg (ne_true_of_eq_false first)]
    refine ⟨⟨named, numbered⟩, ?_⟩
    rw [first] at state ⊢
    generalize b.reading = reading at state ⊢
    cases state with
    | request draw' payload' more =>
      rw [append_assoc, append_assoc]
      exact .request draw' payload' (more ++ payload)
    | plain buffer reader wire =>
      rw [append_assoc, append_assoc]
      exact .plain buffer reader (wire ++ payload)

theorem HttpLibrary.Accepts.header_ne_nil (accepts : lib.Accepts host port) (draw : HttpDraw) (payload : Bytes) :
    0 < (lib.writeHeader (newRequest host port draw payload.length)).length := by
  obtain ⟨parsed, recognizes, -⟩ := accepts.back draw payload
  apply length_pos_of_ne_nil
  intro empty
  have done := recognizes.done []
  rw [empty, append_nil, accepts.nothing] at done
  cases done

section Reading

variable {a : HTTPObfs} {b : HTTPObfsServer} {closed : Bool} {room : Nat}

theorem HTTPObfsServer.idle_of_reading (reading : b.reading = (true, [], [])) :
    b.firstRequest = true ∧ ¬ 0 < b.buffer.length := by
  simp only [HTTPObfsServer.reading, Prod.mk.injEq] at reading
  simp [reading]

theorem HTTPObfsServer.read_nothing (accepts : lib.Accepts host port) (reading : b.reading = (true, [], []))
    (splits : List Nat) : b.read lib room ⟨[], closed, splits⟩ =
      if closed then some (⟨[], some .eof, ⟨[], closed, splits⟩⟩, b) else none := by
  obtain ⟨request, idle⟩ := idle_of_reading reading
  rw [read, if_neg idle, if_pos request, gather, gatherLoop, accepts.nothing]
  cases closed with
  | true | false => rfl

theorem HTTPObfsServer.read_request (accepts : lib.Accepts host port) (reading : b.reading = (true, [], []))
    (draw : HttpDraw) (payload more : Bytes) (splits : List Nat) :
    ∃ ahead items splits', ahead ++ items = more ∧
      b.read lib room ⟨lib.writeHeader (newRequest host port draw payload.length) ++ (payload ++ more), closed, splits⟩ =
        some (⟨payload.take room, none, ⟨items, closed, splits'⟩⟩,
          { b with reader := ahead, firstRequest := false, buffer := payload.drop room }) := by
  obtain ⟨request, idle⟩ := idle_of_reading reading
  obtain ⟨parsed, header, method, upgrade, body⟩ := accepts.back draw payload
  have size : 0 < readerSize := by decide
  obtain ⟨ahead, items, splits₁, first, left⟩ := gather_of_message header size
    (s := ⟨lib.writeHeader (newRequest host port draw payload.length) ++ (payload ++ more), closed, splits⟩)
    (nil_append _)
  obtain ⟨ahead', items', splits₂, second, left'⟩ := gather_of_message body size (s := ⟨items, closed, splits₁⟩) left
  refine ⟨ahead', items', splits₂, left', ?_⟩
  have proper : ¬ (parsed.method ≠ text "GET" ∨ parsed.headerGet (text "Connection") ≠ text "Upgrade") := by
    rintro (other | other)
    · exact other method
    · exact other upgrade
  rw [read, if_neg idle, if_pos request, first]
  dsimp only
  rw [if_neg proper, second]

theorem eq_take_append (n : Nat) (s t : Bytes) : s ++ t = s.take n ++ (s.drop n ++ t) := by
  rw [← append_assoc, take_append_drop]

theorem take_ne_nil {n : Nat} {s : Bytes} (positive : 0 < n) (some : s ≠ []) : s.take n ≠ [] := by
  rw [Ne, take_eq_nil_iff, not_or]
  exact ⟨ne_of_gt positive, some⟩

/-- **A buffered reader returns what comes next**, and keeps what else it has read. -/
theorem bufioRead_nil (positive : 0 < room) {wire : Bytes} (arrived : wire ≠ []) (closed : Bool) (splits : List Nat) :
    ∃ data ahead rest splits', wire = data ++ (ahead ++ rest) ∧ data ≠ [] ∧
      bufioRead [] room ⟨wire, closed, splits⟩ = some (⟨data, none, ⟨rest, closed, splits'⟩⟩, ahead) := by
  have none : ¬ 0 < ([] : Bytes).length := lt_irrefl 0
  rw [bufioRead]
  split_ifs with large
  · obtain ⟨n, some, -, -, got⟩ := read_of_ne_nil (s := ⟨wire, closed, splits⟩) positive arrived
    refine ⟨wire.take n, [], wire.drop n, splits.tail, (take_append_drop n wire).symm, ?_, ?_⟩
    · exact take_ne_nil some arrived
    · rw [got]
      rfl
  · have size : 0 < readerSize := by decide
    obtain ⟨n, some, -, -, got⟩ := read_of_ne_nil (s := ⟨wire, closed, splits⟩) size arrived
    have taken : wire.take n ≠ [] := take_ne_nil some arrived
    refine ⟨(wire.take n).take room, (wire.take n).drop room, wire.drop n, splits.tail, ?_, ?_, ?_⟩
    · rw [← append_assoc, take_append_drop, take_append_drop]
    · exact take_ne_nil positive taken
    · rw [got]
      rfl

theorem bufioRead_end (positive : 0 < room) (splits : List Nat) : bufioRead [] room ⟨[], closed, splits⟩ =
      if closed then some (⟨[], some .eof, ⟨[], closed, splits⟩⟩, []) else none := by
  have size : 0 < readerSize := by decide
  rw [bufioRead, read_nil positive, read_nil size]
  cases closed with
  | true | false => simp

theorem RequestPending.readPlain {wire : Bytes} (named : a.host = host ∧ a.port = port)
    (first : a.firstRequest = false) (request : b.firstRequest = false) (positive : 0 < room) (splits : List Nat) :
    Outcome (httpServer lib) (RequestPending lib host port a · closed) b closed
      wire (b.buffer ++ (b.reader ++ wire)) (b.read lib room ⟨wire, closed, splits⟩) := by
  by_cases buffered : b.buffer = []
  · have unbuffered : b.buffer ++ (b.reader ++ wire) = b.reader ++ wire := by
      rw [buffered, nil_append]
    have idle : ¬ 0 < b.buffer.length := by
      rw [buffered]
      exact lt_irrefl 0
    rw [HTTPObfsServer.read, if_neg idle, if_neg (ne_true_of_eq_false request), unbuffered]
    have plain : ∀ ahead rest, RequestPending lib host port a { b with reader := ahead } closed rest (ahead ++ rest) := by
      intro ahead rest
      refine ⟨named, ?_⟩
      rw [first, request, buffered]
      exact .plain [] ahead rest
    by_cases ahead : b.reader = []
    · rw [ahead]
      by_cases arrived : wire = []
      · rw [arrived, bufioRead_end positive]
        cases closed with
        | true => exact .inr ⟨_, _, rfl, .ended (plain [] [])⟩
        | false => exact .inl ⟨rfl, rfl⟩
      · obtain ⟨data, ahead', rest, splits', rfl, some, got⟩ := bufioRead_nil positive arrived closed splits
        rw [got]
        refine .data (plain ahead' rest) fun _ => ?_
        have some := length_pos_of_ne_nil some
        show rest.length + (b.buffer.length + ahead'.length) < _ + (b.buffer.length + b.reader.length)
        rw [length_append, length_append]
        omega
    · have some : 0 < b.reader.length := length_pos_of_ne_nil ahead
      rw [bufioRead, if_pos some, eq_take_append room b.reader wire]
      refine .data (plain _ wire) fun _ => ?_
      show wire.length + (b.buffer.length + (b.reader.drop room).length) < _ + (b.buffer.length + b.reader.length)
      rw [length_drop]
      omega
  · have some : 0 < b.buffer.length := length_pos_of_ne_nil buffered
    rw [HTTPObfsServer.read, if_pos some, eq_take_append room b.buffer]
    refine .data ⟨named, ?_⟩ fun _ => ?_
    · rw [first, request]
      exact .plain (b.buffer.drop room) b.reader wire
    · show wire.length + ((b.buffer.drop room).length + b.reader.length) < _ + (b.buffer.length + b.reader.length)
      rw [length_drop]
      omega

theorem RequestPending.read {wire unread : Bytes} (accepts : lib.Accepts host port)
    (pending : RequestPending lib host port a b closed wire unread) (positive : 0 < room) (splits : List Nat) :
    Outcome (httpServer lib) (RequestPending lib host port a · closed) b closed
      wire unread (b.read lib room ⟨wire, closed, splits⟩) := by
  obtain ⟨named, state⟩ := pending
  generalize first : a.firstRequest = started at state
  generalize reading : b.reading = reader at state
  cases state with
  | fresh =>
    rw [read_nothing accepts reading]
    refine .nothing ⟨named, ?_⟩
    rw [first, reading]
    exact .fresh
  | request draw payload more =>
    obtain ⟨ahead, items, splits', whole, read⟩ :=
      read_request accepts reading draw payload more splits
    have header := accepts.header_ne_nil draw payload
    rw [read, ← whole, eq_take_append room payload (ahead ++ items)]
    refine .data ⟨named, ?_⟩ fun _ => ?_
    · rw [first]
      exact .plain (payload.drop room) ahead items
    · show items.length + ((payload.drop room).length + ahead.length) < _ + (b.buffer.length + b.reader.length)
      simp only [length_append]
      omega
  | plain buffer ahead wire =>
    simp only [HTTPObfsServer.reading, Prod.mk.injEq] at reading
    obtain ⟨request, rfl, rfl⟩ := reading
    exact readPlain named first request positive splits

end Reading

theorem HTTPObfs.read_writer {a a' : HTTPObfs} {room : Nat} {conn : Source UInt8} {result : ReadResult UInt8}
    (read : a.read lib room conn = some (result, a')) :
    a'.host = a.host ∧ a'.port = a.port ∧ a'.firstRequest = a.firstRequest := by
  revert read
  fun_cases HTTPObfs.read lib a room conn with
  | case2 => rintro ⟨⟩
  | case1 | case5 =>
    rintro ⟨⟩
    split_ifs <;> exact ⟨rfl, rfl, rfl⟩
  | case3 | case4 =>
    rintro ⟨⟩
    exact ⟨rfl, rfl, rfl⟩
  | case6 =>
    intro read
    obtain ⟨result', -, ⟨⟩⟩ := Option.map_eq_some_iff.mp read
    exact ⟨rfl, rfl, rfl⟩

theorem request_carries (accepts : lib.Accepts host port) :
    Carries (httpClient lib) (httpServer lib) (fun _ _ _ _ => True) (RequestPending lib host port) where
  there pending := pending.2.length_le
  write pending draw payload := pending.write draw payload
  close pending := pending
  keepsRead pending _ _ _ _ read := by
    obtain ⟨host', port', first⟩ := HTTPObfs.read_writer read
    refine ⟨⟨host'.trans pending.1.1, port'.trans pending.1.2⟩, ?_⟩
    rw [first]
    exact pending.2
  keepsWrite pending draw payload := by
    refine ⟨pending.1, ?_⟩
    show RequestState lib host port _ ((write _ draw payload).1.reading) _ _
    rw [write]
    split_ifs <;> exact pending.2
  read pending _ _ positive _ := pending.read accepts positive _

end Request

/-! ### From the server to the client -/

/-- What the client has of the response and has not returned, with the buffer that it stands in. -/
inductive HTTPObfs.Holds (ho : HTTPObfs) : Bytes → Prop
  | nothing (none : ho.buf = none) : ho.Holds []
  | some {buf : Bytes} (kept : ho.buf = some buf) (rest : buf.drop ho.offset ≠ []) : ho.Holds (buf.drop ho.offset)

/-- What can be on the way to the client. If the server has written nothing but the header and has closed, a client
that did not see the end of the header loses nothing. -/
inductive ResponseState : Bool → Bool → Bytes → Bool → Bytes → Bytes → Prop
  | fresh (closed : Bool) : ResponseState true true [] closed [] []
  | header (draw : HttpDraw) (unread : Bytes) (closed : Bool) :
      ResponseState false true [] closed (responseHeader draw ++ unread) unread
  | lost {draw : HttpDraw} {front rest : Bytes} (parts : front ++ rest = responseHeader draw) :
      ResponseState false true [] true rest []
  | plain (held wire : Bytes) (closed : Bool) : ResponseState false false held closed wire (held ++ wire)

def ResponsePending (a : HTTPObfsServer) (b : HTTPObfs) (closed : Bool) (wire unread : Bytes) : Prop :=
  ∃ held, b.Holds held ∧ ResponseState a.firstResponse b.firstResponse held closed wire unread

/-- A read of the client sees the end of the header, if it looks for it and there is something to be read; or there is
nothing to be lost. -/
def SeesHeader (lib : HttpLibrary) (b : HTTPObfs) (_room : Nat) (conn : Source UInt8) (unread : Bytes) : Prop :=
  b.buf = none → b.firstResponse = true → conn.items ≠ [] →
    (index headerEnd (conn.items.take (conn.piece lib.bufferSize))).isSome ∨ (conn.closed = true ∧ unread = [])

section Response

variable {lib : HttpLibrary} {a : HTTPObfsServer} {b : HTTPObfs} {closed : Bool} {wire unread held : Bytes}

theorem HTTPObfs.Holds.length_kept (holds : b.Holds held) : b.kept = held := by
  cases holds with
  | nothing none => rw [kept, none]
  | some kept => rw [HTTPObfs.kept, kept]

theorem HTTPObfs.Holds.buf_eq_none (holds : b.Holds []) : b.buf = none := by
  generalize nothing : ([] : Bytes) = held at holds
  cases holds with
  | nothing none => exact none
  | some kept rest => exact absurd nothing.symm rest

theorem ResponsePending.length_le (pending : ResponsePending a b closed wire unread) :
    unread.length ≤ wire.length + b.kept.length := by
  obtain ⟨held, holds, state⟩ := pending
  rw [holds.length_kept]
  generalize a.firstResponse = first at state
  generalize b.firstResponse = response at state
  cases state with
  | fresh => exact le_refl 0
  | header draw =>
    rw [length_append]
    omega
  | lost => exact Nat.zero_le _
  | plain =>
    rw [length_append]
    omega

theorem ResponsePending.write (pending : ResponsePending a b false wire unread) (draw : HttpDraw) (payload : Bytes) :
    ResponsePending (a.write draw payload).1 b false (wire ++ (a.write draw payload).2) (unread ++ payload) := by
  obtain ⟨held, holds, state⟩ := pending
  refine ⟨held, holds, ?_⟩
  cases first : a.firstResponse with
  | true =>
    rw [HTTPObfsServer.write, if_pos first]
    rw [first] at state
    generalize b.firstResponse = response at state ⊢
    cases state with
    | fresh => exact .header draw payload false
  | false =>
    rw [HTTPObfsServer.write, if_neg (ne_true_of_eq_false first), first]
    rw [first] at state
    generalize b.firstResponse = response at state ⊢
    cases state with
    | header draw' unread =>
      rw [append_assoc]
      exact .header draw' (unread ++ payload) false
    | plain held wire =>
      rw [append_assoc]
      exact .plain held (wire ++ payload) false

theorem ResponsePending.close (pending : ResponsePending a b false wire unread) :
    ResponsePending a b true wire unread := by
  obtain ⟨held, holds, state⟩ := pending
  refine ⟨held, holds, ?_⟩
  generalize a.firstResponse = first at state ⊢
  generalize b.firstResponse = response at state ⊢
  cases state with
  | fresh => exact .fresh true
  | header draw unread => exact .header draw unread true
  | plain held wire => exact .plain held wire true

section Reading

variable {room : Nat} {splits : List Nat} {conn : Source UInt8}

/-- What is left after a read of what stands behind an offset. -/
theorem HTTPObfs.Holds.rest {buf : Bytes} {offset : Nat} (kept : b.buf = Option.some buf)
    (next : b.offset = offset + ((buf.drop offset).take room).length) (more : b.offset < buf.length) :
    b.Holds ((buf.drop offset).drop room) := by
  have left : (buf.drop offset).drop room = buf.drop b.offset := by
    rw [next, length_take, length_drop] at more ⊢
    rw [drop_drop]
    congr 1
    omega
  rw [left]
  exact .some kept fun empty => not_le.mpr more (drop_eq_nil_iff.mp empty)

theorem HTTPObfs.Holds.all {buf : Bytes} {offset : Nat} (none : b.buf = none)
    (all : buf.length ≤ offset + ((buf.drop offset).take room).length) : b.Holds ((buf.drop offset).drop room) := by
  have nothing : (buf.drop offset).drop room = [] := by
    apply drop_eq_nil_of_le
    rw [length_take] at all
    rw [length_drop]
    omega
  rw [nothing]
  exact .nothing none

theorem HTTPObfs.read_kept (holds : b.Holds held) (some : held ≠ []) (conn : Source UInt8) :
    ∃ b' : HTTPObfs, b.read lib room conn = Option.some (⟨held.take room, none, conn⟩, b') ∧
      b'.Holds (held.drop room) ∧ b'.firstResponse = b.firstResponse := by
  cases holds with
  | nothing => exact absurd rfl some
  | @some buf kept =>
    have rest := length_pos_of_ne_nil some
    rw [length_drop] at rest
    unfold read
    rw [kept]
    dsimp only
    split_ifs with all
    · exact ⟨_, rfl, .all rfl (le_of_eq all.symm), rfl⟩
    refine ⟨_, rfl, .rest rfl rfl ?_, rfl⟩
    show b.offset + ((buf.drop b.offset).take room).length < buf.length
    rw [length_take, length_drop] at all ⊢
    omega

section First

variable {n : Nat}

variable (none : b.buf = none) (first : b.firstResponse = true) (size : 0 < lib.bufferSize)

include none first size

theorem HTTPObfs.read_nothing (splits : List Nat) : b.read lib room ⟨[], closed, splits⟩ =
      if closed then some (⟨[], some .eof, ⟨[], closed, splits⟩⟩, b) else Option.none := by
  rw [read, none]
  rw [if_pos first, read_nil size]
  cases closed with
  | true | false => rfl

theorem HTTPObfs.read_cut (arrived : wire ≠ []) (piece : piece ⟨wire, closed, splits⟩ lib.bufferSize = n)
    (cut : index headerEnd (wire.take n) = Option.none) :
    b.read lib room ⟨wire, closed, splits⟩ = some (⟨[], some .eof, ⟨wire.drop n, closed, splits.tail⟩⟩, b) := by
  have some : ¬ wire.isEmpty = true := fun empty => arrived (isEmpty_iff.mp empty)
  rw [read, none]
  rw [if_pos first, Source.read, if_neg (ne_of_gt size), if_neg some, piece]
  dsimp only
  rw [cut]

theorem HTTPObfs.read_found (arrived : wire ≠ []) (piece : piece ⟨wire, closed, splits⟩ lib.bufferSize = n) {i : Nat}
    (found : index headerEnd (wire.take n) = some i) : ∃ b' : HTTPObfs, b.read lib room ⟨wire, closed, splits⟩ =
        some (⟨((wire.take n).drop (i + 4)).take room, Option.none, ⟨wire.drop n, closed, splits.tail⟩⟩, b') ∧
      b'.Holds (((wire.take n).drop (i + 4)).drop room) ∧ b'.firstResponse = false := by
  have some : ¬ wire.isEmpty = true := fun empty => arrived (isEmpty_iff.mp empty)
  unfold read
  rw [none]
  rw [Source.read, if_neg (ne_of_gt size), if_neg some, piece]
  dsimp only
  rw [found]
  dsimp only
  generalize wire.take n = got at found ⊢
  split_ifs with more
  · have whole : got.take (i + 4 + (got.length - (i + 4))) = got := take_of_length_le (by omega)
    refine ⟨_, rfl, .rest (congrArg Option.some whole) rfl ?_, rfl⟩
    show i + 4 + ((got.drop (i + 4)).take room).length < got.length
    omega
  · refine ⟨_, rfl, .all rfl ?_, rfl⟩
    omega

end First

theorem take_responseHeader {draw : HttpDraw} {n i : Nat}
    (found : index headerEnd ((responseHeader draw ++ unread).take n) = some i) :
    ∃ m, ((responseHeader draw ++ unread).take n).drop (i + 4) = unread.take m ∧
      (responseHeader draw ++ unread).drop n = unread.drop m := by
  obtain ⟨j, ends, whole⟩ := index_responseHeader draw unread
  have same := index_append found ((responseHeader draw ++ unread).drop n)
  rw [take_append_drop, whole] at same
  cases same
  have within := index_headerEnd_le found
  rw [length_take] at within
  have covers : (responseHeader draw).length ≤ n := by omega
  refine ⟨n - (responseHeader draw).length, ?_, ?_⟩
  · rw [ends, take_append, take_of_length_le covers, drop_left]
  · rw [drop_append, drop_eq_nil_of_le covers, nil_append]

namespace ResponsePending

theorem readHeader (draw : HttpDraw) (started : a.firstResponse = false) (none : b.buf = none)
    (first : b.firstResponse = true) (size : 0 < lib.bufferSize)
    (sees : SeesHeader lib b room ⟨responseHeader draw ++ unread, closed, splits⟩ unread) :
    Outcome (httpClient lib) (ResponsePending a · closed) b closed
      (responseHeader draw ++ unread) unread (b.read lib room ⟨responseHeader draw ++ unread, closed, splits⟩) := by
  have header : 0 < (responseHeader draw).length := by
    obtain ⟨j, ends, -⟩ := index_responseHeader draw unread
    omega
  have arrived : responseHeader draw ++ unread ≠ [] :=
    append_ne_nil_of_left_ne_nil (ne_nil_of_length_pos header) _
  have sees := sees none first arrived
  generalize piece : piece ⟨responseHeader draw ++ unread, closed, splits⟩ lib.bufferSize = n at sees
  cases found : index headerEnd ((responseHeader draw ++ unread).take n) with
  | none =>
    rw [found] at sees
    obtain ⟨rfl, rfl⟩ := sees.resolve_left Bool.false_ne_true
    rw [HTTPObfs.read_cut none first size arrived piece found]
    refine .inr ⟨_, _, rfl, .ended ⟨[], .nothing none, ?_⟩⟩
    have parts : (responseHeader draw).take n ++ (responseHeader draw ++ []).drop n = responseHeader draw := by
      rw [append_nil, take_append_drop]
    rw [started, first]
    exact .lost parts
  | some i =>
    obtain ⟨b', read, holds, after⟩ := HTTPObfs.read_found none first size arrived piece found
    obtain ⟨m, got, rest⟩ := take_responseHeader found
    rw [got] at read holds
    rw [read]
    have parts : unread = (unread.take m).take room ++ ((unread.take m).drop room ++ unread.drop m) := by
      rw [← eq_take_append, take_append_drop]
    nth_rewrite 2 [parts]
    refine .data ⟨_, holds, ?_⟩ fun _ => ?_
    · show ResponseState _ _ _ _ ((responseHeader draw ++ unread).drop n) _
      rw [started, after, rest]
      exact .plain _ _ closed
    · show ((responseHeader draw ++ unread).drop n).length + b'.kept.length < _ + b.kept.length
      rw [holds.length_kept, rest]
      simp only [length_append, length_drop, length_take]
      omega

theorem readLost {draw : HttpDraw} {front rest : Bytes} (parts : front ++ rest = responseHeader draw)
    (started : a.firstResponse = false) (none : b.buf = none) (first : b.firstResponse = true)
    (size : 0 < lib.bufferSize) : Outcome (httpClient lib) (ResponsePending a · true) b true rest []
      (b.read lib room ⟨rest, true, splits⟩) := by
  have lost : ∀ front rest, front ++ rest = responseHeader draw → ResponsePending a b true rest [] := by
    intro front rest parts
    refine ⟨[], .nothing none, ?_⟩
    rw [started, first]
    exact .lost parts
  by_cases arrived : rest = []
  · have nothing : b.read lib room ⟨rest, true, splits⟩ = some (⟨[], some .eof, ⟨[], true, splits⟩⟩, b) := by
      rw [arrived]
      exact HTTPObfs.read_nothing none first size splits
    rw [nothing]
    rw [arrived] at parts
    exact .inr ⟨_, _, rfl, .ended (lost front [] parts)⟩
  · generalize piece : piece ⟨rest, true, splits⟩ lib.bufferSize = n
    cases found : index headerEnd (rest.take n) with
    | none =>
      rw [HTTPObfs.read_cut none first size arrived piece found]
      refine .inr ⟨_, _, rfl, .ended (lost (front ++ rest.take n) (rest.drop n) ?_)⟩
      rw [append_assoc, take_append_drop, parts]
    | some i =>
      obtain ⟨b', read, holds, after⟩ := HTTPObfs.read_found none first size arrived piece found
      have whole : front ++ (rest.take n ++ rest.drop n) = responseHeader draw := by
        rw [take_append_drop, parts]
      obtain ⟨all, last⟩ := drop_index_of_part whole found
      rw [last, drop_nil] at holds
      rw [read, last, all, take_nil]
      refine .inr ⟨_, _, rfl, ⟨[], rfl, [], holds, ?_⟩, fun error => absurd error Bool.false_ne_true,
        fun some => absurd rfl some⟩
      rw [started, after]
      exact .plain [] [] true

theorem readPlain (holds : b.Holds held) (started : a.firstResponse = false)
    (after : b.firstResponse = false) (positive : 0 < room) :
    Outcome (httpClient lib) (ResponsePending a · closed) b closed wire
      (held ++ wire) (b.read lib room ⟨wire, closed, splits⟩) := by
  have plain : ∀ {b' : HTTPObfs} {held} rest, b'.Holds held → b'.firstResponse = b.firstResponse →
      ResponsePending a b' closed rest (held ++ rest) := by
    intro b' held rest holds same
    refine ⟨held, holds, ?_⟩
    rw [started, same, after]
    exact .plain held rest closed
  by_cases some : held = []
  · rw [some] at holds ⊢
    rw [HTTPObfs.read, holds.buf_eq_none]
    rw [if_neg (ne_true_of_eq_false after)]
    by_cases arrived : wire = []
    · rw [arrived, read_nil positive, apply_ite (Option.map _)]
      exact .nothing (plain [] holds rfl)
    obtain ⟨n, some, -, -, got⟩ := read_of_ne_nil (s := ⟨wire, closed, splits⟩) positive arrived
    rw [got]
    nth_rewrite 2 [← take_append_drop n wire]
    refine .data (plain (wire.drop n) holds rfl) fun _ => ?_
    show (wire.drop n).length + b.kept.length < wire.length + b.kept.length
    rw [length_drop]
    have some' := length_pos_of_ne_nil arrived
    omega
  · obtain ⟨b', read, holds', same⟩ := HTTPObfs.read_kept holds some ⟨wire, closed, splits⟩
    rw [read, eq_take_append room held wire]
    refine .data (plain wire holds' same) fun _ => ?_
    show wire.length + b'.kept.length < wire.length + b.kept.length
    rw [holds.length_kept, holds'.length_kept, length_drop]
    have some' := length_pos_of_ne_nil some
    omega

theorem read (size : 0 < lib.bufferSize) (pending : ResponsePending a b closed wire unread)
    (positive : 0 < room) (sees : SeesHeader lib b room ⟨wire, closed, splits⟩ unread) :
    Outcome (httpClient lib) (ResponsePending a · closed) b closed wire unread
      (b.read lib room ⟨wire, closed, splits⟩) := by
  obtain ⟨held, holds, state⟩ := pending
  generalize started : a.firstResponse = writer at state
  generalize first : b.firstResponse = reader at state
  cases state with
  | fresh =>
    have none : b.buf = none := holds.buf_eq_none
    rw [HTTPObfs.read_nothing none first size]
    refine .nothing ⟨[], holds, ?_⟩
    rw [started, first]
    exact .fresh closed
  | header draw unread => exact readHeader draw started holds.buf_eq_none first size sees
  | lost parts => exact readLost parts started holds.buf_eq_none first size
  | plain held wire => exact readPlain holds started first positive

end ResponsePending

end Reading

theorem HTTPObfsServer.read_writer {a' : HTTPObfsServer} {room : Nat} {conn : Source UInt8}
    {result : ReadResult UInt8} (read : a.read lib room conn = some (result, a')) :
    a'.firstResponse = a.firstResponse := by
  revert read
  fun_cases HTTPObfsServer.read lib a room conn with
  | case2 | case5 => rintro ⟨⟩
  | case1 | case3 | case4 | case6 | case7 =>
    rintro ⟨⟩
    rfl
  | case8 =>
    intro read
    obtain ⟨got, -, ⟨⟩⟩ := Option.map_eq_some_iff.mp read
    rfl

theorem HTTPObfs.Holds.write (holds : b.Holds held) (draw : HttpDraw) (payload : Bytes) :
    (b.write lib draw payload).1.Holds held ∧ (b.write lib draw payload).1.firstResponse = b.firstResponse := by
  rw [HTTPObfs.write]
  split_ifs
  · cases holds with
    | nothing none => exact ⟨.nothing none, rfl⟩
    | some kept rest => exact ⟨.some kept rest, rfl⟩
  · exact ⟨holds, rfl⟩

end Response

theorem response_carries {lib : HttpLibrary} (size : 0 < lib.bufferSize) :
    Carries (httpServer lib) (httpClient lib) (SeesHeader lib) ResponsePending where
  there pending := pending.length_le
  write pending draw payload := pending.write draw payload
  close pending := pending.close
  keepsRead pending _ _ _ _ read := by
    obtain ⟨held, holds, state⟩ := pending
    refine ⟨held, holds, ?_⟩
    rw [read_writer read]
    exact state
  keepsWrite pending draw payload := by
    obtain ⟨held, holds, state⟩ := pending
    obtain ⟨still, same⟩ := holds.write draw payload
    refine ⟨held, still, ?_⟩
    rw [← same] at state
    exact state
  read pending _ _ positive sees := pending.read size positive sees

end SingBox.Obfs
