/-
**When simple-obfs in HTTP mode is transparent.**

A run is transparent exactly if every read of the client that looks for the header sees its end, or comes after the
server has closed a connection with nothing to be read (`http_transparent_iff`). The pieces of the stream decide that:
if the first piece ends within the header, the client reports the end of the stream (`not_transparent_of_cut`).
-/

import SingBox.Obfs.HttpLink

namespace SingBox.Obfs

open SingBox.Lib SingBox.Subscription List

/-- A read of the client that looks for the header sees its end, or there is nothing to be lost. -/
def HeaderSeen (lib : HttpLibrary) (s : Duplex HTTPObfs HTTPObfsServer UInt8) (event : Side × Act HttpDraw UInt8) : Prop :=
  ∀ room positive splits, event = (.client, .read room positive splits) →
    s.client.buf = none → s.client.firstResponse = true → s.down.wire ≠ [] →
      (index headerEnd (s.down.wire.take (Source.piece ⟨s.down.wire, s.down.closed, splits⟩ lib.bufferSize))).isSome ∨
        (s.down.closed = true ∧ s.down.received = s.down.sent)

section Condition

variable {lib : HttpLibrary} {s : Duplex HTTPObfsServer HTTPObfs UInt8} {event : Side × Act HttpDraw UInt8}

theorem headerSeen_of_endsHonestly (size : 0 < lib.bufferSize) (honest : EndsHonestly (httpClient lib) s event) :
    HeaderSeen lib s.swap (swapSide event) := by
  intro room positive splits same none first arrived
  have read : event = (.server, .read room positive splits) := by
    obtain ⟨side, act⟩ := event
    cases side with
    | client => cases same
    | server =>
      cases same
      rfl
  cases found : index headerEnd (s.up.wire.take (Source.piece ⟨s.up.wire, s.up.closed, splits⟩ lib.bufferSize)) with
  | none => exact .inr (honest room positive splits read _ _ (HTTPObfs.read_cut none first size arrived rfl found) rfl)
  | some i => exact .inl (Option.isSome_iff_exists.mpr ⟨i, found⟩)

theorem goodReads_of_headerSeen (seen : HeaderSeen lib s.swap (swapSide event)) : GoodReads (SeesHeader lib) s event := by
  rintro room positive splits rfl unread total none first arrived
  refine (seen room positive splits rfl none first arrived).imp_right fun ended => ⟨ended.1, ?_⟩
  have all : s.up.received = s.up.sent := ended.2
  rw [all] at total
  exact append_right_eq_self.mp total.symm

end Condition

section Connection

variable {lib : HttpLibrary} {host port : Bytes} {events : List (Side × Act HttpDraw UInt8)}

theorem headerSeen_of_transparent (size : 0 < lib.bufferSize)
    (transparent : Transparent (httpClient lib) (httpServer lib) (httpConnection host port) events) :
    (Duplex.machine (httpClient lib) (httpServer lib)).Along (HeaderSeen lib) (httpConnection host port) events := by
  rw [← Duplex.along_swap]
  exact .of_invariant (fun _ => True)
    (fun _ _ _ honest => ⟨trivial, headerSeen_of_endsHonestly size honest⟩) trivial transparent.2.honest

/-- **Simple-obfs in HTTP mode is transparent** in a run exactly if the client sees the end of the header when it looks
for it, or had nothing to lose. -/
theorem http_transparent_iff (accepts : lib.Accepts host port) (events : List (Side × Act HttpDraw UInt8)) :
    Transparent (httpClient lib) (httpServer lib) (httpConnection host port) events ↔
      (Duplex.machine (httpClient lib) (httpServer lib)).Along (HeaderSeen lib) (httpConnection host port) events := by
  refine ⟨headerSeen_of_transparent accepts.size, fun seen => ⟨?_, ?_⟩⟩
  · refine (request_carries accepts).delivers ⟨[], rfl, ⟨rfl, rfl⟩, .fresh⟩ ?_
    exact Machine.along_of_forall _ (fun _ _ _ _ _ _ _ _ => trivial) _ _
  have start : Carries.Inv ResponsePending (httpConnection host port).swap :=
    ⟨[], rfl, [], .nothing rfl, .fresh false⟩
  refine (response_carries accepts.size).delivers start ?_
  rw [← Duplex.along_swap] at seen
  exact .of_invariant (fun _ => True) (fun _ _ _ seen => ⟨trivial, goodReads_of_headerSeen seen⟩) trivial seen

end Connection

/-! ### Requests as `net/http` has them -/

def lengthFields (length : Nat) : List (Bytes × Bytes) :=
  if length = 0 then [] else [(text "Content-Length", decimal length)]

def requestFields (request : HttpRequest) : List (Bytes × Bytes) :=
  (text "Host", request.host) :: request.header ++ lengthFields request.contentLength

def requestLines (request : HttpRequest) : List Bytes :=
  (request.method ++ text " / HTTP/1.1") :: (requestFields request).map fun field => field.1 ++ (text ": " ++ field.2)

def readHead (head : Bytes) : HttpRequest :=
  let lines := head.splitOn 0x0D
  let header := lines.tail.filterMap fun line => cut (text ": ") line.tail
  { method        := (lines.headD []).takeWhile (· ≠ 0x20)
    host          := (get header (text "Host")).getD []
    header        := header
    contentLength := digitsValue ((get header (text "Content-Length")).getD []) }

/-- As much of `net/http` as a request with a body of known length takes. -/
def netHttp : HttpLibrary where
  bufferSize := 32 * 1024
  writeHeader request := (requestLines request).flatMap (· ++ lineEnd) ++ lineEnd
  readRequest got :=
    match index headerEnd got with
    | none => .more
    | some i => .done (readHead (got.take (i + 2))) (i + 4)
  readBody request got :=
    if got.length < request.contentLength then .more
    else .done (got.take request.contentLength) request.contentLength

theorem cut_append {first : UInt8} {more front : Bytes} (absent : first ∉ front) (back : Bytes) :
    cut (first :: more) (front ++ (first :: more ++ back)) = some (front, back) := by
  induction front with
  | nil => simp [cut]
  | cons byte front ih =>
    obtain ⟨other, absent⟩ := not_or.mp (mem_cons.not.mp absent)
    have apart : ¬ (first :: more).isPrefixOf (byte :: (front ++ (first :: more ++ back))) = true := by
      simp [other]
    rw [cons_append, cut, if_neg apart, ih absent]
    rfl

theorem splitOn_append {line : Bytes} (plain : (0x0D : UInt8) ∉ line) (rest : Bytes) :
    (line ++ 0x0D :: rest).splitOn 0x0D = line :: rest.splitOn 0x0D := by
  refine splitOnP_append_cons_of_forall_mem (fun byte member => ?_) 0x0D rfl rest
  exact beq_false_of_ne fun same => plain (same ▸ member)

theorem splitOn_lines {lines : List Bytes} (proper : ∀ line ∈ lines, (0x0D : UInt8) ∉ line) :
    (0x0A :: lines.flatMap (· ++ lineEnd)).splitOn 0x0D = lines.map (0x0A :: ·) ++ [[0x0A]] := by
  induction lines with
  | nil => decide
  | cons line lines ih =>
    obtain ⟨plain, others⟩ := forall_mem_cons.mp proper
    have first : 0x0D ∉ 0x0A :: line := not_mem_cons_of_ne_of_not_mem (by decide) plain
    have split := splitOn_append first (0x0A :: lines.flatMap (· ++ lineEnd))
    rw [map_cons, cons_append, ← ih others, ← split]
    simp [lineEnd]

theorem requestLines_proper {request : HttpRequest} (method : 0x0D ∉ request.method)
    (fields : ∀ field ∈ requestFields request, 0x0D ∉ field.1 ∧ (0x0D : UInt8) ∉ field.2) :
    ∀ line ∈ requestLines request, line ≠ [] ∧ (0x0D : UInt8) ∉ line := by
  have version : 0x0D ∉ text " / HTTP/1.1" := by decide
  have colon : 0x0D ∉ text ": " := by decide
  refine forall_mem_cons.mpr ⟨⟨append_ne_nil_of_right_ne_nil _ (by decide), by simp [method, version]⟩,
    forall_mem_map.mpr fun field member => ⟨?_, ?_⟩⟩
  · exact append_ne_nil_of_right_ne_nil _ (append_ne_nil_of_left_ne_nil (by decide) _)
  · simp [fields field member, colon]

/-- The header that is read is the one that was written. -/
theorem readHead_lines {request : HttpRequest} (method : 0x0D ∉ request.method ∧ 0x20 ∉ request.method)
    (fields : ∀ field ∈ requestFields request, 0x0D ∉ field.1 ∧ (0x0D : UInt8) ∉ field.2)
    (names : ∀ field ∈ requestFields request, 0x3A ∉ field.1) :
    readHead ((requestLines request).flatMap (· ++ lineEnd)) =
      { method        := request.method
        host          := request.host
        header        := requestFields request
        contentLength := digitsValue ((get (requestFields request) (text "Content-Length")).getD []) } := by
  obtain ⟨⟨-, first⟩, others⟩ := forall_mem_cons.mp (requestLines_proper method.1 fields)
  have lines : ((requestLines request).flatMap (· ++ lineEnd)).splitOn 0x0D =
      (request.method ++ text " / HTTP/1.1") ::
        (((requestFields request).map fun field => field.1 ++ (text ": " ++ field.2)).map (0x0A :: ·) ++ [[0x0A]]) := by
    rw [← splitOn_lines fun line member => (others line member).2, ← splitOn_append first]
    simp [requestLines, lineEnd]
  have colon : text ": " = [0x3A, 0x20] := by decide
  have header : (requestFields request).filterMap (fun field => cut (text ": ") (field.1 ++ (text ": " ++ field.2))) =
      requestFields request := by
    rw [colon, filterMap_congr fun field member => cut_append (names field member) field.2]
    exact filterMap_some
  have word : (request.method ++ text " / HTTP/1.1").takeWhile (· ≠ 0x20) = request.method := by
    have others : ∀ byte ∈ request.method, decide (byte ≠ 0x20) = true :=
      fun byte member => decide_eq_true fun same => method.2 (same ▸ member)
    rw [takeWhile_append_of_pos others]
    exact append_nil _
  have blank : cut (text ": ") [] = none := by decide
  unfold readHead
  rw [lines]
  simp only [tail_cons, headD_cons, filterMap_append, filterMap_map, Function.comp_def, header, filterMap_cons, blank,
    filterMap_nil, append_nil, word]
  rfl

theorem requestFields_newRequest {host port : Bytes} (hostLine : 0x0D ∉ host) (portLine : 0x0D ∉ port) (draw : HttpDraw)
    (length : Nat) : ∀ field ∈ requestFields (newRequest host port draw length),
      (0x0D ∉ field.1 ∧ (0x0D : UInt8) ∉ field.2) ∧ 0x3A ∉ field.1 := by
  have number (n : Nat) : 0x0D ∉ decimal n := notMem_decimal rfl n
  have names : ∀ name ∈ [text "Host", text "User-Agent", text "Upgrade", text "Connection", text "Sec-WebSocket-Key",
      text "Content-Length"], 0x0D ∉ name ∧ 0x3A ∉ name := by decide
  have values : ∀ value ∈ [text ":", text "curl/7.", text ".", text "websocket", text "Upgrade"], 0x0D ∉ value := by decide
  simp only [forall_mem_cons] at names values
  intro field member
  simp only [requestFields, newRequest, cons_append, nil_append, mem_cons] at member
  rcases member with rfl | rfl | rfl | rfl | rfl | member
  · dsimp only
    split <;> simp [names, values, hostLine, portLine]
  · simp [names, values, number]
  · exact ⟨⟨names.2.2.1.1, values.2.2.2.1⟩, names.2.2.1.2⟩
  · exact ⟨⟨names.2.2.2.1.1, values.2.2.2.2.1⟩, names.2.2.2.1.2⟩
  · simp [names, notMem_encodeBase64]
  · unfold lengthFields at member
    split at member
    · cases member
    · cases mem_singleton.mp member
      simp [names, number]

theorem readRequest_recognizes {lines : List Bytes} (some : lines ≠ [])
    (proper : ∀ line ∈ lines, line ≠ [] ∧ (0x0D : UInt8) ∉ line) :
    Recognizes netHttp.readRequest (lines.flatMap (· ++ lineEnd) ++ lineEnd) (readHead (lines.flatMap (· ++ lineEnd))) := by
  refine ⟨fun front part short => ?_, fun rest => ?_⟩
  · obtain ⟨i, last, found⟩ := index_lines some proper []
    obtain ⟨missing, whole⟩ := part
    cases early : index headerEnd front with
    | none => simp only [netHttp, early]
    | some j =>
      -- the end would be where it is in the whole header, so that nothing is missing
      have within := index_headerEnd_le early
      have again := index_append early missing
      rw [append_nil, ← whole, again] at found
      cases found
      have length := congrArg length whole
      have ending : lineEnd.length = 2 := rfl
      rw [length_append, length_append] at length
      have none : missing = [] := eq_nil_of_length_eq_zero (by omega)
      rw [none, append_nil] at whole
      exact absurd whole short
  · obtain ⟨i, last, found⟩ := index_lines some proper rest
    have ending : lineEnd.length = 2 := rfl
    rw [append_assoc]
    simp only [netHttp, found]
    rw [last, take_left, length_append, ending, ← last]

theorem readBody_recognizes {request : HttpRequest} {payload : Bytes} (length : request.contentLength = payload.length) :
    Recognizes (netHttp.readBody request) payload payload := by
  refine ⟨fun front part short => ?_, fun rest => ?_⟩
  · have less : front.length < request.contentLength := by
      rw [length]
      exact lt_of_le_of_ne part.length_le fun same => short (part.eq_of_length same)
    exact if_pos less
  · have enough : ¬ (payload ++ rest).length < request.contentLength := by
      rw [length, length_append]
      omega
    simp only [netHttp, if_neg enough]
    rw [length, take_left]

theorem netHttp_accepts {host port : Bytes} (hostLine : 0x0D ∉ host) (portLine : 0x0D ∉ port) :
    netHttp.Accepts host port where
  size := by decide
  nothing := rfl
  back draw payload := by
    have method : 0x0D ∉ text "GET" ∧ 0x20 ∉ text "GET" := by decide
    have fields := requestFields_newRequest hostLine portLine draw payload.length
    have same := @readHead_lines (newRequest host port draw payload.length) method
      (fun field member => (fields field member).1) fun field member => (fields field member).2
    have proper := @requestLines_proper (newRequest host port draw payload.length) method.1
      fun field member => (fields field member).1
    refine ⟨_, readRequest_recognizes (cons_ne_nil _ _) proper, ?_, ?_, readBody_recognizes ?_⟩
    · exact congrArg HttpRequest.method same
    · rw [HttpRequest.headerGet, congrArg HttpRequest.header same]
      have others : text "Host" ≠ text "Connection" ∧ text "User-Agent" ≠ text "Connection" ∧
        text "Upgrade" ≠ text "Connection" := by decide
      simp [requestFields, newRequest, Subscription.get, others]
    · have others : ∀ name ∈ [text "Host", text "User-Agent", text "Upgrade", text "Connection", text "Sec-WebSocket-Key"],
          name ≠ text "Content-Length" := by decide
      simp only [forall_mem_cons] at others
      rw [congrArg HttpRequest.contentLength same]
      simp only [requestFields, newRequest, Subscription.get, cons_append, nil_append, findSome?_cons, others, if_false]
      unfold lengthFields
      rcases eq_or_ne payload.length 0 with none | some
      · rw [if_pos none, none]
        rfl
      · rw [if_neg some, findSome?_cons, if_pos rfl]
        simp only [Option.getD_some, digitsValue, digits_of_decimal some, Nat.ofDigits_digits]

def midnight : HttpDraw := ⟨List.replicate 16 0, 0, 0, text "Mon, 02 Jan 2006 00:00:00 UTC", by decide⟩

/-- Each side writes a byte, and the other one reads; the pieces are as long as they can be. -/
def answered : List (Side × Act HttpDraw UInt8) :=
  [(.client, .write midnight [0x42]), (.server, .read 1 Nat.one_pos []), (.server, .write midnight [0x41]),
    (.client, .read 1 Nat.one_pos [])]

/-- The same, where the first piece is the first byte of the header. -/
def cutAnswer : List (Side × Act HttpDraw UInt8) :=
  [(.server, .write midnight [0x41]), (.client, .read 1 Nat.one_pos [1])]

/-- A request and its answer, whose header comes in one piece. -/
theorem answered_transparent :
    (Duplex.machine (httpClient netHttp) (httpServer netHttp)).Along (HeaderSeen netHttp)
        (httpConnection (text "example.com") (text "80")) answered ∧
      Transparent (httpClient netHttp) (httpServer netHttp) (httpConnection (text "example.com") (text "80"))
        answered := by
  have seen : (Duplex.machine (httpClient netHttp) (httpServer netHttp)).Along (HeaderSeen netHttp)
      (httpConnection (text "example.com") (text "80")) answered := by
    have other (act : Act HttpDraw UInt8) (room : Nat) (positive : 0 < room) (splits : List Nat) :
        (Side.server, act) ≠ (.client, .read room positive splits) := by
      rintro ⟨⟩
    refine ⟨fun _ _ _ same => (by cases same), fun _ _ _ same => absurd same (other _ _ _ _),
      fun _ _ _ same => absurd same (other _ _ _ _), fun room positive splits same _ _ _ => ?_, trivial⟩
    cases same
    exact .inl (by decide +kernel)
  exact ⟨seen, (http_transparent_iff (netHttp_accepts (by decide) (by decide)) answered).mpr seen⟩

/-- **A client whose first piece ends within the header** reports the end of a stream that is open. -/
theorem not_transparent_of_cut :
    ¬ Transparent (httpClient netHttp) (httpServer netHttp) (httpConnection (text "example.com") (text "80"))
      cutAnswer := by
  intro transparent
  have seen := headerSeen_of_transparent (by decide) transparent
  have arrived : responseHeader midnight ++ [0x41] ≠ [] := List.append_ne_nil_of_right_ne_nil _ (List.cons_ne_nil _ _)
  rcases seen.2.1 1 Nat.one_pos [1] rfl rfl rfl arrived with found | ended
  · have cut : index headerEnd ((responseHeader midnight ++ [0x41]).take 1) = none := by
      refine index_eq_none_of_length_lt (Nat.lt_of_le_of_lt (List.length_take_le _ _) ?_)
      rw [headerEnd_eq]
      decide
    have piece : Source.piece ⟨responseHeader midnight ++ [0x41], false, [1]⟩ netHttp.bufferSize = 1 := by
      rw [Source.piece, List.headD_cons]
      omega
    have found : (index headerEnd ((responseHeader midnight ++ [0x41]).take
      (Source.piece ⟨responseHeader midnight ++ [0x41], false, [1]⟩ netHttp.bufferSize))).isSome = true := found
    rw [piece, cut] at found
    cases found
  · cases ended.1

end SingBox.Obfs
