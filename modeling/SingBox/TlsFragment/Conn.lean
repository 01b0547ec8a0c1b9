/-
**TLS fragmentation** (`common/tlsfragment/conn.go`).

The first write of a connection is cut into pieces at random points within the labels of the server name. With
`splitPacket` each piece is a write of its own; with `splitRecord` each piece becomes a TLS record of its own. What is
written should be the data again, or the payload of their first record in smaller records and then the rest
(`Preserves`). The code does not check that a label has a byte to be cut at, and takes all that is written for one
record.
-/

import SingBox.TlsFragment.Index

namespace SingBox.TlsFragment

open SingBox.Lib SingBox.Lib.Checked List
open SingBox.Sniff (uint16 uint16_lt)

/-! ### The connection below -/

/-- What is done on the underlying connection. `writeAndWaitAck` writes and then waits. -/
inductive Op where
  | setNoDelay (noDelay : Bool)
  | write (payload : Bytes)
  | writeAndWaitAck (payload : Bytes)
  deriving DecidableEq

/-- How an operation fails after the operations so far: the bytes that a write has written nevertheless,
and the error. -/
abbrev Underlying (ε : Type) := List Op → Op → Option (Nat × ε)

def Op.sent : Op → Bytes
  | .setNoDelay _ => []
  | .write payload | .writeAndWaitAck payload => payload

def sent (history : List Op) : Bytes := history.flatMap Op.sent

variable {ε : Type}

/-- An operation on the way; if it fails then `Write` returns 0 and the error. -/
def perform (underlying : Underlying ε) (history : List Op) (op : Op) : Checked (Nat × ε) (List Op) :=
  match underlying history op with
  | none => .ok (history ++ [op])
  | some (_, error) => fail (0, error)

/-- An operation that is left out unless the condition holds. -/
def performIf (underlying : Underlying ε) (condition : Bool) (history : List Op) (op : Op) :
    Checked (Nat × ε) (List Op) :=
  if condition then perform underlying history op else .ok history

/-- `c.Conn.Write(b)`. -/
def passWrite (underlying : Underlying ε) (b : Bytes) (history : List Op) : Checked (Nat × ε) (Nat × List Op) :=
  match underlying history (.write b) with
  | none => .ok (b.length, history ++ [.write b])
  | some failure => fail failure

/-- `rand.Intn`, for the calls in their order. -/
abbrev Intn := (call : Nat) → (n : Nat) → 0 < n → Fin n

/-- The loop over the labels; `rand.Intn(0)` is a panic. -/
def splitLoop (intn : Intn) : (i : Nat) → (splits : List Bytes) → (currentIndex : Nat) → Checked (Nat × ε) (List Nat)
  | _, [], _ => .ok []
  | i, split :: splits, currentIndex =>
    if positive : 0 < split.length then do
      let splitAt := intn i split.length positive
      let next := currentIndex + split.length
      let splitIndexes ← splitLoop intn (i + 1) splits (if splits = [] then next else next + 1)
      return (currentIndex + splitAt) :: splitIndexes
    else .error .panic

def splitLabels (publicSuffix : Bytes → Bytes) (serverName : MyServerName) : Checked (Nat × ε) (Nat × List Bytes) := do
  let name := serverName.serverName
  let splits := name.splitOn 0x2E
  let splits ← if publicSuffix name ≠ [] then slice splits 0 (splits.length - name.count 0x2E)
    else pure splits
  if 1 < splits.length ∧ splits.head? = some [0x2E, 0x2E, 0x2E] then
    let rest ← sliceFrom splits 1
    return (serverName.index + 4, rest)
  else return (serverName.index, splits)

def splitIndexes (intn : Intn) (publicSuffix : Bytes → Bytes) (serverName : MyServerName) :
    Checked (Nat × ε) (List Nat) := do
  let labels ← splitLabels publicSuffix serverName
  splitLoop intn 0 labels.2 labels.1

/-! ### The pieces -/

/-- `Conn`: its settings, and whether it has written. -/
structure Conn where
  (splitPacket splitRecord tcpConn : Bool)
  firstPacketWritten : Bool := false

def record (head payload : Bytes) : Bytes := head ++ bigEndian 2 payload.length ++ payload

def bufferPiece (c : Conn) (b payload buffer : Bytes) : Checked (Nat × ε) Bytes :=
  if c.splitRecord then do
    let head ← slice b 0 3
    return (if c.splitPacket then [] else buffer) ++ record head payload
  else .ok buffer

def writePiece (underlying : Underlying ε) (c : Conn) (b : Bytes) (last : Bool)
    (payload buffer : Bytes) (history : List Op) : Checked (Nat × ε) (Bytes × List Op) := do
  let buffer ← bufferPiece c b payload buffer
  if c.splitPacket then
    let payload := if c.splitRecord then buffer else payload
    let op := if c.tcpConn && !last then Op.writeAndWaitAck payload else Op.write payload
    let history ← perform underlying history op
    return (buffer, history)
  else return (buffer, history)

/-- The piece before an index: the first one begins with the data, without the header of the record if
there are to be new ones. -/
def pieceBefore (c : Conn) (b : Bytes) (index : Nat) : Option Nat → Checked (Nat × ε) Bytes
  | none => do
    let payload ← slice b 0 index
    if c.splitRecord then sliceFrom payload 5 else return payload
  | some previous => slice b previous index

def lastPiece (b : Bytes) : Option Nat → Checked (Nat × ε) Bytes
  | none => .error .panic
  | some previous => sliceFrom b previous

def pieceLoop (underlying : Underlying ε) (c : Conn) (b : Bytes) : (previous : Option Nat) →
    (splitIndexes : List Nat) → (buffer : Bytes) → (history : List Op) →
    Checked (Nat × ε) (Bytes × List Op)
  | previous, [], buffer, history => do
    let payload ← lastPiece b previous
    writePiece underlying c b true payload buffer history
  | previous, index :: splitIndexes, buffer, history => do
    let payload ← pieceBefore c b index previous
    let written ← writePiece underlying c b false payload buffer history
    pieceLoop underlying c b (some index) splitIndexes written.1 written.2

def writeFragments (underlying : Underlying ε) (intn : Intn) (publicSuffix : Bytes → Bytes) (c : Conn)
    (b : Bytes) (serverName : MyServerName) (history : List Op) :
    Checked (Nat × ε) (Nat × List Op) := do
  let history ← performIf underlying (c.splitPacket && c.tcpConn) history (.setNoDelay true)
  let indexes ← splitIndexes intn publicSuffix serverName
  let written ← pieceLoop underlying c b none indexes [] history
  let history ← performIf underlying (c.splitRecord && !c.splitPacket) written.2 (.write written.1)
  let history ← performIf underlying c.tcpConn history (.setNoDelay false)
  return (b.length, history)

/-- `Conn.Write`: the number of bytes that it returns, and the operations until then. -/
def Conn.write (underlying : Underlying ε) (intn : Intn) (publicSuffix : Bytes → Bytes) (c : Conn)
    (b : Bytes) (history : List Op) : Checked (Nat × ε) (Nat × List Op) :=
  if c.firstPacketWritten then passWrite underlying b history
  else
    match indexTLSServerName b with
    | .ok serverName => writeFragments underlying intn publicSuffix c b serverName history
    | .error (.error _) => passWrite underlying b history
    | .error .panic => .error .panic
    | .error .loops => .error .loops

/-! ### What is written, piece by piece -/

def Succeeds (underlying : Underlying ε) : Prop := ∀ history op, underlying history op = none

variable {underlying : Underlying ε} {c : Conn} {b : Bytes} {indexes : List Nat}
  {publicSuffix : Bytes → Bytes} {splits : List Bytes}

theorem perform_eq (succeeds : Succeeds underlying) (history : List Op) (op : Op) :
    perform underlying history op = .ok (history ++ [op]) := by
  rw [perform, succeeds]

theorem passWrite_eq (succeeds : Succeeds underlying) (b : Bytes) (history : List Op) :
    passWrite underlying b history = .ok (b.length, history ++ [.write b]) := by
  rw [passWrite, succeeds]

def encode (c : Conn) (b payload : Bytes) : Bytes :=
  if c.splitRecord then record (b.take 3) payload else payload

theorem encode_of_record (records : c.splitRecord = true) (b : Bytes) : encode c b = record (b.take 3) := by
  funext payload
  simp [encode, records]

theorem encode_of_plain (plain : c.splitRecord = false) (b : Bytes) : encode c b = id := by
  funext payload
  simp [encode, plain]

/-- What is written so far, with what waits in the buffer. -/
def output (c : Conn) (state : Bytes × List Op) : Bytes :=
  sent state.2 ++ if c.splitPacket then [] else state.1

theorem writePiece_output (succeeds : Succeeds underlying)
    (splits : c.splitPacket = true ∨ c.splitRecord = true) (long : 3 ≤ b.length) (last : Bool)
    (payload buffer : Bytes) (history : List Op) :
    ∃ state, writePiece underlying c b last payload buffer history = .ok state ∧
      output c state = output c (buffer, history) ++ encode c b payload := by
  have head : (slice b 0 3 : Checked (Nat × ε) Bytes) = .ok (b.take 3) :=
    if_pos ⟨Nat.zero_le _, long⟩
  have opSent payload : (if c.tcpConn = true ∧ last = false then
      Op.writeAndWaitAck payload else .write payload).sent = payload := by
    split <;> rfl
  unfold writePiece bufferPiece
  cases packet : c.splitPacket with
  | true =>
    cases records : c.splitRecord with
    | true =>
      refine ⟨_, by simp only [head, perform_eq succeeds]; rfl, ?_⟩
      simp [output, encode, packet, records, sent, opSent]
    | false =>
      refine ⟨_, by simp only [perform_eq succeeds]; rfl, ?_⟩
      simp [output, encode, packet, records, sent, opSent]
  | false =>
    have records : c.splitRecord = true := splits.resolve_left (by simp [packet])
    refine ⟨_, by simp only [records, head]; rfl, ?_⟩
    simp [output, encode, packet, records]

def cut (b : Bytes) : (start : Nat) → (indexes : List Nat) → List Bytes
  | start, [] => [b.drop start]
  | start, index :: indexes => (b.take index).drop start :: cut b index indexes

def Cuts (b : Bytes) : (start : Nat) → (indexes : List Nat) → Prop
  | start, [] => start ≤ b.length
  | start, index :: indexes => start ≤ index ∧ index ≤ b.length ∧ Cuts b index indexes

theorem flatten_cut {start : Nat} (cuts : Cuts b start indexes) : (cut b start indexes).flatten = b.drop start := by
  induction indexes generalizing start with
  | nil => simp [cut]
  | cons index indexes ih =>
    obtain ⟨after, inside, rest⟩ := cuts
    rw [cut, flatten_cons, ih rest]
    have within : start ≤ (b.take index).length := by
      rw [length_take]
      omega
    rw [← drop_append_of_le_length within, take_append_drop]

def Conn.skipped (c : Conn) : Nat := if c.splitRecord then 5 else 0

theorem pieceBefore_eq {index : Nat} {previous : Option Nat}
    (after : previous.getD c.skipped ≤ index) (inside : index ≤ b.length) :
    (pieceBefore c b index previous : Checked (Nat × ε) Bytes) =
      .ok ((b.take index).drop (previous.getD c.skipped)) := by
  cases previous with
  | some previous => exact if_pos ⟨after, inside⟩
  | none =>
    have front : (slice b 0 index : Checked (Nat × ε) Bytes) = .ok (b.take index) :=
      if_pos ⟨Nat.zero_le _, inside⟩
    simp only [pieceBefore, front]
    unfold Conn.skipped at after ⊢
    cases records : c.splitRecord with
    | false => rfl
    | true =>
      simp only [records, if_true, Option.getD_none] at after ⊢
      refine sliceFrom_eq_ok ?_
      rw [length_take]
      omega

theorem pieceLoop_output (succeeds : Succeeds underlying)
    (splits : c.splitPacket = true ∨ c.splitRecord = true) (long : 3 ≤ b.length)
    {previous : Option Nat} (more : previous = none → indexes ≠ [])
    (cuts : Cuts b (previous.getD c.skipped) indexes) (buffer : Bytes) (history : List Op) :
    ∃ state, pieceLoop underlying c b previous indexes buffer history = .ok state ∧
      output c state = output c (buffer, history) ++
        (cut b (previous.getD c.skipped) indexes).flatMap (encode c b) := by
  induction indexes generalizing previous buffer history with
  | nil =>
    obtain ⟨start, rfl⟩ := Option.ne_none_iff_exists'.mp fun missing => more missing rfl
    have piece : (lastPiece b (some start) : Checked (Nat × ε) Bytes) = .ok (b.drop start) :=
      sliceFrom_eq_ok cuts
    obtain ⟨state, written, same⟩ :=
      writePiece_output succeeds splits long true (b.drop start) buffer history
    refine ⟨state, bind_eq_ok_iff.mpr ⟨_, piece, written⟩, ?_⟩
    rw [same, cut, flatMap_singleton]
    rfl
  | cons index indexes ih =>
    obtain ⟨after, inside, rest⟩ := cuts
    obtain ⟨first, written, same⟩ := writePiece_output succeeds splits long false
      ((b.take index).drop (previous.getD c.skipped)) buffer history
    obtain ⟨state, done, total⟩ := @ih (some index) (fun missing => by cases missing) rest first.1 first.2
    refine ⟨state, bind_eq_ok_iff.mpr ⟨_, pieceBefore_eq after inside, ?_⟩, ?_⟩
    · exact bind_eq_ok_iff.mpr ⟨first, written, done⟩
    · rw [total, same, append_assoc]
      rfl

theorem le_length_of_pieceLoop {previous : Option Nat} {buffer : Bytes} {history : List Op}
    {state : Bytes × List Op} (done : pieceLoop underlying c b previous indexes buffer history = .ok state) :
    ∀ index ∈ indexes, index ≤ b.length := by
  induction indexes generalizing previous buffer history with
  | nil => simp
  | cons index indexes ih =>
    obtain ⟨payload, piece, later⟩ := bind_eq_ok_iff.mp done
    obtain ⟨first, -, rest⟩ := bind_eq_ok_iff.mp later
    refine forall_mem_cons.mpr ⟨?_, ih rest⟩
    have inside (low : Nat) {found : Bytes}
        (sliced : (slice b low index : Checked (Nat × ε) Bytes) = .ok found) : index ≤ b.length := by
      by_contra outside
      rw [slice, if_neg (fun it => outside it.2)] at sliced
      cases sliced
    cases previous with
    | some previous => exact inside previous piece
    | none =>
      obtain ⟨front, sliced, -⟩ := bind_eq_ok_iff.mp piece
      exact inside 0 sliced

/-! ### Where the data are cut -/

theorem length_splitOn (dot : UInt8) (name : Bytes) : (name.splitOn dot).length = name.count dot + 1 := by
  unfold splitOn
  induction name with
  | nil => rfl
  | cons byte name ih =>
    rw [splitOnP_cons_eq_if_modifyHead, count_cons]
    split
    · rw [length_cons, ih]
    · rw [length_modifyHead, ih]

theorem not_mem_of_mem_splitOn {dot : UInt8} {name label : Bytes} (member : label ∈ name.splitOn dot) :
    dot ∉ label := by
  unfold splitOn at member
  induction name generalizing label with
  | nil =>
    rw [splitOnP_nil, mem_singleton] at member
    simp [member]
  | cons byte name ih =>
    rw [splitOnP_cons_eq_if_modifyHead] at member
    split at member
    · rcases mem_cons.mp member with rfl | later
      · exact not_mem_nil
      · exact ih later
    cases labels : splitOnP (· == dot) name with
    | nil => exact absurd labels (splitOnP_ne_nil _ _)
    | cons first others =>
      rw [labels] at member ih
      rcases mem_cons.mp member with rfl | later
      · have differs : ¬ dot = byte := fun same => by simp_all
        simp [differs, ih mem_cons_self]
      · exact ih (mem_cons_of_mem _ later)

def labels (publicSuffix : Bytes → Bytes) (name : Bytes) : List Bytes :=
  if publicSuffix name ≠ [] then (name.splitOn 0x2E).take 1 else name.splitOn 0x2E

theorem mem_splitOn_of_mem_labels {name label : Bytes} (member : label ∈ labels publicSuffix name) :
    label ∈ name.splitOn 0x2E := by
  unfold labels at member
  split at member
  · exact mem_of_mem_take member
  · exact member

theorem labels_ne_nil (publicSuffix : Bytes → Bytes) (name : Bytes) : labels publicSuffix name ≠ [] := by
  have some := splitOn_ne_nil 0x2E name
  unfold labels
  split
  · simp [some]
  · exact some

/-- **No label is left out at the front**, since no label is made of dots. -/
theorem splitLabels_eq (publicSuffix : Bytes → Bytes) (serverName : MyServerName) :
    (splitLabels publicSuffix serverName : Checked (Nat × ε) (Nat × List Bytes)) =
      .ok (serverName.index, labels publicSuffix serverName.serverName) := by
  have one : (serverName.serverName.splitOn 0x2E).length - serverName.serverName.count 0x2E = 1 := by
    rw [length_splitOn]
    omega
  have front : (slice (serverName.serverName.splitOn 0x2E) 0 1 : Checked (Nat × ε) (List Bytes)) =
      .ok ((serverName.serverName.splitOn 0x2E).take 1) :=
    if_pos ⟨Nat.zero_le _, by rw [length_splitOn]; omega⟩
  have noDots : (labels publicSuffix serverName.serverName).head? ≠ some [0x2E, 0x2E, 0x2E] := by
    intro same
    have member := mem_splitOn_of_mem_labels (mem_of_mem_head? same)
    exact not_mem_of_mem_splitOn member mem_cons_self
  unfold splitLabels
  unfold labels at noDots ⊢
  dsimp only
  rw [one, front]
  by_cases suffix : publicSuffix serverName.serverName = []
  · rw [if_neg (not_not.mpr suffix)] at noDots ⊢
    simp only [suffix, pure_bind, noDots, and_false]
    rfl
  · rw [if_pos suffix] at noDots ⊢
    simp only [suffix, ne_eq, bind, Except.bind, noDots, and_false]
    rfl

/-- The number of bytes of these labels, with the dots between them. -/
def span (splits : List Bytes) : Nat := ([0x2E].intercalate splits).length

theorem span_singleton (split : Bytes) : span [split] = split.length := by
  simp [span]

theorem span_cons_cons (first second : Bytes) (others : List Bytes) :
    span (first :: second :: others) = first.length + 1 + span (second :: others) := by
  simp only [span, intercalate, intersperse_cons_cons, flatten_cons, length_append, length_singleton]
  omega

theorem splitLoop_cons {intn : Intn} {i : Nat} {split : Bytes} {currentIndex : Nat}
    (positive : 0 < split.length) {later : List Nat}
    (done : (splitLoop intn (i + 1) splits (if splits = [] then currentIndex + split.length
      else currentIndex + split.length + 1) : Checked (Nat × ε) (List Nat)) = .ok later) :
    (splitLoop intn i (split :: splits) currentIndex : Checked (Nat × ε) (List Nat)) =
      .ok ((currentIndex + intn i split.length positive) :: later) := by
  rw [splitLoop, dif_pos positive]
  exact bind_eq_ok_iff.mpr ⟨later, done, rfl⟩

/-- **Labels with a byte in them can be cut**, in order and within the data. -/
theorem splitLoop_cuts (intn : Intn) (some : splits ≠ []) (full : ∀ split ∈ splits, split ≠ [])
    {i start currentIndex : Nat} (after : start ≤ currentIndex) (inside : currentIndex + span splits ≤ b.length + 1) :
    ∃ indexes, (splitLoop intn i splits currentIndex : Checked (Nat × ε) (List Nat)) = .ok indexes ∧
      indexes ≠ [] ∧ Cuts b start indexes := by
  induction splits generalizing i start currentIndex with
  | nil => exact absurd rfl some
  | cons split splits ih =>
    obtain ⟨nonempty, others⟩ := forall_mem_cons.mp full
    have positive := length_pos_iff.mpr nonempty
    cases splits with
    | nil =>
      rw [span_singleton] at inside
      have last : currentIndex + intn i split.length positive ≤ b.length := by omega
      exact ⟨_, splitLoop_cons positive rfl, cons_ne_nil _ _, by omega, last, last⟩
    | cons second splits =>
      rw [span_cons_cons] at inside
      obtain ⟨later, done, -, cuts⟩ := ih (cons_ne_nil _ _) others
        (show currentIndex + intn i split.length positive ≤ currentIndex + split.length + 1 by omega)
        (by omega)
      exact ⟨_, splitLoop_cons positive done, cons_ne_nil _ _, by omega, by omega, cuts⟩

theorem splitLoop_of_empty (intn : Intn) (empty : [] ∈ splits) (i currentIndex : Nat) :
    (splitLoop intn i splits currentIndex : Checked (Nat × ε) (List Nat)) = .error .panic := by
  fun_induction splitLoop intn i splits currentIndex with
  | case1 => exact absurd empty not_mem_nil
  | case2 i split splits currentIndex positive _ _ ih =>
    rcases mem_cons.mp empty with rfl | later
    · exact absurd positive (lt_irrefl 0)
    · rw [ih later]
      rfl
  | case3 => rfl

def greatest : Intn := fun _ n positive => ⟨n - 1, Nat.sub_lt positive Nat.one_pos⟩

theorem splitLoop_greatest (some : splits ≠ []) {i currentIndex : Nat}
    (done : (splitLoop greatest i splits currentIndex : Checked (Nat × ε) (List Nat)) = .ok indexes) :
    ∃ index ∈ indexes, index + 1 = currentIndex + span splits := by
  induction splits generalizing i currentIndex indexes with
  | nil => exact absurd rfl some
  | cons split splits ih =>
    rw [splitLoop] at done
    split at done
    · rename_i positive
      obtain ⟨later, rest, same⟩ := bind_eq_ok_iff.mp done
      cases same
      cases splits with
      | nil =>
        refine ⟨_, mem_cons_self, ?_⟩
        rw [span_singleton]
        simp only [greatest]
        omega
      | cons second splits =>
        obtain ⟨index, member, last⟩ := ih (cons_ne_nil _ _) rest
        refine ⟨index, mem_cons_of_mem _ member, ?_⟩
        rw [span_cons_cons, last, if_neg (cons_ne_nil _ _)]
        omega
    · cases done

/-! ### Records -/

def firstRecord : Bytes → Option (Bytes × Bytes)
  | _ :: _ :: _ :: high :: low :: rest =>
    if uint16 high low ≤ rest.length then some (rest.splitAt (uint16 high low)) else none
  | _ => none

/-- **The first record in smaller ones, then the rest.** The number of bytes of a payload fits into its
length field. -/
def Refragments (b out : Bytes) : Prop :=
  (firstRecord b = none → out = b) ∧
  ∀ payload rest, firstRecord b = some (payload, rest) → ∃ payloads : List Bytes, payloads ≠ [] ∧
    (∀ piece ∈ payloads, piece.length < 65536) ∧ payloads.flatten = payload ∧
    out = payloads.flatMap (record (b.take 3)) ++ rest

theorem bigEndian_uint16 (high low : UInt8) : bigEndian 2 (uint16 high low) = [high, low] := by
  have highBound := high.toNat_lt
  have lowBound := low.toNat_lt
  simp only [bigEndian, uint16, cons.injEq, and_true]
  constructor
  · apply UInt8.toNat.inj
    simp
    omega
  · apply UInt8.toNat.inj
    simp

theorem firstRecord_eq_some {payload rest : Bytes} (found : firstRecord b = some (payload, rest)) :
    payload.length < 65536 ∧ b = record (b.take 3) payload ++ rest := by
  revert found
  fun_cases firstRecord b with
  | case1 first second third high low more fits =>
    rw [splitAt_eq]
    rintro ⟨⟩
    have small := uint16_lt high low
    have size : (more.take (uint16 high low)).length = uint16 high low := by
      rw [length_take]
      omega
    refine ⟨by omega, ?_⟩
    simp [record, size, bigEndian_uint16]
  | case2 | case3 => exact nofun

theorem firstRecord_of_segmentLen {size : Nat} (header : segmentLen b = .ok size) :
    firstRecord b = some ((b.drop 5).take size, (b.drop 5).drop size) := by
  have bounds := (meets_segmentLen b).of_ok header
  rcases b with _ | ⟨first, _ | ⟨second, _ | ⟨third, _ | ⟨high, _ | ⟨low, rest⟩⟩⟩⟩⟩
  all_goals simp only [length_cons, length_nil] at bounds
  iterate 5 · omega
  have same : Meets (fun size => size = uint16 high low)
      (segmentLen (first :: second :: third :: high :: low :: rest)) := by
    unfold segmentLen
    simp only [meets_bind_iff, meets_ensure_iff, meets_elem_iff]
    intro long
    exact ⟨by omega, fun _ => ⟨by omega, by omega, fun _ => rfl⟩⟩
  replace same := same.of_ok header
  have fits : uint16 high low ≤ rest.length := by omega
  rw [firstRecord, if_pos fits, splitAt_eq, same]
  rfl

theorem refragments_self (b : Bytes) : Refragments b b := by
  refine ⟨fun _ => rfl, fun payload rest found => ?_⟩
  obtain ⟨small, same⟩ := firstRecord_eq_some found
  refine ⟨[payload], cons_ne_nil _ _, by simpa using small, by simp, ?_⟩
  simpa using same

/-- **Records can be told apart**: as many records, with nothing or something after them. -/
theorem records_inj {head : Bytes} {first second : List Bytes} {rest : Bytes}
    (count : first.length = second.length) (small : ∀ piece ∈ first, piece.length < 65536)
    (small' : ∀ piece ∈ second, piece.length < 65536)
    (same : first.flatMap (record head) = second.flatMap (record head) ++ rest) : rest = [] := by
  induction first generalizing second with
  | nil =>
    rw [length_nil, eq_comm, length_eq_zero_iff] at count
    subst count
    exact same.symm
  | cons piece first ih =>
    cases second with
    | nil => cases count
    | cons other second =>
      obtain ⟨pieceSmall, firstSmall⟩ := forall_mem_cons.mp small
      obtain ⟨otherSmall, secondSmall⟩ := forall_mem_cons.mp small'
      simp only [flatMap_cons, record, append_assoc, append_cancel_left_eq] at same
      obtain ⟨field, later⟩ := append_inj same (by rw [length_bigEndian, length_bigEndian])
      have sizes := congrArg ofBigEndian field
      rw [ofBigEndian_bigEndian, ofBigEndian_bigEndian] at sizes
      obtain ⟨-, tail⟩ := append_inj later (by omega)
      exact ih (Nat.succ.inj count) firstSmall secondSmall tail

/-! ### The first write -/

/-- **The first write leaves the stream as it is**: it returns the number of bytes, and writes the data, or
their first record in smaller ones. -/
def Preserves (c : Conn) (b : Bytes) (history : List Op) (outcome : Checked (Nat × ε) (Nat × List Op)) : Prop :=
  ∃ after out, outcome = .ok (b.length, after) ∧ sent after = sent history ++ out ∧
    (c.splitRecord = false → out = b) ∧ (c.splitRecord = true → Refragments b out)

/-- **The data can be cut up.** -/
structure Fragmentable (publicSuffix : Bytes → Bytes) (c : Conn) (b : Bytes) : Prop where
  searchable : Searchable b
  labelled : ∀ serverName, indexTLSServerName b = .ok serverName →
    ∀ label ∈ labels publicSuffix serverName.serverName, label ≠ []
  inside : ∀ serverName, indexTLSServerName b = .ok serverName →
    serverName.index + span (labels publicSuffix serverName.serverName) ≤ b.length + 1
  single : ∀ serverName, indexTLSServerName b = .ok serverName → c.splitRecord = true →
    segmentLen b = .ok (b.length - 5)

theorem performIf_eq (succeeds : Succeeds underlying) (condition : Bool) (history : List Op)
    (op : Op) : ∃ after, performIf underlying condition history op = .ok after ∧
        sent after = sent history ++ if condition then op.sent else [] := by
  cases condition with
  | false => exact ⟨history, rfl, (append_nil _).symm⟩
  | true => exact ⟨_, perform_eq succeeds history op, by simp [sent]⟩

theorem writeFragments_output (succeeds : Succeeds underlying)
    (splits : c.splitPacket = true ∨ c.splitRecord = true) (long : 3 ≤ b.length) {intn : Intn}
    {serverName : MyServerName}
    (found : (splitIndexes intn publicSuffix serverName : Checked (Nat × ε) (List Nat)) = .ok indexes)
    (some : indexes ≠ []) (cuts : Cuts b c.skipped indexes) (history : List Op) :
    ∃ after, writeFragments underlying intn publicSuffix c b serverName history = .ok (b.length, after) ∧
      sent after = sent history ++ (cut b c.skipped indexes).flatMap (encode c b) := by
  obtain ⟨first, begun, firstSent⟩ :=
    performIf_eq succeeds (c.splitPacket && c.tcpConn) history (.setNoDelay true)
  obtain ⟨state, looped, out⟩ := @pieceLoop_output ε underlying c b indexes succeeds splits long none
    (fun _ => some) cuts [] first
  obtain ⟨second, flushed, secondSent⟩ :=
    performIf_eq succeeds (c.splitRecord && !c.splitPacket) state.2 (.write state.1)
  obtain ⟨third, ended, thirdSent⟩ := performIf_eq succeeds c.tcpConn second (.setNoDelay false)
  refine ⟨third, ?_, ?_⟩
  · exact bind_eq_ok_iff.mpr ⟨first, begun, bind_eq_ok_iff.mpr ⟨indexes, found,
      bind_eq_ok_iff.mpr ⟨state, looped, bind_eq_ok_iff.mpr ⟨second, flushed, bind_eq_ok_iff.mpr ⟨third, ended, rfl⟩⟩⟩⟩⟩
  have quiet (condition : Bool) (noDelay : Bool) :
      (if condition then (Op.setNoDelay noDelay).sent else []) = [] := by split <;> rfl
  rw [quiet, append_nil] at firstSent thirdSent
  rw [thirdSent, secondSent, ← firstSent]
  -- What waited in the buffer is written now.
  unfold output at out
  cases packet : c.splitPacket with
  | true => simpa [packet] using out
  | false =>
    have records : c.splitRecord = true := splits.resolve_left (by simp [packet])
    simpa [packet, records, Op.sent] using out

theorem splitIndexes_eq (intn : Intn) (publicSuffix : Bytes → Bytes) (serverName : MyServerName) :
    (splitIndexes intn publicSuffix serverName : Checked (Nat × ε) (List Nat)) =
      splitLoop intn 0 (labels publicSuffix serverName.serverName) serverName.index := by
  rw [splitIndexes, splitLabels_eq]
  rfl

theorem refragments_cut (single : segmentLen b = .ok (b.length - 5)) (cuts : Cuts b 5 indexes) :
    Refragments b ((cut b 5 indexes).flatMap (record (b.take 3))) := by
  have bounds := (meets_segmentLen b).of_ok single
  have found := firstRecord_of_segmentLen single
  refine ⟨fun missing => (by cases found.symm.trans missing), fun payload rest same => ?_⟩
  have whole : (b.drop 5).length = b.length - 5 := length_drop
  rw [← whole, take_length, drop_length] at found
  cases found.symm.trans same
  refine ⟨cut b 5 indexes, ?_, fun piece member => ?_, flatten_cut cuts, (append_nil _).symm⟩
  · cases indexes <;> exact cons_ne_nil _ _
  · have part := (sublist_flatten_of_mem member).length_le
    rw [flatten_cut cuts] at part
    omega

/-- **The stream is preserved if the data can be cut up.** -/
theorem Fragmentable.preserves (fragmentable : Fragmentable publicSuffix c b)
    (succeeds : Succeeds underlying) (splits : c.splitPacket = true ∨ c.splitRecord = true)
    (first : c.firstPacketWritten = false) (history : List Op) (intn : Intn) :
    Preserves c b history (c.write underlying intn publicSuffix b history) := by
  have pass : Preserves c b history (passWrite underlying b history) :=
    ⟨_, b, passWrite_eq succeeds b history, by simp [sent, Op.sent], fun _ => rfl, fun _ => refragments_self b⟩
  have returns := meets_indexTLSServerName fragmentable.searchable
  unfold Conn.write
  rw [first]
  cases index : indexTLSServerName b with
  | error fault =>
    rw [index] at returns
    cases fault with
    | error none => exact pass
    | panic | loops => exact returns.elim
  | ok serverName =>
    obtain ⟨far, long, -⟩ := returns.of_ok index
    have start : c.skipped ≤ serverName.index := by
      unfold Conn.skipped
      split <;> omega
    obtain ⟨indexes, found, some, cuts⟩ := @splitLoop_cuts ε b _ intn (labels_ne_nil _ _)
      (fragmentable.labelled serverName index) 0 _ _ start (fragmentable.inside serverName index)
    rw [← splitIndexes_eq] at found
    obtain ⟨after, done, out⟩ :=
      writeFragments_output succeeds splits (by omega) found some cuts history
    refine ⟨after, _, done, out, fun plain => ?_, fun records => ?_⟩
    · simp only [Conn.skipped, plain, Bool.false_eq_true, if_false] at cuts ⊢
      rw [encode_of_plain plain, flatMap_id, flatten_cut cuts, drop_zero]
    · simp only [Conn.skipped, records] at cuts ⊢
      rw [encode_of_record records]
      exact refragments_cut (fragmentable.single serverName index records) cuts

theorem length_records {head : Bytes} (three : head.length = 3) (payloads : List Bytes) :
    (payloads.flatMap (record head)).length = 5 * payloads.length + payloads.flatten.length := by
  induction payloads with
  | nil => rfl
  | cons payload payloads ih =>
    simp only [flatMap_cons, flatten_cons, length_append, length_cons, record, length_bigEndian]
    omega

theorem single_of_refragments (cuts : Cuts b 5 indexes) (short : b.length ≤ 65540) {size : Nat}
    (header : segmentLen b = .ok size)
    (refragments : Refragments b ((cut b 5 indexes).flatMap (record (b.take 3)))) : size = b.length - 5 := by
  have bounds := (meets_segmentLen b).of_ok header
  obtain ⟨payloads, -, small, payload, same⟩ := refragments.2 _ _ (firstRecord_of_segmentLen header)
  have three : (b.take 3).length = 3 := by
    rw [length_take]
    omega
  have pieces : (cut b 5 indexes).flatten.length = b.length - 5 := by
    rw [flatten_cut cuts, length_drop]
  have count : (cut b 5 indexes).length = payloads.length := by
    have lengths := congrArg length same
    rw [length_append, length_records three, length_records three, payload] at lengths
    simp only [length_take, length_drop] at lengths
    omega
  have nothing := records_inj count (fun piece member => ?_) small same
  · rw [drop_eq_nil_iff, length_drop] at nothing
    omega
  · have part := (sublist_flatten_of_mem member).length_le
    omega

theorem writeFragments_ok {intn : Intn} {serverName : MyServerName} {history : List Op} {result : Nat × List Op}
    (done : writeFragments underlying intn publicSuffix c b serverName history = .ok result) :
    ∃ indexes, (splitLoop intn 0 (labels publicSuffix serverName.serverName) serverName.index :
      Checked (Nat × ε) (List Nat)) = .ok indexes ∧ ∀ index ∈ indexes, index ≤ b.length := by
  obtain ⟨first, -, done⟩ := bind_eq_ok_iff.mp done
  obtain ⟨indexes, found, done⟩ := bind_eq_ok_iff.mp done
  obtain ⟨state, looped, -⟩ := bind_eq_ok_iff.mp done
  rw [splitIndexes_eq] at found
  exact ⟨indexes, found, le_length_of_pieceLoop looped⟩

section Necessity

variable {publicSuffix : Bytes → Bytes} {c : Conn} {b : Bytes} {underlying : Underlying ε} {history : List Op}

variable {serverName : MyServerName} (first : c.firstPacketWritten = false)

include first

theorem write_eq_of_index (index : indexTLSServerName b = .ok serverName) (intn : Intn) :
    c.write underlying intn publicSuffix b history =
      writeFragments underlying intn publicSuffix c b serverName history := by
  rw [Conn.write, first, if_neg Bool.false_ne_true, index]

theorem searchable_of_preserves {intn : Intn}
    (preserves : Preserves c b history (c.write underlying intn publicSuffix b history)) : Searchable b := by
  by_contra endless
  obtain ⟨after, -, done, -⟩ := preserves
  rw [Conn.write, first, indexTLSServerName_of_endless endless] at done
  cases done

theorem write_of_empty (succeeds : Succeeds underlying) (index : indexTLSServerName b = .ok serverName)
    (empty : [] ∈ labels publicSuffix serverName.serverName) (intn : Intn) :
    c.write underlying intn publicSuffix b history = .error .panic := by
  obtain ⟨begun, performed, -⟩ :=
    performIf_eq succeeds (c.splitPacket && c.tcpConn) history (.setNoDelay true)
  rw [write_eq_of_index first index, writeFragments, performed, splitIndexes_eq, splitLoop_of_empty intn empty]
  rfl

theorem labelled_of_preserves (succeeds : Succeeds underlying) {intn : Intn}
    (preserves : Preserves c b history (c.write underlying intn publicSuffix b history))
    (index : indexTLSServerName b = .ok serverName) :
    ∀ label ∈ labels publicSuffix serverName.serverName, label ≠ [] := by
  rintro label member rfl
  obtain ⟨after, -, done, -⟩ := preserves
  rw [write_of_empty first succeeds index member] at done
  cases done

theorem inside_of_preserves (preserves : Preserves c b history (c.write underlying greatest publicSuffix b history))
    (index : indexTLSServerName b = .ok serverName) :
    serverName.index + span (labels publicSuffix serverName.serverName) ≤ b.length + 1 := by
  obtain ⟨after, -, done, -⟩ := preserves
  rw [write_eq_of_index first index] at done
  obtain ⟨indexes, found, within⟩ := writeFragments_ok done
  obtain ⟨last, member, same⟩ := splitLoop_greatest (labels_ne_nil _ _) found
  have bound := within last member
  omega

end Necessity

/-- **The first write preserves the stream if the data can be cut up**, whatever numbers are drawn, **and
only then**, except that with `splitRecord` this is said about no more data than a record can hold. -/
theorem write_preserves_iff (underlying : Underlying ε) (publicSuffix : Bytes → Bytes) (c : Conn)
    (b : Bytes) (history : List Op) (succeeds : Succeeds underlying)
    (splits : c.splitPacket = true ∨ c.splitRecord = true) (first : c.firstPacketWritten = false) :
    (Fragmentable publicSuffix c b → ∀ intn, Preserves c b history (c.write underlying intn publicSuffix b history)) ∧
    ((c.splitRecord = true → b.length ≤ 65540) →
      (∀ intn, Preserves c b history (c.write underlying intn publicSuffix b history)) →
      Fragmentable publicSuffix c b) := by
  refine ⟨fun fragmentable => fragmentable.preserves succeeds splits first history, fun short preserves => ?_⟩
  have searchable := searchable_of_preserves first (preserves greatest)
  refine ⟨searchable, fun serverName => labelled_of_preserves first succeeds (preserves greatest),
    fun serverName => inside_of_preserves first (preserves greatest),
    fun serverName index records => ?_⟩
  have full := labelled_of_preserves first succeeds (preserves greatest) index
  have inside := inside_of_preserves first (preserves greatest) index
  obtain ⟨far, -, -⟩ := (meets_indexTLSServerName searchable).of_ok index
  have start : c.skipped = 5 := by simp [Conn.skipped, records]
  obtain ⟨indexes, found, some, cuts⟩ := @splitLoop_cuts ε b _ greatest (labels_ne_nil _ _) full 0
    c.skipped _ (start ▸ far) inside
  rw [← splitIndexes_eq] at found
  obtain ⟨after, done, total⟩ := writeFragments_output succeeds splits (by omega) found some cuts history
  -- What was written is known, so it is what the property speaks of.
  obtain ⟨after', out, done', total', -, refragments⟩ := preserves greatest
  rw [write_eq_of_index first index, done] at done'
  cases done'
  rw [append_cancel_left (total'.symm.trans total), encode_of_record records, start] at refragments
  obtain ⟨size, header, -⟩ := bind_eq_ok_iff.mp index
  rw [header, single_of_refragments (start ▸ cuts) (short records) header (refragments records)]

def clientHello (segmentLen : Nat) (name : Bytes) : Bytes :=
  [0x16, 0x03, 0x01] ++ bigEndian 2 segmentLen ++
    [0x01] ++ bigEndian 3 (49 + name.length) ++ [0x03, 0x03] ++ List.replicate 32 0 ++
    [0x00, 0x00, 0x00, 0x00] ++ bigEndian 2 (9 + name.length) ++
    [0x00, 0x00] ++ bigEndian 2 (5 + name.length) ++ bigEndian 2 (3 + name.length) ++ [0x00] ++
    bigEndian 2 name.length ++ name

/-- The name `a.b` is cut, in packets of one record each. -/
theorem write_preserves_name :
    Fragmentable (fun _ => [0x62]) ⟨true, true, true, false⟩ (clientHello 56 [0x61, 0x2E, 0x62]) ∧
    ∀ intn, Preserves ⟨true, true, true, false⟩ (clientHello 56 [0x61, 0x2E, 0x62]) []
      (Conn.write (fun _ _ => none : Underlying Unit) intn (fun _ => [0x62])
        ⟨true, true, true, false⟩ (clientHello 56 [0x61, 0x2E, 0x62]) []) := by
  have index : indexTLSServerName (clientHello 56 [0x61, 0x2E, 0x62]) =
      .ok ⟨58, 3, [0x61, 0x2E, 0x62]⟩ := by decide +kernel
  have fragmentable : Fragmentable (fun _ => [0x62]) ⟨true, true, true, false⟩ (clientHello 56 [0x61, 0x2E, 0x62]) := by
    refine ⟨searchable_of_short (by decide), fun serverName found => ?_, fun serverName found => ?_,
      fun _ _ _ => by decide +kernel⟩
    · cases index.symm.trans found
      decide
    · cases index.symm.trans found
      decide
  exact ⟨fragmentable, (write_preserves_iff (fun _ _ => none) _ ⟨true, true, true, false⟩ _ []
    (fun _ _ => rfl) (Or.inl rfl) rfl).1 fragmentable⟩

/-- **An empty label is a panic, and a record that is not all of the data is lost.** The name is empty, or
ends with a dot, or the handshake goes on after its record. -/
theorem write_breaks_stream : (∀ (publicSuffix : Bytes → Bytes) intn,
      Conn.write (fun _ _ => none : Underlying Unit) intn publicSuffix ⟨true, false, false, false⟩
        (clientHello 53 []) [] = .error .panic) ∧
    (∀ (publicSuffix : Bytes → Bytes) intn, publicSuffix [0x61, 0x2E] = [] →
      Conn.write (fun _ _ => none : Underlying Unit) intn publicSuffix ⟨true, false, false, false⟩
        (clientHello 55 [0x61, 0x2E]) [] = .error .panic) ∧
    ¬ Preserves ⟨false, true, false, false⟩ (clientHello 0 [0x61]) []
      (Conn.write (fun _ _ => none : Underlying Unit) greatest (fun _ => [0x61])
        ⟨false, true, false, false⟩ (clientHello 0 [0x61]) []) := by
  refine ⟨fun publicSuffix intn => ?_, fun publicSuffix intn missing => ?_, ?_⟩
  · have index : indexTLSServerName (clientHello 53 []) = .ok ⟨58, 0, []⟩ := by decide +kernel
    refine write_of_empty rfl (fun _ _ => rfl) index ?_ intn
    unfold labels
    split <;> decide
  · have index : indexTLSServerName (clientHello 55 [0x61, 0x2E]) = .ok ⟨58, 2, [0x61, 0x2E]⟩ := by
      decide +kernel
    refine write_of_empty rfl (fun _ _ => rfl) index ?_ intn
    rw [labels, if_neg (not_not.mpr missing)]
    decide
  · rintro ⟨after, out, done, total, -, refragments⟩
    have written : Conn.write (fun _ _ => none : Underlying Unit) greatest (fun _ => [0x61])
        ⟨false, true, false, false⟩ (clientHello 0 [0x61]) [] = .ok (59, [.write
          ((cut (clientHello 0 [0x61]) 5 [58]).flatMap (record ((clientHello 0 [0x61]).take 3)))]) := by decide +kernel
    cases written.symm.trans done
    have header : segmentLen (clientHello 0 [0x61]) = .ok 0 := by decide +kernel
    have cuts : Cuts (clientHello 0 [0x61]) 5 [58] := ⟨by decide, by decide, Nat.le_succ 58⟩
    -- The record of the data is empty, and not all of them.
    obtain rfl : _ = out := (append_nil _).symm.trans total
    exact absurd (single_of_refragments cuts (by decide) header (refragments rfl)) (by decide)

end SingBox.TlsFragment
