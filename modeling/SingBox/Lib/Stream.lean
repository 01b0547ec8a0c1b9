/-
**Byte streams between two endpoints.**

A `Source` is what a reader sees of a stream: the items that have arrived, whether the other side has closed the
stream, and the lengths of the pieces in which the next reads will get them. A read waits (it is `none`) while there
is nothing to be read. `readFull` is the loop that reads until it has as much as it needs.

A `Duplex` joins two endpoints by a stream in each direction. `Delivers` says that one direction is transparent: what
is read is a prefix of what was written, no read reports an end too early, and enough reads get everything. `Carries`
is the rule for it: a relation of the endpoints and what is on the way to what has not been read yet, kept by each
operation.
-/

import SingBox.Lib.Machine
import Mathlib.Tactic

namespace SingBox.Lib

open List

/-! ### Sources -/

inductive ReadError where
  | eof
  | unexpectedEOF
  | invalid
  deriving DecidableEq

/-- What a reader sees of a stream. -/
structure Source (β : Type) where
  items : List β
  closed : Bool
  splits : List Nat

structure ReadResult (β : Type) where
  data : List β
  error : Option ReadError
  rest : Source β

namespace Source

variable {β : Type}

/-- The length of the next piece if there is room for `room` items: at least one, and no more than have arrived. -/
def piece (s : Source β) (room : Nat) : Nat :=
  max 1 (min (min room s.items.length) (s.splits.headD s.items.length))

def read (s : Source β) (room : Nat) : Option (ReadResult β) :=
  if room = 0 then some ⟨[], none, s⟩
  else if s.items.isEmpty then
    if s.closed then some ⟨[], some .eof, s⟩ else none
  else some ⟨s.items.take (s.piece room), none, ⟨s.items.drop (s.piece room), s.closed, s.splits.tail⟩⟩

/-- The loop of `readFull`; `fuel` bounds the number of reads. -/
def readFullLoop : (fuel need : Nat) → Source β → Option (ReadResult β)
  | _, 0, s => some ⟨[], none, s⟩
  | 0, _ + 1, _ => none
  | fuel + 1, need + 1, s =>
    match s.read (need + 1) with
    | none => none
    | some ⟨_, some error, rest⟩ => some ⟨[], some error, rest⟩
    | some ⟨data, none, rest⟩ =>
      match readFullLoop fuel (need + 1 - data.length) rest with
      | none => none
      | some more => some ⟨data ++ more.data, more.error.map fun _ => .unexpectedEOF, more.rest⟩

/-- Exactly `need` items, with as many reads as it takes. -/
def readFull (s : Source β) (need : Nat) : Option (ReadResult β) := readFullLoop need need s

theorem read_of_ne_nil {s : Source β} {room : Nat} (positive : 0 < room) (arrived : s.items ≠ []) :
    ∃ n, 0 < n ∧ n ≤ room ∧ n ≤ s.items.length ∧
      s.read room = some ⟨s.items.take n, none, ⟨s.items.drop n, s.closed, s.splits.tail⟩⟩ := by
  have some : 0 < s.items.length := length_pos_of_ne_nil arrived
  refine ⟨s.piece room, ?_, ?_, ?_, ?_⟩
  · exact lt_of_lt_of_le zero_lt_one (le_max_left _ _)
  · unfold piece
    omega
  · unfold piece
    omega
  · rw [read, if_neg (ne_of_gt positive), if_neg]
    exact fun empty => arrived (isEmpty_iff.mp empty)

theorem read_nil {room : Nat} (positive : 0 < room) (closed : Bool) (splits : List Nat) :
    read (⟨[], closed, splits⟩ : Source β) room =
      if closed then some ⟨[], some .eof, ⟨[], closed, splits⟩⟩ else none := by
  rw [read, if_neg (ne_of_gt positive)]
  rfl

variable {need : Nat}

theorem readFullLoop_of_le {fuel : Nat} {s : Source β} (enough : need ≤ s.items.length) (fits : need ≤ fuel) :
    ∃ splits, readFullLoop fuel need s = some ⟨s.items.take need, none, ⟨s.items.drop need, s.closed, splits⟩⟩ := by
  induction fuel generalizing need s with
  | zero =>
    cases Nat.le_zero.mp fits
    exact ⟨s.splits, rfl⟩
  | succ fuel ih =>
    cases need with
    | zero => exact ⟨s.splits, rfl⟩
    | succ need =>
      have arrived : s.items ≠ [] := ne_nil_of_length_pos (by omega)
      obtain ⟨n, positive, room, there, got⟩ := read_of_ne_nil (Nat.succ_pos need) arrived
      have length : (s.items.take n).length = n := length_take_of_le there
      have enoughLeft : need + 1 - n ≤ (s.items.drop n).length := by
        rw [length_drop]
        omega
      obtain ⟨splits, rest⟩ := ih (s := ⟨s.items.drop n, s.closed, s.splits.tail⟩) enoughLeft (by omega)
      refine ⟨splits, ?_⟩
      rw [readFullLoop, got]
      dsimp only
      rw [length, rest, drop_drop]
      dsimp only
      rw [← take_add, Nat.add_sub_cancel' room]
      rfl

theorem readFull_of_le {s : Source β} (enough : need ≤ s.items.length) :
    ∃ splits, s.readFull need = some ⟨s.items.take need, none, ⟨s.items.drop need, s.closed, splits⟩⟩ :=
  readFullLoop_of_le enough (Nat.le_refl need)

theorem readFull_append {front rest : List β} (length : front.length = need) (closed : Bool)
    (splits : List Nat) : ∃ splits', readFull (⟨front ++ rest, closed, splits⟩ : Source β) need =
      some ⟨front, none, ⟨rest, closed, splits'⟩⟩ := by
  have enough : need ≤ (front ++ rest).length := by
    rw [length_append]
    omega
  obtain ⟨splits', got⟩ := readFull_of_le (s := ⟨front ++ rest, closed, splits⟩) enough
  refine ⟨splits', ?_⟩
  rw [got, take_left' length, drop_left' length]

theorem read_one {items : List β} {room : Nat} (positive : 0 < room) (arrived : items ≠ []) (closed : Bool)
    (more : List Nat) :
    read ⟨items, closed, 1 :: more⟩ room = some ⟨items.take 1, none, ⟨items.drop 1, closed, more⟩⟩ := by
  have one : piece ⟨items, closed, 1 :: more⟩ room = 1 := by
    rw [piece, headD_cons]
    omega
  rw [read, if_neg (ne_of_gt positive), if_neg (fun empty => arrived (isEmpty_iff.mp empty)), one]
  rfl

theorem readFull_ones {items : List β} (enough : need ≤ items.length) (closed : Bool) (more : List Nat) :
    readFull ⟨items, closed, replicate need 1 ++ more⟩ need =
      some ⟨items.take need, none, ⟨items.drop need, closed, more⟩⟩ := by
  suffices loop : ∀ fuel, need ≤ fuel → readFullLoop fuel need ⟨items, closed, replicate need 1 ++ more⟩ =
      some ⟨items.take need, none, ⟨items.drop need, closed, more⟩⟩ from loop need (le_refl need)
  intro fuel fits
  induction fuel generalizing need items with
  | zero =>
    cases Nat.le_zero.mp fits
    rfl
  | succ fuel ih =>
    cases need with
    | zero => rfl
    | succ need =>
      have arrived : items ≠ [] := ne_nil_of_length_pos (by omega)
      have length : (items.take 1).length = 1 := length_take_of_le (by omega)
      have enoughLeft : need ≤ (items.drop 1).length := by
        rw [length_drop]
        omega
      rw [readFullLoop, replicate_succ, cons_append, read_one (Nat.succ_pos need) arrived]
      dsimp only
      rw [length, Nat.add_sub_cancel, ih enoughLeft (by omega)]
      dsimp only
      rw [drop_drop, ← take_add, add_comm 1 need]
      rfl

theorem readFull_ones_append {front rest : List β} (length : front.length = need) (closed : Bool)
    (more : List Nat) : readFull ⟨front ++ rest, closed, replicate need 1 ++ more⟩ need =
      some ⟨front, none, ⟨rest, closed, more⟩⟩ := by
  have enough : need ≤ (front ++ rest).length := by
    rw [length_append]
    omega
  rw [readFull_ones enough, take_left' length, drop_left' length]

theorem readFull_nil (positive : 0 < need) (closed : Bool) (splits : List Nat) :
    readFull (⟨[], closed, splits⟩ : Source β) need =
      if closed then some ⟨[], some .eof, ⟨[], closed, splits⟩⟩ else none := by
  cases need with
  | zero => exact absurd positive (lt_irrefl 0)
  | succ need =>
    cases closed <;> rfl

end Source

/-! ### Messages -/

/-- What a parser says of what it has been given so far. -/
inductive Parsed (α : Type) where
  | more
  | invalid
  | done (value : α) (used : Nat)

/-- A parser wants more until it has the whole message, and then does not look at what follows. -/
structure Recognizes {α β : Type} (parse : List β → Parsed α) (message : List β) (value : α) : Prop where
  more : ∀ front, front <+: message → front ≠ message → parse front = .more
  done : ∀ rest, parse (message ++ rest) = .done value message.length

namespace Source

variable {α β : Type}

/-- The loop of `gather`. -/
def gatherLoop (parse : List β → Parsed α) (size : Nat) : (fuel : Nat) → (ahead : List β) → Source β →
    Option (Except ReadError (α × List β) × Source β)
  | 0, _, _ => none
  | fuel + 1, ahead, s =>
    match parse ahead with
    | .invalid => some (.error .invalid, s)
    | .done value used => some (.ok (value, ahead.drop used), s)
    | .more =>
      match s.read size with
      | none => none
      | some ⟨_, some _, rest⟩ => some (.error (if ahead.isEmpty then .eof else .unexpectedEOF), rest)
      | some ⟨data, none, rest⟩ => gatherLoop parse size fuel (ahead ++ data) rest

/-- Pieces of at most `size` items are read until the parser has a message. What was read behind the message is
kept. There are no more reads than items. -/
def gather (parse : List β → Parsed α) (size : Nat) (ahead : List β) (s : Source β) :
    Option (Except ReadError (α × List β) × Source β) :=
  gatherLoop parse size (s.items.length + 1) ahead s

variable {parse : List β → Parsed α} {message rest : List β} {value : α} (recognizes : Recognizes parse message value)
  {size : Nat} (positive : 0 < size) {ahead : List β} {s : Source β}

include recognizes positive

theorem gatherLoop_of_message {fuel : Nat} (enough : s.items.length < fuel)
    (there : ahead ++ s.items = message ++ rest) :
    ∃ ahead' items splits, gatherLoop parse size fuel ahead s = some (.ok (value, ahead'), ⟨items, s.closed, splits⟩) ∧
      ahead' ++ items = rest := by
  induction fuel generalizing ahead s with
  | zero => exact absurd enough (Nat.not_lt_zero _)
  | succ fuel ih =>
    rcases append_eq_append_iff.mp there with ⟨missing, messageEq, itemsEq⟩ | ⟨surplus, aheadEq, restEq⟩
    · cases missing with
      | nil =>
        refine ⟨[], s.items, s.splits, ?_, itemsEq⟩
        have done := recognizes.done []
        rw [messageEq, append_nil, append_nil] at done
        rw [gatherLoop, done]
        dsimp only
        rw [drop_length]
      | cons item missing =>
        have more : parse ahead = .more := by
          refine recognizes.more ahead ⟨_, messageEq.symm⟩ fun same => ?_
          rw [← same] at messageEq
          exact cons_ne_nil _ _ (append_right_eq_self.mp messageEq.symm)
        have arrived : s.items ≠ [] := by
          rw [itemsEq]
          exact cons_ne_nil _ _
        obtain ⟨n, some, -, fits, got⟩ := read_of_ne_nil positive arrived
        have shorter : (s.items.drop n).length < fuel := by
          rw [length_drop]
          omega
        have still : ahead ++ s.items.take n ++ s.items.drop n = message ++ rest := by
          rw [append_assoc, take_append_drop, there]
        obtain ⟨ahead', items, splits, read, left⟩ := ih (s := ⟨s.items.drop n, s.closed, s.splits.tail⟩) shorter still
        refine ⟨ahead', items, splits, ?_, left⟩
        rw [gatherLoop, more]
        rw [got]
        exact read
    · refine ⟨surplus, s.items, s.splits, ?_, restEq.symm⟩
      rw [gatherLoop, aheadEq, recognizes.done surplus]
      dsimp only
      rw [drop_left]

/-- **A message that has arrived is read**, whatever the pieces are: what was read behind it and what was not read
make up what follows. -/
theorem gather_of_message (there : ahead ++ s.items = message ++ rest) :
    ∃ ahead' items splits, s.gather parse size ahead = some (.ok (value, ahead'), ⟨items, s.closed, splits⟩) ∧
      ahead' ++ items = rest :=
  gatherLoop_of_message recognizes positive (Nat.lt_succ_self _) there

end Source

/-! ### Two endpoints -/

/-- One end of a connection. A write may use what it draws at random, and puts something on the way; a read takes
something off the way, or waits. `held` is how much has been taken and not been returned yet. -/
structure Endpoint (σ ρ β : Type) where
  write : σ → ρ → List β → σ × List β
  read : σ → Nat → Source β → Option (ReadResult β × σ)
  held : σ → Nat

/-- One direction of a connection, with what was written to it and read from it so far. -/
structure Channel (β : Type) where
  wire : List β := []
  closed : Bool := false
  (sent received : List β := [])

/-- Two endpoints and the streams between them. -/
structure Duplex (σ τ β : Type) where
  client : σ
  server : τ
  (up down : Channel β := {})

inductive Side where
  | client
  | server
  deriving DecidableEq

def Side.other : Side → Side
  | client => server
  | server => client

/-- What one side does. The buffers of reads are not empty. -/
inductive Act (ρ β : Type) where
  | write (draw : ρ) (payload : List β)
  | read (room : Nat) (positive : 0 < room) (splits : List Nat)
  | close

section Endpoints

variable {σ τ ρ β : Type}

namespace Endpoint

/-- A write; there is none after the side has closed the connection. -/
def writeTo (A : Endpoint σ ρ β) (a : σ) (channel : Channel β) (draw : ρ) (payload : List β) : σ × Channel β :=
  if channel.closed then (a, channel)
  else ((A.write a draw payload).1, { channel with
    wire := channel.wire ++ (A.write a draw payload).2, sent := channel.sent ++ payload })

def readFrom (B : Endpoint τ ρ β) (b : τ) (channel : Channel β) (room : Nat) (splits : List Nat) :
    Option (ReadResult β × τ) :=
  B.read b room ⟨channel.wire, channel.closed, splits⟩

def taken (channel : Channel β) (result : ReadResult β) : Channel β :=
  { channel with wire := result.rest.items, received := channel.received ++ result.data }

/-- What one side does to its state, to what it writes to and to what it reads from. -/
def act (A : Endpoint σ ρ β) (a : σ) (out into : Channel β) : Act ρ β → σ × Channel β × Channel β
  | .write draw payload => ((A.writeTo a out draw payload).1, (A.writeTo a out draw payload).2, into)
  | .read room _ splits =>
    match A.readFrom a into room splits with
    | none => (a, out, into)
    | some (result, a') => (a', out, taken into result)
  | .close => (a, { out with closed := true }, into)

end Endpoint

/-- The connection of two endpoints. A read that would wait does nothing, as if it came later. -/
def Duplex.machine (A : Endpoint σ ρ β) (B : Endpoint τ ρ β) : Machine (Duplex σ τ β) (Side × Act ρ β) Unit where
  step s event :=
    match event.1 with
    | .client =>
      let after := A.act s.client s.up s.down event.2
      (⟨after.1, s.server, after.2.1, after.2.2⟩, none)
    | .server =>
      let after := B.act s.server s.down s.up event.2
      (⟨s.client, after.1, after.2.2, after.2.1⟩, none)

/-! ### One direction -/

def IsServerRead (event : Side × Act ρ β) : Prop := ∃ room positive splits, event = (.server, .read room positive splits)

/-- A read of the server reports an end only if the client has closed and everything was read. -/
def EndsHonestly (B : Endpoint τ ρ β) (s : Duplex σ τ β) (event : Side × Act ρ β) : Prop :=
  ∀ room positive splits, event = (.server, .read room positive splits) →
    ∀ result b, B.readFrom s.server s.up room splits = some (result, b) → result.error.isSome →
      s.up.closed = true ∧ s.up.received = s.up.sent

/-- **The stream from the client to the server is transparent** in a run. -/
structure Delivers (A : Endpoint σ ρ β) (B : Endpoint τ ρ β) (start : Duplex σ τ β) (events : List (Side × Act ρ β)) :
    Prop where
  within : ((Duplex.machine A B).run start events).up.received <+: ((Duplex.machine A B).run start events).up.sent
  honest : (Duplex.machine A B).Along (EndsHonestly B) start events
  drained : ∀ past reads, events = past ++ reads → (∀ event ∈ reads, IsServerRead event) →
    ((Duplex.machine A B).run start past).up.wire.length + B.held ((Duplex.machine A B).run start past).server ≤
      reads.length →
    ((Duplex.machine A B).run start events).up.received = ((Duplex.machine A B).run start events).up.sent

/-- What a read does if `unread` has been written and not been read: it returns a part of it, and reports an end
only if there is nothing left of it and nothing will come. -/
structure ReadsOn (B : Endpoint τ ρ β) (Pending : τ → List β → List β → Prop) (b : τ) (closed : Bool)
    (wire unread : List β) (result : ReadResult β) (b' : τ) : Prop where
  part : ∃ left, unread = result.data ++ left ∧ Pending b' result.rest.items left
  honest : result.error.isSome → closed = true ∧ unread = []
  less : unread ≠ [] → result.rest.items.length + B.held b' < wire.length + B.held b

def Outcome (B : Endpoint τ ρ β) (Pending : τ → List β → List β → Prop) (b : τ) (closed : Bool)
    (wire unread : List β) (read : Option (ReadResult β × τ)) : Prop :=
  (read = none ∧ unread = []) ∨ ∃ result b', read = some (result, b') ∧ ReadsOn B Pending b closed wire unread result b'

section Outcome

variable {B : Endpoint τ ρ β} {Pending : τ → List β → List β → Prop} {b b' : τ} {wire : List β} {rest : Source β}

theorem ReadsOn.ended {error : ReadError} (next : Pending b' rest.items []) :
    ReadsOn B Pending b true wire [] ⟨[], some error, rest⟩ b' where
  part := ⟨[], rfl, next⟩
  honest _ := ⟨rfl, rfl⟩
  less some := absurd rfl some

variable {closed : Bool}

theorem Outcome.data {data left : List β} (next : Pending b' rest.items left)
    (less : data ++ left ≠ [] → rest.items.length + B.held b' < wire.length + B.held b) :
    Outcome B Pending b closed wire (data ++ left) (some (⟨data, none, rest⟩, b')) :=
  .inr ⟨_, _, rfl, ⟨left, rfl, next⟩, fun error => absurd error Bool.false_ne_true, less⟩

/-- Nothing is on the way: the read reports the end, or waits. -/
theorem Outcome.nothing {splits : List Nat} (next : Pending b [] []) :
    Outcome B Pending b closed wire [] (if closed then some (⟨[], some .eof, ⟨[], closed, splits⟩⟩, b) else none) := by
  cases closed with
  | true => exact .inr ⟨_, _, rfl, .ended next⟩
  | false => exact .inl ⟨rfl, rfl⟩

end Outcome

/-- `Pending a b closed wire unread`: what is on the way is `wire`, and it makes up `unread` for the reader. -/
structure Carries (A : Endpoint σ ρ β) (B : Endpoint τ ρ β) (ok : τ → Nat → Source β → List β → Prop)
    (Pending : σ → τ → Bool → List β → List β → Prop) : Prop where
  there : ∀ {a b closed wire unread}, Pending a b closed wire unread → unread.length ≤ wire.length + B.held b
  write : ∀ {a b wire unread}, Pending a b false wire unread → ∀ draw payload,
    Pending (A.write a draw payload).1 b false (wire ++ (A.write a draw payload).2) (unread ++ payload)
  close : ∀ {a b wire unread}, Pending a b false wire unread → Pending a b true wire unread
  keepsRead : ∀ {a b closed wire unread}, Pending a b closed wire unread → ∀ {room source result a'},
    A.read a room source = some (result, a') → Pending a' b closed wire unread
  keepsWrite : ∀ {a b closed wire unread}, Pending a b closed wire unread → ∀ draw payload,
    Pending a (B.write b draw payload).1 closed wire unread
  read : ∀ {a b closed wire unread}, Pending a b closed wire unread → ∀ {room splits}, 0 < room →
    ok b room ⟨wire, closed, splits⟩ unread →
      Outcome B (fun b' wire' unread' => Pending a b' closed wire' unread') b closed wire unread
        (B.read b room ⟨wire, closed, splits⟩)

/-- The reads of the server meet a condition, which may depend on what has not been read. -/
def GoodReads (ok : τ → Nat → Source β → List β → Prop) (s : Duplex σ τ β) (event : Side × Act ρ β) : Prop :=
  ∀ room positive splits, event = (.server, .read room positive splits) →
    ∀ unread, s.up.sent = s.up.received ++ unread → ok s.server room ⟨s.up.wire, s.up.closed, splits⟩ unread

open Duplex

namespace Carries

variable {A : Endpoint σ ρ β} {B : Endpoint τ ρ β} {ok : τ → Nat → Source β → List β → Prop}
  {Pending : σ → τ → Bool → List β → List β → Prop}

section Reading

variable {a : σ} {b : τ} {closed : Bool} {wire unread : List β} {room : Nat} {splits : List Nat}

variable (carries : Carries A B ok Pending) (pending : Pending a b closed wire unread) (positive : 0 < room)
  (good : ok b room ⟨wire, closed, splits⟩ unread)

include carries pending positive good

theorem waits (read : B.read b room ⟨wire, closed, splits⟩ = none) : unread = [] := by
  rcases carries.read pending positive good with ⟨-, nothing⟩ | ⟨result, b', some, -⟩
  · exact nothing
  · rw [read] at some
    cases some

theorem reads {result : ReadResult β} {b' : τ} (read : B.read b room ⟨wire, closed, splits⟩ = some (result, b')) :
    ReadsOn B (fun b' wire' unread' => Pending a b' closed wire' unread') b closed wire unread result b' := by
  rcases carries.read pending positive good with ⟨none, -⟩ | ⟨other, b'', some, here⟩
  · rw [read] at none
    cases none
  · rw [read] at some
    cases some
    exact here

end Reading

/-- What has been written is what has been read and what is pending. -/
def Inv (Pending : σ → τ → Bool → List β → List β → Prop) (s : Duplex σ τ β) : Prop :=
  ∃ unread, s.up.sent = s.up.received ++ unread ∧ Pending s.client s.server s.up.closed s.up.wire unread

variable {s : Duplex σ τ β} (carries : Carries A B ok Pending)

include carries

section

variable (inv : Inv Pending s)

include inv

open Endpoint

theorem inv_client (act : Act ρ β) : Inv Pending ((Duplex.machine A B).step s (.client, act)).1 := by
  obtain ⟨unread, total, pending⟩ := inv
  cases act with
  | write draw payload =>
    cases closed : s.up.closed with
    | true =>
      refine ⟨unread, ?_, ?_⟩
      · simpa [machine, act, writeTo, closed] using total
      · simpa [machine, act, writeTo, closed] using pending
    | false =>
      rw [closed] at pending
      refine ⟨unread ++ payload, ?_, ?_⟩
      · simp [machine, act, writeTo, closed, total]
      · simpa [machine, act, writeTo, closed] using carries.write pending draw payload
  | read room positive splits =>
    cases result : A.readFrom s.client s.down room splits <;> refine ⟨unread, ?_, ?_⟩
    · simpa [machine, act, result] using total
    · simpa [machine, act, result] using pending
    · simpa [machine, act, result] using total
    · simpa [machine, act, result] using carries.keepsRead pending result
  | close =>
    refine ⟨unread, total, ?_⟩
    cases closed : s.up.closed <;> rw [closed] at pending
    · exact carries.close pending
    · exact pending

theorem inv_read {room : Nat} (positive : 0 < room) {splits : List Nat}
    (good : GoodReads ok s ((.server, .read room positive splits) : Side × Act ρ β)) :
    Inv Pending ((machine A B).step s (.server, .read room positive splits)).1 := by
  obtain ⟨unread, total, pending⟩ := inv
  cases read : B.readFrom s.server s.up room splits with
  | none =>
    refine ⟨unread, ?_, ?_⟩
    · simpa [machine, act, read] using total
    · simpa [machine, act, read] using pending
  | some got =>
    have fine := good room positive splits rfl unread total
    obtain ⟨left, parts, still⟩ := (carries.reads pending positive fine read).part
    refine ⟨left, ?_, ?_⟩
    · simp [machine, act, taken, read, total, parts]
    · simpa [machine, act, taken, read] using still

theorem inv_server {act : Act ρ β} (good : GoodReads ok s (.server, act)) :
    Inv Pending ((machine A B).step s (.server, act)).1 := by
  cases act with
  | write draw payload =>
    obtain ⟨unread, total, pending⟩ := inv
    refine ⟨unread, total, ?_⟩
    cases closed : s.down.closed with
    | true => simpa [machine, act, writeTo, closed] using pending
    | false =>
      simpa [machine, act, writeTo, closed] using carries.keepsWrite pending draw payload
  | read room positive splits => exact carries.inv_read inv positive good
  | close => exact inv

theorem inv_step {event : Side × Act ρ β} (good : GoodReads ok s event) :
    Inv Pending ((machine A B).step s event).1 := by
  obtain ⟨side, act⟩ := event
  cases side with
  | client => exact carries.inv_client inv act
  | server => exact carries.inv_server inv good

theorem endsHonestly {event : Side × Act ρ β} (good : GoodReads ok s event) : EndsHonestly B s event := by
  obtain ⟨unread, total, pending⟩ := inv
  intro room positive splits same result b read ended
  have here := (carries.reads pending positive (good room positive splits same unread total) read).honest ended
  rw [here.2, append_nil] at total
  exact ⟨here.1, total.symm⟩

omit inv in
theorem inv_run {start : Duplex σ τ β} (inv : Inv Pending start) {events : List (Side × Act ρ β)}
    (good : (machine A B).Along (GoodReads ok) start events) : Inv Pending ((machine A B).run start events) := by
  induction events generalizing start with
  | nil => exact inv
  | cons event events ih => exact ih (carries.inv_step inv good.1) good.2

theorem drained_of_reads {reads : List (Side × Act ρ β)} (only : ∀ event ∈ reads, IsServerRead event)
    (good : (machine A B).Along (GoodReads ok) s reads)
    (enough : s.up.wire.length + B.held s.server ≤ reads.length ∨ s.up.received = s.up.sent) :
    ((machine A B).run s reads).up.received = ((machine A B).run s reads).up.sent := by
  induction reads generalizing s with
  | nil =>
    obtain ⟨unread, total, pending⟩ := inv
    rcases enough with none | all
    · have nothing : unread = [] := by
        apply eq_nil_of_length_eq_zero
        have there := carries.there pending
        rw [length_nil] at none
        omega
      rw [nothing, append_nil] at total
      exact total.symm
    · exact all
  | cons event reads ih =>
    obtain ⟨room, positive, splits, rfl⟩ := only event mem_cons_self
    have next := carries.inv_read inv positive good.1
    refine ih next (fun other member => only other (mem_cons_of_mem _ member)) good.2 ?_
    -- either everything had been read before and this read finds nothing, or it takes something
    obtain ⟨unread, total, pending⟩ := inv
    have fine := good.1 room positive splits rfl unread total
    by_cases nothing : unread = []
    · right
      rw [nothing] at total
      cases read : B.readFrom s.server s.up room splits with
      | none => simpa [machine, act, read] using total.symm
      | some got =>
        obtain ⟨left, parts, -⟩ := (carries.reads pending positive fine read).part
        have empty : got.1.data = [] := (append_eq_nil_iff.mp (parts.symm.trans nothing)).1
        simpa [machine, act, taken, read, empty] using total.symm
    · left
      have before : s.up.wire.length + B.held s.server ≤ reads.length + 1 := by
        refine enough.resolve_right fun all => nothing ?_
        rw [all] at total
        exact append_right_eq_self.mp total.symm
      cases read : B.readFrom s.server s.up room splits with
      | none => exact absurd (carries.waits pending positive fine read) nothing
      | some got =>
        have less := (carries.reads pending positive fine read).less nothing
        simp only [machine, act, taken, read]
        omega

end

/-- **A rule for transparency.** -/
theorem delivers {start : Duplex σ τ β} (inv : Inv Pending start) {events : List (Side × Act ρ β)}
    (good : (machine A B).Along (GoodReads ok) start events) : Delivers A B start events where
  within := by
    obtain ⟨unread, total, -⟩ := carries.inv_run inv good
    rw [total]
    exact prefix_append _ _
  honest := .of_invariant (Inv Pending)
    (fun _ _ inv good => ⟨carries.inv_step inv good, carries.endsHonestly inv good⟩) inv good
  drained := by
    rintro past reads rfl only enough
    obtain ⟨goodPast, goodReads⟩ := ((machine A B).along_append).mp good
    rw [Machine.run_append]
    exact carries.drained_of_reads (carries.inv_run inv goodPast) only goodReads (.inl enough)

end Carries

def Duplex.swap (s : Duplex σ τ β) : Duplex τ σ β := ⟨s.server, s.client, s.down, s.up⟩

def swapSide (event : Side × Act ρ β) : Side × Act ρ β := (event.1.other, event.2)

/-- Both streams are transparent; the one to the client is so for the connection seen from the other side. -/
def Transparent (A : Endpoint σ ρ β) (B : Endpoint τ ρ β) (start : Duplex σ τ β) (events : List (Side × Act ρ β)) :
    Prop :=
  Delivers A B start events ∧ Delivers B A start.swap (events.map swapSide)

theorem Duplex.step_swap (A : Endpoint σ ρ β) (B : Endpoint τ ρ β) (s : Duplex σ τ β) (event : Side × Act ρ β) :
    ((machine B A).step s.swap (swapSide event)).1 = ((machine A B).step s event).1.swap := by
  obtain ⟨side, -⟩ := event
  cases side with
  | client | server => rfl

theorem Duplex.along_swap (A : Endpoint σ ρ β) (B : Endpoint τ ρ β) {holds : Duplex σ τ β → Side × Act ρ β → Prop}
    {start : Duplex σ τ β} {events : List (Side × Act ρ β)} :
    (machine B A).Along (fun s event => holds s.swap (swapSide event)) start.swap (events.map swapSide) ↔
      (machine A B).Along holds start events := by
  induction events generalizing start with
  | nil => exact .rfl
  | cons event events ih =>
    have back : swapSide (swapSide event) = event := by
      obtain ⟨side, -⟩ := event
      cases side with
      | client | server => rfl
    show holds start (swapSide (swapSide event)) ∧
      (machine B A).Along _ ((machine B A).step start.swap (swapSide event)).1 (events.map swapSide) ↔ _
    rw [back, step_swap, ih]
    exact .rfl

end Endpoints

end SingBox.Lib
