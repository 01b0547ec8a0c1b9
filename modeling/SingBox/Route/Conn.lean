/-
**The connection manager** (`route/conn.go`).

`NewConnection` and `NewPacketConnection` dial the destination, report that to the inbound side, and then copy in both
directions at the same time. Whatever happens, the close handler of the connection has to be called once, when it is
over; what it is called from depends on where things end: a failed handshake, an early write that fails, or the second
of two copies (for packets: the first), which the flag `done` decides.

The steps of the two copies are interleaved in all ways. The end of the dial, of the report, of a write and of a copy
may be a success or a failure at any time. `N.CloseOnHandshakeFailure` closes the connection and calls the handler.
-/

import SingBox.Lib.Machine
import Mathlib.Logic.Function.Basic
import Mathlib.Data.List.Count

namespace SingBox.Route

open SingBox.Lib List Function

/-! ### What happens -/

/-- The two connections: the inbound one, and the one that was dialed. -/
inductive Side where
  | conn
  | remote
  deriving DecidableEq

inductive Cause where
  | dial
  | report
  | handshake
  | copy
  | closeWrite
  deriving DecidableEq

/-- A direction is `true` for the download, as in the source. -/
inductive Act where
  | opened
  | failed (cause : Cause)
  | ended (direction : Bool)
  | close (side : Side)
  | onClose
  deriving DecidableEq

def source (direction : Bool) : Side := if direction then .remote else .conn

def destination (direction : Bool) : Side := if direction then .conn else .remote

/-- `common.Close(source, destination)`. What has happened last is first in a trace. -/
def closeBoth (direction : Bool) (trace : List Act) : List Act :=
  .close (destination direction) :: .close (source direction) :: trace

/-- How the first write to a connection that needs a handshake for it ends: `tolerated` is an invalid argument,
the end of the file or a timeout. -/
inductive WriteResult where
  | ok
  | tolerated
  | failed

/-- What `kickWriteHandshake` finds. -/
structure WriteHandshake where
  needHandshakeForWrite : Bool
  cached : Bool
  result : WriteResult

/-- `kickWriteHandshake` fails: a payload that cannot be written is lost in any case. -/
def WriteHandshake.fails (handshake : WriteHandshake) (serverFirst : Bool) : Bool :=
  if !handshake.needHandshakeForWrite then false
  else
    let wrotePayload := !serverFirst && handshake.cached
    match handshake.result with
    | .ok => false
    | .tolerated => wrotePayload
    | .failed => true

/-! ### The two handlers -/

/-- Where the handler itself is. After `go` it has returned, and the copies run. -/
inductive MainPoint where
  | dial
  | report
  | kick (direction : Bool)
  | returned
  deriving DecidableEq

/-- Where a copy is: its end is followed by the half-close of its destination (`shut`), and then by the swap of
`done`. `err` is whether it has an error. -/
inductive CopyPoint where
  | none
  | running
  | ended (err : Bool)
  | shut (err : Bool)
  | finished
  deriving DecidableEq

/-- A connection with what has happened to it. -/
structure Handling where
  main : MainPoint := .dial
  copies : Bool → CopyPoint := fun _ => .none
  done : Bool := false
  trace : List Act := []

/-- The end of the dial, of the report, of an early write and of a copy; `shut` and `swapped` are the two steps
that follow the end of a copy. `duplex` is whether the destination can be closed for writing. -/
inductive HandlingEvent where
  | dialed (ok : Bool)
  | reported (ok : Bool)
  | kicked (handshake : WriteHandshake)
  | copied (direction err : Bool)
  | shut (direction duplex closeWriteErr : Bool)
  | swapped (direction : Bool)

namespace Handling

section

variable (s : Handling)

def return_ (trace : List Act) : Handling := { s with main := .returned, trace }

def go : Handling := { s with main := .returned, copies := fun _ => .running }

def copyAt (direction : Bool) (point : CopyPoint) (trace : List Act) : Handling :=
  { s with copies := Function.update s.copies direction point, trace }

def dialed (ok : Bool) : Handling :=
  if ok then { s with main := .report, trace := .opened :: s.trace }
  else s.return_ (.onClose :: .close .conn :: .failed .dial :: s.trace)

/-- `kickWriteHandshake` of a direction, and what `NewConnection` does then. -/
def kickWriteHandshake (serverFirst direction : Bool) (handshake : WriteHandshake) : Handling :=
  if handshake.fails serverFirst then
    let trace := .failed .handshake :: s.trace
    let called := if !s.done then .onClose :: trace else trace
    { s.return_ (closeBoth direction called) with done := true }
  else if !direction then { s with main := .kick true }
  else s.go

/-- The steps of `connectionCopy`. -/
def connectionCopy : HandlingEvent → Handling
  | .copied direction err =>
    match s.copies direction with
    | .running =>
      let trace := if err then .failed .copy :: s.trace else s.trace
      s.copyAt direction (.ended err) (.ended direction :: trace)
    | _ => s
  | .shut direction duplex closeWriteErr =>
    match s.copies direction with
    | .ended err =>
      if err then s.copyAt direction (.shut true) (closeBoth direction s.trace)
      else if duplex then
        if closeWriteErr then
          s.copyAt direction (.shut true) (closeBoth direction (.failed .closeWrite :: s.trace))
        else s.copyAt direction (.shut false) s.trace
      else s.copyAt direction (.shut false) (.close (destination direction) :: s.trace)
    | _ => s
  | .swapped direction =>
    match s.copies direction with
    | .shut _ =>
      let trace := if s.done then closeBoth direction (.onClose :: s.trace) else s.trace
      { s.copyAt direction .finished trace with done := true }
    | _ => s
  | _ => s

end

def newConnection (serverFirst : Bool) (s : Handling) (event : HandlingEvent) : Handling :=
  match s.main, event with
  | .dial, .dialed ok => s.dialed ok
  | .report, .reported ok =>
    if ok then { s with main := .kick false }
    else s.return_ (.onClose :: .close .conn :: .close .remote :: .failed .report :: s.trace)
  | .kick direction, .kicked handshake => s.kickWriteHandshake serverFirst direction handshake
  | .returned, event => s.connectionCopy event
  | _, _ => s

/-- The steps of `packetConnectionCopy`. A copy of packets goes on until it fails. -/
def packetConnectionCopy (s : Handling) : HandlingEvent → Handling
  | .copied direction err =>
    match s.copies direction with
    | .running => s.copyAt direction (.ended err) (.ended direction :: .failed .copy :: s.trace)
    | _ => s
  | .swapped direction =>
    match s.copies direction with
    | .ended _ =>
      let trace := if !s.done then .onClose :: s.trace else s.trace
      { s.copyAt direction .finished (closeBoth direction trace) with done := true }
    | _ => s
  | _ => s

def newPacketConnection (s : Handling) (event : HandlingEvent) : Handling :=
  match s.main, event with
  | .dial, .dialed ok => s.dialed ok
  | .report, .reported ok =>
    if ok then s.go
    else s.return_ (.close .remote :: .close .conn :: .failed .report :: s.trace)
  | .returned, event => s.packetConnectionCopy event
  | _, _ => s

end Handling

/-- A connection, with whether the server speaks first, or a packet connection. -/
inductive HandlerKind where
  | stream (serverFirst : Bool)
  | packet

def connectionManager (kind : HandlerKind) : Machine Handling HandlingEvent Unit where
  step s event :=
    match kind with
    | .stream serverFirst => (s.newConnection serverFirst event, none)
    | .packet => (s.newPacketConnection event, none)

/-- Something has failed, or both directions have ended. -/
def Due (past : List Act) : Prop :=
  (∃ cause, .failed cause ∈ past) ∨ (.ended false ∈ past ∧ .ended true ∈ past)

def TimelyClose : List Act → Prop
  | [] => True
  | .onClose :: past => Due past ∧ TimelyClose past
  | _ :: past => TimelyClose past

/-- Both connections, of those that were opened, have been closed. -/
def AllClosed (trace : List Act) : Prop :=
  .close .conn ∈ trace ∧ (.opened ∈ trace → .close .remote ∈ trace)

def Handling.Complete (s : Handling) : Prop :=
  s.main = .returned ∧ ∀ direction, s.copies direction = .none ∨ s.copies direction = .finished

/-- **The close handler is called once**: never twice, once when all is over, only when it is due; and then both
connections are closed. When something has failed then both are closed as well, as soon as no copy is between
its end and its close, so that a copy that still runs will end. -/
structure Handled (s : Handling) : Prop where
  atMostOnce : s.trace.count .onClose ≤ 1
  once : s.Complete → s.trace.count .onClose = 1
  timely : TimelyClose s.trace
  closed : .onClose ∈ s.trace → AllClosed s.trace
  released : (∀ direction err, s.copies direction ≠ .ended err) → (∃ cause, .failed cause ∈ s.trace) → AllClosed s.trace

structure Handshaking (s : Handling) : Prop where
  copies : ∀ direction, s.copies direction = .none
  done : s.done = false
  trace : s.main = .dial ∧ s.trace = [] ∨
    (s.main = .report ∨ ∃ direction, s.main = .kick direction) ∧ s.trace = [.opened]

structure Refused (s : Handling) : Prop where
  main : s.main = .returned
  copies : ∀ direction, s.copies direction = .none
  trace : s.trace = [.onClose, .close .conn, .failed .dial] ∨
    s.trace = [.onClose, .close .conn, .close .remote, .failed .report, .opened] ∨
    ∃ direction, s.trace = closeBoth direction [.onClose, .failed .handshake, .opened]

theorem Handshaking.not_returned {s : Handling} (handshaking : Handshaking s) : s.main ≠ .returned := by
  rcases handshaking.trace with ⟨is, -⟩ | ⟨is | ⟨direction, is⟩, -⟩ <;> simp [is]

theorem Handshaking.handled {s : Handling} (handshaking : Handshaking s) : Handled s := by
  rcases handshaking.trace with ⟨-, trace⟩ | ⟨-, trace⟩
  all_goals
    refine ⟨by simp [trace], fun complete => absurd complete.1 handshaking.not_returned,
      by simp [trace, TimelyClose], ?_, ?_⟩
    · simp [trace]
    · simp [trace]

theorem Refused.handled {s : Handling} (refused : Refused s) : Handled s := by
  have once : s.trace.count .onClose = 1 := by
    rcases refused.trace with trace | trace | ⟨direction, trace⟩ <;> simp [trace, closeBoth]
  have closed : AllClosed s.trace := by
    rcases refused.trace with trace | trace | ⟨direction, trace⟩
    · simp [AllClosed, trace]
    · simp [AllClosed, trace]
    · cases direction <;> simp [AllClosed, trace, closeBoth, source, destination]
  refine ⟨Nat.le_of_eq once, fun _ => once, ?_, fun _ => closed, fun _ _ => closed⟩
  rcases refused.trace with trace | trace | ⟨direction, trace⟩ <;> simp [trace, closeBoth, TimelyClose, Due]

/-! ### The copies -/

def Called (kind : HandlerKind) (copies : Bool → CopyPoint) : Prop :=
  match kind with
  | .stream _ => ∀ direction, copies direction = .finished
  | .packet => ∃ direction, copies direction = .finished

/-- A copy that is going to close both connections. -/
def Pending (kind : HandlerKind) (point : CopyPoint) : Prop :=
  match kind with
  | .stream _ => point = .ended true
  | .packet => ∃ err, point = .ended err

def BothClosed (trace : List Act) : Prop := .close .conn ∈ trace ∧ .close .remote ∈ trace

theorem BothClosed.all {trace : List Act} (both : BothClosed trace) : AllClosed trace := both.imp_right fun is _ => is

theorem BothClosed.mono {trace more : List Act} (both : BothClosed trace) (sub : trace ⊆ more) :
    BothClosed more := both.imp (fun is => sub is) fun is => sub is

theorem bothClosed_closeBoth (direction : Bool) (trace : List Act) : BothClosed (closeBoth direction trace) := by
  cases direction <;> simp [BothClosed, closeBoth, source, destination]

structure Copying (kind : HandlerKind) (s : Handling) : Prop where
  main : s.main = .returned
  started : ∀ direction, s.copies direction ≠ .none
  ended : ∀ direction, s.copies direction ≠ .running → .ended direction ∈ s.trace
  done_iff : s.done = true ↔ ∃ direction, s.copies direction = .finished
  called : Called kind s.copies → s.trace.count .onClose = 1
  notCalled : ¬Called kind s.copies → s.trace.count .onClose = 0
  timely : TimelyClose s.trace
  closed : Called kind s.copies → BothClosed s.trace
  failed : ∀ direction, Pending kind (s.copies direction) → ∃ cause, .failed cause ∈ s.trace
  released : ∀ cause, .failed cause ∈ s.trace → (∃ direction, Pending kind (s.copies direction)) ∨ BothClosed s.trace

theorem Copying.handled {kind : HandlerKind} {s : Handling} (copying : Copying kind s) : Handled s := by
  refine ⟨?_, fun complete => copying.called ?_, copying.timely, fun member => ?_, fun quiet failed => ?_⟩
  · by_cases called : Called kind s.copies
    · exact Nat.le_of_eq (copying.called called)
    · rw [copying.notCalled called]
      exact Nat.zero_le 1
  · have finished direction : s.copies direction = .finished :=
      (complete.2 direction).resolve_left (copying.started direction)
    cases kind with
    | stream serverFirst => exact finished
    | packet => exact ⟨false, finished false⟩
  · refine (copying.closed ?_).all
    by_contra notCalled
    exact absurd (count_pos_iff.mpr member) (by rw [copying.notCalled notCalled]; exact Nat.lt_irrefl 0)
  · obtain ⟨cause, member⟩ := failed
    rcases copying.released cause member with ⟨direction, pending⟩ | closed
    · cases kind with
      | stream serverFirst => exact absurd pending (quiet direction true)
      | packet =>
        obtain ⟨err, is⟩ := pending
        exact absurd is (quiet direction err)
    · exact closed.all

open Handling

section Steps

variable {kind : HandlerKind} {s : Handling} {direction : Bool} {point : CopyPoint} {trace : List Act}

theorem called_update_iff (before : s.copies direction ≠ .finished) (after : point ≠ .finished) :
    Called kind (update s.copies direction point) ↔ Called kind s.copies := by
  cases kind with
  | stream serverFirst =>
    refine iff_of_false (fun called => after ?_) fun called => before (called direction)
    simpa using called direction
  | packet =>
    refine exists_congr fun other => ?_
    by_cases same : other = direction
    · simp [same, before, after]
    · simp [same]

/-- **A copy goes on, and does not finish yet.** -/
theorem Copying.advance (copying : Copying kind s) (before : s.copies direction ≠ .finished)
    (after : point ≠ .finished) (started : point ≠ .none) (ended : .ended direction ∈ trace)
    (sub : s.trace ⊆ trace) (count : trace.count .onClose = s.trace.count .onClose)
    (timely : TimelyClose trace) (failed : Pending kind point → ∃ cause, .failed cause ∈ trace)
    (released : ∀ cause, .failed cause ∈ trace →
      (∃ other, Pending kind (update s.copies direction point other)) ∨ BothClosed trace) :
    Copying kind (s.copyAt direction point trace) where
  main := copying.main
  started other := by
    by_cases same : other = direction
    · simpa [copyAt, same] using started
    · simpa [copyAt, same] using copying.started other
  ended other runs := by
    by_cases same : other = direction
    · exact same ▸ ended
    · exact sub (copying.ended other (by simpa [copyAt, same] using runs))
  done_iff := copying.done_iff.trans (@called_update_iff .packet s direction point before after).symm
  called called := count.trans (copying.called ((called_update_iff before after).mp called))
  notCalled notCalled := count.trans (copying.notCalled fun called =>
    notCalled ((called_update_iff before after).mpr called))
  timely := timely
  closed called := (copying.closed ((called_update_iff before after).mp called)).mono sub
  failed other pending := by
    by_cases same : other = direction
    · exact failed (by simpa [copyAt, same] using pending)
    · obtain ⟨cause, member⟩ := copying.failed other (by simpa [copyAt, same] using pending)
      exact ⟨cause, sub member⟩
  released := released

theorem pending_update (notMine : ¬Pending kind (s.copies direction))
    (pending : ∃ other, Pending kind (s.copies other)) :
    ∃ other, Pending kind (update s.copies direction point other) := by
  obtain ⟨other, is⟩ := pending
  refine ⟨other, ?_⟩
  rw [update_of_ne]
  · exact is
  · rintro rfl
    exact notMine is

section Stream

variable {serverFirst : Bool} (copying : Copying (.stream serverFirst) s)

include copying

theorem Copying.copied (runs : s.copies direction = .running) (err : Bool) :
    Copying (.stream serverFirst) (s.copyAt direction (.ended err)
      (.ended direction :: if err then .failed .copy :: s.trace else s.trace)) := by
  cases err
  · refine copying.advance (by simp [runs]) (by simp) (by simp) mem_cons_self (subset_cons_self _ _)
      (by simp) copying.timely (by simp [Pending]) fun cause member => ?_
    have old : .failed cause ∈ s.trace := by simpa using member
    refine (copying.released cause old).imp (pending_update ?_) fun both => both.mono (subset_cons_self _ _)
    simp [Pending, runs]
  · refine copying.advance (by simp [runs]) (by simp) (by simp) mem_cons_self ?_ (by simp) copying.timely
      (fun _ => ⟨.copy, by simp⟩) fun cause member => .inl ⟨direction, by simp [Pending]⟩
    exact subset_cons_of_subset _ (subset_cons_self _ _)

omit copying in
theorem subset_closeBoth (direction : Bool) (trace : List Act) : trace ⊆ closeBoth direction trace :=
  subset_cons_of_subset _ (subset_cons_self _ _)

omit copying in
theorem count_closeBoth (direction : Bool) (trace : List Act) :
    (closeBoth direction trace).count .onClose = trace.count .onClose := by
  simp [closeBoth]

theorem Copying.shut {err : Bool} (ends : s.copies direction = .ended err) (duplex closeWriteErr : Bool) :
    Copying (.stream serverFirst) (s.connectionCopy (.shut direction duplex closeWriteErr)) := by
  have ended := copying.ended direction (by simp [ends])
  have before : s.copies direction ≠ .finished := by simp [ends]
  simp only [connectionCopy, ends]
  split_ifs with failed canClose cannotClose
  · exact copying.advance before (by simp) (by simp) (subset_closeBoth _ _ ended) (subset_closeBoth _ _)
      (count_closeBoth _ _) copying.timely (by simp [Pending]) fun _ _ => .inr (bothClosed_closeBoth _ _)
  · have sub : s.trace ⊆ closeBoth direction (.failed .closeWrite :: s.trace) :=
      List.Subset.trans (subset_cons_self _ _) (subset_closeBoth _ _)
    exact copying.advance before (by simp) (by simp) (sub ended) sub (by simp [count_closeBoth]) copying.timely
      (by simp [Pending]) fun _ _ => .inr (bothClosed_closeBoth _ _)
  all_goals have notMine : ¬Pending (.stream serverFirst) (s.copies direction) := by simpa [Pending, ends] using failed
  · refine copying.advance before (by simp) (by simp) ended (.refl _) rfl copying.timely
      (by simp [Pending]) fun cause member => ?_
    exact (copying.released cause member).imp_left (pending_update notMine)
  · refine copying.advance before (by simp) (by simp) (mem_cons_of_mem _ ended) (subset_cons_self _ _)
      (by simp) copying.timely (by simp [Pending]) fun cause member => ?_
    have old : .failed cause ∈ s.trace := by simpa using member
    exact (copying.released cause old).imp (pending_update notMine) fun both =>
      both.mono (subset_cons_self _ _)

theorem Copying.first {err : Bool} (shut : s.copies direction = .shut err) (first : s.done = false) :
    Copying (.stream serverFirst) { s.copyAt direction .finished s.trace with done := true } := by
  have nobody other : s.copies other ≠ .finished := fun is => by
    have done := copying.done_iff.mpr ⟨other, is⟩
    rw [first] at done
    cases done
  have notCalled : ¬Called (.stream serverFirst) (update s.copies direction .finished) := by
    intro called
    have other := called !direction
    rw [update_of_ne (by simp)] at other
    exact nobody _ other
  have before : ¬Called (.stream serverFirst) s.copies := fun called => nobody direction (called direction)
  refine ⟨copying.main, fun other => ?_, fun other runs => ?_, ?_, fun called => absurd called notCalled,
    fun _ => copying.notCalled before, copying.timely, fun called => absurd called notCalled,
    fun other pending => ?_, fun cause member => ?_⟩
  · by_cases same : other = direction
    · simp [copyAt, same]
    · simpa [copyAt, same] using copying.started other
  · refine copying.ended other ?_
    by_cases same : other = direction
    · simp [same, shut]
    · simpa [copyAt, same] using runs
  · exact iff_of_true rfl ⟨direction, update_self _ _ _⟩
  · by_cases same : other = direction
    · simp [copyAt, same, Pending] at pending
    · exact copying.failed other (by simpa [copyAt, same] using pending)
  · exact (copying.released cause member).imp_left (pending_update (by simp [Pending, shut]))

theorem Copying.last {err : Bool} (shut : s.copies direction = .shut err) (done : s.done = true) :
    Copying (.stream serverFirst)
      { s.copyAt direction .finished (closeBoth direction (.onClose :: s.trace)) with done := true } := by
  obtain ⟨earlier, finished⟩ := copying.done_iff.mp done
  have all other : update s.copies direction .finished other = .finished := by
    by_cases same : other = direction
    · rw [same, update_self]
    rw [update_of_ne same]
    have differs : earlier ≠ direction := by
      rintro rfl
      cases shut.symm.trans finished
    have eq : other = earlier := by
      revert same differs
      cases other <;> cases earlier <;> cases direction <;> simp
    rw [eq, finished]
  have before : ¬Called (.stream serverFirst) s.copies := fun called => by
    cases shut.symm.trans (called direction)
  have sub : s.trace ⊆ closeBoth direction (.onClose :: s.trace) :=
    List.Subset.trans (subset_cons_self _ _) (subset_closeBoth _ _)
  have ended other : .ended other ∈ s.trace := by
    refine copying.ended other ?_
    by_cases same : other = direction
    · simp [same, shut]
    · have is := all other
      rw [update_of_ne same] at is
      simp [is]
  refine ⟨copying.main, fun other => ?_, fun other _ => sub (ended other), ?_, fun _ => ?_,
    fun notCalled => absurd all notCalled, ?_, fun _ => bothClosed_closeBoth _ _, fun other pending => ?_,
    fun _ _ => .inr (bothClosed_closeBoth _ _)⟩
  · exact fun is => by cases (all other).symm.trans is
  · exact iff_of_true rfl ⟨direction, all direction⟩
  · show (closeBoth direction (.onClose :: s.trace)).count .onClose = 1
    rw [count_closeBoth, count_cons_self, copying.notCalled before]
  · exact ⟨.inr ⟨ended false, ended true⟩, copying.timely⟩
  · cases (all other).symm.trans pending

theorem Copying.connectionCopy (event : HandlingEvent) : Copying (.stream serverFirst) (s.connectionCopy event) := by
  cases event with
  | copied direction err =>
    simp only [Handling.connectionCopy]
    split
    · next at_ => exact copying.copied at_ err
    · exact copying
  | shut direction duplex closeWriteErr =>
    cases at_ : s.copies direction with
    | ended err => exact copying.shut at_ duplex closeWriteErr
    | _ =>
      simp only [Handling.connectionCopy, at_]
      exact copying
  | swapped direction =>
    simp only [Handling.connectionCopy]
    split
    · next at_ =>
      cases done : s.done
      · exact copying.first at_ done
      · exact copying.last at_ done
    · exact copying
  | _ => exact copying

end Stream

section Packet

variable (copying : Copying .packet s)

include copying

theorem Copying.packetCopied (runs : s.copies direction = .running) (err : Bool) :
    Copying .packet (s.copyAt direction (.ended err) (.ended direction :: .failed .copy :: s.trace)) := by
  refine copying.advance (by simp [runs]) (by simp) (by simp) mem_cons_self ?_ (by simp) copying.timely
    (fun _ => ⟨.copy, by simp⟩) fun cause member => .inl ⟨direction, err, update_self _ _ _⟩
  exact subset_cons_of_subset _ (subset_cons_self _ _)

theorem Copying.packetSwapped {err : Bool} (ends : s.copies direction = .ended err) :
    Copying .packet { s.copyAt direction .finished
      (closeBoth direction (if !s.done then .onClose :: s.trace else s.trace)) with done := true } := by
  have called : Called .packet (update s.copies direction .finished) :=
    ⟨direction, update_self _ _ _⟩
  have broken := copying.failed direction ⟨err, ends⟩
  have sub : s.trace ⊆ closeBoth direction (if !s.done then .onClose :: s.trace else s.trace) := by
    refine trans ?_ (subset_closeBoth _ _)
    cases s.done
    · exact subset_cons_self _ _
    · exact .refl _
  refine ⟨copying.main, fun other => ?_, fun other runs => ?_, iff_of_true rfl called, fun _ => ?_,
    fun notCalled => absurd called notCalled, ?_, fun _ => bothClosed_closeBoth _ _, fun other pending => ?_,
    fun _ _ => .inr (bothClosed_closeBoth _ _)⟩
  · by_cases same : other = direction
    · simp [copyAt, same]
    · simpa [copyAt, same] using copying.started other
  · refine sub (copying.ended other ?_)
    by_cases same : other = direction
    · simp [same, ends]
    · simpa [copyAt, same] using runs
  · show (closeBoth direction (if !s.done then .onClose :: s.trace else s.trace)).count .onClose = 1
    rw [count_closeBoth]
    cases done : s.done
    · have none := copying.notCalled fun called => by
        cases done.symm.trans (copying.done_iff.mpr called)
      simp [none]
    · exact copying.called (copying.done_iff.mp done)
  · show TimelyClose (if !s.done then .onClose :: s.trace else s.trace)
    cases s.done
    · exact ⟨.inl broken, copying.timely⟩
    · exact copying.timely
  · obtain ⟨cause, member⟩ := broken
    exact ⟨cause, sub member⟩

theorem Copying.packetConnectionCopy (event : HandlingEvent) : Copying .packet (s.packetConnectionCopy event) := by
  fun_cases Handling.packetConnectionCopy s event with
  | case1 _ err at_ => exact copying.packetCopied at_ err
  | case3 _ _ at_ => exact copying.packetSwapped at_
  | _ => exact copying

end Packet

end Steps

/-! ### Whole runs -/

/-- The states of a connection that is handled as it should be. -/
def Going (kind : HandlerKind) (s : Handling) : Prop := Handshaking s ∨ Refused s ∨ Copying kind s

theorem Going.handled {kind : HandlerKind} {s : Handling} (going : Going kind s) : Handled s := by
  rcases going with handshaking | refused | copying
  · exact handshaking.handled
  · exact refused.handled
  · exact copying.handled

section Going

variable {kind : HandlerKind} {s : Handling}

section

variable (handshaking : Handshaking s)

include handshaking

namespace Handshaking

theorem empty (dials : s.main = .dial) : s.trace = [] := by
  rcases handshaking.trace with ⟨-, trace⟩ | ⟨is | ⟨direction, is⟩, -⟩
  · exact trace
  · cases dials.symm.trans is
  · cases dials.symm.trans is

theorem opened (dialed : s.main ≠ .dial) : s.trace = [.opened] := by
  rcases handshaking.trace with ⟨is, -⟩ | ⟨-, trace⟩
  · exact absurd is dialed
  · exact trace

theorem dialed (dials : s.main = .dial) (ok : Bool) : Going kind (s.dialed ok) := by
  have empty := handshaking.empty dials
  cases ok with
  | true =>
    refine .inl ⟨handshaking.copies, handshaking.done, .inr ⟨.inl rfl, ?_⟩⟩
    simp [Handling.dialed, empty]
  | false =>
    refine .inr (.inl ⟨rfl, handshaking.copies, .inl ?_⟩)
    simp [Handling.dialed, return_, empty]

theorem go (dialed : s.main ≠ .dial) : Copying kind s.go := by
  have trace : s.go.trace = [.opened] := handshaking.opened dialed
  have running direction : s.go.copies direction = .running := rfl
  have notCalled : ¬Called kind s.go.copies := by
    cases kind <;> simp [Called, running]
  refine ⟨rfl, fun direction => by simp [running], fun direction runs => absurd (running direction) runs, ?_,
    fun called => absurd called notCalled, fun _ => by simp [trace], by simp [trace, TimelyClose],
    fun called => absurd called notCalled, fun direction pending => ?_, fun cause member => ?_⟩
  · refine iff_of_false ?_ (by simp [running])
    show s.done ≠ true
    simp [handshaking.done]
  · cases kind <;> simp [Pending, running] at pending
  · simp [trace] at member

theorem kickWriteHandshake {direction : Bool} (kicks : s.main = .kick direction)
    (serverFirst : Bool) (handshake : WriteHandshake) :
    Going kind (s.kickWriteHandshake serverFirst direction handshake) := by
  have dialed : s.main ≠ .dial := by simp [kicks]
  have trace := handshaking.opened dialed
  unfold Handling.kickWriteHandshake
  by_cases fails : handshake.fails serverFirst
  · rw [if_pos fails]
    refine .inr (.inl ⟨rfl, handshaking.copies, .inr (.inr ⟨direction, ?_⟩)⟩)
    simp [return_, handshaking.done, trace]
  · rw [if_neg fails]
    cases direction with
    | false => exact .inl ⟨handshaking.copies, handshaking.done, .inr ⟨.inr ⟨true, rfl⟩, trace⟩⟩
    | true => exact .inr (.inr (handshaking.go dialed))

end Handshaking

end

theorem connectionCopy_of_none (none : ∀ direction, s.copies direction = .none) (event : HandlingEvent) :
    s.connectionCopy event = s := by
  cases event <;> simp [connectionCopy, none]

theorem packetConnectionCopy_of_none (none : ∀ direction, s.copies direction = .none) (event : HandlingEvent) :
    s.packetConnectionCopy event = s := by
  cases event <;> simp [packetConnectionCopy, none]

/-- **The steps of `NewConnection`.** -/
theorem Going.newConnection {serverFirst : Bool} (going : Going (.stream serverFirst) s) (event : HandlingEvent) :
    Going (.stream serverFirst) (s.newConnection serverFirst event) := by
  rcases going with handshaking | refused | copying
  · unfold Handling.newConnection
    split
    · next main => exact handshaking.dialed main _
    · next main =>
      have opened := handshaking.opened (by simp [main])
      split_ifs
      · exact .inl ⟨handshaking.copies, handshaking.done, .inr ⟨.inr ⟨false, rfl⟩, opened⟩⟩
      · refine .inr (.inl ⟨rfl, handshaking.copies, .inr (.inl ?_)⟩)
        simp [return_, opened]
    · next main => exact handshaking.kickWriteHandshake main serverFirst _
    · next main => exact absurd main handshaking.not_returned
    · exact .inl handshaking
  · simp only [Handling.newConnection, refused.main, connectionCopy_of_none refused.copies]
    exact .inr (.inl refused)
  · simp only [Handling.newConnection, copying.main]
    exact .inr (.inr (copying.connectionCopy event))

/-- A packet connection whose handshake could not be reported: both connections are closed, and nobody is told. -/
structure Unreported (s : Handling) : Prop where
  main : s.main = .returned
  copies : ∀ direction, s.copies direction = .none
  trace : s.trace = [.close .remote, .close .conn, .failed .report, .opened]

theorem Unreported.not_handled (unreported : Unreported s) : ¬Handled s := fun handled => by
  have once := handled.once ⟨unreported.main, fun direction => .inl (unreported.copies direction)⟩
  simp [unreported.trace] at once

theorem report_of_packetConnectionCopy {event : HandlingEvent}
    (member : .failed .report ∈ (s.packetConnectionCopy event).trace) : .failed .report ∈ s.trace := by
  cases event with
  | copied direction err =>
    cases at_ : s.copies direction <;> simpa [packetConnectionCopy, at_, copyAt] using member
  | swapped direction =>
    cases at_ : s.copies direction <;> cases done : s.done <;>
      simpa [packetConnectionCopy, at_, done, copyAt, closeBoth] using member
  | _ => exact member

/-- **The steps of `NewPacketConnection`.** -/
theorem Going.newPacketConnection (going : Going .packet s) (event : HandlingEvent) :
    Going .packet (s.newPacketConnection event) ∨ Unreported (s.newPacketConnection event) := by
  rcases going with handshaking | refused | copying
  · unfold Handling.newPacketConnection
    split
    · next ok main => exact .inl (handshaking.dialed main ok)
    · next main =>
      have dialed : s.main ≠ .dial := by simp [main]
      split_ifs
      · exact .inl (.inr (.inr (handshaking.go dialed)))
      · exact .inr ⟨rfl, handshaking.copies, by simp [return_, handshaking.opened dialed]⟩
    · next main => exact absurd main handshaking.not_returned
    · exact .inl (.inl handshaking)
  · simp only [Handling.newPacketConnection, refused.main, packetConnectionCopy_of_none refused.copies]
    exact .inl (.inr (.inl refused))
  · simp only [Handling.newPacketConnection, copying.main]
    exact .inl (.inr (.inr (copying.packetConnectionCopy event)))

theorem Unreported.newPacketConnection (unreported : Unreported s) (event : HandlingEvent) :
    s.newPacketConnection event = s := by
  simp only [Handling.newPacketConnection, unreported.main, packetConnectionCopy_of_none unreported.copies]

end Going

theorem going_start (kind : HandlerKind) : Going kind {} := .inl ⟨fun _ => rfl, rfl, .inl ⟨rfl, rfl⟩⟩

theorem going_run (serverFirst : Bool) (events : List HandlingEvent) :
    Going (.stream serverFirst) ((connectionManager (.stream serverFirst)).run {} events) :=
  (connectionManager (.stream serverFirst)).run_invariant (fun _ => Going (.stream serverFirst))
    (going_start _) (fun _ _ event going => going.newConnection event) events

theorem packet_run (events : List HandlingEvent) :
    Going .packet ((connectionManager .packet).run {} events) ∨ Unreported ((connectionManager .packet).run {} events) := by
  refine (connectionManager .packet).run_invariant (fun _ s => Going .packet s ∨ Unreported s)
    (.inl (going_start _)) (fun _ s event inv => ?_) events
  show Going .packet (s.newPacketConnection event) ∨ Unreported (s.newPacketConnection event)
  rcases inv with going | unreported
  · exact going.newPacketConnection event
  · rw [unreported.newPacketConnection]
    exact .inr unreported

/-! ### The report of a packet connection -/

/-- The first report fails. -/
def firstReportFails : List HandlingEvent → Bool
  | [] => false
  | .reported ok :: _ => !ok
  | _ :: events => firstReportFails events

/-- The dial succeeds, and then the report fails. A report before that is none. -/
def reportFails : List HandlingEvent → Bool
  | [] => false
  | .dialed ok :: events => ok && firstReportFails events
  | _ :: events => reportFails events

theorem Unreported.run {s : Handling} (unreported : Unreported s) (events : List HandlingEvent) :
    Unreported ((connectionManager .packet).run s events) := by
  refine (connectionManager .packet).run_invariant (fun _ => Unreported) unreported (fun _ s event stays => ?_) events
  show Unreported (s.newPacketConnection event)
  rwa [stays.newPacketConnection]

theorem fresh_run {s : Handling} (main : s.main = .returned) (fresh : .failed .report ∉ s.trace)
    (events : List HandlingEvent) : .failed .report ∉ ((connectionManager .packet).run s events).trace := by
  have both := (connectionManager .packet).run_invariant (fun _ s => s.main = .returned ∧ .failed .report ∉ s.trace)
    ⟨main, fresh⟩ (fun _ s event ⟨main, fresh⟩ => ?_) events
  · exact both.2
  show (s.newPacketConnection event).main = .returned ∧ .failed .report ∉ (s.newPacketConnection event).trace
  simp only [newPacketConnection, main]
  refine ⟨?_, fun member => fresh (report_of_packetConnectionCopy member)⟩
  cases event with
  | copied direction err => cases at_ : s.copies direction <;> simpa [packetConnectionCopy, at_, copyAt] using main
  | swapped direction => cases at_ : s.copies direction <;> simpa [packetConnectionCopy, at_, copyAt] using main
  | _ => exact main

/-- What a run makes of the trace is said by its events. -/
def ReportIs (fails : Bool) (s : Handling) : Prop :=
  if fails then Unreported s else .failed .report ∉ s.trace

theorem reportIs_of_report (events : List HandlingEvent) :
    ReportIs (firstReportFails events) ((connectionManager .packet).run { main := .report, trace := [.opened] } events) := by
  induction events with
  | nil => simp [ReportIs, firstReportFails, Machine.run]
  | cons event events ih =>
    cases event with
    | reported ok =>
      cases ok with
      | true => exact fresh_run rfl (by decide) events
      | false => exact Unreported.run ⟨rfl, fun _ => rfl, rfl⟩ events
    | _ => exact ih

theorem reportIs_run (events : List HandlingEvent) :
    ReportIs (reportFails events) ((connectionManager .packet).run {} events) := by
  induction events with
  | nil => simp [ReportIs, reportFails, Machine.run]
  | cons event events ih =>
    cases event with
    | dialed ok =>
      cases ok with
      | true => exact reportIs_of_report events
      | false => exact fresh_run rfl (by decide) events
    | _ => exact ih

/-- **The close handler is called once**, in every interleaving, but for a packet connection whose dial succeeds and
whose report fails. -/
theorem handled_iff (kind : HandlerKind) (events : List HandlingEvent) :
    Handled ((connectionManager kind).run {} events) ↔ ¬(kind = .packet ∧ reportFails events = true) := by
  cases kind with
  | stream serverFirst => exact iff_of_true (going_run serverFirst events).handled (by simp)
  | packet =>
    have report := reportIs_run events
    cases fails : reportFails events with
    | true =>
      rw [fails] at report
      exact iff_of_false (Unreported.not_handled report) (by simp)
    | false =>
      rw [fails] at report
      refine iff_of_true ?_ (by simp)
      rcases packet_run events with going | unreported
      · exact going.handled
      · refine absurd ?_ report
        rw [unreported.trace]
        simp

/-- The dial succeeds, the report fails: both connections are closed and the handler is not called. -/
theorem packet_report_unhandled : ¬Handled ((connectionManager .packet).run {} [.dialed true, .reported false]) :=
  Unreported.not_handled ⟨rfl, fun _ => rfl, rfl⟩

end SingBox.Route
