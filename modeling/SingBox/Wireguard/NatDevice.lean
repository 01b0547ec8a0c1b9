/-
**The NAT device of WireGuard** (`transport/wireguard/device_nat.go`).

`Write` collects the packets that the rewriter does not handle in a slice of the device, and empties it only after the
underlying device has taken them. What an error leaves there is sent by a later call, whose caller has reused the
buffers. `writes_forwarded_iff`: along a run each call forwards its own packets exactly if nothing is left from earlier
calls, or the rewriter fails before anything is sent.
-/

import SingBox.Lib.Codec
import SingBox.Lib.Machine

namespace SingBox.Wireguard

open SingBox.Lib List

/-- A packet: the number of the call that it was passed to, and its place in the batch. -/
abbrev Packet := Nat × Nat

/-- What `WriteBack` returns. -/
inductive WriteBack where
  | handled (err : Option Error)
  | unhandled

/-- What a call of `Write` meets: the rewriter, for each packet, and the underlying device. -/
structure WriteCall where
  rewriter : List WriteBack
  deviceErr : Option Error

structure NatDeviceWrapper where
  buffer : List Packet := []
  calls : Nat := 0

structure Written where
  given : List Packet
  err : Option Error
  device : NatDeviceWrapper

def WriteCall.bufs (call : WriteCall) (number : Nat) : List (Packet × WriteBack) :=
  call.rewriter.mapIdx fun i result => ((number, i), result)

/-- The loop of `Write`. -/
def collect (buffer : List Packet) : List (Packet × WriteBack) → List Packet × Option Error
  | [] => (buffer, none)
  | (_, .handled (some err)) :: _ => (buffer, some err)
  | (_, .handled none) :: bufs => collect buffer bufs
  | (packet, .unhandled) :: bufs => collect (buffer ++ [packet]) bufs

def NatDeviceWrapper.write (d : NatDeviceWrapper) (call : WriteCall) : Written :=
  match collect d.buffer (call.bufs d.calls) with
  | (buffer, some err) => ⟨[], some err, ⟨buffer, d.calls + 1⟩⟩
  | (buffer, none) =>
    if buffer = [] then ⟨[], none, ⟨buffer, d.calls + 1⟩⟩
    else
      match call.deviceErr with
      | some err => ⟨buffer, some err, ⟨buffer, d.calls + 1⟩⟩
      | none => ⟨buffer, none, ⟨[], d.calls + 1⟩⟩

def natDevice : Machine NatDeviceWrapper WriteCall Error where
  step d call := ((d.write call).device, (d.write call).err)

/-- The packets of a batch that the rewriter does not handle. -/
def unhandled (bufs : List (Packet × WriteBack)) : List Packet :=
  bufs.filterMap fun buf => match buf.2 with
    | .unhandled => some buf.1
    | .handled _ => none

/-- **A call forwards its own packets**, in order and at most once, and all that are to be forwarded if it succeeds. -/
def Forwards (d : NatDeviceWrapper) (call : WriteCall) : Prop :=
  (d.write call).given <+ (call.bufs d.calls).map Prod.fst ∧
    ((d.write call).err = none → (d.write call).given = unhandled (call.bufs d.calls))

/-- Nothing is left from earlier calls, or the rewriter fails. -/
def Clean (d : NatDeviceWrapper) (call : WriteCall) : Prop :=
  d.buffer = [] ∨ (collect d.buffer (call.bufs d.calls)).2 ≠ none

theorem collect_spec (buffer : List Packet) (bufs : List (Packet × WriteBack)) :
    ∃ added, (collect buffer bufs).1 = buffer ++ added ∧ added <+ bufs.map Prod.fst ∧
      ((collect buffer bufs).2 = none → added = unhandled bufs) := by
  fun_induction collect buffer bufs with
  | case1 buffer | case2 buffer => exact ⟨[], by simp, nil_sublist _, by simp [unhandled]⟩
  | case3 buffer packet bufs ih =>
    obtain ⟨added, eq, sub, all⟩ := ih
    exact ⟨added, eq, sub.cons _, all⟩
  | case4 buffer packet bufs ih =>
    obtain ⟨added, eq, sub, all⟩ := ih
    exact ⟨packet :: added, by simp [eq], sub.cons_cons _, fun none => congrArg (packet :: ·) (all none)⟩

theorem number_of_mem {call : WriteCall} {number : Nat} {packet : Packet}
    (member : packet ∈ (call.bufs number).map Prod.fst) : packet.1 = number := by
  obtain ⟨buf, inside, rfl⟩ := mem_map.mp member
  obtain ⟨i, -, rfl⟩ := mem_mapIdx.mp inside
  rfl

/-- What is left in the buffer is of earlier calls. -/
def Stale (d : NatDeviceWrapper) : Prop := ∀ packet ∈ d.buffer, packet.1 < d.calls

variable {d : NatDeviceWrapper}

theorem Stale.write (stale : Stale d) (call : WriteCall) : Stale (d.write call).device := by
  obtain ⟨added, eq, sub, -⟩ := collect_spec d.buffer (call.bufs d.calls)
  have kept : ∀ packet ∈ (collect d.buffer (call.bufs d.calls)).1, packet.1 < d.calls + 1 := by
    intro packet member
    rw [eq] at member
    rcases mem_append.mp member with old | new
    · exact Nat.lt_succ_of_lt (stale packet old)
    · exact Nat.lt_succ_of_le (number_of_mem (sub.subset new)).le
  fun_cases NatDeviceWrapper.write d call <;> simp_all [Stale] <;> exact kept

theorem forwards_iff (stale : Stale d) (call : WriteCall) : Forwards d call ↔ Clean d call := by
  obtain ⟨added, eq, sub, all⟩ := collect_spec d.buffer (call.bufs d.calls)
  -- a packet of an earlier call is not one of this batch
  have foreign (given : d.buffer ++ added <+ (call.bufs d.calls).map Prod.fst) : d.buffer = [] := by
    refine eq_nil_iff_forall_not_mem.mpr fun packet member => ?_
    exact (stale packet member).ne (number_of_mem (given.subset (mem_append_left _ member)))
  rw [Forwards, Clean]
  fun_cases NatDeviceWrapper.write d call <;> simp_all
  grind

/-- **Each call forwards its own packets** along a run exactly if nothing is left to it or it sends nothing. -/
theorem writes_forwarded_iff (calls : List WriteCall) :
    natDevice.Along Forwards {} calls ↔ natDevice.Along Clean {} calls := by
  refine Machine.along_iff_of_invariant Stale (fun d call stale _ => forwards_iff stale call) ?_ (by simp [Stale])
    (natDevice.along_of_forall (fun _ _ => trivial) {} calls)
  exact fun d call stale _ _ => stale.write call

/-- The underlying device fails; the second call gives it the packet of the first one again. -/
theorem writes_forwarded_wrong :
    ¬ natDevice.Along Forwards {} [⟨[.unhandled], some .eof⟩, ⟨[.unhandled], none⟩] ∧
      (NatDeviceWrapper.write ⟨[(0, 0)], 1⟩ ⟨[.unhandled], none⟩).given = [(0, 0), (1, 0)] := by
  refine ⟨fun along => ?_, by decide⟩
  have second : Forwards ⟨[(0, 0)], 1⟩ ⟨[.unhandled], none⟩ := along.2.1
  exact absurd second.1 (by decide)

end SingBox.Wireguard
