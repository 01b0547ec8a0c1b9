/-
**The connection pool of a DNS transport, in ordered mode** (`dns/transport/conn_pool.go`).

A connection belongs to one caller at a time; between two of them it is idle. The calls run at the same time. What a
call does while it has the lock is one step; so is the return of a dial, and each call of the `Close` callback. A
caller only gives back connections that it holds, a dial returns a new connection, and dials may fail or be cancelled
at any time. For each critical section there is one lemma that says all it can do.
-/

import SingBox.Lib.IndexedList
import SingBox.Lib.Machine
import Mathlib.Data.List.Perm.Basic

set_option linter.unusedSectionVars false

namespace SingBox.Dns

open SingBox.Lib

/-! ### The pool -/

/-- `connPoolState`, for the ordered mode: the tracked connections, and the idle ones with their index. -/
structure ConnPoolState (T : Type) where
  all : List T := []
  idle : IndexedList T := {}

/-- `ConnPool`. The generation is the identity of the state; a pool is closed if it has none. -/
structure ConnPool (T : Type) where
  generation : Nat := 0
  state : Option (ConnPoolState T) := some {}

variable {T : Type}

section Sections

variable [DecidableEq T]

/-- `state.all[conn] = struct{}{}`. -/
def ConnPoolState.track (state : ConnPoolState T) (conn : T) : ConnPoolState T :=
  { state with all := if conn ∈ state.all then state.all else conn :: state.all }

def ConnPoolState.removeConn (state : ConnPoolState T) (conn : T) : ConnPoolState T where
  all  := state.all.filter (· ≠ conn)
  idle := state.idle.remove conn

/-- What `acquireOrdered` does next, after its critical section. -/
inductive AcquireStep (T : Type) where
  | errClosed
  | found (conn : T)
  | dead (conn : T)
  | dial (generation : Nat)

namespace ConnPool

variable (p : ConnPool T)

/-- The critical section of `acquireOrdered`. `alive` is the answer of `IsAlive`. -/
def acquireOrdered (alive : Bool) : ConnPool T × AcquireStep T :=
  match p.state with
  | none => (p, .errClosed)
  | some current =>
    match current.idle.popFront with
    | some (idleConn, idle) =>
      if alive then ({ p with state := some { current with idle } }, .found idleConn)
      else
        ({ p with state := some { all := current.all.filter (· ≠ idleConn), idle } }, .dead idleConn)
    | none => (p, .dial p.generation)

/-- The critical section of `dialAndInstall`, and whether the connection is taken. -/
def install (generation : Nat) (conn : T) : ConnPool T × Bool :=
  match p.state with
  | none => (p, false)
  | some current =>
    if p.generation ≠ generation then (p, false)
    else ({ p with state := some (current.track conn) }, true)

/-- The critical section of `Release`, and whether the connection is to be closed. -/
def release (conn : T) (reuse alive : Bool) : ConnPool T × Bool :=
  match p.state with
  | none => (p, true)
  | some state =>
    if conn ∉ state.all then (p, true)
    else if !reuse || !alive then ({ p with state := some (state.removeConn conn) }, true)
    else if (state.idle.index conn).isSome then (p, false)
    else ({ p with state := some { state with idle := state.idle.pushBack conn } }, false)

/-- The critical section of `Invalidate`, and whether the connection is to be closed. -/
def invalidate (conn : T) : ConnPool T × Bool :=
  match p.state with
  | none => (p, true)
  | some state =>
    if conn ∉ state.all then (p, false)
    else ({ p with state := some (state.removeConn conn) }, true)

/-- The critical section of `Reset`, and the connections to be closed. -/
def reset : ConnPool T × List T :=
  match p.state with
  | none => (p, [])
  | some oldState => ({ p with generation := p.generation + 1, state := some {} }, oldState.all)

/-- The critical section of `Close`, and the connections to be closed. -/
def close : ConnPool T × List T :=
  match p.state with
  | none => (p, [])
  | some oldState => ({ p with state := none }, oldState.all)

end ConnPool

end Sections

/-! ### Calls that run at the same time -/

/-- Where a call is between two steps: before a critical section, in a dial, or before callbacks for
connections that are to be closed, after which `acquireOrdered` may go around its loop again. -/
inductive Point (T : Type) where
  | ready
  | acquire
  | dial (generation : Nat)
  | install (generation : Nat) (conn : T)
  | release (conn : T) (reuse : Bool)
  | invalidate (conn : T)
  | reset
  | close
  | closing (conns : List T) (again : Bool)

namespace Point

/-- The connection that the caller has given to the call, or the dial has returned. -/
def inHand : Point T → List T
  | install _ conn | release conn _ | invalidate conn => [conn]
  | _ => []

theorem nodup_inHand (point : Point T) : point.inHand.Nodup := by
  cases point <;> simp [inHand]

/-- The connections that the call is going to close. -/
def toClose : Point T → List T
  | closing conns _ => conns
  | _ => []

end Point

/-- The pool, the calls of each caller, the connections that each caller has got, and all connections
that a dial has returned and that have been passed to the `Close` callback. -/
structure PoolSystem (Caller T : Type) where
  pool : ConnPool T := {}
  calls : Caller → Point T := fun _ => .ready
  held : Caller → List T := fun _ => []
  (dialed passed : List T := [])

/-- What a dial returns: an error, a connection although its context has been cancelled, or a
connection. -/
inductive DialResult (T : Type) where
  | failed
  | cancelled (conn : T)
  | ok (conn : T)

/-- The steps: a call begins, has the lock, returns from its dial, calls `Close`, or has called it for
all connections. -/
inductive PoolEvent (Caller T : Type) where
  | acquire (caller : Caller)
  | release (caller : Caller) (conn : T) (reuse : Bool)
  | invalidate (caller : Caller) (conn : T)
  | reset (caller : Caller)
  | close (caller : Caller)
  | critical (caller : Caller) (alive : Bool)
  | dialed (caller : Caller) (result : DialResult T)
  | callback (caller : Caller) (conn : T)
  | back (caller : Caller)

namespace PoolSystem

variable {Caller : Type} [DecidableEq Caller] [DecidableEq T]

variable (s : PoolSystem Caller T)

def set (caller : Caller) (point : Point T) (held : List T) : PoolSystem Caller T :=
  { s with
    calls := Function.update s.calls caller point
    held  := Function.update s.held caller held }

def critical (caller : Caller) (alive : Bool) : PoolSystem Caller T :=
  let held := s.held caller
  match s.calls caller with
  | .acquire =>
    let done := s.pool.acquireOrdered alive
    let next := match done.2 with
      | .errClosed => s.set caller .ready held
      | .found conn => s.set caller .ready (conn :: held)
      | .dead conn => s.set caller (.closing [conn] true) held
      | .dial generation => s.set caller (.dial generation) held
    { next with pool := done.1 }
  | .install generation conn =>
    let done := s.pool.install generation conn
    let next := if done.2 then s.set caller .ready (conn :: held)
      else s.set caller (.closing [conn] false) held
    { next with pool := done.1 }
  | .release conn reuse =>
    let done := s.pool.release conn reuse alive
    { s.set caller (.closing (if done.2 then [conn] else []) false) held with pool := done.1 }
  | .invalidate conn =>
    let done := s.pool.invalidate conn
    { s.set caller (.closing (if done.2 then [conn] else []) false) held with pool := done.1 }
  | .reset =>
    let done := s.pool.reset
    { s.set caller (.closing done.2 false) held with pool := done.1 }
  | .close =>
    let done := s.pool.close
    { s.set caller (.closing done.2 false) held with pool := done.1 }
  | _ => s

def dialReturns (caller : Caller) (result : DialResult T) : PoolSystem Caller T :=
  match s.calls caller, result with
  | .dial _, .failed => s.set caller .ready (s.held caller)
  | .dial _, .cancelled conn =>
    if conn ∈ s.dialed then s
    else { s.set caller (.closing [conn] false) (s.held caller) with dialed := conn :: s.dialed }
  | .dial generation, .ok conn =>
    if conn ∈ s.dialed then s
    else { s.set caller (.install generation conn) (s.held caller) with dialed := conn :: s.dialed }
  | _, _ => s

/-- The start of a call, with a connection that the caller holds for `Release` and `Invalidate`. -/
def start (caller : Caller) (point : Point T) : PoolSystem Caller T :=
  match s.calls caller with
  | .ready =>
    if point.inHand ⊆ s.held caller then s.set caller point ((s.held caller).diff point.inHand) else s
  | _ => s

/-- A call of the `Close` callback. -/
def callback (caller : Caller) (conn : T) : PoolSystem Caller T :=
  match s.calls caller with
  | .closing conns again =>
    if conn ∈ conns then
      { s.set caller (.closing (conns.erase conn) again) (s.held caller) with passed := conn :: s.passed }
    else s
  | _ => s

/-- A call that has called `Close` for all its connections. -/
def back (caller : Caller) : PoolSystem Caller T :=
  match s.calls caller with
  | .closing [] again => s.set caller (if again then .acquire else .ready) (s.held caller)
  | _ => s

end PoolSystem

/-- **The pool under any number of calls.** -/
def connPools (Caller T : Type) [DecidableEq Caller] [DecidableEq T] :
    Machine (PoolSystem Caller T) (PoolEvent Caller T) Unit where
  step s event :=
    match event with
    | .acquire caller => (s.start caller .acquire, none)
    | .release caller conn reuse => (s.start caller (.release conn reuse), none)
    | .invalidate caller conn => (s.start caller (.invalidate conn), none)
    | .reset caller => (s.start caller .reset, none)
    | .close caller => (s.start caller .close, none)
    | .critical caller alive => (s.critical caller alive, none)
    | .dialed caller result => (s.dialReturns caller result, none)
    | .callback caller conn => (s.callback caller conn, none)
    | .back caller => (s.back caller, none)

/-! ### What the critical sections do -/

namespace ConnPool

variable (p : ConnPool T)

def Idle (conn : T) : Prop := ∃ state, p.state = some state ∧ state.idle.Has conn

def Tracked (conn : T) : Prop := ∃ state, p.state = some state ∧ conn ∈ state.all

/-- **The idle list and its index agree, and what is idle is tracked.** -/
def Consistent : Prop :=
  ∀ state, p.state = some state → state.idle.Consistent ∧ ∀ conn, state.idle.Has conn → conn ∈ state.all

structure With (idle tracked : T → Prop) : Prop where
  consistent : p.Consistent
  idle_iff : ∀ conn, p.Idle conn ↔ idle conn
  tracked_iff : ∀ conn, p.Tracked conn ↔ tracked conn

variable {p}

section

variable {generation : Nat} {state : ConnPoolState T} {conn : T}

@[simp] theorem idle_some : Idle ⟨generation, some state⟩ conn ↔ state.idle.Has conn := by
  simp [Idle]

@[simp] theorem tracked_some : Tracked ⟨generation, some state⟩ conn ↔ conn ∈ state.all := by
  simp [Tracked]

theorem consistent_some : Consistent ⟨generation, some state⟩ ↔
    state.idle.Consistent ∧ ∀ conn, state.idle.Has conn → conn ∈ state.all := by
  simp [Consistent]

end

theorem Consistent.tracked (consistent : p.Consistent) {conn : T} (idle : p.Idle conn) : p.Tracked conn := by
  obtain ⟨state, same, has⟩ := idle
  exact ⟨state, same, (consistent state same).2 conn has⟩

section Specs

variable [DecidableEq T]

/-- The connection is not idle any more, and perhaps no longer tracked. -/
structure Loses (p after : ConnPool T) (conn : T) : Prop where
  consistent : after.Consistent
  idle_iff : ∀ c, after.Idle c ↔ p.Idle c ∧ c ≠ conn
  tracked_iff : ∀ c ≠ conn, after.Tracked c ↔ p.Tracked c

section

variable (consistent : p.Consistent)

include consistent

theorem Consistent.loses {conn : T} (notIdle : ¬p.Idle conn) : Loses p p conn := by
  refine ⟨consistent, fun c => (and_iff_left_of_imp ?_).symm, fun _ _ => .rfl⟩
  rintro idle rfl
  exact notIdle idle

/-- **The critical section of `acquireOrdered`** leaves the pool alone, or takes an idle connection out. -/
theorem acquireOrdered_cases (alive : Bool) : p.acquireOrdered alive = (p, .errClosed) ∨
    (∃ generation, p.acquireOrdered alive = (p, .dial generation)) ∨
    ∃ after conn, p.Idle conn ∧ Loses p after conn ∧ (alive = true → after.Tracked conn) ∧
      p.acquireOrdered alive = (after, if alive then .found conn else .dead conn) := by
  unfold acquireOrdered
  obtain ⟨generation, _ | current⟩ := p
  · exact .inl rfl
  obtain ⟨list, sub⟩ := consistent_some.mp consistent
  dsimp only
  cases front : current.idle.popFront with
  | none => exact .inr (.inl ⟨generation, rfl⟩)
  | some popped =>
    obtain ⟨conn, idle⟩ := popped
    obtain ⟨rest, first, others⟩ := list.popFront front
    refine .inr (.inr ?_)
    cases alive
    · refine ⟨_, conn, idle_some.mpr first, ?_, by simp, rfl⟩
      refine ⟨consistent_some.mpr ⟨rest, fun c has => ?_⟩, by simp [others], fun c differs => by simp [differs]⟩
      obtain ⟨before, differs⟩ := (others c).mp has
      simp [sub c before, differs]
    · refine ⟨_, conn, idle_some.mpr first, ?_, by simp [sub conn first], rfl⟩
      exact ⟨consistent_some.mpr ⟨rest, fun c has => sub c ((others c).mp has).1⟩, by simp [others], by simp⟩

/-- **The critical section of `dialAndInstall`** tracks the connection, or refuses it. -/
theorem install_cases (generation : Nat) (conn : T) : p.install generation conn = (p, false) ∨
    ∃ after, after.With p.Idle (fun c => p.Tracked c ∨ c = conn) ∧ p.install generation conn = (after, true) := by
  unfold install
  obtain ⟨now, _ | current⟩ := p
  · exact .inl rfl
  obtain ⟨list, sub⟩ := consistent_some.mp consistent
  have tracked c : c ∈ (current.track conn).all ↔ c ∈ current.all ∨ c = conn := by
    unfold ConnPoolState.track
    split
    · rename_i already
      refine (or_iff_left_of_imp ?_).symm
      rintro rfl
      exact already
    · simp [or_comm]
  dsimp only
  split
  · exact .inl rfl
  refine .inr ⟨_, ?_, rfl⟩
  exact ⟨consistent_some.mpr ⟨list, fun c has => (tracked c).mpr (.inl (sub c has))⟩, by simp [ConnPoolState.track],
    by simp [tracked]⟩

omit consistent in
theorem loses_removeConn {generation : Nat} {state : ConnPoolState T} {conn : T}
    (consistent : ConnPool.Consistent ⟨generation, some state⟩) :
    Loses ⟨generation, some state⟩ ⟨generation, some (state.removeConn conn)⟩ conn := by
  obtain ⟨list, sub⟩ := consistent_some.mp consistent
  refine ⟨consistent_some.mpr ⟨list.remove, fun c has => ?_⟩, fun c => ?_, fun c differs => ?_⟩
  · obtain ⟨before, differs⟩ := list.has_remove.mp has
    simp [ConnPoolState.removeConn, sub c before, differs]
  · simpa [ConnPoolState.removeConn] using list.has_remove
  · simp [ConnPoolState.removeConn, differs]

/-- **The critical section of `Release`** makes the connection idle, or has it closed. -/
theorem release_cases {conn : T} (notIdle : ¬p.Idle conn) (reuse alive : Bool) :
    (∃ after, Loses p after conn ∧ p.release conn reuse alive = (after, true)) ∨
    ∃ after, after.With (fun c => p.Idle c ∨ c = conn) p.Tracked ∧ p.release conn reuse alive = (after, false) := by
  unfold release
  obtain ⟨generation, _ | state⟩ := p
  · exact .inl ⟨_, consistent.loses notIdle, rfl⟩
  obtain ⟨list, sub⟩ := consistent_some.mp consistent
  have notHas : ¬state.idle.Has conn := fun has => notIdle (idle_some.mpr has)
  dsimp only
  split
  · exact .inl ⟨_, consistent.loses notIdle, rfl⟩
  rename_i tracked
  rw [not_not] at tracked
  split
  · exact .inl ⟨_, loses_removeConn consistent, rfl⟩
  split
  · rename_i found
    exact absurd (list.has_iff.mpr (Option.isSome_iff_exists.mp found)) notHas
  refine .inr ⟨_, ?_, rfl⟩
  refine ⟨consistent_some.mpr ⟨list.pushBack notHas, fun c has => ?_⟩, fun c => ?_, by simp⟩
  · rcases IndexedList.has_pushBack.mp has with before | rfl
    · exact sub c before
    · exact tracked
  · rw [idle_some, idle_some]
    exact IndexedList.has_pushBack

/-- **The critical section of `Invalidate`** has the connection closed, unless it is not tracked. -/
theorem invalidate_cases {conn : T} (notIdle : ¬p.Idle conn) :
    (∃ after, Loses p after conn ∧ p.invalidate conn = (after, true)) ∨
    (¬p.Tracked conn ∧ p.invalidate conn = (p, false)) := by
  unfold invalidate
  obtain ⟨generation, _ | state⟩ := p
  · exact .inl ⟨_, consistent.loses notIdle, rfl⟩
  dsimp only
  split
  · rename_i untracked
    exact .inr ⟨tracked_some.not.mpr untracked, rfl⟩
  · exact .inl ⟨_, loses_removeConn consistent, rfl⟩

end

theorem with_none {generation : Nat} :
    ConnPool.With (⟨generation, none⟩ : ConnPool T) (fun _ => False) fun _ => False :=
  ⟨(fun state same => by cases same), (fun conn => by simp [Idle]), fun conn => by simp [Tracked]⟩

/-- **The critical section of `Reset`** leaves nothing, and has all tracked connections closed. -/
theorem reset_spec : ∃ after conns, after.With (fun _ => False) (fun _ => False) ∧
    (∀ c, c ∈ conns ↔ p.Tracked c) ∧ p.reset = (after, conns) := by
  obtain ⟨-, _ | -⟩ := p
  · exact ⟨_, [], with_none, by simp [Tracked], rfl⟩
  · exact ⟨_, _, ⟨consistent_some.mpr ⟨IndexedList.consistent_empty, by simp⟩, by simp, by simp⟩, by simp, rfl⟩

/-- **The critical section of `Close`**, in the same way; the pool has no state afterwards. -/
theorem close_spec : ∃ after conns, after.With (fun _ => False) (fun _ => False) ∧
    (∀ c, c ∈ conns ↔ p.Tracked c) ∧ p.close = (after, conns) ∧ after.state = none := by
  obtain ⟨-, _ | -⟩ := p
  · exact ⟨_, [], with_none, by simp [Tracked], rfl, rfl⟩
  · exact ⟨_, _, with_none, by simp, rfl, rfl⟩

end Specs

end ConnPool

end SingBox.Dns
