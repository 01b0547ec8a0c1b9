/-
**The connection pool of a DNS transport, in single mode** (`dns/transport/conn_pool.go`).

All callers share one connection. The first that finds none starts a dial in the background; whoever comes while it
runs waits for it. A caller may give up before the dial ends, the dial may fail or be cancelled, and `Reset` and
`Close` may take the state away. The caller that gets a connection first is told so (`created`).

A step is what a call does from one acquisition of the lock to the next, with the callbacks and the cancellation that
follow the critical section. The end of a dial and the critical section that takes its result are one step. Any
connection may be given to `Invalidate` and `Release`. `Tenure` relates the pool with what has happened so far.
-/

import SingBox.Lib.Machine
import Mathlib.Data.List.Nodup
import Mathlib.Logic.Function.Basic

set_option linter.unusedSectionVars false

namespace SingBox.Dns

open SingBox.Lib List

/-! ### The pool -/

/-- The context of a connection, made with the context of the pool's state as its parent. -/
structure ConnCtx where
  id : Nat
  state : Nat
  deriving DecidableEq

/-- `shared`, with `sharedCtx` and `sharedCancel`. -/
structure SharedConn (T : Type) where
  conn : T
  ctx : ConnCtx

/-- `connPoolState`, for the single mode. `hasShared` is that there is a `shared`. -/
structure SharedState (T : Type) where
  all : List T := []
  shared : Option (SharedConn T) := none
  sharedClaimed : Bool := false
  connecting : Option Nat := none

/-- `ConnPool`. The generation is the identity of the state; a pool is closed if it has none. -/
structure SharedPool (T : Type) where
  generation : Nat := 0
  state : Option (SharedState T) := some {}

/-- What `AcquireShared` has returned. -/
structure Handout (Caller T : Type) where
  caller : Caller
  conn : T
  ctx : ConnCtx
  created : Bool

/-- What has happened: the connections returned by `AcquireShared`, in order, those returned by dials,
those passed to `Close`, the connection contexts and the state contexts that have been cancelled, and the
number of connection contexts made. -/
structure SharedLog (Caller T : Type) where
  returned : List (Handout Caller T) := []
  (dialed passed : List T := [])
  cancelled : List ConnCtx := []
  ended : List Nat := []
  contexts : Nat := 0

/-- A context is cancelled by itself or with its parent. -/
def SharedLog.Cancelled {Caller T : Type} (log : SharedLog Caller T) (ctx : ConnCtx) : Prop :=
  ctx ∈ log.cancelled ∨ ctx.state ∈ log.ended

/-- Where a call is between two steps. In `acquireShared` it waits for the dial; then either that has ended,
or the state's context. -/
inductive SharedPoint (T : Type) where
  | ready
  | acquire
  | wait (generation connect : Nat) (startDial : Bool)
  | collect (generation connect : Nat) (startDial : Bool)
  | recheck
  | invalidate (conn : T)
  | release (conn : T) (reuse : Bool)
  | reset
  | close

/-- A running `connectSingle`: the generation of its state, and its `connPoolConnect`. -/
structure SharedDial where
  generation : Nat
  connect : Nat

/-- What a dial returns, and whether its context has been cancelled meanwhile. -/
inductive SharedDialResult (T : Type) where
  | failed
  | cancelled (conn : Option T)
  | ok (conn : T)

def SharedDialResult.conn {T : Type} : SharedDialResult T → Option T
  | failed => none
  | cancelled conn => conn
  | ok conn => some conn

/-- The pool, what has happened, the calls, the running dials, and the `connPoolConnect`s with whether they
are done, and have failed. -/
structure SharedSystem (Caller T : Type) where
  pool : SharedPool T := {}
  log : SharedLog Caller T := {}
  calls : Caller → SharedPoint T := fun _ => .ready
  dials : List SharedDial := []
  connects : Nat → Option Bool := fun _ => none
  connectCount : Nat := 0

/-- The cases of the `select` in `acquireShared`: the dial has ended, the caller's context, or the context of
the state. -/
inductive SelectCase where
  | done
  | ctxDone
  | stateDone

/-- The steps: a call begins, has the lock, or goes on after its `select`; and a dial ends. `alive` is the
answer of `IsAlive`. -/
inductive SharedEvent (Caller T : Type) where
  | start (caller : Caller) (point : SharedPoint T)
  | critical (caller : Caller) (alive : Bool)
  | select (caller : Caller) (case : SelectCase)
  | dialed (connect : Nat) (result : SharedDialResult T)

variable {Caller T : Type}

/-- `removeConn`, and the context that it cancels. -/
def SharedState.removeConn [DecidableEq T] (state : SharedState T) (conn : T) : SharedState T × Option ConnCtx :=
  let all := state.all.filter (· ≠ conn)
  match state.shared with
  | some shared =>
    if shared.conn = conn then ({ state with all, shared := none, sharedClaimed := false }, some shared.ctx)
    else ({ state with all }, none)
  | none => ({ state with all }, none)

namespace SharedSystem

variable [DecidableEq Caller] [DecidableEq T]

variable (s : SharedSystem Caller T)

def goTo (caller : Caller) (point : SharedPoint T) : SharedSystem Caller T :=
  { s with calls := Function.update s.calls caller point }

def write (state : SharedState T) : SharedSystem Caller T :=
  { s with pool := { s.pool with state := some state } }

/-- A connection passed to `Close`. -/
def pass (conn : T) : SharedSystem Caller T :=
  { s with log := { s.log with passed := conn :: s.log.passed } }

/-- `removeConn`, and then `Close`. -/
def drop (state : SharedState T) (conn : T) : SharedSystem Caller T :=
  let removed := state.removeConn conn
  let s := s.write removed.1
  { s with
    log := { s.log with cancelled := removed.2.toList ++ s.log.cancelled, passed := conn :: s.log.passed } }

/-- The end of `acquireShared` and of `collectShared`: the caller gets the connection. -/
def claim (caller : Caller) (state : SharedState T) (shared : SharedConn T) : SharedSystem Caller T :=
  let created := !state.sharedClaimed
  let s := s.write { state with sharedClaimed := true }
  { s with log := { s.log with returned := s.log.returned ++ [⟨caller, shared.conn, shared.ctx, created⟩] } }

/-- `closeState`, after the state has been replaced. -/
def closeState (oldState : SharedState T) (pool : SharedPool T) : SharedSystem Caller T :=
  { s with
    pool
    log := { s.log with ended := s.pool.generation :: s.log.ended, passed := oldState.all ++ s.log.passed } }

/-- The loop of `acquireShared` up to its `select`. -/
def acquireShared (caller : Caller) (alive : Bool) : SharedSystem Caller T :=
  match s.pool.state with
  | none => s.goTo caller .ready
  | some current =>
    match current.shared with
    | some shared =>
      if alive then (s.claim caller current shared).goTo caller .ready
      else s.drop current shared.conn
    | none =>
      match current.connecting with
      | some connect => s.goTo caller (.wait s.pool.generation connect false)
      | none =>
        let connect := s.connectCount
        let s := s.write { current with connecting := some connect }
        let s := { s with
          dials        := ⟨s.pool.generation, connect⟩ :: s.dials
          connectCount := s.connectCount + 1 }
        s.goTo caller (.wait s.pool.generation connect true)

/-- `collectShared`, with what `acquireShared` does next. -/
def collectShared (caller : Caller) (generation connect : Nat) (startDial alive : Bool) : SharedSystem Caller T :=
  if s.connects connect = some true then s.goTo caller (if startDial then .ready else .acquire)
  else
    match s.pool.state with
    | none => s.goTo caller .ready
    | some current =>
      if s.pool.generation ≠ generation then s.goTo caller .ready
      else
        match current.shared with
        | none => s.goTo caller .acquire
        | some shared =>
          if alive then (s.claim caller current shared).goTo caller .ready
          else (s.drop current shared.conn).goTo caller .acquire

/-- The critical section of `Invalidate`. -/
def invalidate (conn : T) : SharedSystem Caller T :=
  match s.pool.state with
  | none => s.pass conn
  | some state => if conn ∉ state.all then s else s.drop state conn

/-- The critical section of `Release`. -/
def release (conn : T) (reuse alive : Bool) : SharedSystem Caller T :=
  match s.pool.state with
  | none => s.pass conn
  | some state =>
    if conn ∉ state.all then s.pass conn
    else if !reuse || !alive then s.drop state conn
    else s

/-- The critical section of `Reset`. -/
def reset : SharedSystem Caller T :=
  match s.pool.state with
  | none => s
  | some oldState => s.closeState oldState ⟨s.pool.generation + 1, some {}⟩

/-- The critical section of `Close`. -/
def close : SharedSystem Caller T :=
  match s.pool.state with
  | none => s
  | some oldState => s.closeState oldState ⟨s.pool.generation, none⟩

def critical (caller : Caller) (alive : Bool) : SharedSystem Caller T :=
  match s.calls caller with
  | .acquire => s.acquireShared caller alive
  | .collect generation connect startDial => s.collectShared caller generation connect startDial alive
  | .recheck => s.goTo caller (if s.pool.state.isNone then .ready else .acquire)
  | .invalidate conn => (s.invalidate conn).goTo caller .ready
  | .release conn reuse => (s.release conn reuse alive).goTo caller .ready
  | .reset => s.reset.goTo caller .ready
  | .close => s.close.goTo caller .ready
  | .ready | .wait _ _ _ => s

def install (state : SharedState T) (conn : T) : SharedSystem Caller T :=
  let ctx := ⟨s.log.contexts, s.pool.generation⟩
  let all := if conn ∈ state.all then state.all else conn :: state.all
  let s := s.write { state with all, shared := some ⟨conn, ctx⟩ }
  { s with
    log := { s.log with dialed := conn :: s.log.dialed, contexts := s.log.contexts + 1 } }

def reject (conn : T) : SharedSystem Caller T :=
  { s with log := { s.log with dialed := conn :: s.log.dialed, passed := conn :: s.log.passed } }

/-- `current.connecting = nil`, of the state whose dial has ended. -/
def endConnecting (generation : Nat) : SharedSystem Caller T :=
  match s.pool.state with
  | some state => if s.pool.generation = generation then s.write { state with connecting := none } else s
  | none => s

/-- The end of `connectSingle`, for one dial. -/
def connectSingle (generation : Nat) (result : SharedDialResult T) : SharedSystem Caller T × Bool :=
  let s := s.endConnecting generation
  match result with
  | .failed | .cancelled none => (s, true)
  | .cancelled (some conn) => (s.reject conn, true)
  | .ok conn =>
    match s.pool.state with
    | none => (s.reject conn, true)
    | some state =>
      if s.pool.generation ≠ generation then (s.reject conn, true) else (s.install state conn, false)

def dialEnds (connect : Nat) (result : SharedDialResult T) : SharedSystem Caller T :=
  match s.dials.find? (·.connect = connect) with
  | none => s
  | some dial =>
    if ∃ conn ∈ s.log.dialed, result.conn = some conn then s
    else
      let ended := s.connectSingle dial.generation result
      { ended.1 with
        dials    := s.dials.filter (·.connect ≠ connect)
        connects := Function.update s.connects connect (some ended.2) }

def start (caller : Caller) (point : SharedPoint T) : SharedSystem Caller T :=
  match s.calls caller, point with
  | .ready, .acquire => s.goTo caller .acquire
  | .ready, .invalidate conn => s.goTo caller (.invalidate conn)
  | .ready, .release conn reuse => s.goTo caller (.release conn reuse)
  | .ready, .reset => s.goTo caller .reset
  | .ready, .close => s.goTo caller .close
  | _, _ => s

/-- The `select`: a case is taken only when it is ready. -/
def select (caller : Caller) (case : SelectCase) : SharedSystem Caller T :=
  match s.calls caller, case with
  | .wait generation connect startDial, .done =>
    if (s.connects connect).isSome then s.goTo caller (.collect generation connect startDial) else s
  | .wait _ _ _, .ctxDone => s.goTo caller .ready
  | .wait generation _ _, .stateDone => if generation ∈ s.log.ended then s.goTo caller .recheck else s
  | _, _ => s

end SharedSystem

/-- **The pool in single mode, under any number of calls.** -/
def sharedPools (Caller T : Type) [DecidableEq Caller] [DecidableEq T] :
    Machine (SharedSystem Caller T) (SharedEvent Caller T) Unit where
  step s event :=
    match event with
    | .start caller point => (s.start caller point, none)
    | .critical caller alive => (s.critical caller alive, none)
    | .select caller case => (s.select caller case, none)
    | .dialed connect result => (s.dialEnds connect result, none)

/-! ### The pool and what has happened -/

def SharedPool.Installed (pool : SharedPool T) (conn : T) (ctx : ConnCtx) : Prop :=
  ∃ state, pool.state = some state ∧ state.shared = some ⟨conn, ctx⟩

theorem SharedPool.Installed.unique {pool : SharedPool T} {conn conn' : T} {ctx ctx' : ConnCtx}
    (one : pool.Installed conn ctx) (other : pool.Installed conn' ctx') : conn = conn' ∧ ctx = ctx' := by
  obtain ⟨state, is, shared⟩ := one
  obtain ⟨state', is', shared'⟩ := other
  cases is.symm.trans is'
  cases shared.symm.trans shared'
  exact ⟨rfl, rfl⟩

/-- The state of a pool, as it is when its lock is free: the shared connection is the tracked one, is not
claimed before it is there, and no dial runs while it is there. -/
structure SharedState.Ok (state : SharedState T) : Prop where
  tracked : ∀ conn, conn ∈ state.all ↔ ∃ ctx, state.shared = some ⟨conn, ctx⟩
  unclaimed : state.shared = none → state.sharedClaimed = false
  connecting : state.shared.isSome → state.connecting = none

/-- The first has `created`, and no other. -/
def FirstOnly : List Bool → Prop
  | [] => True
  | first :: others => first = true ∧ ∀ created ∈ others, created = false

theorem FirstOnly.concat {created : List Bool} (first : FirstOnly created) :
    FirstOnly (created ++ [created.isEmpty]) := by
  cases created with
  | nil => simp [FirstOnly]
  | cons head tail =>
    obtain ⟨is, others⟩ := first
    refine ⟨is, fun other member => ?_⟩
    rcases mem_append.mp member with old | new
    · exact others other old
    · simpa using new

/-- What the callers that got this connection were told, in order. -/
def SharedLog.created [DecidableEq T] (log : SharedLog Caller T) (conn : T) : List Bool :=
  (log.returned.filter (·.conn = conn)).map (·.created)

/-- **The pool and what has happened so far** belong together. -/
structure Tenure [DecidableEq T] (pool : SharedPool T) (log : SharedLog Caller T) : Prop where
  ok : ∀ state, pool.state = some state → state.Ok
  /-- The shared connection comes from a dial, and its context is new and has not been cancelled. -/
  installed : ∀ conn ctx, pool.Installed conn ctx →
    conn ∈ log.dialed ∧ ctx.id < log.contexts ∧ ctx.state = pool.generation ∧ ¬log.Cancelled ctx
  numbered : ∀ ctx ∈ log.cancelled, ctx.id < log.contexts
  ended : ∀ generation ∈ log.ended, generation < pool.generation ∨ pool.state = none
  custody : ∀ conn ∈ log.dialed, (∃ ctx, pool.Installed conn ctx) ∨ conn ∈ log.passed
  /-- A connection that a caller got is the shared one, or its context has been cancelled. -/
  returned : ∀ handout ∈ log.returned, handout.conn ∈ log.dialed ∧
    (pool.Installed handout.conn handout.ctx ∨ (∀ ctx, ¬pool.Installed handout.conn ctx) ∧ log.Cancelled handout.ctx)
  sameCtx : ∀ one ∈ log.returned, ∀ other ∈ log.returned, one.conn = other.conn → one.ctx = other.ctx
  first : ∀ conn, FirstOnly (log.created conn)
  claimed : ∀ state shared, pool.state = some state → state.shared = some shared →
    state.sharedClaimed = !(log.created shared.conn).isEmpty

open SharedSystem

section Operations

variable [DecidableEq Caller] [DecidableEq T] {s : SharedSystem Caller T}

abbrev SharedSystem.Holds (s : SharedSystem Caller T) : Prop := Tenure s.pool s.log

theorem holds_initial : ({} : SharedSystem Caller T).Holds := by
  have empty conn ctx : ¬({} : SharedPool T).Installed conn ctx := by
    rintro ⟨state, is, shared⟩
    cases is
    cases shared
  refine ⟨fun state is => ?_, fun conn ctx is => absurd is (empty conn ctx), by simp, by simp, by simp, by simp,
    by simp, fun conn => trivial, fun state shared is has => ?_⟩
  · cases is
    exact ⟨by simp, fun _ => rfl, fun _ => rfl⟩
  · cases is
    cases has

variable (holds : s.Holds)

include holds

/-- Connections passed to `Close` once more. -/
theorem Tenure.pass (conn : T) : (s.pass conn).Holds :=
  { holds with
    custody := fun c born => (holds.custody c born).imp_right (mem_cons_of_mem conn) }

theorem Tenure.reject (conn : T) : (s.reject conn).Holds :=
  { holds with
    installed := fun c ctx is =>
      have ⟨born, rest⟩ := holds.installed c ctx is
      ⟨mem_cons_of_mem conn born, rest⟩
    custody := fun c born => by
      rcases mem_cons.mp born with rfl | old
      · exact .inr mem_cons_self
      · exact (holds.custody c old).imp_right (mem_cons_of_mem conn)
    returned := fun handout member =>
      have ⟨born, rest⟩ := holds.returned handout member
      ⟨mem_cons_of_mem conn born, rest⟩ }

variable {state : SharedState T} (is : s.pool.state = some state)

include is

theorem Tenure.past {generation : Nat} (member : generation ∈ s.log.ended) : generation < s.pool.generation :=
  (holds.ended generation member).resolve_right (by simp [is])

theorem Tenure.write {state' : SharedState T} (ok : state'.Ok) (shared : state'.shared = state.shared)
    (claimed : state'.sharedClaimed = state.sharedClaimed) : (s.write state').Holds := by
  have same conn ctx : (s.write state').pool.Installed conn ctx ↔ s.pool.Installed conn ctx := by
    simp [SharedPool.Installed, SharedSystem.write, is, shared]
  refine ⟨fun other at_ => ?_, fun conn ctx here => holds.installed conn ctx ((same conn ctx).mp here),
    holds.numbered, fun generation member => ?_, fun conn born => ?_, fun handout member => ?_,
    holds.sameCtx, holds.first, fun other conn at_ has => ?_⟩
  · cases at_
    exact ok
  · exact .inl (holds.past is member)
  · simp only [same]
    exact holds.custody conn born
  · simp only [same]
    exact holds.returned handout member
  · cases at_
    rw [claimed]
    exact holds.claimed state conn is (shared ▸ has)

theorem Tenure.claim {shared : SharedConn T} (has : state.shared = some shared) (caller : Caller) :
    (s.claim caller state shared).Holds := by
  have here : s.pool.Installed shared.conn shared.ctx := ⟨state, is, has⟩
  have same conn ctx :
      (s.claim caller state shared).pool.Installed conn ctx ↔ s.pool.Installed conn ctx := by
    simp [SharedPool.Installed, SharedSystem.claim, SharedSystem.write, is]
  have told := holds.claimed state shared is has
  have created conn : (s.claim caller state shared).log.created conn =
      if shared.conn = conn then s.log.created conn ++ [(s.log.created conn).isEmpty] else s.log.created conn := by
    split_ifs with eq
    · subst eq
      simp [SharedLog.created, SharedSystem.claim, SharedSystem.write, told]
    · simp [SharedLog.created, SharedSystem.claim, SharedSystem.write, eq]
  have ctx_of_old (old : Handout Caller T) (member : old ∈ s.log.returned) (eq : old.conn = shared.conn) :
      old.ctx = shared.ctx := by
    rcases (holds.returned old member).2 with installed | ⟨gone, -⟩
    · exact (installed.unique here).2
    · exact absurd (eq ▸ here) (gone shared.ctx)
  refine ⟨fun other at_ => ?_, fun conn ctx at_ => holds.installed conn ctx ((same conn ctx).mp at_),
    holds.numbered, fun generation member => ?_, fun conn born => ?_, fun handout member => ?_,
    fun one first other second eq => ?_, fun conn => ?_, fun other conn at_ has' => ?_⟩
  · cases at_
    have ok := holds.ok state is
    refine ⟨ok.tracked, fun none => ?_, ok.connecting⟩
    cases has.symm.trans none
  · exact .inl (holds.past is member)
  · simp only [same]
    exact holds.custody conn born
  · simp only [same]
    rcases mem_append.mp member with old | new
    · exact holds.returned handout old
    · cases mem_singleton.mp new
      exact ⟨(holds.installed _ _ here).1, .inl here⟩
  · rcases mem_append.mp first with old | new <;> rcases mem_append.mp second with old' | new'
    · exact holds.sameCtx one old other old' eq
    · cases mem_singleton.mp new'
      exact ctx_of_old one old eq
    · cases mem_singleton.mp new
      exact (ctx_of_old other old' eq.symm).symm
    · cases mem_singleton.mp new
      cases mem_singleton.mp new'
      rfl
  · rw [created]
    split_ifs
    · exact (holds.first conn).concat
    · exact holds.first conn
  · cases at_
    cases has.symm.trans has'
    rw [created]
    simp

omit is in
theorem Tenure.ends {after : SharedSystem Caller T} (empty : ∀ conn ctx, ¬after.pool.Installed conn ctx)
    (ok : ∀ state, after.pool.state = some state → state.Ok)
    (numbered : ∀ ctx ∈ after.log.cancelled, ctx.id < after.log.contexts)
    (ended : ∀ generation ∈ after.log.ended, generation < after.pool.generation ∨ after.pool.state = none)
    (returned : after.log.returned = s.log.returned) (dialed : after.log.dialed = s.log.dialed)
    (passed : ∀ conn, (∃ ctx, s.pool.Installed conn ctx) ∨ conn ∈ s.log.passed → conn ∈ after.log.passed)
    (cancelled : ∀ ctx, (∃ conn, s.pool.Installed conn ctx) ∨ s.log.Cancelled ctx → after.log.Cancelled ctx) :
    after.Holds := by
  have created conn : after.log.created conn = s.log.created conn := by
    rw [SharedLog.created, returned, SharedLog.created]
  refine ⟨ok, fun conn ctx is => absurd is (empty conn ctx), numbered, ended, fun conn born => ?_,
    fun handout member => ?_, ?_, fun conn => ?_, fun state shared is has => ?_⟩
  · rw [dialed] at born
    exact .inr (passed conn (holds.custody conn born))
  · rw [returned] at member
    obtain ⟨born, state⟩ := holds.returned handout member
    refine ⟨dialed ▸ born, .inr ⟨empty handout.conn, cancelled handout.ctx ?_⟩⟩
    exact state.imp (fun installed => ⟨handout.conn, installed⟩) And.right
  · rw [returned]
    exact holds.sameCtx
  · rw [created]
    exact holds.first conn
  · exact absurd ⟨state, is, has⟩ (empty shared.conn shared.ctx)

omit holds is in
theorem SharedState.ok_of_none (all : state.all = []) (shared : state.shared = none)
    (claimed : state.sharedClaimed = false) : state.Ok :=
  ⟨by simp [all, shared], fun _ => claimed, by simp [shared]⟩

omit holds is in
theorem removeConn_shared {conn : T} {ctx : ConnCtx} (ok : state.Ok)
    (has : state.shared = some ⟨conn, ctx⟩) : state.removeConn conn =
      ({ state with all := [], shared := none, sharedClaimed := false }, some ctx) := by
  have all (c : T) (member : c ∈ state.all) : c = conn := by
    obtain ⟨ctx', is⟩ := (ok.tracked c).mp member
    cases has.symm.trans is
    rfl
  simpa [SharedState.removeConn, has] using all

/-- `removeConn` of the shared connection, with `Close`. -/
theorem Tenure.drop {conn : T} {ctx : ConnCtx} (has : state.shared = some ⟨conn, ctx⟩) : (s.drop state conn).Holds := by
  have removed := removeConn_shared (holds.ok state is) has
  have here : s.pool.Installed conn ctx := ⟨state, is, has⟩
  refine holds.ends (fun c x => ?_) (fun other at_ => ?_) (fun x member => ?_) (fun generation member => ?_)
    rfl rfl (fun c => ?_) fun x => ?_
  · rintro ⟨other, at_, shared⟩
    cases at_
    simp [removed] at shared
  · cases at_
    exact SharedState.ok_of_none (by simp [removed]) (by simp [removed]) (by simp [removed])
  · simp only [SharedSystem.drop, removed, Option.toList_some, singleton_append, mem_cons] at member
    rcases member with rfl | old
    · exact (holds.installed conn x here).2.1
    · exact holds.numbered x old
  · exact .inl (holds.past is member)
  · rintro (⟨x, installed⟩ | old)
    · cases (installed.unique here).1
      exact mem_cons_self
    · exact mem_cons_of_mem conn old
  · rintro (⟨c, installed⟩ | old | old)
    · cases (installed.unique here).2
      simp [SharedLog.Cancelled, SharedSystem.drop, removed]
    · exact .inl (mem_append_right _ old)
    · exact .inr old

/-- `closeState`, for a pool that is closed or has a new state. -/
theorem Tenure.closeState {pool : SharedPool T}
    (next : pool = ⟨s.pool.generation + 1, some {}⟩ ∨ pool = ⟨s.pool.generation, none⟩) :
    (s.closeState state pool).Holds := by
  refine holds.ends (fun c x => ?_) (fun other at_ => ?_) holds.numbered (fun generation member => ?_)
    rfl rfl (fun c => ?_) fun x => ?_
  · rintro ⟨other, at_, shared⟩
    rcases next with rfl | rfl
    · cases at_
      cases shared
    · cases at_
  · rcases next with rfl | rfl
    · cases at_
      exact SharedState.ok_of_none rfl rfl rfl
    · cases at_
  · rcases next with rfl | rfl
    · refine .inl ?_
      rcases mem_cons.mp member with rfl | old
      · exact Nat.lt_succ_self _
      · exact Nat.lt_succ_of_lt (holds.past is old)
    · exact .inr rfl
  · rintro (⟨x, other, at_, shared⟩ | old)
    · cases is.symm.trans at_
      exact mem_append_left _ (((holds.ok state is).tracked c).mpr ⟨x, shared⟩)
    · exact mem_append_right _ old
  · rintro (⟨c, installed⟩ | old | old)
    · exact .inr ((holds.installed c x installed).2.2.1 ▸ mem_cons_self)
    · exact .inl old
    · exact .inr (mem_cons_of_mem _ old)

theorem Tenure.install {conn : T} (has : state.shared = none) (idle : state.connecting = none)
    (new : conn ∉ s.log.dialed) : (s.install state conn).Holds := by
  have ok := holds.ok state is
  have all : state.all = [] := by
    refine eq_nil_iff_forall_not_mem.mpr fun c member => ?_
    obtain ⟨ctx, shared⟩ := (ok.tracked c).mp member
    cases has.symm.trans shared
  have empty c x : ¬s.pool.Installed c x := by
    rintro ⟨other, at_, shared⟩
    cases is.symm.trans at_
    cases has.symm.trans shared
  have here c x : (s.install state conn).pool.Installed c x ↔
      c = conn ∧ x = ⟨s.log.contexts, s.pool.generation⟩ := by
    simp [SharedPool.Installed, SharedSystem.install, SharedSystem.write, eq_comm]
  have notTold : s.log.created conn = [] := by
    refine map_eq_nil_iff.mpr (filter_eq_nil_iff.mpr fun handout member told => new ?_)
    have same : handout.conn = conn := by simpa using told
    exact same ▸ (holds.returned handout member).1
  refine ⟨fun other at_ => ?_, fun c x installed => ?_, fun x member => ?_, fun generation member => ?_,
    fun c born => ?_, fun handout member => ?_, holds.sameCtx, holds.first, fun other shared at_ has' => ?_⟩
  · cases at_
    refine ⟨fun c => ?_, by simp, fun _ => idle⟩
    simp [all, eq_comm]
  · obtain ⟨rfl, rfl⟩ := (here c x).mp installed
    refine ⟨mem_cons_self, Nat.lt_succ_self _, rfl, ?_⟩
    rintro (cancelled | ended)
    · exact Nat.lt_irrefl _ (holds.numbered _ cancelled)
    · exact Nat.lt_irrefl _ (holds.past is ended)
  · exact Nat.lt_succ_of_lt (holds.numbered x member)
  · exact .inl (holds.past is member)
  · rcases mem_cons.mp born with rfl | old
    · exact .inl ⟨_, (here c _).mpr ⟨rfl, rfl⟩⟩
    · refine .inr ((holds.custody c old).resolve_left ?_)
      rintro ⟨x, installed⟩
      exact empty c x installed
  · obtain ⟨born, state⟩ := holds.returned handout member
    refine ⟨mem_cons_of_mem conn born, .inr ⟨fun x installed => new ?_, ?_⟩⟩
    · exact ((here _ x).mp installed).1 ▸ born
    · exact (state.resolve_left (empty _ _)).2
  · cases at_
    cases has'
    show state.sharedClaimed = !(s.log.created conn).isEmpty
    rw [ok.unclaimed has, notTold]
    rfl

end Operations

/-! ### The dials -/

/-- **One dial for each state**, which the current state knows of. -/
structure Dialing (s : SharedSystem Caller T) : Prop where
  past : ∀ dial ∈ s.dials, dial.generation ≤ s.pool.generation
  once : (s.dials.map (·.generation)).Nodup
  current : ∀ dial ∈ s.dials, dial.generation = s.pool.generation →
    ∀ state, s.pool.state = some state → state.connecting = some dial.connect

section Steps

variable {s after : SharedSystem Caller T}

theorem Dialing.keep (dialing : Dialing s) (dials : after.dials = s.dials)
    (generation : after.pool.generation = s.pool.generation) (connecting : ∀ state', after.pool.state = some state' →
      ∃ state, s.pool.state = some state ∧ state'.connecting = state.connecting) : Dialing after := by
  refine ⟨by rw [dials, generation]; exact dialing.past, by rw [dials]; exact dialing.once, ?_⟩
  intro dial member same state' is'
  obtain ⟨state, is, eq⟩ := connecting state' is'
  rw [dials] at member
  rw [eq]
  exact dialing.current dial member (same.trans generation) state is

theorem Dialing.leave (dialing : Dialing s) (dials : after.dials = s.dials)
    (next : s.pool.generation < after.pool.generation ∨
      after.pool.generation = s.pool.generation ∧ after.pool.state = none) : Dialing after := by
  refine ⟨fun dial member => ?_, by rw [dials]; exact dialing.once, fun dial member same state is => ?_⟩
  · rw [dials] at member
    have old := dialing.past dial member
    rcases next with later | ⟨eq, -⟩
    · exact Nat.le_of_lt (Nat.lt_of_le_of_lt old later)
    · rw [eq]
      exact old
  · rw [dials] at member
    rcases next with later | ⟨-, none⟩
    · have old := dialing.past dial member
      rw [same] at old
      exact absurd later (Nat.not_lt.mpr old)
    · cases none.symm.trans is

variable [DecidableEq Caller] [DecidableEq T]

/-- **What a critical section does** to the pool and to what has happened. -/
inductive SharedSystem.Moves (s : SharedSystem Caller T) : SharedSystem Caller T → Prop
  | stay : s.Moves s
  | goTo {after : SharedSystem Caller T} (moves : s.Moves after) (caller : Caller) (point : SharedPoint T) :
    s.Moves (after.goTo caller point)
  | pass (conn : T) : s.Moves (s.pass conn)
  | claim {state : SharedState T} {shared : SharedConn T} (is : s.pool.state = some state)
      (has : state.shared = some shared) (caller : Caller) : s.Moves (s.claim caller state shared)
  | drop {state : SharedState T} {conn : T} {ctx : ConnCtx} (is : s.pool.state = some state)
      (has : state.shared = some ⟨conn, ctx⟩) : s.Moves (s.drop state conn)
  | closeState {state : SharedState T} {pool : SharedPool T} (is : s.pool.state = some state)
      (next : pool = ⟨s.pool.generation + 1, some {}⟩ ∨ pool = ⟨s.pool.generation, none⟩) :
    s.Moves (s.closeState state pool)
  /-- A dial is started only if the state has no other. -/
  | dial {state : SharedState T} (is : s.pool.state = some state) (has : state.shared = none)
      (idle : state.connecting = none) :
    s.Moves { s.write ⟨state.all, none, state.sharedClaimed, some s.connectCount⟩ with
      dials        := ⟨s.pool.generation, s.connectCount⟩ :: s.dials
      connectCount := s.connectCount + 1 }

namespace SharedSystem.Moves

theorem acquireShared (caller : Caller) (alive : Bool) : s.Moves (s.acquireShared caller alive) := by
  fun_cases SharedSystem.acquireShared s caller alive with
  | case1 | case4 => exact .goTo .stay caller _
  | case2 current is shared has => exact .goTo (.claim is has caller) caller .ready
  | case3 current is shared has => exact .drop is has
  | case5 current is has idle =>
    obtain ⟨all, shared, claimed, connecting⟩ := current
    cases has
    exact .goTo (.dial is rfl idle) caller (.wait s.pool.generation s.connectCount true)

theorem collectShared (caller : Caller) (generation connect : Nat) (startDial alive : Bool) :
    s.Moves (s.collectShared caller generation connect startDial alive) := by
  fun_cases SharedSystem.collectShared s caller generation connect startDial alive with
  | case1 | case2 | case3 | case4 => exact .goTo .stay caller _
  | case5 _ current is _ shared has => exact .goTo (.claim is has caller) caller .ready
  | case6 _ current is _ shared has => exact .goTo (.drop is has) caller .acquire

theorem drop_tracked (holds : s.Holds) {state : SharedState T} {conn : T} (is : s.pool.state = some state)
    (tracked : conn ∈ state.all) : s.Moves (s.drop state conn) := by
  obtain ⟨ctx, has⟩ := ((holds.ok state is).tracked conn).mp tracked
  exact .drop is has

theorem invalidate (holds : s.Holds) (conn : T) : s.Moves (s.invalidate conn) := by
  fun_cases SharedSystem.invalidate s conn with
  | case1 => exact .pass conn
  | case2 => exact .stay
  | case3 state is tracked => exact drop_tracked holds is (not_not.mp tracked)

theorem release (holds : s.Holds) (conn : T) (reuse alive : Bool) : s.Moves (s.release conn reuse alive) := by
  fun_cases SharedSystem.release s conn reuse alive with
  | case1 | case2 => exact .pass conn
  | case3 state is tracked => exact drop_tracked holds is (not_not.mp tracked)
  | case4 => exact .stay

theorem reset : s.Moves s.reset := by
  fun_cases SharedSystem.reset s with
  | case1 => exact .stay
  | case2 state is => exact .closeState is (.inl rfl)

theorem close : s.Moves s.close := by
  fun_cases SharedSystem.close s with
  | case1 => exact .stay
  | case2 state is => exact .closeState is (.inr rfl)

theorem critical (holds : s.Holds) (caller : Caller) (alive : Bool) : s.Moves (s.critical caller alive) := by
  unfold SharedSystem.critical
  split
  · exact acquireShared caller alive
  · exact collectShared caller _ _ _ alive
  · exact .goTo .stay caller _
  · exact .goTo (invalidate holds _) caller .ready
  · exact .goTo (release holds _ _ alive) caller .ready
  · exact .goTo reset caller .ready
  · exact .goTo close caller .ready
  · exact .stay
  · exact .stay

theorem start (caller : Caller) (point : SharedPoint T) : s.Moves (s.start caller point) := by
  unfold SharedSystem.start
  split <;> first | exact .goTo .stay caller _ | exact .stay

theorem select (caller : Caller) (case : SelectCase) : s.Moves (s.select caller case) := by
  fun_cases SharedSystem.select s caller case with
  | case1 | case3 | case4 => exact .goTo .stay caller _
  | case2 | case5 | case6 => exact .stay

end SharedSystem.Moves

structure SharedSystem.Sound (s : SharedSystem Caller T) : Prop where
  holds : s.Holds
  dialing : Dialing s

namespace SharedSystem.Sound

variable {state : SharedState T}

theorem moves (sound : s.Sound) (moves : s.Moves after) : after.Sound := by
  induction moves with
  | stay => exact sound
  | goTo _ caller point ih => exact ⟨ih.holds, ih.dialing.keep rfl rfl fun state is => ⟨state, is, rfl⟩⟩
  | pass conn => exact ⟨sound.holds.pass conn, sound.dialing.keep rfl rfl fun state is => ⟨state, is, rfl⟩⟩
  | claim is has caller =>
    refine ⟨sound.holds.claim is has caller, sound.dialing.keep rfl rfl fun state' is' => ?_⟩
    cases is'
    exact ⟨_, is, rfl⟩
  | drop is has =>
    refine ⟨sound.holds.drop is has, sound.dialing.keep rfl rfl fun state' is' => ?_⟩
    cases is'
    refine ⟨_, is, ?_⟩
    rw [removeConn_shared (sound.holds.ok _ is) has]
  | closeState is next =>
    refine ⟨sound.holds.closeState is next, sound.dialing.leave rfl ?_⟩
    rcases next with rfl | rfl
    · exact .inl (Nat.lt_succ_self _)
    · exact .inr ⟨rfl, rfl⟩
  | @dial state is has idle =>
    have ok := sound.holds.ok state is
    have ok' : SharedState.Ok ⟨state.all, none, state.sharedClaimed, some s.connectCount⟩ :=
      ⟨has ▸ ok.tracked, fun _ => ok.unclaimed has, by simp⟩
    refine ⟨sound.holds.write is ok' has.symm rfl, fun dial member => ?_, ?_, fun dial member same state is' => ?_⟩
    · rcases mem_cons.mp member with rfl | old
      · exact Nat.le_refl _
      · exact sound.dialing.past dial old
    · refine nodup_cons.mpr ⟨fun member => ?_, sound.dialing.once⟩
      obtain ⟨dial, old, same⟩ := mem_map.mp member
      cases idle.symm.trans (sound.dialing.current dial old same _ is)
    · cases is'
      rcases mem_cons.mp member with rfl | old
      · rfl
      · cases idle.symm.trans (sound.dialing.current dial old same _ is)

theorem connectSingle_cases (generation : Nat) (result : SharedDialResult T) :
    (s.connectSingle generation result).1 = s.endConnecting generation ∨ (∃ conn, result.conn = some conn ∧
      (s.connectSingle generation result).1 = (s.endConnecting generation).reject conn) ∨
    ∃ conn state, result.conn = some conn ∧ (s.endConnecting generation).pool.state = some state ∧
      (s.endConnecting generation).pool.generation = generation ∧
      (s.connectSingle generation result).1 = (s.endConnecting generation).install state conn := by
  fun_cases SharedSystem.connectSingle s generation result with
  | case1 | case2 => exact .inl rfl
  | case3 | case4 | case5 => exact .inr (.inl ⟨_, rfl, rfl⟩)
  | case6 ended conn state is current => exact .inr (.inr ⟨conn, state, rfl, is, not_not.mp current, rfl⟩)

theorem endConnecting_of_ne {generation : Nat} (past : s.pool.generation ≠ generation) :
    s.endConnecting generation = s := by
  fun_cases endConnecting s generation with
  | case1 _ _ current => exact absurd current past
  | case2 | case3 => rfl

theorem generation_endConnecting (generation : Nat) :
    (s.endConnecting generation).pool.generation = s.pool.generation := by
  fun_cases endConnecting s generation <;> rfl

theorem log_endConnecting (generation : Nat) : (s.endConnecting generation).log = s.log := by
  fun_cases endConnecting s generation <;> rfl

theorem generation_connectSingle (generation : Nat) (result : SharedDialResult T) :
    (s.connectSingle generation result).1.pool.generation = s.pool.generation := by
  rcases @connectSingle_cases _ _ s _ _ generation result with
    done | ⟨conn, -, done⟩ | ⟨conn, state, -, -, -, done⟩
  all_goals
    rw [done]
    exact generation_endConnecting generation

theorem pool_connectSingle {generation : Nat} (past : s.pool.generation ≠ generation)
    (result : SharedDialResult T) : (s.connectSingle generation result).1.pool = s.pool := by
  rcases @connectSingle_cases _ _ s _ _ generation result with
    done | ⟨conn, -, done⟩ | ⟨conn, state, -, -, current, -⟩
  · rw [done, endConnecting_of_ne past]
  · rw [done, endConnecting_of_ne past]
    rfl
  · rw [generation_endConnecting] at current
    exact absurd current past

variable (sound : s.Sound)

include sound

theorem endConnecting (generation : Nat) : (s.endConnecting generation).Holds := by
  fun_cases SharedSystem.endConnecting s generation with
  | case1 state is =>
    have ok := sound.holds.ok state is
    exact sound.holds.write is ⟨ok.tracked, ok.unclaimed, fun _ => rfl⟩ rfl rfl
  | case2 | case3 => exact sound.holds

theorem free_of_dial {dial : SharedDial} (runs : dial ∈ s.dials) (current : s.pool.generation = dial.generation)
    (is : (s.endConnecting dial.generation).pool.state = some state) :
    state.shared = none ∧ state.connecting = none := by
  revert is
  fun_cases SharedSystem.endConnecting s dial.generation with
  | case2 _ _ past => exact absurd current past
  | case3 before =>
    intro is
    cases before.symm.trans is
  | case1 old before =>
    rintro ⟨⟩
    refine ⟨?_, rfl⟩
    have dialing := sound.dialing.current dial runs current.symm old before
    by_contra has
    have none := (sound.holds.ok old before).connecting (Option.isSome_iff_ne_none.mpr has)
    cases none.symm.trans dialing

theorem connectSingle {dial : SharedDial} (runs : dial ∈ s.dials) {result : SharedDialResult T}
    (new : ∀ conn, result.conn = some conn → conn ∉ s.log.dialed) :
    (s.connectSingle dial.generation result).1.Holds := by
  have ended := sound.endConnecting dial.generation
  rcases @connectSingle_cases _ _ s _ _ dial.generation result with
    done | ⟨conn, -, done⟩ | ⟨conn, state, brings, is, current, done⟩
  · rw [done]
    exact ended
  · rw [done]
    exact ended.reject conn
  rw [generation_endConnecting] at current
  obtain ⟨free, idle⟩ := sound.free_of_dial runs current is
  rw [done]
  refine ended.install is free idle ?_
  rw [log_endConnecting]
  exact new conn brings

theorem dialEnds (connect : Nat) (result : SharedDialResult T) : (s.dialEnds connect result).Sound := by
  fun_cases SharedSystem.dialEnds s connect result with
  | case1 | case2 => exact sound
  | case3 dial found old =>
    have runs := mem_of_find?_eq_some found
    have named : dial.connect = connect := by simpa using find?_some found
    have new conn is : conn ∉ s.log.dialed := fun member =>
      old ⟨conn, member, is⟩
    refine ⟨sound.connectSingle runs new, fun other member => ?_, ?_, fun other member same state is => ?_⟩
    · rw [generation_connectSingle]
      exact sound.dialing.past other (mem_of_mem_filter member)
    · exact (filter_sublist.map _).nodup sound.dialing.once
    obtain ⟨member, differs⟩ := mem_filter.mp member
    rw [generation_connectSingle] at same
    -- the dial that ends is not the one of the current state
    have past : s.pool.generation ≠ dial.generation := by
      intro current
      have eq := inj_on_of_nodup_map sound.dialing.once member runs (same.trans current)
      simp [eq, named] at differs
    rw [pool_connectSingle past] at is
    exact sound.dialing.current other member same state is

theorem step (event : SharedEvent Caller T) : ((sharedPools Caller T).step s event).1.Sound := by
  cases event with
  | start caller point => exact sound.moves (.start caller point)
  | critical caller alive => exact sound.moves (.critical sound.holds caller alive)
  | select caller case => exact sound.moves (.select caller case)
  | dialed connect result => exact sound.dialEnds connect result

end SharedSystem.Sound

/-! ### Cancelled contexts -/

def SharedSystem.Later (s after : SharedSystem Caller T) : Prop :=
  s.log.cancelled ⊆ after.log.cancelled ∧ s.log.ended ⊆ after.log.ended

namespace SharedSystem.Later

theorem same (log : after.log.cancelled = s.log.cancelled ∧ after.log.ended = s.log.ended) : s.Later after := by
  rw [Later, log.1, log.2]
  exact ⟨.refl _, .refl _⟩

theorem cancelled (later : s.Later after) {ctx : ConnCtx} (is : s.log.Cancelled ctx) : after.log.Cancelled ctx :=
  is.imp (fun one => later.1 one) fun one => later.2 one

theorem moves (moves : s.Moves after) : s.Later after := by
  induction moves with
  | goTo _ _ _ ih => exact ih
  | drop => exact ⟨subset_append_right _ _, .refl _⟩
  | closeState => exact ⟨.refl _, subset_cons_self _ _⟩
  | stay | pass | claim | dial => exact same ⟨rfl, rfl⟩

theorem dialEnds (connect : Nat) (result : SharedDialResult T) : s.Later (s.dialEnds connect result) := by
  fun_cases SharedSystem.dialEnds s connect result with
  | case1 | case2 => exact same ⟨rfl, rfl⟩
  | case3 dial =>
    have log := @SharedSystem.Sound.log_endConnecting _ _ s _ _ dial.generation
    rcases @SharedSystem.Sound.connectSingle_cases _ _ s _ _ dial.generation result with
      done | ⟨conn, -, done⟩ | ⟨conn, state, -, -, -, done⟩
    all_goals
      refine same ?_
      simp +zetaDelta [done, log, reject, install, write]

/-- **No step takes a cancellation back.** -/
theorem step (holds : s.Holds) (event : SharedEvent Caller T) : s.Later ((sharedPools Caller T).step s event).1 := by
  cases event with
  | start caller point => exact moves (.start caller point)
  | critical caller alive => exact moves (.critical holds caller alive)
  | select caller case => exact moves (.select caller case)
  | dialed connect result => exact dialEnds connect result

end SharedSystem.Later

/-! ### Every run -/

/-- After `Invalidate` the connection is not the one of the pool. -/
theorem not_installed_invalidate (sound : s.Sound) (conn : T) (ctx : ConnCtx) :
    ¬(s.invalidate conn).pool.Installed conn ctx := by
  fun_cases invalidate s conn with
  | case1 is =>
    rintro ⟨state, at_, -⟩
    cases is.symm.trans at_
  | case2 state is untracked =>
    rintro ⟨after, at_, shared⟩
    cases is.symm.trans at_
    exact untracked (((sound.holds.ok state is).tracked conn).mpr ⟨ctx, shared⟩)
  | case3 state is tracked =>
    have ok := sound.holds.ok state is
    obtain ⟨ctx', has⟩ := (ok.tracked conn).mp (not_not.mp tracked)
    rintro ⟨after, at_, shared⟩
    cases at_
    rw [removeConn_shared ok has] at shared
    cases shared

theorem returned_ended : s.reset.log.returned = s.log.returned ∧ s.close.log.returned = s.log.returned := by
  unfold reset close
  cases s.pool.state <;> exact ⟨rfl, rfl⟩

/-- After `Reset` and after `Close` the pool has no connection. -/
theorem not_installed_ended (conn : T) (ctx : ConnCtx) :
    ¬s.reset.pool.Installed conn ctx ∧ ¬s.close.pool.Installed conn ctx := by
  unfold reset close
  cases is : s.pool.state with
  | none =>
    refine ⟨?_, ?_⟩ <;>
    · rintro ⟨state, at_, -⟩
      cases is.symm.trans at_
  | some state =>
    refine ⟨?_, ?_⟩
    · rintro ⟨after, at_, shared⟩
      cases at_
      cases shared
    · rintro ⟨after, at_, -⟩
      cases at_

theorem sound_run (events : List (SharedEvent Caller T)) : ((sharedPools Caller T).run {} events).Sound :=
  (sharedPools Caller T).run_invariant (fun _ s => s.Sound) ⟨holds_initial, by simp, by simp, by simp⟩
    (fun _ _ event sound => sound.step event) events

/-- **One owner for each connection**, for every interleaving and every end of the dials: no state has two dials, the
first that gets a connection is told so and no other, all get the same context, which is cancelled when the pool gives
the connection up and not before, and what a dial has returned is in the pool or closed. -/
theorem sharedPools_sound (events : List (SharedEvent Caller T)) :
    let s := (sharedPools Caller T).run {} events
    (∀ generation, (s.dials.filter (·.generation = generation)).length ≤ 1) ∧
    (∀ conn, FirstOnly (s.log.created conn)) ∧
    (∀ one ∈ s.log.returned, ∀ other ∈ s.log.returned, one.conn = other.conn → one.ctx = other.ctx) ∧
    (∀ conn ctx, s.pool.Installed conn ctx → ¬s.log.Cancelled ctx) ∧
    (∀ caller alive conn, s.calls caller = .invalidate conn →
      ∀ handout ∈ s.log.returned, handout.conn = conn → (s.critical caller alive).log.Cancelled handout.ctx) ∧
    (∀ caller alive, s.calls caller = .reset ∨ s.calls caller = .close →
      ∀ handout ∈ s.log.returned, (s.critical caller alive).log.Cancelled handout.ctx) ∧
    (∀ event ctx, s.log.Cancelled ctx → ((sharedPools Caller T).step s event).1.log.Cancelled ctx) ∧
    ∀ conn ∈ s.log.dialed, (∃ ctx, s.pool.Installed conn ctx) ∨ conn ∈ s.log.passed := by
  intro s
  have sound := sound_run events
  -- a caller's connection that is not in the pool has a cancelled context
  have cancelled {after : SharedSystem Caller T} (moves : s.Moves after)
      (same : after.log.returned = s.log.returned) {handout : Handout Caller T} (member : handout ∈ s.log.returned)
      (gone : ∀ ctx, ¬after.pool.Installed handout.conn ctx) : after.log.Cancelled handout.ctx :=
    (((sound.moves moves).holds.returned handout (same ▸ member)).2.resolve_left (gone _)).2
  refine ⟨fun generation => ?_, sound.holds.first, sound.holds.sameCtx,
    fun conn ctx is => (sound.holds.installed conn ctx is).2.2.2, fun caller alive conn at_ handout member same => ?_,
    fun caller alive at_ handout member => ?_, fun event ctx is => (SharedSystem.Later.step sound.holds event).cancelled is,
    sound.holds.custody⟩
  · have once := nodup_iff_count_le_one.mp sound.dialing.once generation
    rw [count, countP_map, countP_eq_length_filter] at once
    exact once
  · simp only [critical, at_]
    exact cancelled (.invalidate sound.holds conn) (by fun_cases invalidate s conn <;> rfl) member fun ctx =>
      same ▸ not_installed_invalidate sound conn ctx
  · rcases at_ with at_ | at_
    · simp only [critical, at_]
      exact cancelled .reset returned_ended.1 member fun ctx => (not_installed_ended _ ctx).1
    · simp only [critical, at_]
      exact cancelled .close returned_ended.2 member fun ctx => (not_installed_ended _ ctx).2

end Steps

end SingBox.Dns
