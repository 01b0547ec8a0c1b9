/-
**Who owns the connections of the ordered pool** (`dns/transport/conn_pool.go`).

Each connection is at one place (`Place`): not dialed yet, with a caller, idle, or gone. `Refines` connects the places
with the pool and the calls: each step moves connections in the allowed ways only (`Move`). `connPools` has the
callbacks as steps of their own; in `lockPools` a call closes its connections right after it has given the lock back.
-/

import SingBox.Dns.ConnPool

set_option linter.unusedSectionVars false

namespace SingBox.Dns

open SingBox.Lib Function List

variable {Caller T : Type}

/-! ### Places -/

inductive Place (Caller : Type) where
  | unborn
  | held (caller : Caller)
  | idle
  | gone
  deriving DecidableEq

/-- **The ways of a connection.** It goes from one caller to another only over the idle list. -/
inductive Move : Place Caller → Place Caller → Prop where
  | stay (place : Place Caller) : Move place place
  | dial (caller : Caller) : Move .unborn (.held caller)
  | reject : Move .unborn .gone
  | release (caller : Caller) : Move (.held caller) .idle
  | drop (caller : Caller) : Move (.held caller) .gone
  | handOut (caller : Caller) : Move .idle (.held caller)
  | discard : Move .idle .gone

namespace Place

/-- A place after the state of the pool has been taken away. -/
def swept : Place Caller → Place Caller
  | idle => gone
  | place => place

theorem swept_eq_held {place : Place Caller} {caller : Caller} : place.swept = held caller ↔ place = held caller := by
  cases place <;> simp [swept]

theorem move_swept (place : Place Caller) : Move place place.swept := by
  cases place with
  | idle => exact .discard
  | _ => exact .stay _

end Place

open PoolSystem ConnPool

namespace PoolSystem

def own (s : PoolSystem Caller T) (caller : Caller) : List T := s.held caller ++ (s.calls caller).inHand

/-- The connection has been passed to `Close`, or a call is going to do so. -/
def Disposed (s : PoolSystem Caller T) (conn : T) : Prop :=
  conn ∈ s.passed ∨ ∃ caller, conn ∈ (s.calls caller).toClose

/-- **The places of the connections in a state of the system.** A held connection is tracked, unless its
call has not installed it yet, or `Reset` or `Close` has taken the state that tracked it. -/
structure Refines (s : PoolSystem Caller T) (place : T → Place Caller) : Prop where
  consistent : s.pool.Consistent
  own_iff : ∀ caller conn, conn ∈ s.own caller ↔ place conn = .held caller
  once : ∀ caller, (s.own caller).Nodup
  idle_iff : ∀ conn, s.pool.Idle conn ↔ place conn = .idle
  dialed_iff : ∀ conn, conn ∈ s.dialed ↔ place conn ≠ .unborn
  gone : ∀ conn, place conn = .gone → s.Disposed conn
  tracked : ∀ caller conn, place conn = .held caller →
    (∃ generation, s.calls caller = .install generation conn) ∨ s.pool.Tracked conn ∨ s.Disposed conn

section

variable {s : PoolSystem Caller T} {place : T → Place Caller} (refines : s.Refines place) {conn : T}

include refines

theorem Refines.exclusive {a b : Caller} (mine : conn ∈ s.own a) (yours : conn ∈ s.own b) : a = b := by
  rw [refines.own_iff] at mine yours
  exact Place.held.inj (mine.symm.trans yours)

theorem Refines.custody (born : conn ∈ s.dialed) : (∃ a, conn ∈ s.own a) ∨ s.pool.Idle conn ∨ s.Disposed conn := by
  cases is : place conn with
  | unborn => exact absurd is ((refines.dialed_iff conn).mp born)
  | held a => exact .inl ⟨a, (refines.own_iff a conn).mpr is⟩
  | idle => exact .inr (.inl ((refines.idle_iff conn).mpr is))
  | gone => exact .inr (.inr (refines.gone conn is))

end

theorem refines_initial : Refines ({} : PoolSystem Caller T) fun _ => .unborn where
  consistent := consistent_some.mpr ⟨IndexedList.consistent_empty, by simp⟩
  own_iff caller conn := by simp [own, Point.inHand]
  once caller := by simp [own, Point.inHand]
  idle_iff conn := by simp [ConnPool.Idle]
  dialed_iff conn := by simp
  gone conn at_ := by cases at_
  tracked caller conn at_ := by cases at_

variable [DecidableEq Caller]

def turn (s : PoolSystem Caller T) (caller : Caller) (point : Point T) (held : List T) (pool : ConnPool T)
    (dialed passed : List T) : PoolSystem Caller T :=
  { s.set caller point held with pool, dialed, passed }

section Turn

variable {s : PoolSystem Caller T} {place place' : T → Place Caller} {caller : Caller} {point : Point T}
  {held dialed passed : List T} {pool : ConnPool T}

theorem own_turn_self : (s.turn caller point held pool dialed passed).own caller = held ++ point.inHand := by
  simp [own, turn, set]

theorem own_turn_of_ne {other : Caller} (differs : other ≠ caller) :
    (s.turn caller point held pool dialed passed).own other = s.own other := by
  simp [own, turn, set, differs]

theorem disposed_turn (passes : s.passed ⊆ passed)
    (closes : ∀ conn ∈ (s.calls caller).toClose, conn ∈ point.toClose ∨ conn ∈ passed) {conn : T}
    (disposed : s.Disposed conn ∨ conn ∈ point.toClose) :
    (s.turn caller point held pool dialed passed).Disposed conn := by
  have here pending : (s.turn caller point held pool dialed passed).Disposed conn :=
    .inr ⟨caller, by simpa [turn, set] using pending⟩
  rcases disposed with (done | ⟨other, pending⟩) | pending
  · exact .inl (passes done)
  · by_cases same : other = caller
    · rw [same] at pending
      exact (closes conn pending).elim here .inl
    · exact .inr ⟨other, by simpa [turn, set, same] using pending⟩
  · exact here pending

/-- **A step of one caller.** What is to be shown for its connections and for those that move. -/
theorem Refines.turn (refines : s.Refines place) (consistent : pool.Consistent)
    (others : ∀ other ≠ caller, ∀ conn, place' conn = .held other ↔ place conn = .held other)
    (mine : ∀ conn, conn ∈ held ++ point.inHand ↔ place' conn = .held caller)
    (once : (held ++ point.inHand).Nodup)
    (idle : ∀ conn, pool.Idle conn ↔ place' conn = .idle)
    (born : ∀ conn, conn ∈ dialed ↔ place' conn ≠ .unborn)
    (passes : s.passed ⊆ passed)
    (closes : ∀ conn ∈ (s.calls caller).toClose, conn ∈ point.toClose ∨ conn ∈ passed)
    (gone : ∀ conn, place' conn = .gone → s.Disposed conn ∨ conn ∈ point.toClose)
    (keeps : ∀ other ≠ caller, ∀ conn, place conn = .held other → s.pool.Tracked conn →
      pool.Tracked conn ∨ conn ∈ point.toClose)
    (tracked : ∀ conn, place' conn = .held caller → (∃ generation, point = .install generation conn) ∨
      pool.Tracked conn ∨ s.Disposed conn ∨ conn ∈ point.toClose) :
    (s.turn caller point held pool dialed passed).Refines place' where
  consistent := consistent
  own_iff other conn := by
    by_cases same : other = caller
    · rw [same, own_turn_self, mine]
    · rw [own_turn_of_ne same, refines.own_iff, others other same]
  once other := by
    by_cases same : other = caller
    · rw [same, own_turn_self]
      exact once
    · rw [own_turn_of_ne same]
      exact refines.once other
  idle_iff := idle
  dialed_iff := born
  gone conn is := disposed_turn passes closes (gone conn is)
  tracked other conn is := by
    have kept := @disposed_turn _ _ _ s caller point held dialed passed pool passes closes conn
    by_cases same : other = caller
    · subst same
      rcases tracked conn is with ⟨generation, at_⟩ | here | disposed
      · exact .inl ⟨generation, by simpa [turn, set] using at_⟩
      · exact .inr (.inl here)
      · exact .inr (.inr (kept disposed))
    · have before := (others other same conn).mp is
      rcases refines.tracked other conn before with ⟨generation, at_⟩ | here | disposed
      · exact .inl ⟨generation, by simpa [PoolSystem.turn, set, same] using at_⟩
      · rcases keeps other same conn before here with still | pending
        · exact .inr (.inl still)
        · exact .inr (.inr (kept (.inr pending)))
      · exact .inr (.inr (kept (.inl disposed)))

/-- **A step that moves no connection**: the caller goes on to another point. -/
theorem Refines.goOn (refines : s.Refines place) (same : (held ++ point.inHand).Perm (s.own caller))
    (notInstall : ∀ generation conn, s.calls caller ≠ .install generation conn) (passes : s.passed ⊆ passed)
    (closes : ∀ conn ∈ (s.calls caller).toClose, conn ∈ point.toClose ∨ conn ∈ passed) :
    (s.turn caller point held s.pool s.dialed passed).Refines place := by
  refine refines.turn refines.consistent (fun _ _ _ => .rfl) (fun conn => ?_)
    (same.nodup_iff.mpr (refines.once caller)) refines.idle_iff refines.dialed_iff passes closes
    (fun conn is => .inl (refines.gone conn is)) (fun _ _ _ _ => .inl) fun conn is => ?_
  · rw [same.mem_iff, refines.own_iff]
  rcases refines.tracked caller conn is with ⟨generation, at_⟩ | here | disposed
  · exact absurd at_ (notInstall generation conn)
  · exact .inr (.inl here)
  · exact .inr (.inr (.inl disposed))

end Turn

/-! ### The steps -/

/-- A state whose places are reached by allowed moves. -/
def Leads (place : T → Place Caller) (s : PoolSystem Caller T) : Prop :=
  ∃ place', s.Refines place' ∧ ∀ conn, Move (place conn) (place' conn)

structure Moves (s : PoolSystem Caller T) (place : T → Place Caller) (caller : Caller) (conn : T) : Prop where
  closes : (s.calls caller).toClose = []
  hand : (s.calls caller).inHand = [conn] ∨ (s.calls caller).inHand = [] ∧ (place conn = .idle ∨ place conn = .unborn)

section Steps

variable {s : PoolSystem Caller T} {place : T → Place Caller} {caller : Caller} {conn : T}
  {target : Place Caller} {point : Point T} {held dialed : List T} {pool : ConnPool T}
  (refines : s.Refines place)

include refines

theorem Refines.stays : s.Leads place :=
  ⟨place, refines, fun conn => .stay (place conn)⟩

theorem Refines.place_of_hand (hand : (s.calls caller).inHand = [conn]) : place conn = .held caller := by
  rw [← refines.own_iff, own, hand]
  simp

namespace Moves

variable (moves : s.Moves place caller conn)

include moves

theorem notHeld : conn ∉ s.held caller := by
  have once := refines.once caller
  intro held
  rcases moves.hand with hand | ⟨-, free⟩
  · rw [own, hand, nodup_append] at once
    exact once.2.2 conn held conn (by simp) rfl
  · have is := (refines.own_iff caller conn).mp (mem_append_left _ held)
    rw [is] at free
    simp at free

omit refines in
theorem own_iff {c : T} (differs : c ≠ conn) : c ∈ s.own caller ↔ c ∈ s.held caller := by
  rcases moves.hand with hand | ⟨hand, -⟩
  · simp [own, hand, differs]
  · simp [own, hand]

theorem notOthers {other : Caller} (differs : other ≠ caller) : place conn ≠ .held other := by
  intro is
  rcases moves.hand with hand | ⟨-, free⟩
  · rw [refines.place_of_hand hand] at is
    cases is
    exact differs rfl
  · rw [is] at free
    simp at free

theorem toHeld : Move (place conn) (.held caller) := by
  rcases moves.hand with hand | ⟨-, idle | unborn⟩
  · rw [refines.place_of_hand hand]
    exact .stay _
  · rw [idle]
    exact .handOut caller
  · rw [unborn]
    exact .dial caller

theorem toGone : Move (place conn) .gone := by
  rcases moves.hand with hand | ⟨-, idle | unborn⟩
  · rw [refines.place_of_hand hand]
    exact .drop caller
  · rw [idle]
    exact .discard
  · rw [unborn]
    exact .reject

end Moves

variable [DecidableEq T]

section

variable (moves : s.Moves place caller conn)

include moves

theorem Refines.move (move : Move (place conn) target) (consistent : pool.Consistent)
    (notOthers : ∀ other ≠ caller, target ≠ .held other) (born : target ≠ .unborn) (mine : (held ++ point.inHand).Perm
      (if target = .held caller then conn :: s.held caller else s.held caller))
    (idle : ∀ c, pool.Idle c ↔ if c = conn then target = .idle else s.pool.Idle c)
    (dials : ∀ c, c ∈ dialed ↔ c = conn ∨ c ∈ s.dialed) (gone : target = .gone → s.Disposed conn ∨ conn ∈ point.toClose)
    (keeps : ∀ c ≠ conn, s.pool.Tracked c → pool.Tracked c)
    (tracked : target = .held caller → (∃ generation, point = .install generation conn) ∨ pool.Tracked conn) :
    (s.turn caller point held pool dialed s.passed).Leads place := by
  have notHeld := moves.notHeld refines
  have once : (s.held caller).Nodup := (nodup_append.mp (refines.once caller)).1
  refine ⟨update place conn target, refines.turn consistent (fun other differs c => ?_) (fun c => ?_)
    (mine.nodup_iff.mpr ?_) (fun c => ?_) (fun c => ?_) (.refl _) (by simp [moves.closes])
    (fun c is => ?_) (fun other differs c is here => .inl (keeps c ?_ here)) fun c is => ?_, fun c => ?_⟩
  all_goals try by_cases same : c = conn
  -- what the other callers hold
  · simp [same, moves.notOthers refines differs, notOthers other differs]
  · rw [update_of_ne same]
  -- what the caller holds
  · rw [mine.mem_iff]
    split_ifs <;> simp_all
  · rw [mine.mem_iff, update_of_ne same, ← refines.own_iff, moves.own_iff same]
    split_ifs <;> simp [same]
  · split_ifs
    · exact nodup_cons.mpr ⟨notHeld, once⟩
    · exact once
  · simp [idle, same]
  · simp [idle, same, refines.idle_iff]
  · simp [dials, same, born]
  · simp [dials, same, refines.dialed_iff]
  · subst same
    exact gone (by simpa using is)
  · exact .inl (refines.gone c (by simpa [same] using is))
  · exact absurd is (same ▸ moves.notOthers refines differs)
  · exact same
  · subst same
    exact (tracked (by simpa using is)).imp_right .inl
  · rcases refines.tracked caller c (by simpa [same] using is) with ⟨generation, at_⟩ | here | disposed
    · have hand := moves.hand
      rw [at_] at hand
      exact absurd (by simpa [Point.inHand] using hand) same
    · exact .inr (.inl (keeps c same here))
    · exact .inr (.inr (.inl disposed))
  · rw [same, update_self]
    exact move
  · rw [update_of_ne same]
    exact .stay (place c)

theorem Refines.gets (consistent : pool.Consistent) (idle : ∀ c, pool.Idle c ↔ s.pool.Idle c ∧ c ≠ conn)
    (mine : (held ++ point.inHand).Perm (conn :: s.held caller)) (dials : ∀ c, c ∈ dialed ↔ c = conn ∨ c ∈ s.dialed)
    (keeps : ∀ c ≠ conn, s.pool.Tracked c → pool.Tracked c)
    (tracked : (∃ generation, point = .install generation conn) ∨ pool.Tracked conn) :
    (s.turn caller point held pool dialed s.passed).Leads place := by
  refine refines.move moves (moves.toHeld refines) consistent (fun other differs => ?_) (by simp) ?_
    (fun c => ?_) dials (by simp) keeps fun _ => tracked
  · simpa using differs.symm
  · rw [if_pos rfl]
    exact mine
  · rw [idle]
    split_ifs <;> simp_all

theorem Refines.goes (loses : s.pool.Loses pool conn) (mine : point.inHand = [])
    (dials : ∀ c, c ∈ dialed ↔ c = conn ∨ c ∈ s.dialed) (gone : s.Disposed conn ∨ conn ∈ point.toClose) :
    (s.turn caller point (s.held caller) pool dialed s.passed).Leads place := by
  refine refines.move moves (moves.toGone refines) loses.consistent (by simp) (by simp) ?_ (fun c => ?_)
    dials (fun _ => gone) (fun c differs => (loses.tracked_iff c differs).mpr) (by simp)
  · simp [mine]
  · rw [loses.idle_iff]
    split_ifs <;> simp_all

end

namespace Refines

theorem next (hand : (s.calls caller).inHand = []) (closes : (s.calls caller).toClose = [])
    (mine : point.inHand = []) : (s.set caller point (s.held caller)).Leads place := by
  have notInstall generation c : s.calls caller ≠ .install generation c := by
    intro at_
    rw [at_] at hand
    cases hand
  have same : (s.held caller ++ point.inHand).Perm (s.own caller) := by rw [own, hand, mine]
  exact (refines.goOn same notInstall (.refl _) (by simp [closes])).stays

theorem born (conn : T) (is : place conn ≠ .unborn) (c : T) : c ∈ s.dialed ↔ c = conn ∨ c ∈ s.dialed := by
  refine (or_iff_right_of_imp ?_).symm
  rintro rfl
  exact (refines.dialed_iff c).mpr is

/-- The step of `acquireOrdered` that has the lock. -/
theorem acquire (at_ : s.calls caller = .acquire) (alive : Bool) : (s.critical caller alive).Leads place := by
  have hand := congrArg Point.inHand at_
  have closes := congrArg Point.toClose at_
  rcases acquireOrdered_cases refines.consistent alive with
    done | ⟨generation, done⟩ | ⟨after, conn, idle, loses, tracked, done⟩
  · simp only [critical, at_, done]
    exact refines.next hand closes rfl
  · simp only [critical, at_, done]
    exact refines.next hand closes rfl
  have was := (refines.idle_iff conn).mp idle
  have moves : s.Moves place caller conn := ⟨closes, .inr ⟨hand, .inl was⟩⟩
  have born := refines.born conn (by simp [was])
  cases alive
  · simp only [critical, at_, done]
    exact refines.goes moves loses rfl born (.inr (by simp [Point.toClose]))
  simp only [critical, at_, done]
  refine refines.gets moves loses.consistent loses.idle_iff ?_ born
    (fun c differs => (loses.tracked_iff c differs).mpr) (.inr (tracked rfl))
  simp [Point.inHand]

theorem notIdle_of_hand (hand : (s.calls caller).inHand = [conn]) : ¬s.pool.Idle conn := by
  rw [refines.idle_iff, refines.place_of_hand hand]
  simp

theorem drops (hand : (s.calls caller).inHand = [conn]) (closes : (s.calls caller).toClose = [])
    (loses : s.pool.Loses pool conn) (mine : point.inHand = []) (gone : s.Disposed conn ∨ conn ∈ point.toClose) :
    (s.turn caller point (s.held caller) pool s.dialed s.passed).Leads place :=
  refines.goes ⟨closes, .inl hand⟩ loses mine (refines.born conn (by simp [refines.place_of_hand hand])) gone

/-- The step of `dialAndInstall` that has the lock. -/
theorem install {generation : Nat} (at_ : s.calls caller = .install generation conn)
    (alive : Bool) : (s.critical caller alive).Leads place := by
  have hand := congrArg Point.inHand at_
  have closes := congrArg Point.toClose at_
  have notIdle := refines.notIdle_of_hand hand
  rcases install_cases refines.consistent generation conn with done | ⟨after, has, done⟩
  · simp only [critical, at_, done]
    exact refines.drops hand closes (refines.consistent.loses notIdle) rfl (.inr (by simp [Point.toClose]))
  simp only [critical, at_, done]
  refine refines.gets ⟨closes, .inl hand⟩ has.consistent (fun c => ?_) (by simp [Point.inHand])
    (refines.born conn (by simp [refines.place_of_hand hand]))
    (fun c _ here => (has.tracked_iff c).mpr (.inl here)) (.inr ((has.tracked_iff conn).mpr (.inr rfl)))
  exact (has.idle_iff c).trans ((refines.consistent.loses notIdle).idle_iff c)

/-- The step of `Release` that has the lock. -/
theorem release {reuse : Bool} (at_ : s.calls caller = .release conn reuse) (alive : Bool) :
    (s.critical caller alive).Leads place := by
  have hand := congrArg Point.inHand at_
  have closes := congrArg Point.toClose at_
  have is := refines.place_of_hand hand
  have move : Move (place conn) .idle := is ▸ .release caller
  rcases release_cases refines.consistent (refines.notIdle_of_hand hand) reuse alive with
    ⟨after, loses, done⟩ | ⟨after, has, done⟩
  · simp only [critical, at_, done]
    exact refines.drops hand closes loses rfl (.inr (by simp [Point.toClose]))
  simp only [critical, at_, done]
  refine refines.move ⟨closes, .inl hand⟩ move has.consistent (by simp) (by simp)
    (by simp [Point.inHand]) (fun c => ?_) (refines.born conn (by simp [is])) (by simp)
    (fun c _ => (has.tracked_iff c).mpr) (by simp)
  rw [has.idle_iff]
  split_ifs <;> simp_all

/-- The step of `Invalidate` that has the lock. A connection that is not tracked is not closed by it: it
has been taken from the pool by `Reset`. -/
theorem invalidate (at_ : s.calls caller = .invalidate conn) (alive : Bool) :
    (s.critical caller alive).Leads place := by
  have hand := congrArg Point.inHand at_
  have closes := congrArg Point.toClose at_
  have notIdle := refines.notIdle_of_hand hand
  rcases invalidate_cases refines.consistent notIdle with
    ⟨after, loses, done⟩ | ⟨untracked, done⟩
  · simp only [critical, at_, done]
    exact refines.drops hand closes loses rfl (.inr (by simp [Point.toClose]))
  simp only [critical, at_, done]
  refine refines.drops hand closes (refines.consistent.loses notIdle) rfl (.inl ?_)
  rcases refines.tracked caller conn (refines.place_of_hand hand) with ⟨generation, other⟩ | here | disposed
  · rw [at_] at other
    cases other
  · exact absurd here untracked
  · exact disposed

/-- **The state is taken away**: nothing is idle, and all that was tracked is to be closed. -/
theorem sweeps {conns : List T} (hand : (s.calls caller).inHand = [])
    (closes : (s.calls caller).toClose = []) (empty : pool.With (fun _ => False) fun _ => False)
    (all : ∀ c, c ∈ conns ↔ s.pool.Tracked c) :
    (s.turn caller (.closing conns false) (s.held caller) pool s.dialed s.passed).Leads place := by
  have swept (c : T) (is : (place c).swept = .gone) : place c = .gone ∨ place c = .idle := by
    cases at_ : place c <;> simp_all [Place.swept]
  refine ⟨fun c => (place c).swept, refines.turn empty.consistent (fun other _ c => ?_) (fun c => ?_) ?_
    (fun c => ?_) (fun c => ?_) (.refl _) (by simp [closes]) (fun c is => ?_)
    (fun _ _ c _ here => .inr ((all c).mpr here)) (fun c is => ?_), fun c => ?_⟩
  · exact Place.swept_eq_held
  · rw [Place.swept_eq_held, ← refines.own_iff, own, hand]
    rfl
  · have once := refines.once caller
    rwa [own, hand] at once
  · rw [empty.idle_iff]
    cases place c <;> simp [Place.swept]
  · rw [refines.dialed_iff]
    cases place c <;> simp [Place.swept]
  · rcases swept c is with gone | idle
    · exact .inl (refines.gone c gone)
    · exact .inr ((all c).mpr (refines.consistent.tracked ((refines.idle_iff c).mpr idle)))
  · rcases refines.tracked caller c (Place.swept_eq_held.mp is) with ⟨generation, at_⟩ | here | disposed
    · rw [at_] at hand
      cases hand
    · exact .inr (.inr (.inr ((all c).mpr here)))
    · exact .inr (.inr (.inl disposed))
  · exact Place.move_swept (place c)

/-- **The steps that have the lock.** -/
theorem critical (caller : Caller) (alive : Bool) : (s.critical caller alive).Leads place := by
  cases at_ : s.calls caller with
  | acquire => exact refines.acquire at_ alive
  | install generation conn => exact refines.install at_ alive
  | release conn reuse => exact refines.release at_ alive
  | invalidate conn => exact refines.invalidate at_ alive
  | reset =>
    obtain ⟨after, conns, empty, all, done⟩ := s.pool.reset_spec
    simp only [PoolSystem.critical, at_, done]
    exact refines.sweeps (by rw [at_]; rfl) (by rw [at_]; rfl) empty all
  | close =>
    obtain ⟨after, conns, empty, all, done, -⟩ := s.pool.close_spec
    simp only [PoolSystem.critical, at_, done]
    exact refines.sweeps (by rw [at_]; rfl) (by rw [at_]; rfl) empty all
  | ready | dial | closing =>
    simp only [PoolSystem.critical, at_]
    exact refines.stays

theorem dialReturns (caller : Caller) (result : DialResult T) : (s.dialReturns caller result).Leads place := by
  cases at_ : s.calls caller with
  | dial generation =>
    have hand := congrArg Point.inHand at_
    have closes := congrArg Point.toClose at_
    have fresh {conn : T} (new : conn ∉ s.dialed) : place conn = .unborn := by
      rwa [refines.dialed_iff, not_not] at new
    have notIdle {conn : T} (new : conn ∉ s.dialed) : ¬s.pool.Idle conn := by
      rw [refines.idle_iff, fresh new]
      simp
    cases result with
    | failed =>
      simp only [PoolSystem.dialReturns, at_]
      exact refines.next hand closes rfl
    | cancelled conn =>
      simp only [PoolSystem.dialReturns, at_]
      split_ifs with old
      · exact refines.stays
      · exact refines.goes ⟨closes, .inr ⟨hand, .inr (fresh old)⟩⟩ (refines.consistent.loses (notIdle old))
          rfl (fun c => mem_cons) (.inr (by simp [Point.toClose]))
    | ok conn =>
      simp only [PoolSystem.dialReturns, at_]
      split_ifs with old
      · exact refines.stays
      refine refines.gets ⟨closes, .inr ⟨hand, .inr (fresh old)⟩⟩ refines.consistent
        (refines.consistent.loses (notIdle old)).idle_iff ?_ (fun c => mem_cons) (fun _ _ => id)
        (.inl ⟨generation, rfl⟩)
      simp [Point.inHand]
  | _ =>
    simp only [PoolSystem.dialReturns, at_]
    exact refines.stays

theorem start (caller : Caller) (point : Point T) : (s.start caller point).Leads place := by
  cases at_ : s.calls caller with
  | ready =>
    simp only [PoolSystem.start, at_]
    split_ifs with given
    · have same : ((s.held caller).diff point.inHand ++ point.inHand).Perm (s.own caller) := by
        rw [own, at_]
        refine perm_append_comm.trans ((subperm_append_diff_self_of_count_le fun c member => ?_).trans
          (by simp [Point.inHand]))
        exact Nat.le_trans (nodup_iff_count_le_one.mp point.nodup_inHand c) (count_pos_iff.mpr (given member))
      exact (refines.goOn same (by simp [at_]) (.refl _) (by simp [at_, Point.toClose])).stays
    · exact refines.stays
  | _ =>
    simp only [PoolSystem.start, at_]
    exact refines.stays

/-- **A call of `Close`.** -/
theorem callback (caller : Caller) (conn : T) : (s.callback caller conn).Refines place := by
  cases at_ : s.calls caller with
  | closing conns again =>
    simp only [PoolSystem.callback, at_]
    split_ifs with pending
    · refine refines.goOn ?_ (by simp [at_]) (subset_cons_self _ _) fun c member => ?_
      · simp [own, at_, Point.inHand]
      rw [at_] at member
      by_cases same : c = conn
      · exact .inr (same ▸ mem_cons_self)
      · exact .inl ((mem_erase_of_ne same).mpr member)
    · exact refines
  | _ =>
    simp only [PoolSystem.callback, at_]
    exact refines

/-- **The end of the callbacks.** -/
theorem back (caller : Caller) : (s.back caller).Leads place := by
  unfold PoolSystem.back
  split
  · rename_i again at_
    refine refines.next (by rw [at_]; rfl) (by rw [at_]; rfl) ?_
    cases again <;> rfl
  · exact refines.stays

/-- **Each step of the system moves connections in the allowed ways.** -/
theorem step (event : PoolEvent Caller T) : ((connPools Caller T).step s event).1.Leads place := by
  cases event with
  | acquire caller => exact refines.start caller .acquire
  | release caller conn reuse => exact refines.start caller (.release conn reuse)
  | invalidate caller conn => exact refines.start caller (.invalidate conn)
  | reset caller => exact refines.start caller .reset
  | close caller => exact refines.start caller .close
  | critical caller alive => exact refines.critical caller alive
  | dialed caller result => exact refines.dialReturns caller result
  | callback caller conn => exact (refines.callback caller conn).stays
  | back caller => exact refines.back caller

end Refines

end Steps

/-! ### A pool that is closed -/

section Closed

variable {s : PoolSystem Caller T} [DecidableEq T]

theorem closed_critical (closed : s.pool.state = none) (caller : Caller) (alive : Bool) :
    (s.critical caller alive).pool.state = none := by
  cases at_ : s.calls caller <;>
    simp [critical, at_, closed, acquireOrdered, install, release, invalidate, reset, close]

theorem pool_start (caller : Caller) (point : Point T) : (s.start caller point).pool = s.pool := by
  unfold start
  split
  · split_ifs <;> rfl
  · rfl

theorem pool_callback (caller : Caller) (conn : T) : (s.callback caller conn).pool = s.pool := by
  unfold callback
  split
  · split_ifs <;> rfl
  · rfl

theorem closed_step (closed : s.pool.state = none) (event : PoolEvent Caller T) :
    ((connPools Caller T).step s event).1.pool.state = none := by
  cases event with
  | critical caller alive => exact closed_critical closed caller alive
  | dialed caller result =>
    show (s.dialReturns caller result).pool.state = none
    unfold dialReturns
    split <;> (try split_ifs) <;> exact closed
  | callback caller conn => exact (congrArg state (pool_callback caller conn)).trans closed
  | back caller =>
    show (s.back caller).pool.state = none
    unfold back
    split <;> exact closed
  | _ => exact (congrArg state (pool_start _ _)).trans closed

/-- `Close` closes the pool. -/
theorem closed_close {caller : Caller} (at_ : s.calls caller = .close) (alive : Bool) :
    (s.critical caller alive).pool.state = none := by
  obtain ⟨after, conns, -, -, done, closed⟩ := s.pool.close_spec
  simp only [critical, at_, done]
  exact closed

end Closed

/-! ### The granularity of the lock -/

section Lock

variable [DecidableEq T]

def settle (s : PoolSystem Caller T) (caller : Caller) : PoolSystem Caller T :=
  (s.calls caller).toClose.foldl (fun s conn => s.callback caller conn) s

variable {s : PoolSystem Caller T} {place : T → Place Caller}

theorem Refines.settle (refines : s.Refines place) (caller : Caller) : (s.settle caller).Refines place :=
  foldlRecOn (motive := (Refines · place)) _ _ refines fun _ before conn _ => before.callback caller conn

theorem pool_settle (caller : Caller) : (s.settle caller).pool = s.pool :=
  foldlRecOn (motive := fun after : PoolSystem Caller T => after.pool = s.pool) _ _ rfl fun _ same conn _ =>
    (pool_callback caller conn).trans same

theorem calls_callback_of_ne {caller other : Caller} (differs : other ≠ caller) (conn : T) :
    (s.callback caller conn).calls other = s.calls other := by
  unfold callback
  split
  · split_ifs
    · exact update_of_ne differs _ _
    · rfl
  · rfl

theorem calls_settle_of_ne {caller other : Caller} (differs : other ≠ caller) :
    (s.settle caller).calls other = s.calls other :=
  foldlRecOn (motive := fun after : PoolSystem Caller T => after.calls other = s.calls other) _ _ rfl fun _ same conn _ =>
    (calls_callback_of_ne differs conn).trans same

theorem foldl_callback {caller : Caller} {conns : List T} {again : Bool} (at_ : s.calls caller = .closing conns again) :
    (conns.foldl (fun s conn => s.callback caller conn) s).calls caller = .closing [] again := by
  induction conns generalizing s with
  | nil => exact at_
  | cons conn conns ih =>
    apply ih
    simp [callback, at_, set]

theorem toClose_settle (caller : Caller) : ((s.settle caller).calls caller).toClose = [] := by
  cases at_ : s.calls caller with
  | closing conns again =>
    have done := foldl_callback at_
    unfold settle
    rw [at_]
    exact congrArg Point.toClose done
  | _ =>
    unfold settle
    rw [at_]
    exact congrArg Point.toClose at_

end Lock

end PoolSystem

def PoolEvent.caller : PoolEvent Caller T → Caller
  | acquire caller | release caller _ _ | invalidate caller _ | reset caller | close caller | critical caller _
  | dialed caller _ | callback caller _ | back caller => caller

/-- **The pool at the granularity of the lock**: a call makes its callbacks in the same step. -/
def lockPools (Caller T : Type) [DecidableEq Caller] [DecidableEq T] :
    Machine (PoolSystem Caller T) (PoolEvent Caller T) Unit where
  step s event := (((connPools Caller T).step s event).1.settle event.caller, none)

section Runs

variable [DecidableEq Caller] [DecidableEq T]

theorem calls_step_of_ne {s : PoolSystem Caller T} {event : PoolEvent Caller T} {other : Caller}
    (differs : other ≠ event.caller) : ((connPools Caller T).step s event).1.calls other = s.calls other := by
  have start (caller : Caller) (point : Point T) (differs : other ≠ caller) :
      (s.start caller point).calls other = s.calls other := by
    unfold start
    split
    · split_ifs
      · exact update_of_ne differs _ _
      · rfl
    · rfl
  cases event with
  | acquire caller | release caller conn reuse | invalidate caller conn | reset caller | close caller =>
    exact start caller _ differs
  | critical caller alive =>
    show (s.critical caller alive).calls other = s.calls other
    unfold critical
    dsimp only
    split <;> (try split) <;> first | rfl | exact update_of_ne differs _ _
  | dialed caller result =>
    show (s.dialReturns caller result).calls other = s.calls other
    unfold dialReturns
    split <;> (try split_ifs) <;> first | rfl | exact update_of_ne differs _ _
  | callback caller conn => exact calls_callback_of_ne differs conn
  | back caller =>
    show (s.back caller).calls other = s.calls other
    unfold back
    split
    · exact update_of_ne differs _ _
    · rfl

/-- **With the callbacks as steps of their own**, a connection has one holder at most, and what a dial has
returned is held, idle, or has been closed, or a call is going to close it. -/
theorem connPools_custody (events : List (PoolEvent Caller T)) :
    let s := (connPools Caller T).run {} events
    (∀ a b conn, conn ∈ s.own a → conn ∈ s.own b → a = b) ∧
    ∀ conn ∈ s.dialed, (∃ a, conn ∈ s.own a) ∨ s.pool.Idle conn ∨ s.Disposed conn := by
  intro s
  have places : ∃ place, s.Refines place := by
    refine (connPools Caller T).run_invariant (fun _ s => ∃ place, s.Refines place) ⟨_, refines_initial⟩ ?_ events
    rintro past s event ⟨place, refines⟩
    obtain ⟨place', next, -⟩ := refines.step event
    exact ⟨place', next⟩
  obtain ⟨place, refines⟩ := places
  exact ⟨fun _ _ _ => refines.exclusive, fun _ => refines.custody⟩

theorem lockPools_step {s : PoolSystem Caller T} {place : T → Place Caller} (refines : s.Refines place)
    (event : PoolEvent Caller T) : ((lockPools Caller T).step s event).1.Leads place := by
  obtain ⟨place', next, moves⟩ := refines.step event
  exact ⟨place', next.settle event.caller, moves⟩

theorem lockPools_refines (events : List (PoolEvent Caller T)) :
    (∃ place, ((lockPools Caller T).run {} events).Refines place) ∧
      ∀ caller, (((lockPools Caller T).run {} events).calls caller).toClose = [] := by
  refine (lockPools Caller T).run_invariant
    (fun _ s => (∃ place, s.Refines place) ∧ ∀ caller, (s.calls caller).toClose = [])
    ⟨⟨_, refines_initial⟩, fun _ => rfl⟩ ?_ events
  rintro past s event ⟨⟨place, refines⟩, settled⟩
  obtain ⟨place', next, -⟩ := lockPools_step refines event
  refine ⟨⟨place', next⟩, fun caller => ?_⟩
  by_cases same : caller = event.caller
  · rw [same]
    exact toClose_settle event.caller
  · show ((((connPools Caller T).step s event).1.settle event.caller).calls caller).toClose = []
    rw [calls_settle_of_ne same, calls_step_of_ne same]
    exact settled caller

/-- The pool is closed after `Close` has had the lock. -/
theorem lockPools_closed {past rest : List (PoolEvent Caller T)} {caller : Caller} {alive : Bool}
    (at_ : ((lockPools Caller T).run {} past).calls caller = .close) :
    ((lockPools Caller T).run {} (past ++ .critical caller alive :: rest)).pool.state = none := by
  induction rest using reverseRecOn with
  | nil =>
    rw [Machine.run_concat]
    exact (congrArg state (pool_settle caller)).trans (closed_close at_ alive)
  | append_singleton rest event ih =>
    rw [← cons_append, ← append_assoc, Machine.run_concat]
    exact (congrArg state (pool_settle event.caller)).trans (closed_step ih event)

/-- **The connection pool is exclusive and leaks nothing**, for every interleaving: list, index and tracked set are
consistent, a connection has one holder at most, who holds it once and loses it to no other, and what a dial has
returned is held, idle or closed, and after `Close` held or closed. -/
theorem lockPools_sound (events : List (PoolEvent Caller T)) :
    let s := (lockPools Caller T).run {} events
    s.pool.Consistent ∧
    (∀ a b conn, conn ∈ s.own a → conn ∈ s.own b → a = b) ∧
    (∀ a, (s.own a).Nodup) ∧
    (∀ a conn, conn ∈ s.own a → ¬s.pool.Idle conn) ∧
    (∀ event a b conn, conn ∈ s.own a → conn ∈ ((lockPools Caller T).step s event).1.own b → a = b) ∧
    (∀ conn ∈ s.dialed, (∃ a, conn ∈ s.own a) ∨ s.pool.Idle conn ∨ conn ∈ s.passed) ∧
    ∀ past caller alive rest, events = past ++ .critical caller alive :: rest →
      ((lockPools Caller T).run {} past).calls caller = .close →
      ∀ conn ∈ s.dialed, (∀ a, conn ∉ s.own a) → conn ∈ s.passed := by
  intro s
  obtain ⟨⟨place, refines⟩, settled⟩ := lockPools_refines events
  have custody (conn : T) (born : conn ∈ s.dialed) : (∃ a, conn ∈ s.own a) ∨ s.pool.Idle conn ∨ conn ∈ s.passed := by
    rcases refines.custody born with held | idle | done | ⟨caller, pending⟩
    · exact .inl held
    · exact .inr (.inl idle)
    · exact .inr (.inr done)
    · rw [settled caller] at pending
      cases pending
  refine ⟨refines.consistent, fun _ _ _ => refines.exclusive, refines.once, fun a conn mine idle => ?_,
    fun event a b conn mine yours => ?_, custody, ?_⟩
  · rw [refines.own_iff] at mine
    rw [refines.idle_iff, mine] at idle
    cases idle
  · obtain ⟨place', next, moves⟩ := lockPools_step refines event
    have move := moves conn
    rw [(refines.own_iff a conn).mp mine, (next.own_iff b conn).mp yours] at move
    cases move
    rfl
  · rintro past caller alive rest rfl at_ conn born free
    rcases custody conn born with ⟨a, mine⟩ | idle | done
    · exact absurd mine (free a)
    · obtain ⟨state, is, -⟩ := idle
      rw [lockPools_closed at_] at is
      cases is
    · exact done

end Runs

end SingBox.Dns
