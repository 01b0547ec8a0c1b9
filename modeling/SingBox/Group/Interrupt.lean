/-
**The connections of a selector** (`common/interrupt`, and the dials of `protocol/group/selector.go`).

A dial loads the selected outbound, goes on without a lock, and registers its connection in the end. A change of the
selection interrupts the registered connections afterwards, but not those of providers, and external ones only if it is
told so.
-/

import SingBox.Group.Selector

namespace SingBox.Group

open SingBox.Lib List

/-- `groupConnItem`. The connection stands for its element, too. -/
structure GroupConnItem (C : Type) where
  conn : C
  (isExternal isProvider : Bool)

/-- `interrupt.Group`, and the connections that `Close` has been called of. -/
structure InterruptGroup (C : Type) where
  connections : List (GroupConnItem C) := []
  closed : List C := []

variable {C : Type} [DecidableEq C]

/-- `connections.Remove`. -/
def removeConn (connections : List (GroupConnItem C)) (conn : C) : List (GroupConnItem C) :=
  connections.filter fun element => element.conn ≠ conn

namespace InterruptGroup

/-- `NewConn` and `NewPacketConn`. -/
def newConn (g : InterruptGroup C) (item : GroupConnItem C) : InterruptGroup C :=
  { g with connections := g.connections ++ [item] }

/-- `Conn.Close` and `PacketConn.Close`. -/
def close (g : InterruptGroup C) (conn : C) : InterruptGroup C :=
  ⟨removeConn g.connections conn, conn :: g.closed⟩

def interrupts (external : Bool) (item : GroupConnItem C) : Bool :=
  !item.isProvider && (!item.isExternal || external)

def interrupt (g : InterruptGroup C) (external : Bool) : InterruptGroup C :=
  let toDelete := (g.connections.filter (interrupts external)).map (·.conn)
  ⟨toDelete.foldl removeConn g.connections, toDelete.reverse ++ g.closed⟩

theorem mem_removeAll {toDelete : List C} {connections : List (GroupConnItem C)} {item : GroupConnItem C} :
    item ∈ toDelete.foldl removeConn connections ↔ item ∈ connections ∧ item.conn ∉ toDelete := by
  induction toDelete generalizing connections with
  | nil => simp
  | cons conn toDelete ih => simp [ih, removeConn, and_assoc]

end InterruptGroup

open InterruptGroup

/-- A connection is known by the time at which it was registered. -/
structure Connection (Outbound : Type) where
  via : Outbound
  (loaded registered : Nat)
  deriving DecidableEq

variable {Outbound Caller : Type} [DecidableEq Outbound] [DecidableEq Caller]

/-- A selector and its dials. `due` counts the interrupts to come, `changed` and `interrupted` are the times of the last
change and of the last interrupt, and `made` is all that has been registered. -/
structure Dialing (Outbound Caller : Type) where
  selector : Selector Outbound
  group : InterruptGroup (Connection Outbound) := {}
  dials : Caller → Option (GroupConnItem (Connection Outbound)) := fun _ => none
  (due clock changed interrupted : Nat := 0)
  made : List (GroupConnItem (Connection Outbound)) := []

inductive DialingEvent (Outbound Caller : Type) where
  /-- `SelectOutbound` or `onProviderUpdated`, without the interrupt. -/
  | select (event : SelectorEvent Outbound)
  | interrupt
  /-- The beginning of `DialContext` or `ListenPacket`. Without a selection it panics. -/
  | load (caller : Caller) (isExternal isProvider : Bool)
  | dialed (caller : Caller) (ok : Bool)
  | close (conn : Connection Outbound)

def dialings (ctx : GroupContext Outbound) (external : Bool) :
    Machine (Dialing Outbound Caller) (DialingEvent Outbound Caller) Unit where
  step s event :=
    let now := s.clock + 1
    let next := match event with
      | .select event =>
        let selector := ((selectors ctx).step s.selector event).1
        if selector.selected = s.selector.selected then { s with selector }
        else { s with selector, due := s.due + 1, changed := now }
      | .interrupt =>
        if s.due = 0 then s
        else { s with group := s.group.interrupt external, due := s.due - 1, interrupted := now }
      | .load caller isExternal isProvider =>
        match s.dials caller, s.selector.selected with
        | none, some via =>
          { s with dials := Function.update s.dials caller (some ⟨⟨via, now, 0⟩, isExternal, isProvider⟩) }
        | _, _ => s
      | .dialed caller ok =>
        match s.dials caller with
        | none => s
        | some dial =>
          let s := { s with dials := Function.update s.dials caller none }
          if ok then
            let item := { dial with conn.registered := now }
            { s with group := s.group.newConn item, made := item :: s.made }
          else s
      | .close conn =>
        if conn.registered ≤ s.clock then { s with group := s.group.close conn } else s
    ({ next with clock := now }, none)

/-- What has been loaded since the last change is selected. -/
def Current (s : Dialing Outbound Caller) (conn : Connection Outbound) : Prop :=
  conn.loaded ≤ s.clock ∧ (s.changed < conn.loaded → s.selector.selected = some conn.via)

structure Tracked (external : Bool) (s : Dialing Outbound Caller) : Prop where
  due : s.due = 0 → s.changed ≤ s.interrupted
  past : s.changed ≤ s.clock ∧ s.interrupted ≤ s.clock
  dials : ∀ caller dial, s.dials caller = some dial → Current s dial.conn
  listed : ∀ item ∈ s.group.connections, Current s item.conn ∧ item.conn.registered ≤ s.clock ∧
    (interrupts external item → s.interrupted < item.conn.registered)
  closed : ∀ conn ∈ s.group.closed, conn.registered ≤ s.clock
  opened : ∀ item, item ∈ s.group.connections ↔ item ∈ s.made ∧ item.conn ∉ s.group.closed

variable {ctx : GroupContext Outbound} {external : Bool} {s : Dialing Outbound Caller}

theorem Tracked.step (tracked : Tracked external s) (event : DialingEvent Outbound Caller) :
    Tracked external ((dialings ctx external).step s event).1 := by
  obtain ⟨due, past, dials, listed, closed, opened⟩ := tracked
  have nothing : Tracked external { s with clock := s.clock + 1 } := by constructor <;> grind [Current]
  cases event <;> simp only [dialings]
  case select =>
    split_ifs
    all_goals constructor <;> grind [Current]
  case interrupt =>
    split_ifs
    · exact nothing
    · constructor <;> grind [Current, InterruptGroup.interrupt, mem_removeAll]
  case load =>
    split
    · constructor <;> grind [Current]
    · exact nothing
  case dialed =>
    split
    · exact nothing
    · split_ifs
      all_goals constructor <;> grind [Current, newConn]
  case close =>
    split_ifs
    · constructor <;> grind [Current, InterruptGroup.close, removeConn]
    · exact nothing

/-- **For all interleavings** a connection is registered as long as it is open, and when no interrupt is due, it goes
through the selected outbound, is spared, or has a dial that spans the last change and the interrupt. -/
theorem connections_kept (selector : Selector Outbound) (events : List (DialingEvent Outbound Caller)) :
    let s := (dialings ctx external).run { selector } events
    (∀ item, item ∈ s.group.connections ↔ item ∈ s.made ∧ item.conn ∉ s.group.closed) ∧
    (s.due = 0 → ∀ item ∈ s.group.connections, interrupts external item →
      s.selector.selected = some item.conn.via ∨
        item.conn.loaded ≤ s.changed ∧ s.changed ≤ s.interrupted ∧ s.interrupted < item.conn.registered) := by
  intro s
  have tracked : Tracked external s := Machine.run_invariant _ (fun _ => Tracked external) (by constructor <;> simp)
    (fun _ _ event holds => holds.step event) events
  refine ⟨tracked.opened, fun done item listed interruptible => ?_⟩
  obtain ⟨⟨-, current⟩, -, later⟩ := tracked.listed item listed
  by_cases fresh : s.changed < item.conn.loaded
  · exact .inl (current fresh)
  · exact .inr ⟨not_lt.mp fresh, tracked.due done, later interruptible⟩

end SingBox.Group
