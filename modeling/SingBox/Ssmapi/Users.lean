/-
**Users of a managed Shadowsocks server** (`UserManager` of `service/ssmapi/user.go`).

A call edits `usersMap`, asks the server, and prunes the traffic counters if the server accepts. A refusal undoes nothing,
so `users_allOrNothing_iff`: the map follows the server exactly if a call is refused only where it changes nothing.
-/

import SingBox.Adapter.Metadata
import SingBox.Lib.Machine
import Mathlib.Logic.Function.Basic

namespace SingBox.Ssmapi

open SingBox.Lib Function

/-- A call with the server's answer, or traffic on one of the six counters of a user. -/
inductive UserEvent where
  | add (username password : Bytes) (accepts : Bool)
  | update (username password : Bytes) (accepts : Bool)
  | delete (username : Bytes) (accepts : Bool)
  | traffic (counter : Fin 6) (username : Bytes) (value : Int)

/-- `accepted` is what the server accepted last, and `counters` are the maps of the `TrafficManager`. -/
structure UserManager where
  usersMap : Bytes → Option Bytes := fun _ => none
  accepted : Bytes → Option Bytes := fun _ => none
  counters : Fin 6 → Bytes → Option Int := fun _ _ => none

namespace UserManager

variable (m : UserManager)

def updateUsers : UserManager :=
  { m with counters := fun counter user => if (m.usersMap user).isSome then m.counters counter user else none }

/-- With whether it fails. -/
def postUpdate (accepts : Bool) : UserManager × Option Bool :=
  if accepts then (updateUsers { m with accepted := m.usersMap }, some false) else (m, some true)

def step : UserEvent → UserManager × Option Bool
  | .add username password accepts =>
    if (m.usersMap username).isSome then (m, some true)
    else postUpdate { m with usersMap := update m.usersMap username (some password) } accepts
  | .update username password accepts =>
    postUpdate { m with usersMap := update m.usersMap username (some password) } accepts
  | .delete username accepts => postUpdate { m with usersMap := update m.usersMap username none } accepts
  | .traffic counter username value =>
    ({ m with counters := update m.counters counter (update (m.counters counter) username (some value)) }, none)

/-- **All or nothing**: the map is what the server accepted, a failed call changes neither, and a call leaves the counters
of accepted users. -/
def AllOrNothing (next : UserManager × Option Bool) : Prop :=
  next.1.usersMap = next.1.accepted ∧
    (next.2 = some true → next.1.usersMap = m.usersMap ∧ next.1.accepted = m.accepted) ∧
    (next.2.isSome → ∀ counter user, (next.1.accepted user).isSome → next.1.counters counter user = m.counters counter user)

def Harmless : UserEvent → Prop
  | .add username _ accepts => accepts ∨ (m.usersMap username).isSome
  | .update username password accepts => accepts ∨ m.usersMap username = some password
  | .delete username accepts => accepts ∨ m.usersMap username = none
  | .traffic .. => True

variable {m} (same : m.usersMap = m.accepted)
include same

theorem allOrNothing_postUpdate (users : Bytes → Option Bytes) (accepts : Bool) :
    m.AllOrNothing (postUpdate { m with usersMap := users } accepts) ↔ accepts ∨ users = m.usersMap := by
  cases accepts with
  | true => simp +contextual [AllOrNothing, postUpdate, updateUsers]
  | false => simp +contextual [AllOrNothing, postUpdate, same]

theorem allOrNothing_iff (event : UserEvent) : m.AllOrNothing (m.step event) ↔ m.Harmless event := by
  cases event with
  | add username password accepts =>
    rw [step, Harmless]
    split_ifs with known
    · exact iff_of_true ⟨same, fun _ => ⟨rfl, rfl⟩, fun _ _ _ _ => rfl⟩ (.inr known)
    · rw [allOrNothing_postUpdate same, update_eq_self_iff]
      grind
  | update => rw [step, Harmless, allOrNothing_postUpdate same, update_eq_self_iff, eq_comm (b := m.usersMap _)]
  | delete => rw [step, Harmless, allOrNothing_postUpdate same, update_eq_self_iff, eq_comm (b := m.usersMap _)]
  | traffic => simp [AllOrNothing, step, Harmless, same]

end UserManager

def userManagers : Machine UserManager UserEvent Bool where
  step := UserManager.step

/-- **The users follow the server** along a run exactly if a call is refused only where it changes nothing. -/
theorem users_allOrNothing_iff (events : List UserEvent) :
    userManagers.Along (fun m event => m.AllOrNothing (m.step event)) {} events ↔
      userManagers.Along UserManager.Harmless {} events :=
  Machine.along_iff_of_invariant (fun m => m.usersMap = m.accepted) (fun _ event same _ => UserManager.allOrNothing_iff same event)
    (fun _ event same _ harmless => ((UserManager.allOrNothing_iff same event).mpr harmless).1) rfl
    (userManagers.along_of_forall (fun _ _ => trivial) {} events)

/-- A refused `Add` stays in the map, and the next call publishes it. -/
theorem users_diverge :
    ¬ userManagers.Along (fun m event => m.AllOrNothing (m.step event)) {} [.add [1] [2] false] ∧
      (userManagers.run {} [.add [1] [2] false, .delete [3] true]).accepted [1] = some [2] :=
  ⟨fun along => absurd (congrFun along.1.1 [1]) (by decide), by decide⟩

end SingBox.Ssmapi
