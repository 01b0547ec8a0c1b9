/-
**D-Bus calls of the resolved service** (`service/resolved/resolve1.go`).

`getLink` stores a link before it looks for the interface, and the `Resolve` methods return its error without unlocking.
`ResolveHostname` and `ResolveAddress` wrap their own nil error where the router's failed. `calls_return_iff`: every call
returns, with the lock free and all interfaces set, exactly if each that takes a link names an interface that is known or
found and the router does not fail in these two.

A link is only its interface here. What follows the unlocking reads nothing that changes, so a call is one step.
-/

import SingBox.Lib.Machine
import Mathlib.Logic.Function.Basic

namespace SingBox.Resolved

open SingBox.Lib Function

/-- The methods, with what the router and `AddrFromSlice` say. -/
inductive Method where
  | resolveHostname (fails : Bool)
  | resolveAddress (valid fails : Bool)
  | resolveRecord
  | resolveService
  | setLinkDNS
  | setLinkDNSEx
  | setLinkDomains
  | setLinkDefaultRoute
  | setLinkLLMNR
  | setLinkMulticastDNS
  | setLinkDNSOverTLS
  | setLinkDNSSEC
  | setLinkDNSSECNegativeTrustAnchors
  | revertLink

structure Call where
  method : Method
  ifIndex : Int
  /-- Whether `ByIndex` finds the interface. -/
  found : Bool

inductive Outcome where
  | returned
  | blocked
  | panicked
  deriving DecidableEq

/-- Whether a link has its interface, for each index in the table, and whether `linkAccess` is held. -/
structure Service where
  links : Int → Option Bool := fun _ => none
  linkAccess : Bool := false

namespace Method

/-- They return nil at once: no lock is taken and no link is looked up. -/
def ignored : Method → Bool
  | setLinkLLMNR | setLinkMulticastDNS | setLinkDNSSEC | setLinkDNSSECNegativeTrustAnchors => true
  | _ => false

/-- They lock with a deferred unlock. -/
def defers : Method → Bool
  | setLinkDNS | setLinkDNSEx | setLinkDomains | setLinkDefaultRoute | setLinkDNSOverTLS | revertLink => true
  | _ => false

/-- Without the link's interface the name for the log is a nil dereference. -/
def outcome (iif : Bool) : Method → Outcome
  | resolveAddress false _ => .returned
  | resolveHostname fails | resolveAddress true fails => if iif && !fails then .returned else .panicked
  | _ => if iif then .returned else .panicked

/-- The router's error is not wrapped. -/
def Wraps : Method → Prop
  | resolveHostname fails => fails = false
  | resolveAddress valid fails => valid → fails = false
  | _ => True

end Method

namespace Service

variable (s : Service) (call : Call)

/-- The table after it, and whether the link has its interface unless this fails. -/
def getLink : (Int → Option Bool) × Option Bool :=
  match s.links call.ifIndex with
  | some iif => (s.links, some iif)
  | none => (update s.links call.ifIndex (some call.found), if call.found then some true else none)

def step : Service × Option Outcome :=
  if call.method.ignored then (s, some .returned)
  else if s.linkAccess then (s, some .blocked)
  else match s.getLink call with
    | (links, none) => (⟨links, !call.method.defers⟩, some .returned)
    | (links, some iif) =>
      (⟨if call.method matches .revertLink then update links call.ifIndex none else links, false⟩,
        some (call.method.outcome iif))

/-- The lock is free and every link in the table has its interface. -/
def Sound : Prop := s.linkAccess = false ∧ ∀ i, s.links i ≠ some false

/-- **The call returns** and leaves the lock free and no link without its interface. -/
def Returns : Prop := (s.step call).2 = some .returned ∧ (s.step call).1.Sound

/-- The call takes no link, or one that is in the table or whose interface is found, and wraps no error of the router. -/
def Proper : Prop :=
  call.method.ignored ∨ ((s.links call.ifIndex).isSome ∨ call.found) ∧ call.method.Wraps

variable {s}

theorem outcome_returned_iff (method : Method) : method.outcome true = .returned ↔ method.Wraps := by
  rcases method with fails | ⟨valid, fails⟩ | _
  · cases fails <;> simp [Method.outcome, Method.Wraps]
  · cases valid <;> cases fails <;> simp [Method.outcome, Method.Wraps]
  all_goals simp [Method.outcome, Method.Wraps]

theorem Sound.returns_iff (sound : s.Sound) : s.Returns call ↔ s.Proper call := by
  rcases ignored : call.method.ignored with _ | _
  swap
  · exact iff_of_true (by simpa [Returns, step, ignored] using sound) (.inl ignored)
  obtain ⟨free, set⟩ := sound
  have unlisted {links : Int → Option Bool} (set : ∀ i, links i ≠ some false) :
      Sound ⟨if call.method matches .revertLink then update links call.ifIndex none else links, false⟩ :=
    ⟨rfl, by grind⟩
  rw [Returns, Proper, step, getLink, free, ignored]
  rcases known : s.links call.ifIndex with _ | iif
  · rcases found : call.found with _ | _
    · exact iff_of_false (fun returns => returns.2.2 call.ifIndex (update_self ..)) (by simp)
    · have stored : ∀ i, update s.links call.ifIndex (some true) i ≠ some false := by grind
      simpa [outcome_returned_iff] using fun _ => unlisted stored
  · obtain rfl : iif = true := by grind
    simpa [outcome_returned_iff] using fun _ => unlisted set

end Service

def services : Machine Service Call Outcome where
  step := Service.step

end SingBox.Resolved
