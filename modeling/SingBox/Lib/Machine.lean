/-
**Machines that take one event after another.**

A `Machine` reacts to an event with a new state and perhaps an output. A component that several callers use at the
same time is such a machine: its events are the atomic sections of the calls, and a sequence of events is an
interleaving. `run_invariant` is for what holds after every run, and `Along` for what holds of every step of a run, or
exactly as long as the steps meet a condition.
-/

import Mathlib.Data.List.Induction

namespace SingBox.Lib

/-- A transition function with an output. -/
structure Machine (S E O : Type*) where
  step : S → E → S × Option O

namespace Machine

variable {S E O : Type*} (machine : Machine S E O)

def run (start : S) (events : List E) : S :=
  events.foldl (fun state event => (machine.step state event).1) start

theorem run_append (start : S) (events more : List E) :
    machine.run start (events ++ more) = machine.run (machine.run start events) more :=
  List.foldl_append

@[simp] theorem run_concat (start : S) (events : List E) (event : E) :
    machine.run start (events ++ [event]) = (machine.step (machine.run start events) event).1 := by
  rw [run, List.foldl_append]
  rfl

theorem run_invariant (inv : List E → S → Prop) {start : S} (initial : inv [] start)
    (step_inv : ∀ past state event, inv past state →
      inv (past ++ [event]) (machine.step state event).1) (events : List E) :
    inv events (machine.run start events) := by
  induction events using List.reverseRecOn with
  | nil => exact initial
  | append_singleton past event ih =>
    rw [run_concat]
    exact step_inv past _ event ih

/-- Every step of a run, from the state before it and its event. -/
def Along (holds : S → E → Prop) : S → List E → Prop
  | _, [] => True
  | state, event :: events => holds state event ∧ Along holds (machine.step state event).1 events

variable {events : List E} {holds : S → E → Prop} {start : S}

theorem along_append {more : List E} : machine.Along holds start (events ++ more) ↔
      machine.Along holds start events ∧ machine.Along holds (machine.run start events) more := by
  induction events generalizing start with
  | nil => exact (true_and _).symm ▸ .rfl
  | cons first events ih => exact (and_congr_right fun _ => ih).trans and_assoc.symm

theorem along_concat {event : E} : machine.Along holds start (events ++ [event]) ↔
      machine.Along holds start events ∧ holds (machine.run start events) event := by
  rw [along_append]
  exact and_congr_right fun _ => and_iff_left trivial

theorem along_congr {holds' : S → E → Prop} (same : ∀ state event, holds state event ↔ holds' state event) :
    machine.Along holds start events ↔ machine.Along holds' start events := by
  induction events generalizing start with
  | nil => exact .rfl
  | cons event events ih => exact and_congr (same start event) ih

theorem Along.of_invariant {machine : Machine S E O} {condition : S → E → Prop} (inv : S → Prop)
    (step : ∀ state event, inv state → condition state event → inv (machine.step state event).1 ∧ holds state event)
    (initial : inv start) (meets : machine.Along condition start events) : machine.Along holds start events := by
  induction events generalizing start with
  | nil => trivial
  | cons event events ih =>
    obtain ⟨next, here⟩ := step start event initial meets.1
    exact ⟨here, ih next meets.2⟩

theorem along_of_forall (all : ∀ state event, holds state event) (start : S) (events : List E) :
    machine.Along holds start events := by
  induction events generalizing start with
  | nil => trivial
  | cons event events ih => exact ⟨all start event, ih _⟩

theorem along_iff_of_invariant {machine : Machine S E O} {given condition : S → E → Prop} (inv : S → Prop)
    (agree : ∀ state event, inv state → given state event → (holds state event ↔ condition state event))
    (step : ∀ state event, inv state → given state event → condition state event →
      inv (machine.step state event).1) (initial : inv start) (meets : machine.Along given start events) :
    machine.Along holds start events ↔ machine.Along condition start events := by
  induction events generalizing start with
  | nil => exact .rfl
  | cons event events ih =>
    refine (and_congr_left fun _ => agree start event initial meets.1).trans (and_congr_right fun here => ?_)
    exact ih (step start event initial meets.1 here) meets.2

end Machine

end SingBox.Lib
