/-
**The lists that the managers hand out** (`Outbounds`, `Endpoints` and `Providers` of `adapter`, with `Create` and
`Remove`; `ResetNetwork` of `route/network.go` loops over such lists).

A getter returns the manager's own slice. `Remove`, and a `Create` that replaces, move what is behind the removed element
within the array, and `append` writes into the array while there is room. `lists_stable`: a list stays as it was while it
does not reach to a cell that is written to.
-/

import SingBox.Lib.Machine
import Mathlib.Logic.Function.Basic

namespace SingBox.Manager

open SingBox.Lib Function List

variable {α : Type}

/-- A list that a getter has returned, and the array as it was then. -/
structure View (α : Type) where
  array : Nat
  len : Nat
  shown : Nat → Option α

/-- The slice of a manager, in the last of the arrays that it has had. -/
structure Slice (α : Type) where
  cells : Nat → Nat → Option α := fun _ _ => none
  array : Nat := 0
  len : Nat := 0
  cap : Nat := 0
  views : List (View α) := []

/-- A getter; `Create` under a new tag, with the room that `append` leaves in a new array; `Create` in the place of the
element `i`; `Remove` of it. -/
inductive ListEvent (α : Type) where
  | get
  | create (new : α) (room : Nat)
  | replace (i : Nat) (new : α)
  | remove (i : Nat)

namespace Slice

variable (s : Slice α)

/-- `append(s[:i], s[i+1:]...)`. -/
def cut (i : Nat) : Slice α :=
  { s with
    cells := update s.cells s.array fun j =>
      if i ≤ j ∧ j + 1 < s.len then s.cells s.array (j + 1) else s.cells s.array j
    len := s.len - 1 }

/-- `append(s, new)`. -/
def append (new : α) (room : Nat) : Slice α :=
  if s.len < s.cap then
    { s with cells := update s.cells s.array (update (s.cells s.array) s.len (some new)), len := s.len + 1 }
  else
    { s with
      cells := update s.cells (s.array + 1) fun j =>
        if j < s.len then s.cells s.array j else if j = s.len then some new else none
      array := s.array + 1, len := s.len + 1, cap := s.len + 1 + room }

def step : ListEvent α → Slice α
  | .get => { s with views := ⟨s.array, s.len, s.cells s.array⟩ :: s.views }
  | .create new room => s.append new room
  | .replace i new => if i < s.len then (s.cut i).append new 0 else s
  | .remove i => if i < s.len then s.cut i else s

/-- **The lists are as they were.** -/
def Stable : Prop := ∀ view ∈ s.views, ∀ j < view.len, s.cells view.array j = view.shown j

/-- No list reaches to the cell `i`. -/
def Free (i : Nat) : Prop := ∀ view ∈ s.views, view.array = s.array → view.len ≤ i

/-- The cells that are written to are free. -/
def Undisturbed : ListEvent α → Prop
  | .get => True
  | .create _ _ => s.len < s.cap → s.Free s.len
  | .replace i _ => i < s.len → s.Free i
  | .remove i => i + 1 < s.len → s.Free i

def Sound : Prop := s.Stable ∧ ∀ view ∈ s.views, view.array ≤ s.array

variable {s}

theorem Sound.cut (sound : s.Sound) {i : Nat} (free : i + 1 < s.len → s.Free i) : (s.cut i).Sound := by
  refine ⟨fun view member j inside => ?_, sound.2⟩
  refine Eq.trans ?_ (sound.1 view member j inside)
  by_cases here : view.array = s.array
  · simp only [Slice.cut, here, update_self]
    refine if_neg fun moved => ?_
    have short := free (by omega) view member here
    omega
  · simp [Slice.cut, here]

theorem Sound.append (sound : s.Sound) (new : α) (room : Nat) (free : s.len < s.cap → s.Free s.len) :
    (s.append new room).Sound := by
  unfold Slice.append
  split_ifs with fits
  · refine ⟨fun view member j inside => Eq.trans ?_ (sound.1 view member j inside), sound.2⟩
    by_cases here : view.array = s.array
    · have short := free fits view member here
      simp [here, show j ≠ s.len by omega]
    · simp [here]
  · refine ⟨fun view member j inside => ?_, fun view member => Nat.le_succ_of_le (sound.2 view member)⟩
    have before := sound.2 view member
    simpa [show view.array ≠ s.array + 1 by omega] using sound.1 view member j inside

theorem Sound.step (sound : s.Sound) (event : ListEvent α) (free : s.Undisturbed event) : (s.step event).Sound := by
  fun_cases Slice.step s event with
  | case1 => exact ⟨forall_mem_cons.mpr ⟨fun _ _ => rfl, sound.1⟩, forall_mem_cons.mpr ⟨Nat.le_refl _, sound.2⟩⟩
  | case2 new room => exact sound.append new room free
  | case3 i new inside =>
    refine (sound.cut fun _ => free inside).append new 0 fun _ view member here => ?_
    exact Nat.le_trans (free inside view member here) (Nat.le_sub_one_of_lt inside)
  | case5 i inside => exact sound.cut free
  | case4 | case6 => exact sound

end Slice

def lists (α : Type) : Machine (Slice α) (ListEvent α) Unit where
  step s event := (s.step event, none)

/-- **The lists are stable** along a run in which no list reaches to a cell that is written to. -/
theorem lists_stable (events : List (ListEvent α)) (free : (lists α).Along Slice.Undisturbed {} events) :
    (lists α).Along (fun s event => (s.step event).Stable) {} events :=
  .of_invariant Slice.Sound (fun _ event sound free => ⟨sound.step event free, (sound.step event free).1⟩)
    ⟨by simp [Slice.Stable], by simp⟩ free

/-- Elements are added, and the last one is removed. -/
theorem lists_stable_example : (lists Nat).Along (fun s event => (s.step event).Stable) {}
    [.create 1 1, .get, .create 2 0, .remove 1] :=
  lists_stable _ ⟨fun fits => absurd fits (by decide), trivial,
    fun _ view member _ => by cases mem_singleton.mp member; decide, fun more => absurd more (by decide), trivial⟩

/-- The first of two elements is removed while somebody holds the list of both: it then shows the second one twice. -/
theorem lists_shifted : ¬ (lists Nat).Along (fun s event => (s.step event).Stable) {}
    [.create 1 0, .create 2 0, .get, .remove 0] :=
  fun along => absurd (along.2.2.2.1 _ mem_cons_self 0 (by decide)) (by decide)

end SingBox.Manager
