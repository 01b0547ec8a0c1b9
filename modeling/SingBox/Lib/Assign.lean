/-
**One-to-one maps that are written to.**

A `PEquiv` is a partial map that is one-to-one by its type. `assign f a b` pairs `a` with `b`, and
takes from both what they were paired with before; all other pairs stay.
-/

import Mathlib.Data.PEquiv

namespace SingBox.Lib

variable {α β : Type*} [DecidableEq α] [DecidableEq β]

/-- One direction: `a` is sent to `b`, and nothing else is. -/
def sendTo (g : α → Option β) (a : α) (b : β) (x : α) : Option β :=
  if x = a then some b else if g x = some b then none else g x

theorem sendTo_eq_some_iff {g : α → Option β} {a x : α} {b y : β} :
    sendTo g a b x = some y ↔ (x = a ∧ y = b) ∨ (x ≠ a ∧ y ≠ b ∧ g x = some y) := by
  unfold sendTo
  by_cases key : x = a
  · rw [if_pos key]
    simp only [Option.some.injEq, key, true_and, ne_eq, not_true_eq_false, false_and, or_false]
    exact eq_comm
  rw [if_neg key]
  split_ifs with used
  · simp only [key, false_and, false_or, false_iff, used, Option.some.injEq]
    exact fun ⟨_, other, same⟩ => other same.symm
  · simp only [key, false_and, false_or, ne_eq, not_false_eq_true, true_and]
    refine ⟨fun sent => ⟨fun same => used (same ▸ sent), sent⟩, fun sent => sent.2⟩

def assign (f : α ≃. β) (a : α) (b : β) : α ≃. β where
  toFun := sendTo f a b
  invFun := sendTo f.symm b a
  inv x y := by
    show sendTo f.symm b a y = some x ↔ sendTo f a b x = some y
    have paired : f.symm y = some x ↔ f x = some y := f.inv x y
    rw [sendTo_eq_some_iff, sendTo_eq_some_iff, paired, and_comm, and_left_comm]

variable {f : α ≃. β} {a x : α} {b y : β}

@[simp] theorem assign_self : assign f a b a = some b := if_pos rfl

theorem assign_eq_some_iff : assign f a b x = some y ↔ (x = a ∧ y = b) ∨ (x ≠ a ∧ y ≠ b ∧ f x = some y) :=
  sendTo_eq_some_iff

theorem assign_apply_of_fresh (fresh : f.symm b = none) (other : x ≠ a) : assign f a b x = f x := by
  have unused : f x ≠ some b := by
    intro used
    rw [f.eq_some_iff.mpr used] at fresh
    exact Option.some_ne_none _ fresh
  show sendTo f a b x = f x
  rw [sendTo, if_neg other, if_neg unused]

theorem symm_assign_apply (y : β) : (assign f a b).symm y =
    if y = b then some a else if f.symm y = some a then none else f.symm y := rfl

end SingBox.Lib
