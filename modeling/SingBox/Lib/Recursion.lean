/-
**Recursive functions without a bound in the source.**

A `Recursion` is the body of a recursive function: what it makes of the function that it calls, and at which arguments it
may call it. `unroll n base` is the body put into itself `n` times, with `base` where the recursion would go on.

`unroll_eq` — if a measure goes down with every call, then more unrollings than the measure have never got to the base:
the result is the same for every base and every number. `length_le_of_chain` — calls are nested no deeper than the
measure.
-/

import Mathlib.Logic.Function.Iterate
import Mathlib.Data.List.Chain

namespace SingBox.Lib

/-- The body of a recursive function, and the arguments of its calls. -/
structure Recursion (A B : Type*) where
  body : (A → B) → A → B
  calls : A → A → Prop
  uses : ∀ first second a, (∀ b, calls a b → first b = second b) → body first a = body second a

namespace Recursion

variable {A B : Type*} (recursion : Recursion A B)

def unroll (n : Nat) (base : A → B) : A → B := recursion.body^[n] base

theorem unroll_succ (n : Nat) (base : A → B) :
    recursion.unroll (n + 1) base = recursion.body (recursion.unroll n base) :=
  Function.iterate_succ_apply' _ _ _

def Decreases (measure : A → Nat) : Prop := ∀ a b, recursion.calls a b → measure b < measure a

variable {recursion} {measure : A → Nat}

/-- **The base is not reached.** -/
theorem unroll_eq (decreases : recursion.Decreases measure) {n m : Nat} {first second : A → B} {a : A}
    (enough : measure a < n) (too : measure a < m) : recursion.unroll n first a = recursion.unroll m second a := by
  induction n generalizing m a with
  | zero => exact absurd enough (Nat.not_lt_zero _)
  | succ n ih =>
    cases m with
    | zero => exact absurd too (Nat.not_lt_zero _)
    | succ m =>
      rw [unroll_succ, unroll_succ]
      refine recursion.uses _ _ a fun b called => ?_
      have less := decreases a b called
      exact ih (lt_of_lt_of_le less (Nat.le_of_lt_succ enough)) (lt_of_lt_of_le less (Nat.le_of_lt_succ too))

theorem length_le_of_chain (decreases : recursion.Decreases measure) {a : A} {later : List A}
    (chain : List.IsChain recursion.calls (a :: later)) : later.length ≤ measure a := by
  induction later generalizing a with
  | nil => exact Nat.zero_le _
  | cons b later ih =>
    rw [List.isChain_cons_cons] at chain
    exact lt_of_le_of_lt (ih chain.2) (decreases a b chain.1)

end Recursion

end SingBox.Lib
