/-
**Names that are not taken.**

A name that is already taken is replaced by the first free one of its candidates: the name itself, and then the name
with a number behind it. `fresh` is that search, and `freshNames` gives a name to one thing after the other, no two
the same if the candidates of each are different.
-/

import Mathlib.Data.Nat.Digits.Defs
import Mathlib.Data.Nat.Digits.Lemmas
import Mathlib.Data.List.Perm.Subperm
import Mathlib.Data.List.Nodup

namespace SingBox.Lib

open List

def decimal (n : Nat) : List UInt8 :=
  if n = 0 then [0x30] else ((Nat.digits 10 n).map fun digit => 0x30 + digit.toUInt8).reverse

theorem digits_of_decimal {n : Nat} (positive : n ≠ 0) :
    (decimal n).reverse.map (fun byte => (byte - 0x30).toNat) = Nat.digits 10 n := by
  rw [decimal, if_neg positive, reverse_reverse, map_map]
  conv_rhs => rw [← map_id (Nat.digits 10 n)]
  refine map_congr_left fun digit member => ?_
  have small : digit < 10 := Nat.digits_lt_base (by decide) member
  interval_cases digit <;> rfl

theorem decimal_inj {n m : Nat} (first : n ≠ 0) (second : m ≠ 0) (same : decimal n = decimal m) : n = m := by
  rw [← @Nat.digits_inj_iff 10, ← digits_of_decimal first, ← digits_of_decimal second, same]

/-! ### The first free name -/

variable {α : Type*} [DecidableEq α]

/-- The first candidate from `k` on that is not taken, among the next `fuel`. -/
def fresh (taken : List α) (candidate : Nat → α) : (fuel k : Nat) → α
  | 0, k => candidate k
  | fuel + 1, k => if candidate k ∈ taken then fresh taken candidate fuel (k + 1) else candidate k

section

variable {candidate : Nat → α}

theorem fresh_notMem_of_exists {taken : List α} {fuel k : Nat}
    (free : ∃ j ≤ fuel, candidate (k + j) ∉ taken) : fresh taken candidate fuel k ∉ taken := by
  induction fuel generalizing k with
  | zero =>
    obtain ⟨j, none, free⟩ := free
    cases Nat.le_zero.mp none
    exact free
  | succ fuel ih =>
    unfold fresh
    split
    · rename_i used
      obtain ⟨j, bound, free⟩ := free
      cases j with
      | zero => exact absurd used free
      | succ j =>
        refine ih ⟨j, Nat.le_of_succ_le_succ bound, ?_⟩
        rwa [add_right_comm]
    · assumption

theorem fresh_notMem (different : Function.Injective candidate) (taken : List α) :
    fresh taken candidate taken.length 0 ∉ taken := by
  refine fresh_notMem_of_exists ?_
  by_contra all
  push Not at all
  -- Otherwise there are more candidates than taken names.
  have nodup : ((range (taken.length + 1)).map candidate).Nodup :=
    nodup_range.map different
  have subset : (range (taken.length + 1)).map candidate ⊆ taken := by
    intro name member
    obtain ⟨j, bound, rfl⟩ := mem_map.mp member
    have := all j (Nat.lt_succ_iff.mp (mem_range.mp bound))
    rwa [zero_add] at this
  have length := (nodup.subperm subset).length_le
  rw [length_map, length_range] at length
  exact Nat.not_succ_le_self _ length

end

def freshNames : List (Nat → α) → List α → List α
  | [], _ => []
  | candidate :: candidates, taken =>
    let name := fresh taken candidate taken.length 0
    name :: freshNames candidates (name :: taken)

@[simp] theorem freshNames_length (candidates : List (Nat → α)) (taken : List α) :
    (freshNames candidates taken).length = candidates.length := by
  induction candidates generalizing taken with
  | nil => rfl
  | cons candidate candidates ih => exact congrArg Nat.succ (ih _)

variable {candidates : List (Nat → α)}

section

variable (different : ∀ candidate ∈ candidates, Function.Injective candidate)

include different

theorem freshNames_notMem {taken : List α} : ∀ name ∈ freshNames candidates taken, name ∉ taken := by
  induction candidates generalizing taken with
  | nil => exact fun name member => by cases member
  | cons candidate candidates ih =>
    obtain ⟨here, rest⟩ := forall_mem_cons.mp different
    intro name member
    rcases mem_cons.mp member with rfl | member
    · exact fresh_notMem here taken
    · exact fun used => ih rest name member (mem_cons_of_mem _ used)

/-- **No two things get the same name.** -/
theorem freshNames_nodup (taken : List α) : (freshNames candidates taken).Nodup := by
  induction candidates generalizing taken with
  | nil => exact nodup_nil
  | cons candidate candidates ih =>
    obtain ⟨-, rest⟩ := forall_mem_cons.mp different
    refine nodup_cons.mpr ⟨fun again => ?_, ih rest _⟩
    exact freshNames_notMem rest _ again mem_cons_self

end

end SingBox.Lib
