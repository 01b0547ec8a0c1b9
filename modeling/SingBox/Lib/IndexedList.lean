/-
**A linked list with an index of its elements.**

The elements of a linked list have an identity, so that they can be removed without a search. A map from
the values to their elements finds the element of a value. List and map are written separately; they are
`Consistent` if the map has exactly the elements of the list. All operations keep them so, as long as no
value is pushed that is in the list already.
-/

import Mathlib.Data.List.Nodup
import Mathlib.Logic.Function.Basic

namespace SingBox.Lib

open List

/-- A list of elements, the index of them, and the number of the next new element. -/
structure IndexedList (α : Type*) where
  elements : List (Nat × α) := []
  index : α → Option Nat := fun _ => none
  next : Nat := 0

namespace IndexedList

variable {α : Type*}

section Operations

variable [DecidableEq α]

def pushBack (list : IndexedList α) (value : α) : IndexedList α where
  elements := list.elements ++ [(list.next, value)]
  index := Function.update list.index value (some list.next)
  next := list.next + 1

def remove (list : IndexedList α) (value : α) : IndexedList α :=
  match list.index value with
  | none => list
  | some element =>
    { list with
      elements := list.elements.filter fun entry => entry.1 ≠ element
      index    := Function.update list.index value none }

def popFront (list : IndexedList α) : Option (α × IndexedList α) :=
  match list.elements with
  | [] => none
  | entry :: elements =>
    some (entry.2, { list with elements, index := Function.update list.index entry.2 none })

end Operations

def Has (list : IndexedList α) (value : α) : Prop := ∃ element, (element, value) ∈ list.elements

/-- The map has exactly the elements of the list. -/
structure Consistent (list : IndexedList α) : Prop where
  indexed : ∀ element value, (element, value) ∈ list.elements ↔ list.index value = some element
  distinct : (list.elements.map Prod.fst).Nodup
  fresh : ∀ entry ∈ list.elements, entry.1 < list.next

theorem consistent_empty : Consistent ({} : IndexedList α) :=
  ⟨by simp, nodup_nil, by simp⟩

@[simp] theorem has_empty (value : α) : ¬Has ({} : IndexedList α) value := by
  simp [Has]

variable {list : IndexedList α} {value other : α} (consistent : Consistent list)

include consistent

theorem Consistent.has_iff : list.Has value ↔ ∃ element, list.index value = some element := by
  simp only [Has, consistent.indexed]

variable [DecidableEq α]

omit consistent in
theorem has_pushBack : (list.pushBack value).Has other ↔ list.Has other ∨ other = value := by
  simp [Has, pushBack, exists_or]

theorem Consistent.pushBack (new : ¬list.Has value) : Consistent (list.pushBack value) := by
  refine ⟨fun element other => ?_, ?_, ?_⟩
  · simp only [IndexedList.pushBack, mem_append, consistent.indexed]
    by_cases same : other = value
    · subst same
      rw [consistent.has_iff, not_exists] at new
      simp [new, eq_comm]
    · simp [same]
  · rw [IndexedList.pushBack, map_append, nodup_append]
    refine ⟨consistent.distinct, by simp, ?_⟩
    intro element member last here
    obtain ⟨entry, inside, rfl⟩ := mem_map.mp member
    have bound := consistent.fresh entry inside
    simp at here
    omega
  · intro entry member
    rcases mem_append.mp member with before | last
    · exact Nat.lt_succ_of_lt (consistent.fresh entry before)
    · rw [mem_singleton.mp last]
      exact Nat.lt_succ_self _

/-! ### Removing -/

theorem Consistent.remove : Consistent (list.remove value) := by
  unfold IndexedList.remove
  split
  · exact consistent
  rename_i element known
  have inside := (consistent.indexed element value).mpr known
  refine ⟨fun next other => ?_, ?_, fun entry member => ?_⟩
  · simp only [mem_filter, decide_eq_true_eq, consistent.indexed]
    by_cases same : other = value
    · subst same
      simp [known, eq_comm]
    rw [Function.update_of_ne same]
    refine and_iff_left_of_imp fun found => ?_
    rintro rfl
    have before := (consistent.indexed next other).mpr found
    exact same (congrArg Prod.snd (inj_on_of_nodup_map consistent.distinct before inside rfl))
  · exact consistent.distinct.sublist (filter_sublist.map _)
  · exact consistent.fresh entry (mem_of_mem_filter member)

theorem Consistent.has_remove : (list.remove value).Has other ↔ list.Has other ∧ other ≠ value := by
  rw [consistent.remove.has_iff, consistent.has_iff]
  unfold IndexedList.remove
  split
  · rename_i missing
    refine (and_iff_left_of_imp ?_).symm
    rintro ⟨element, found⟩ rfl
    cases missing.symm.trans found
  · by_cases same : other = value <;> simp [same]

theorem Consistent.popFront {rest : IndexedList α} (popped : list.popFront = some (value, rest)) :
    Consistent rest ∧ list.Has value ∧ ∀ other, rest.Has other ↔ list.Has other ∧ other ≠ value := by
  unfold IndexedList.popFront at popped
  split at popped
  · cases popped
  rename_i entry elements front
  cases popped
  have inside : (entry.1, entry.2) ∈ list.elements := by simp [front]
  have distinct := consistent.distinct
  rw [front, map_cons, nodup_cons] at distinct
  -- No other element has the value.
  have rest next other : (next, other) ∈ elements ↔ (next, other) ∈ list.elements ∧ other ≠ entry.2 := by
    rw [front, mem_cons]
    constructor
    · intro later
      refine ⟨.inr later, ?_⟩
      rintro rfl
      have known := (consistent.indexed next entry.2).mp (by simp [front, later])
      have same := Option.some.inj (known.symm.trans ((consistent.indexed _ _).mp inside))
      exact distinct.1 (same ▸ mem_map_of_mem later)
    · rintro ⟨first | later, differs⟩
      · exact absurd (congrArg Prod.snd first) differs
      · exact later
  refine ⟨⟨fun next other => ?_, distinct.2, fun next member => ?_⟩, ⟨_, inside⟩, fun other => ?_⟩
  · rw [rest, consistent.indexed]
    by_cases same : other = entry.2 <;> simp [same]
  · exact consistent.fresh next (by simp [front, member])
  · simp only [Has, rest, exists_and_right]

end IndexedList

end SingBox.Lib
