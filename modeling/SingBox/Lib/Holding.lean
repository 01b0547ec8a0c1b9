/-
**Keys that are held by what is in flight.**

`holds id` is the key that `id` holds, if any. `Taken` says that a set of keys is the set of those that are held, each by
one only; `Marked` says that a table has the holder of every key that is held. Both are kept when a free key is acquired
and when a key is released.
-/

import Mathlib.Logic.Function.Basic
import Mathlib.Tactic

namespace SingBox.Lib

open Function

variable {ι κ : Type*} [DecidableEq ι]

/-- The set of the keys that are held, each by one. -/
structure Taken (holds : ι → Option κ) (taken : κ → Bool) : Prop where
  taken_iff : ∀ key, taken key = true ↔ ∃ id, holds id = some key
  unique : ∀ key first second, holds first = some key → holds second = some key → first = second

def Marked (holds : ι → Option κ) (holder : κ → Option ι) : Prop :=
  ∀ key id, holder key = some id ↔ holds id = some key

section Update

variable {holds : ι → Option κ} {taken : κ → Bool} {holder : κ → Option ι} {id other : ι} {key held : κ}

theorem update_some_iff (idle : holds id = none) :
    update holds id (some key) other = some held ↔ other = id ∧ held = key ∨ holds other = some held := by
  by_cases same : other = id
  · rw [same, idle]
    simp [eq_comm]
  · rw [update_of_ne same]
    simp [same]

theorem update_none_iff : update holds id none other = some held ↔ other ≠ id ∧ holds other = some held := by
  by_cases same : other = id
  · rw [same]
    simp
  · rw [update_of_ne same]
    simp [same]

variable [DecidableEq κ]

theorem Taken.acquire (all : Taken holds taken) (idle : holds id = none) (free : taken key = false) :
    Taken (update holds id (some key)) (update taken key true) where
  taken_iff held := by
    simp only [update_some_iff idle, exists_or, ← all.taken_iff]
    by_cases same : held = key
    · rw [same]
      simp
    · rw [update_of_ne same]
      simp [same]
  unique held first second one two := by
    have unheld : ∀ id, holds id ≠ some key := fun id there => by
      rw [(all.taken_iff key).mpr ⟨id, there⟩] at free
      cases free
    rcases (update_some_iff idle).mp one with ⟨rfl, rfl⟩ | before
    · rcases (update_some_iff idle).mp two with ⟨rfl, -⟩ | also
      · rfl
      · exact absurd also (unheld second)
    · rcases (update_some_iff idle).mp two with ⟨rfl, rfl⟩ | also
      · exact absurd before (unheld first)
      · exact all.unique held first second before also

theorem Taken.release (all : Taken holds taken) (there : holds id = some key) :
    Taken (update holds id none) (update taken key false) where
  taken_iff held := by
    simp only [update_none_iff]
    by_cases same : held = key
    · rw [same, update_self]
      refine ⟨fun impossible => absurd impossible Bool.false_ne_true, ?_⟩
      rintro ⟨other, apart, also⟩
      exact absurd (all.unique key other id also there) apart
    · rw [update_of_ne same, all.taken_iff]
      refine exists_congr fun other => ⟨fun also => ⟨?_, also⟩, And.right⟩
      rintro rfl
      exact same (Option.some.inj (also.symm.trans there))
  unique held first second one two :=
    all.unique held first second (update_none_iff.mp one).2 (update_none_iff.mp two).2

theorem Marked.acquire (all : Marked holds holder) (idle : holds id = none) (free : holder key = none) :
    Marked (update holds id (some key)) (update holder key (some id)) := by
  intro held other
  rw [update_some_iff idle]
  by_cases same : held = key
  · rw [same]
    have unheld : holds other ≠ some key := fun there => by
      rw [(all key other).mpr there] at free
      cases free
    simp [unheld, eq_comm]
  · rw [update_of_ne same, all]
    simp [same]

theorem Marked.release (all : Marked holds holder) (there : holds id = some key) :
    Marked (update holds id none) (update holder key none) := by
  intro held other
  rw [update_none_iff, update_none_iff, all]
  refine and_congr_left fun also => not_congr ⟨?_, ?_⟩
  · rintro rfl
    have one := (all held other).mpr also
    rw [(all held id).mpr there] at one
    exact (Option.some.inj one).symm
  · rintro rfl
    exact Option.some.inj (also.symm.trans there)

end Update

end SingBox.Lib
