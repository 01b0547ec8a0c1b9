/-
**Loops that only add, and loops that fill a slice.**

A `for` loop over a slice is a left fold, or fills a slice of the same length. `mem_foldl_iff` is for a body that may
only *add* elements to an accumulator that is read through a membership relation; the rules about `Forall₂` say what a
filled slice holds, and when it can be filled.
-/

import Mathlib.Data.List.Forall2

namespace SingBox.Lib

open List

section Fold

variable {S ι κ : Type*}

/-- **A loop that only adds.** `hit i x` says that iteration `i` contributes `x`. -/
theorem mem_foldl_iff (mem : S → κ → Prop) (hit : ι → κ → Prop) (step : S → ι → S) (items : List ι)
    (step_mem : ∀ i ∈ items, ∀ (acc : S) (x : κ), mem (step acc i) x ↔ mem acc x ∨ hit i x)
    (acc : S) (x : κ) : mem (items.foldl step acc) x ↔ mem acc x ∨ ∃ i ∈ items, hit i x := by
  induction items generalizing acc with
  | nil => simp
  | cons head tail ih =>
    have rest : ∀ i ∈ tail, ∀ (acc : S) (x : κ), mem (step acc i) x ↔ mem acc x ∨ hit i x :=
      fun i member => step_mem i (mem_cons_of_mem head member)
    rw [foldl_cons, ih rest, step_mem head mem_cons_self, exists_mem_cons_iff, or_assoc]

end Fold

section

variable {α β : Type*} {R : α → β → Prop} {first : List α} {second : List β} (related : List.Forall₂ R first second)

include related

theorem exists_of_forall₂ {b : β} (member : b ∈ second) : ∃ a ∈ first, R a b := by
  induction related with
  | nil => exact absurd member not_mem_nil
  | cons head tail ih =>
    rcases mem_cons.mp member with rfl | inTail
    · exact ⟨_, mem_cons_self, head⟩
    · obtain ⟨a, found, holds⟩ := ih inTail
      exact ⟨a, mem_cons_of_mem _ found, holds⟩

theorem forall_mem_iff_of_forall₂ {P : α → Prop} {Q : β → Prop} (carry : ∀ a b, R a b → (P a ↔ Q b)) :
    (∀ a ∈ first, P a) ↔ ∀ b ∈ second, Q b := by
  induction related with
  | nil => simp
  | cons head tail ih => rw [forall_mem_cons, forall_mem_cons, carry _ _ head, ih]

end

theorem forall₂_map_of_mem {α β γ : Type*} {R : α → β → Prop} {S : γ → β → Prop} {f : α → γ}
    {first : List α} {second : List β} (related : List.Forall₂ R first second)
    (step : ∀ a ∈ first, ∀ b, R a b → S (f a) b) : List.Forall₂ S (first.map f) second := by
  induction related with
  | nil => exact .nil
  | cons head tail ih =>
    refine .cons (step _ mem_cons_self _ head) (ih fun a member b holds => ?_)
    exact step a (mem_cons_of_mem _ member) b holds

/-- A list can be related to another if every element of it can be related to something. -/
theorem exists_forall₂_iff {α β : Type*} {R : α → β → Prop} {first : List α} :
    (∃ second, List.Forall₂ R first second) ↔ ∀ a ∈ first, ∃ b, R a b := by
  induction first with
  | nil => simp
  | cons a first ih =>
    rw [forall_mem_cons, ← ih]
    constructor
    · rintro ⟨second, related⟩
      cases related with
      | cons head tail => exact ⟨⟨_, head⟩, _, tail⟩
    · rintro ⟨⟨b, head⟩, second, tail⟩
      exact ⟨b :: second, .cons head tail⟩

end SingBox.Lib
