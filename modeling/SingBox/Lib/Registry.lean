/-
**Registries of things that depend on each other.**

A registry has its entries in a list, finds them by their tag, and knows for each tag which entries depend on it.
List, map and dependents are written separately. `Consistent`: the map has exactly the entries of the list, and their
tags differ. `Exact`: the dependents of a tag are the entries that list it as a dependency. Registering and
unregistering keep a registry consistent; the dependents stay exact only if nobody has to be struck off, or everybody
once.
-/

import Mathlib.Data.List.Nodup
import Mathlib.Data.List.Count
import Mathlib.Logic.Function.Basic
import Mathlib.Logic.Function.Iterate

namespace SingBox.Lib

open Function

open List

section Modify

variable {α β : Type*} [DecidableEq α]

/-- The value at each key of a list is changed, once for each time that it is in the list. -/
def modifyAll (f : β → β) (keys : List α) (map : α → β) : α → β :=
  keys.foldl (fun map key => Function.update map key (f (map key))) map

theorem modifyAll_apply (f : β → β) (keys : List α) (map : α → β) (key : α) :
    modifyAll f keys map key = f^[keys.count key] (map key) := by
  induction keys generalizing map with
  | nil => rfl
  | cons first keys ih =>
    show modifyAll f keys (update map first (f (map first))) key = _
    rw [ih]
    by_cases same : first = key
    · subst same
      rw [update_self, count_cons_self, iterate_succ_apply]
    · rw [update_of_ne (symm same), count_cons_of_ne same]

end Modify

/-! ### Entries and registries -/

/-- Something that can be registered. The serial number is its identity. -/
structure Entry (Tag Data : Type) where
  serial : Nat
  tag : Tag
  dependencies : List Tag
  data : Data
  deriving DecidableEq

/-- Entries, where they are found by tag, and who depends on what. -/
structure Registry (Tag Data : Type) where
  list : List (Entry Tag Data) := []
  byTag : Tag → Option (Entry Tag Data) := fun _ => none
  dependBy : Tag → List Tag := fun _ => []

variable {Tag Data : Type}

namespace Registry

/-- **List and map have the same entries, with distinct tags.** -/
structure Consistent (r : Registry Tag Data) : Prop where
  indexed : ∀ tag entry, r.byTag tag = some entry ↔ entry ∈ r.list ∧ entry.tag = tag
  distinct : (r.list.map Entry.tag).Nodup

/-- **The dependents of a tag are the entries that list it.** -/
def Exact (r : Registry Tag Data) : Prop :=
  ∀ dependency tag, tag ∈ r.dependBy dependency ↔ ∃ entry ∈ r.list, entry.tag = tag ∧ dependency ∈ entry.dependencies

theorem consistent_empty : Consistent ({} : Registry Tag Data) := ⟨by simp, List.nodup_nil⟩

theorem exact_empty : Exact ({} : Registry Tag Data) := by
  simp [Exact]

variable {r : Registry Tag Data} {tag : Tag} {entry other old : Entry Tag Data}

section

variable (consistent : Consistent r)

include consistent

theorem Consistent.found (member : entry ∈ r.list) : r.byTag entry.tag = some entry :=
  (consistent.indexed _ _).mpr ⟨member, rfl⟩

theorem Consistent.nodup : r.list.Nodup := List.Nodup.of_map _ consistent.distinct

theorem Consistent.eq_of_tag (first : entry ∈ r.list) (second : other ∈ r.list) (same : entry.tag = other.tag) :
    entry = other :=
  inj_on_of_nodup_map consistent.distinct first second same

end

end Registry

variable [DecidableEq Tag] [DecidableEq Data]

def strike (tag : Tag) (dependents : List Tag) : List Tag :=
  if dependents.length = 1 then [] else dependents.filter fun it => it ≠ tag

namespace Registry

section

variable (r : Registry Tag Data)

def unlist (entry : Entry Tag Data) : Registry Tag Data :=
  { r with list := r.list.erase entry }

def unregister (tag : Tag) (entry : Entry Tag Data) : Registry Tag Data :=
  { r.unlist entry with byTag := Function.update r.byTag tag none }

def withdraw (tag : Tag) (entry : Entry Tag Data) : Registry Tag Data :=
  { r with dependBy := modifyAll (strike tag) entry.dependencies r.dependBy }

/-- The entry is put at the end of the list, into the map and down as a dependent. -/
def register (entry : Entry Tag Data) : Registry Tag Data where
  list := r.list ++ [entry]
  byTag := Function.update r.byTag entry.tag (some entry)
  dependBy := modifyAll (fun dependents => dependents ++ [entry.tag]) entry.dependencies r.dependBy

end

variable {r : Registry Tag Data} {tag : Tag} {entry other old : Entry Tag Data}

/-! ### List and map -/

namespace Consistent

variable (consistent : Consistent r)

include consistent

theorem mem_unlist : other ∈ (r.unlist entry).list ↔ other ∈ r.list ∧ other ≠ entry :=
  (consistent.nodup.mem_erase_iff).trans and_comm

theorem unregister (found : r.byTag tag = some entry) : Consistent (r.unregister tag entry) := by
  obtain ⟨member, is⟩ := (consistent.indexed _ _).mp found
  refine ⟨fun name other => ?_, consistent.distinct.sublist (erase_sublist.map _)⟩
  show update r.byTag tag none name = some other ↔ other ∈ (r.unlist entry).list ∧ other.tag = name
  rw [consistent.mem_unlist]
  by_cases same : name = tag
  · subst same
    refine iff_of_false (by simp) ?_
    rintro ⟨⟨inside, differs⟩, also⟩
    exact differs (consistent.eq_of_tag inside member (also.trans is.symm))
  · rw [update_of_ne same, consistent.indexed]
    refine and_congr_left fun own => (and_iff_left ?_).symm
    rintro rfl
    exact same (own.symm.trans is)

omit [DecidableEq Data] in
theorem register (new : r.byTag entry.tag = none) : Consistent (r.register entry) := by
  have free (other : Entry Tag Data) (member : other ∈ r.list) : other.tag ≠ entry.tag := by
    intro same
    have found := consistent.found member
    rw [same, new] at found
    cases found
  refine ⟨fun tag other => ?_, ?_⟩
  · show update r.byTag entry.tag (some entry) tag = some other ↔ other ∈ r.list ++ [entry] ∧ other.tag = tag
    rw [mem_append, mem_singleton, or_and_right]
    by_cases same : tag = entry.tag
    · subst same
      rw [update_self, Option.some.injEq]
      constructor
      · rintro rfl
        exact .inr ⟨rfl, rfl⟩
      · rintro (⟨member, tag⟩ | ⟨rfl, -⟩)
        · exact absurd tag (free other member)
        · rfl
    · rw [update_of_ne same, consistent.indexed]
      refine (or_iff_left ?_).symm
      rintro ⟨rfl, tag⟩
      exact same tag.symm
  · show ((r.list ++ [entry]).map Entry.tag).Nodup
    rw [map_append, nodup_append]
    refine ⟨consistent.distinct, by simp, fun tag member last here => ?_⟩
    obtain ⟨inside, is, rfl⟩ := mem_map.mp member
    simp only [map_cons, map_nil, mem_singleton] at here
    rintro rfl
    exact free inside is here

theorem replace (found : r.byTag entry.tag = some old) : Consistent ((r.unlist old).register entry) := by
  have same : (r.unlist old).register entry = (r.unregister entry.tag old).register entry := by
    simp [Registry.register, Registry.unregister, unlist]
  rw [same]
  exact (consistent.unregister found).register (update_self ..)

end Consistent

/-! ### Dependents -/

omit [DecidableEq Data] in
theorem mem_register_dependBy {dependency tag : Tag} : tag ∈ (r.register entry).dependBy dependency ↔
      tag ∈ r.dependBy dependency ∨ tag = entry.tag ∧ dependency ∈ entry.dependencies := by
  have appended n dependents :
      tag ∈ (fun dependents => dependents ++ [entry.tag])^[n] dependents ↔ tag ∈ dependents ∨ tag = entry.tag ∧ 0 < n := by
    induction n generalizing dependents with
    | zero => simp
    | succ n ih =>
      rw [iterate_succ_apply, ih, mem_append, mem_singleton]
      constructor
      · rintro ((before | here) | later)
        · exact .inl before
        · exact .inr ⟨here, Nat.succ_pos n⟩
        · exact .inr ⟨later.1, Nat.succ_pos n⟩
      · rintro (before | ⟨here, -⟩)
        · exact .inl (.inl before)
        · exact .inl (.inr here)
  show tag ∈ modifyAll (fun dependents => dependents ++ [entry.tag]) entry.dependencies r.dependBy dependency ↔ _
  rw [modifyAll_apply, appended, count_pos_iff]

omit [DecidableEq Data] in
/-- **A new entry is put down as a dependent.** -/
theorem Exact.register (exact : Exact r) : Exact (r.register entry) := by
  intro dependency tag
  rw [mem_register_dependBy, exact dependency tag]
  constructor
  · rintro (⟨other, member, tag, lists⟩ | ⟨rfl, lists⟩)
    · exact ⟨other, mem_append_left _ member, tag, lists⟩
    · exact ⟨entry, mem_append_right _ (mem_singleton_self _), rfl, lists⟩
  · rintro ⟨other, member, tag, lists⟩
    rcases mem_append.mp member with before | here
    · exact .inl ⟨other, before, tag, lists⟩
    · obtain rfl := mem_singleton.mp here
      exact .inr ⟨tag.symm, lists⟩

theorem exact_replace_iff (consistent : Consistent r) (exact : Exact r) (found : r.byTag entry.tag = some old) :
    Exact ((r.unlist old).register entry) ↔ old.dependencies ⊆ entry.dependencies := by
  obtain ⟨member, tag⟩ := (consistent.indexed _ _).mp found
  have listed other : other ∈ ((r.unlist old).register entry).list ↔
      other ∈ r.list ∧ other ≠ old ∨ other = entry := by
    rw [← consistent.mem_unlist]
    exact mem_append.trans (or_congr_right mem_singleton)
  constructor
  · intro after dependency lists
    have recorded : old.tag ∈ ((r.unlist old).register entry).dependBy dependency :=
      mem_register_dependBy.mpr (.inl ((exact _ _).mpr ⟨old, member, rfl, lists⟩))
    obtain ⟨other, inside, same, depends⟩ := (after _ _).mp recorded
    rcases (listed other).mp inside with ⟨before, differs⟩ | rfl
    · exact absurd (consistent.eq_of_tag before member same) differs
    · exact depends
  · intro covers dependency name
    rw [mem_register_dependBy]
    constructor
    · rintro (before | ⟨rfl, lists⟩)
      · obtain ⟨other, inside, same, lists⟩ := (exact _ _).mp before
        by_cases is : other = old
        · subst is
          exact ⟨entry, (listed _).mpr (.inr rfl), tag.symm.trans same, covers lists⟩
        · exact ⟨other, (listed _).mpr (.inl ⟨inside, is⟩), same, lists⟩
      · exact ⟨entry, (listed _).mpr (.inr rfl), rfl, lists⟩
    · rintro ⟨other, inside, same, lists⟩
      rcases (listed other).mp inside with ⟨before, -⟩ | rfl
      · exact .inl ((exact _ _).mpr ⟨other, before, same, lists⟩)
      · exact .inr ⟨same.symm, lists⟩

/-! ### Striking off -/

section Strike

variable {tag : Tag} {dependents : List Tag}

theorem strike_eq (inside : tag ∈ dependents) : strike tag dependents = dependents.filter fun it => it ≠ tag := by
  unfold strike
  split_ifs with single
  · obtain ⟨only, rfl⟩ := length_eq_one_iff.mp single
    obtain rfl := mem_singleton.mp inside
    simp
  · rfl

theorem strike_of_not_mem (outside : tag ∉ dependents) :
    strike tag dependents = if dependents.length = 1 then [] else dependents := by
  unfold strike
  split_ifs with single
  · rfl
  refine filter_eq_self.mpr fun it member => ?_
  rw [decide_eq_true_eq]
  rintro rfl
  exact outside member

theorem strike_iterate (outside : tag ∉ dependents) (n : Nat) :
    (strike tag)^[n + 1] dependents = if dependents.length = 1 then [] else dependents := by
  have fixed : strike tag (if dependents.length = 1 then [] else dependents) =
      if dependents.length = 1 then [] else dependents := by
    split_ifs with single
    · simp [strike]
    · rw [strike_of_not_mem outside, if_neg single]
  induction n with
  | zero => exact strike_of_not_mem outside
  | succ n ih => rw [iterate_succ_apply', ih, fixed]

/-- **Striking off again and again** removes the tag and nothing else, unless it is done twice and there is one
other dependent. -/
theorem strike_exact_iff (inside : tag ∈ dependents) (n : Nat) :
    (∀ it, it ∈ (strike tag)^[n + 1] dependents ↔ it ∈ dependents ∧ it ≠ tag) ↔
      (1 ≤ n → (dependents.filter fun it => it ≠ tag).length ≠ 1) := by
  have left it : it ∈ dependents.filter (fun it => it ≠ tag) ↔ it ∈ dependents ∧ it ≠ tag := by
    rw [mem_filter, decide_eq_true_eq]
  rw [iterate_succ_apply, strike_eq inside]
  cases n with
  | zero => simp
  | succ n =>
    have gone : tag ∉ dependents.filter fun it => it ≠ tag := by simp
    rw [strike_iterate gone n]
    constructor
    · intro same _ single
      rw [if_pos single] at same
      obtain ⟨only, is⟩ := length_eq_one_iff.mp single
      have member := (same only).mpr ((left only).mp (is ▸ mem_singleton_self _))
      cases member
    · intro several it
      rw [if_neg (several (Nat.succ_pos n))]
      exact left it

end Strike

def Separable (r : Registry Tag Data) (tag : Tag) (entry : Entry Tag Data) : Prop :=
  ∀ dependency, 2 ≤ entry.dependencies.count dependency → ((r.dependBy dependency).filter fun it => it ≠ tag).length ≠ 1

theorem exact_withdraw_iff (consistent : Consistent r) (exact : Exact r) (found : r.byTag tag = some entry) :
    Exact ((r.unregister tag entry).withdraw tag entry) ↔ r.Separable tag entry := by
  obtain ⟨member, rfl⟩ := (consistent.indexed _ _).mp found
  have own dependency : entry.tag ∈ r.dependBy dependency ↔ dependency ∈ entry.dependencies := by
    rw [exact]
    constructor
    · rintro ⟨other, inside, same, lists⟩
      exact consistent.eq_of_tag inside member same ▸ lists
    · exact fun lists => ⟨entry, member, rfl, lists⟩
  have others dependency name :
      (∃ other ∈ (r.unlist entry).list, other.tag = name ∧ dependency ∈ other.dependencies) ↔
        name ∈ r.dependBy dependency ∧ name ≠ entry.tag := by
    rw [exact]
    simp only [consistent.mem_unlist]
    constructor
    · rintro ⟨other, ⟨inside, differs⟩, rfl, lists⟩
      exact ⟨⟨other, inside, rfl, lists⟩, fun same => differs (consistent.eq_of_tag inside member same)⟩
    · rintro ⟨⟨other, inside, rfl, lists⟩, differs⟩
      exact ⟨other, ⟨inside, fun is => differs (congrArg Entry.tag is)⟩, rfl, lists⟩
  refine forall_congr' fun dependency => ?_
  show (∀ name, name ∈ modifyAll (strike entry.tag) entry.dependencies r.dependBy dependency ↔
    ∃ other ∈ (r.unlist entry).list, other.tag = name ∧ dependency ∈ other.dependencies) ↔ _
  simp only [others, modifyAll_apply]
  cases times : entry.dependencies.count dependency with
  | zero =>
    have unlisted := mt (own dependency).mp (count_eq_zero.mp times)
    refine iff_of_true (fun name => (and_iff_left_of_imp fun inside => ?_).symm) (by simp)
    rintro rfl
    exact unlisted inside
  | succ n =>
    have listed := (own dependency).mpr (count_pos_iff.mp (by omega))
    exact (strike_exact_iff listed n).trans (imp_congr_left (by omega))

end Registry

end SingBox.Lib
