/-
**Round robin** (`dns/client.go`: `reverseRotateSlice`, `removeAnswersOfType`, `dnsMsg.RoundRobin`).

The addresses of a cached message are taken out of its answers, rotated and put back at the end, one family after the
other. The records are told apart by their concrete type when they are collected, and by the type in their header when
they are removed, so that none is lost or doubled if the two agree (`RR.Typed`). The index of a family goes up by one
with each call and is stored modulo the number of the records.
-/

import SingBox.Dns.Addresses
import Mathlib.Data.List.Rotate
import Mathlib.Data.Nat.ModEq

namespace SingBox.Dns

open List RR

/-! ### Rotations -/

theorem reverseRotateSlice_eq_rotate {α : Type} (slice : List α) (steps : Nat) :
    reverseRotateSlice slice steps = slice.rotate (slice.length - steps % slice.length) := by
  unfold reverseRotateSlice
  split
  · rename_i short
    obtain rfl | ⟨x, rfl⟩ : slice = [] ∨ ∃ x, slice = [x] := by
      cases slice with
      | nil => exact .inl rfl
      | cons x rest =>
        have none : rest = [] := eq_nil_of_length_eq_zero (by simpa using short)
        exact .inr ⟨x, by rw [none]⟩
    · rfl
    · exact (rotate_singleton x _).symm
  · exact (rotate_eq_drop_append_take (Nat.sub_le _ _)).symm

theorem head?_reverseRotateSlice {α : Type} {slice : List α} (several : 1 < slice.length) (steps : Nat) :
    (reverseRotateSlice slice steps).head? = slice[(slice.length - steps % slice.length) % slice.length]? := by
  rw [reverseRotateSlice_eq_rotate, ← rotate_mod]
  exact head?_rotate (Nat.mod_lt _ (by omega))

/-- The places that come first in as many rotations as there are places, each by one step more. -/
theorem perm_places (n start : Nat) : ((range n).map fun i => (n - (start + i) % n) % n).Perm (range n) := by
  have turn : ∀ {a b : Nat}, a < n → b < n → (n - a) % n = (n - b) % n → a = b := by
    intro a b first second same
    by_cases zero : a = 0
    · by_cases also : b = 0
      · exact zero.trans also.symm
      · rw [zero, Nat.sub_zero, Nat.mod_self, Nat.mod_eq_of_lt (by omega)] at same
        omega
    · rw [Nat.mod_eq_of_lt (by omega : n - a < n)] at same
      by_cases also : b = 0
      · rw [also, Nat.sub_zero, Nat.mod_self] at same
        omega
      · rw [Nat.mod_eq_of_lt (by omega : n - b < n)] at same
        omega
  have once : ((range n).map fun i => (n - (start + i) % n) % n).Nodup := by
    refine .map_on (fun i first j second same => ?_) nodup_range
    have inside := mem_range.mp first
    have also := mem_range.mp second
    have shifted : (start + i) % n = (start + j) % n :=
      turn (Nat.mod_lt _ (by omega)) (Nat.mod_lt _ (by omega)) same
    exact Nat.ModEq.eq_of_lt_of_lt (.add_left_cancel' start shifted) inside also
  refine (once.subperm fun place member => ?_).perm_of_length_le (by simp)
  obtain ⟨i, inside, rfl⟩ := mem_map.mp member
  exact mem_range.mpr (Nat.mod_lt _ (lt_of_le_of_lt (Nat.zero_le i) (mem_range.mp inside)))

/-- **Each element comes first once** in as many rotations as there are elements, each by one step more. -/
theorem perm_heads {α : Type} {slice : List α} (several : 1 < slice.length) (start : Nat) :
    ((range slice.length).map fun i => (reverseRotateSlice slice ((start + i) % slice.length)).head?).Perm
      (slice.map some) := by
  have heads : ((range slice.length).map fun i =>
      (reverseRotateSlice slice ((start + i) % slice.length)).head?) =
      ((range slice.length).map fun i => (slice.length - (start + i) % slice.length) % slice.length).map
        fun place => slice[place]? := by
    rw [map_map]
    refine map_congr_left fun i _ => ?_
    rw [head?_reverseRotateSlice several, Nat.mod_mod]
    rfl
  have all : (range slice.length).map (fun place => slice[place]?) = slice.map some := by
    apply ext_getElem?
    intro place
    by_cases inside : place < slice.length <;> simp [inside]
  rw [heads, ← all]
  exact (perm_places slice.length start).map _

/-! ### One half of a call -/

section Half

variable {rrType : UInt16} {kind answers : List RR} {index : Nat}

theorem filter_rotateAnswers_other {p : RR → Bool}
    (apart : ∀ record ∈ answers, p record = true → record.header.rrtype ≠ rrType)
    (foreign : ∀ record ∈ kind, p record = false) :
    (rotateAnswers rrType kind index answers).1.filter p = answers.filter p := by
  unfold rotateAnswers
  split
  · have none : (reverseRotateSlice kind ((index + 1) % kind.length)).filter p = [] := by
      rw [filter_eq_nil_iff]
      intro record member is
      rw [foreign record (mem_reverseRotateSlice.mp member)] at is
      cases is
    rw [filter_append, none, append_nil, removeAnswersOfType, filter_filter]
    refine filter_congr fun record member => ?_
    cases is : p record with
    | false => rfl
    | true => rw [Bool.true_and, bne_iff_ne.mpr (apart record member is)]
  · rfl

theorem filter_rotateAnswers {isKind : RR → Bool} (several : 1 < kind.length)
    (typed : ∀ record ∈ answers, isKind record = true → record.header.rrtype = rrType)
    (kindly : ∀ record ∈ kind, isKind record = true) : (rotateAnswers rrType kind index answers).1.filter isKind =
      reverseRotateSlice kind ((index + 1) % kind.length) := by
  have all : (reverseRotateSlice kind ((index + 1) % kind.length)).filter isKind =
      reverseRotateSlice kind ((index + 1) % kind.length) := by
    rw [filter_eq_self]
    exact fun record member => kindly record (mem_reverseRotateSlice.mp member)
  have none : (removeAnswersOfType answers rrType).filter isKind = [] := by
    rw [filter_eq_nil_iff]
    intro record member is
    obtain ⟨inside, other⟩ := mem_filter.mp member
    exact bne_iff_ne.mp other (typed record inside is)
  unfold rotateAnswers
  rw [if_pos several, filter_append, all, none, nil_append]

theorem index_rotateAnswers (several : 1 < kind.length) :
    (rotateAnswers rrType kind index answers).2 = (index + 1) % kind.length := by
  unfold rotateAnswers
  rw [if_pos several]

end Half

/-! ### Calls -/

def DnsMsg.after (dm : DnsMsg) : Nat → DnsMsg
  | 0 => dm
  | calls + 1 => (dm.after calls).roundRobin.2

def RR.isOther (record : RR) : Bool := !record.isA && !record.isAAAA

section Calls

variable {dm : DnsMsg}

theorem msg_after (dm : DnsMsg) (calls : Nat) : (dm.after calls).msg = dm.msg := by
  induction calls with
  | zero => rfl
  | succ calls ih => exact ih

theorem not_isAAAA_of_isA {record : RR} (is : record.isA = true) : record.isAAAA = false := by
  unfold isA at is
  unfold isAAAA
  split at is
  · rename_i ip data
    rw [data]
  · cases is

section

variable (typed : ∀ record ∈ dm.msg.answer, record.Typed)

include typed

theorem typed_first :
    ∀ record ∈ (rotateAnswers typeA (dm.msg.answer.filter isA) dm.ipv4Index dm.msg.answer).1, record.Typed := by
  intro record member
  exact typed record
    ((perm_rotateAnswers dm.ipv4Index (.refl _) fun record member => (typed record member).a).mem_iff.mp member)

/-- **What a call returns**: the answers reordered, and the other records in order. -/
structure Shows (stored shown : Msg) : Prop where
  rest : { shown with answer := stored.answer } = stored
  perm : shown.answer.Perm stored.answer
  others : shown.answer.filter RR.isOther = stored.answer.filter RR.isOther

theorem shows_roundRobin : Shows dm.msg dm.roundRobin.1 where
  rest := rfl
  perm := by
    refine perm_rotateAnswers _ ?_ fun record member => (typed record member).aaaa
    exact perm_rotateAnswers _ (.refl _) fun record member => (typed record member).a
  others := by
    show (rotateAnswers typeAAAA (dm.msg.answer.filter isAAAA) dm.ipv6Index _).1.filter isOther = _
    rw [filter_rotateAnswers_other, filter_rotateAnswers_other]
    · intro record member other same
      rw [isOther, (typed record member).a.mpr same] at other
      cases other
    · intro record member
      rw [isOther, (mem_filter.mp member).2]
      rfl
    · intro record member other same
      rw [isOther, ((typed_first typed) record member).aaaa.mpr same, Bool.not_true, Bool.and_false] at other
      cases other
    · intro record member
      rw [isOther, (mem_filter.mp member).2, Bool.not_true, Bool.and_false]

theorem filter_isA_roundRobin (several : 1 < (dm.msg.answer.filter RR.isA).length) :
    dm.roundRobin.1.answer.filter isA = reverseRotateSlice (dm.msg.answer.filter isA)
        ((dm.ipv4Index + 1) % (dm.msg.answer.filter isA).length) := by
  show (rotateAnswers typeAAAA (dm.msg.answer.filter isAAAA) dm.ipv6Index _).1.filter isA = _
  rw [filter_rotateAnswers_other, filter_rotateAnswers several]
  · exact fun record member => (typed record member).a.mp
  · exact fun record member => (mem_filter.mp member).2
  · intro record member is same
    rw [(typed_first typed record member).a.mp is] at same
    exact absurd same (by decide)
  · intro record member
    by_contra is
    have both := not_isAAAA_of_isA (Bool.eq_true_of_not_eq_false is)
    rw [(mem_filter.mp member).2] at both
    cases both

theorem filter_isAAAA_roundRobin (several : 1 < (dm.msg.answer.filter RR.isAAAA).length) :
    dm.roundRobin.1.answer.filter isAAAA = reverseRotateSlice (dm.msg.answer.filter isAAAA)
        ((dm.ipv6Index + 1) % (dm.msg.answer.filter isAAAA).length) := by
  refine filter_rotateAnswers several ?_ ?_
  · exact fun record member => (typed_first typed record member).aaaa.mp
  · exact fun record member => (mem_filter.mp member).2

end

theorem perm_firsts {isKind : RR → Bool} {kind : List RR} (several : 1 < kind.length) (index : Nat → Nat)
    (shown : Nat → List RR) (turns : ∀ calls, index (calls + 1) = (index calls + 1) % kind.length)
    (shows : ∀ calls, (shown calls).filter isKind = reverseRotateSlice kind ((index calls + 1) % kind.length))
    (start : Nat) : ((range kind.length).map fun i => (shown (start + i)).find? isKind).Perm (kind.map some) := by
  have later : ∀ i, (index (start + i) + 1) % kind.length = (index start + 1 + i) % kind.length := by
    intro i
    induction i with
    | zero => rfl
    | succ i ih =>
      rw [← add_assoc, turns, ih, Nat.mod_add_mod]
      rfl
  have firsts : (fun i => (shown (start + i)).find? isKind) = fun i =>
      (reverseRotateSlice kind ((index start + 1 + i) % kind.length)).head? := by
    funext i
    rw [← head?_filter, shows, later]
  rw [firsts]
  exact perm_heads several (index start + 1)

end Calls

/-- **Round robin reorders the answers** and nothing else, and leaves the stored message as it is. In as many calls as
there are addresses of a family, each of them comes first once. -/
theorem roundRobin_permutes (dm : DnsMsg) (typed : ∀ record ∈ dm.msg.answer, record.Typed) :
    (∀ calls, (dm.after calls).msg = dm.msg ∧ Shows dm.msg (dm.after calls).roundRobin.1) ∧
    (1 < (dm.msg.answer.filter RR.isA).length → ∀ start, ((List.range (dm.msg.answer.filter RR.isA).length).map fun i =>
        (dm.after (start + i)).roundRobin.1.answer.find? RR.isA).Perm ((dm.msg.answer.filter RR.isA).map some)) ∧
    (1 < (dm.msg.answer.filter RR.isAAAA).length → ∀ start,
      ((List.range (dm.msg.answer.filter RR.isAAAA).length).map fun i =>
        (dm.after (start + i)).roundRobin.1.answer.find? RR.isAAAA).Perm ((dm.msg.answer.filter RR.isAAAA).map some)) := by
  have same : ∀ calls, (dm.after calls).msg = dm.msg := msg_after dm
  have still : ∀ calls, ∀ record ∈ (dm.after calls).msg.answer, record.Typed := by
    intro calls
    rw [same]
    exact typed
  refine ⟨fun calls => ⟨same calls, same calls ▸ shows_roundRobin (still calls)⟩,
    fun several => perm_firsts several (fun calls => (dm.after calls).ipv4Index)
      (fun calls => (dm.after calls).roundRobin.1.answer) (fun calls => ?_) fun calls => ?_,
    fun several => perm_firsts several (fun calls => (dm.after calls).ipv6Index)
      (fun calls => (dm.after calls).roundRobin.1.answer) (fun calls => ?_) fun calls => ?_⟩
  all_goals rw [← same calls] at several ⊢
  · exact index_rotateAnswers several
  · exact filter_isA_roundRobin (still calls) several
  · exact index_rotateAnswers several
  · exact filter_isAAAA_roundRobin (still calls) several

def rotatedMessage : Msg :=
  { response := true
    question := [sampleQuestion]
    answer := [⟨⟨[97, 46], typeA, classINET, 60⟩, .a [10, 0, 0, 1]⟩, ⟨⟨[97, 46], 5, classINET, 60⟩, .cname [98, 46]⟩,
      ⟨⟨[97, 46], typeA, classINET, 60⟩, .a [10, 0, 0, 2]⟩, ⟨⟨[97, 46], typeA, classINET, 60⟩, .a [10, 0, 0, 3]⟩] }

/-- In the three calls after the seventh each address comes first once. -/
theorem roundRobin_three : ((List.range 3).map fun i =>
      (({ msg := rotatedMessage } : DnsMsg).after (7 + i)).roundRobin.1.answer.find? RR.isA).Perm
        ((rotatedMessage.answer.filter RR.isA).map some) := by
  have typed : ∀ record ∈ rotatedMessage.answer, record.Typed := by
    intro record member
    have all : rotatedMessage.answer.all fun record =>
        (record.isA == (record.header.rrtype == typeA)) && (record.isAAAA == (record.header.rrtype == typeAAAA)) := by
      decide
    obtain ⟨first, second⟩ := Bool.and_eq_true_iff.mp (List.all_eq_true.mp all record member)
    rw [beq_iff_eq] at first second
    exact ⟨by rw [first, beq_iff_eq], by rw [second, beq_iff_eq]⟩
  exact (roundRobin_permutes { msg := rotatedMessage } typed).2.1 (by decide) 7

end SingBox.Dns
