/-
**The match states of a rule** (`route/rule/match_state.go`).

Four bits remember which of its grouped conditions a rule has already satisfied: source address, source port,
destination address, destination port. A `ruleMatchState` is such a bit pattern; a `ruleMatchStateSet` is a set of
patterns, kept as the sixteen bits of a `uint16`, because a rule-set may be satisfied along several branches at once.
The set operations are the loops of the source, and each has one lemma that says which states the result contains.
-/

import Mathlib.Tactic
import SingBox.Lib.Loop

namespace SingBox.Route

open SingBox.Lib BitVec

/-- `type ruleMatchState uint8`. -/
abbrev RuleMatchState := BitVec 8

def ruleMatchSourceAddress : RuleMatchState := 1
def ruleMatchSourcePort : RuleMatchState := 2
def ruleMatchDestinationAddress : RuleMatchState := 4
def ruleMatchDestinationPort : RuleMatchState := 8

def RuleMatchState.has (s target : RuleMatchState) : Bool := s &&& target != 0

/-- `range ruleMatchState(16)`: the states the set loops run over. -/
def ruleMatchStates : List RuleMatchState := (List.range 16).map (BitVec.ofNat 8)

theorem mem_ruleMatchStates (state : RuleMatchState) : state ∈ ruleMatchStates ↔ state.toNat < 16 := by
  simp only [ruleMatchStates, List.mem_map, List.mem_range]
  constructor
  · rintro ⟨index, bound, rfl⟩
    rw [toNat_ofNat]
    omega
  · intro bound
    exact ⟨state.toNat, bound, by simp⟩

/-- Both halves of a union of states below `16` stay below `16`. -/
theorem or_toNat_lt {left right : RuleMatchState} (boundLeft : left.toNat < 16)
    (boundRight : right.toNat < 16) : (left ||| right).toNat < 16 := by
  exact Nat.or_lt_two_pow (n := 4) boundLeft boundRight

/-! ### Sets of states -/

/-- `type ruleMatchStateSet uint16`: bit `k` is set when state `k` is in the set. -/
structure RuleMatchStateSet where
  bits : BitVec 16
  deriving DecidableEq, Repr

def singleRuleMatchState (state : RuleMatchState) : RuleMatchStateSet := ⟨1#16 <<< state⟩

def emptyRuleMatchState : RuleMatchStateSet := singleRuleMatchState 0

namespace RuleMatchStateSet

/-- The literal `0` of the source: no state at all. -/
def none : RuleMatchStateSet := ⟨0⟩

def isEmpty (s : RuleMatchStateSet) : Bool := s.bits == 0

def contains (s : RuleMatchStateSet) (state : RuleMatchState) : Bool :=
  s.bits &&& (1#16 <<< state) != 0

def add (s : RuleMatchStateSet) (state : RuleMatchState) : RuleMatchStateSet :=
  ⟨s.bits ||| (singleRuleMatchState state).bits⟩

def merge (s other : RuleMatchStateSet) : RuleMatchStateSet := ⟨s.bits ||| other.bits⟩

def combine (s other : RuleMatchStateSet) : RuleMatchStateSet :=
  if s.isEmpty || other.isEmpty then none
  else
    ruleMatchStates.foldl (fun combined left =>
      if !s.contains left then combined
      else
        ruleMatchStates.foldl (fun combined right =>
          if !other.contains right then combined else combined.add (left ||| right)) combined) none

def withBase (s : RuleMatchStateSet) (base : RuleMatchState) : RuleMatchStateSet :=
  if s.isEmpty then none
  else
    ruleMatchStates.foldl (fun withBase state =>
      if !s.contains state then withBase else withBase.add (state ||| base)) none

def filter (s : RuleMatchStateSet) (allowed : RuleMatchState → Bool) : RuleMatchStateSet :=
  ruleMatchStates.foldl (fun filtered state =>
    if !s.contains state then filtered
    else if allowed state then filtered.add state else filtered) none

section

variable (s : RuleMatchStateSet)

include s

/-! ### Membership -/

theorem contains_eq_getLsbD (state : RuleMatchState) : s.contains state = s.bits.getLsbD state.toNat := by
  have mask : (1#16 <<< state : BitVec 16) = twoPow 16 state.toNat := rfl
  unfold contains
  rw [mask, and_twoPow]
  by_cases bit : s.bits.getLsbD state.toNat
  · have small : state.toNat < 16 := lt_of_getLsbD bit
    have nonzero : twoPow 16 state.toNat ≠ 0#16 := by
      intro zero
      have := congrArg (fun v => v.getLsbD state.toNat) zero
      simp [small] at this
    rw [bit]
    exact bne_iff_ne.mpr nonzero
  · rw [Bool.not_eq_true] at *
    rw [bit]
    rfl

omit s in
/-- Only states below `16` are ever in a set. -/
theorem lt_of_contains {s : RuleMatchStateSet} {state : RuleMatchState}
    (member : s.contains state = true) : state.toNat < 16 := by
  rw [contains_eq_getLsbD] at member
  exact lt_of_getLsbD member

omit s in
theorem ext_contains {s t : RuleMatchStateSet}
    (same : ∀ state, s.contains state = true ↔ t.contains state = true) : s = t := by
  cases s with | mk bits =>
  cases t with | mk bits' =>
  congr 1
  apply eq_of_getLsbD_eq
  intro index bound
  have at_index := same (.ofNat 8 index)
  have value : (BitVec.ofNat 8 index).toNat = index := by
    rw [toNat_ofNat]
    omega
  rw [contains_eq_getLsbD, contains_eq_getLsbD, value, ← Bool.eq_iff_iff] at at_index
  exact at_index

omit s in
@[simp] theorem contains_none (state : RuleMatchState) : none.contains state = false := by
  rw [contains_eq_getLsbD]
  exact getLsbD_zero

theorem isEmpty_iff : s.isEmpty = true ↔ ∀ state, s.contains state = false := by
  constructor
  · intro empty state
    have zero : s.bits = 0 := eq_of_beq empty
    rw [contains_eq_getLsbD, zero]
    exact getLsbD_zero
  · intro noMember
    have same : s = none := ext_contains fun state => by simp [noMember state]
    rw [same]
    rfl

theorem isEmpty_eq_false_iff : s.isEmpty = false ↔ ∃ state, s.contains state = true := by
  rw [← Bool.not_eq_true, isEmpty_iff]
  simp

omit s in
theorem contains_single (state x : RuleMatchState) :
    (singleRuleMatchState state).contains x = true ↔ x = state ∧ x.toNat < 16 := by
  have mask : (singleRuleMatchState state).bits = twoPow 16 state.toNat := rfl
  rw [contains_eq_getLsbD, mask, getLsbD_twoPow]
  simp only [Bool.and_eq_true, decide_eq_true_eq]
  constructor
  · rintro ⟨bound, equal⟩
    exact ⟨eq_of_toNat_eq equal.symm, by omega⟩
  · rintro ⟨rfl, bound⟩
    exact ⟨bound, rfl⟩

omit s in
@[simp] theorem contains_merge (s other : RuleMatchStateSet) (x : RuleMatchState) :
    (s.merge other).contains x = (s.contains x || other.contains x) := by
  rw [contains_eq_getLsbD, contains_eq_getLsbD, contains_eq_getLsbD]
  exact getLsbD_or

theorem contains_add (state x : RuleMatchState) (bound : state.toNat < 16) :
    (s.add state).contains x = true ↔ s.contains x = true ∨ x = state := by
  have asMerge : s.add state = s.merge (singleRuleMatchState state) := rfl
  rw [asMerge, contains_merge, Bool.or_eq_true, contains_single]
  constructor
  · rintro (old | ⟨equal, -⟩)
    · exact .inl old
    · exact .inr equal
  · rintro (old | rfl)
    · exact .inl old
    · exact .inr ⟨rfl, bound⟩

/-- The loop of `withBase` and of `filter`: every kept state of `s` contributes its image. -/
theorem contains_collect (keep : RuleMatchState → Bool) (image : RuleMatchState → RuleMatchState)
    (small : ∀ state, state.toNat < 16 → (image state).toNat < 16) (acc : RuleMatchStateSet)
    (x : RuleMatchState) : (ruleMatchStates.foldl (fun acc state => if !s.contains state then acc
        else if keep state then acc.add (image state) else acc) acc).contains x = true ↔
      acc.contains x = true ∨ ∃ state, s.contains state = true ∧ keep state = true ∧ x = image state := by
  rw [mem_foldl_iff (fun (set : RuleMatchStateSet) y => set.contains y = true)
    (fun state y => s.contains state = true ∧ keep state = true ∧ y = image state)]
  · constructor
    · rintro (old | ⟨state, -, hit⟩)
      · exact .inl old
      · exact .inr ⟨state, hit⟩
    · rintro (old | ⟨state, hit⟩)
      · exact .inl old
      · exact .inr ⟨state, (mem_ruleMatchStates state).mpr (lt_of_contains hit.1), hit⟩
  · intro state member acc y
    have bound := small state ((mem_ruleMatchStates state).mp member)
    by_cases present : s.contains state = true
    · by_cases kept : keep state = true
      · simp only [present, kept, Bool.not_true, Bool.false_eq_true, if_false, if_true,
          contains_add _ _ _ bound, true_and]
      · simp [kept]
    · simp [present]

theorem contains_withBase {base : RuleMatchState} (bound : base.toNat < 16) (x : RuleMatchState) :
    (s.withBase base).contains x = true ↔ ∃ state, s.contains state = true ∧ x = state ||| base := by
  unfold withBase
  split_ifs with empty
  · simp [(isEmpty_iff s).mp empty]
  · have collected := contains_collect s (fun _ => true) (fun state => state ||| base)
      (fun state small => or_toNat_lt small bound) none x
    simpa using collected

theorem contains_filter (allowed : RuleMatchState → Bool) (x : RuleMatchState) :
    (s.filter allowed).contains x = true ↔ s.contains x = true ∧ allowed x = true := by
  have collected := contains_collect s allowed id (fun _ small => small) none x
  unfold filter
  simp only [id_eq, contains_none, Bool.false_eq_true, false_or] at collected
  rw [collected]
  constructor
  · rintro ⟨state, member, kept, rfl⟩
    exact ⟨member, kept⟩
  · rintro ⟨member, kept⟩
    exact ⟨x, member, kept, rfl⟩

end

theorem contains_combine (s other : RuleMatchStateSet) (x : RuleMatchState) :
    (s.combine other).contains x = true ↔ ∃ left right, s.contains left = true ∧ other.contains right = true ∧
        x = left ||| right := by
  unfold combine
  split_ifs with empty
  · rw [Bool.or_eq_true] at empty
    rcases empty with empty | empty
    · simp [(isEmpty_iff s).mp empty]
    · simp [(isEmpty_iff other).mp empty]
  · rw [mem_foldl_iff (fun (set : RuleMatchStateSet) y => set.contains y = true)
      (fun left y => s.contains left = true ∧ ∃ right, other.contains right = true ∧ y = left ||| right)]
    · simp only [contains_none, Bool.false_eq_true, false_or]
      constructor
      · rintro ⟨left, -, memberLeft, right, memberRight, equal⟩
        exact ⟨left, right, memberLeft, memberRight, equal⟩
      · rintro ⟨left, right, memberLeft, memberRight, equal⟩
        exact ⟨left, (mem_ruleMatchStates left).mpr (lt_of_contains memberLeft), memberLeft, right, memberRight, equal⟩
    · intro left member acc y
      have bound := (mem_ruleMatchStates left).mp member
      by_cases present : s.contains left = true
      · have inner := contains_collect other (fun _ => true) (fun right => left ||| right)
          (fun right small => or_toNat_lt bound small) acc y
        simpa [present] using inner
      · simp [present]

/-- `emptyRuleMatchState().withBase(base)` is the set `{base}`. -/
theorem withBase_empty {base : RuleMatchState} (bound : base.toNat < 16) :
    emptyRuleMatchState.withBase base = singleRuleMatchState base := by
  apply ext_contains
  intro state
  rw [contains_withBase _ bound, contains_single]
  constructor
  · rintro ⟨zero, member, rfl⟩
    obtain ⟨rfl, -⟩ := (contains_single _ _).mp member
    have absorb : (0 : RuleMatchState) ||| base = base := zero_or
    rw [absorb]
    exact ⟨rfl, bound⟩
  · rintro ⟨rfl, -⟩
    exact ⟨0, (contains_single _ _).mpr ⟨rfl, by decide⟩, zero_or.symm⟩

theorem isEmpty_single {state : RuleMatchState} (bound : state.toNat < 16) :
    (singleRuleMatchState state).isEmpty = false :=
  (isEmpty_eq_false_iff _).mpr ⟨state, (contains_single _ _).mpr ⟨rfl, bound⟩⟩

end RuleMatchStateSet

end SingBox.Route
