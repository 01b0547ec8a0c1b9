/-
**What the evaluator returns, and the inherited base.**

One description for each function of `SingBox.Route.Rule`, so that later proofs never unfold it: `matchGroups_eq` for
the grouped checks, `contains_matchStatesWithBase` and `matchStatesWithBase_inverted` for a default rule, and one for
each of the loops. `inheritedBase_invariant` puts them together.
-/

import SingBox.Route.Rule

namespace SingBox.Route

open SingBox.Lib

/-! ### The grouped checks of a default rule -/

/-- `bit` when the condition holds, no bit otherwise. -/
def bitIf (condition : Bool) (bit : RuleMatchState) : RuleMatchState :=
  if condition then bit else 0

theorem bitIf_toNat_lt {bit : RuleMatchState} (small : bit.toNat < 16) (condition : Bool) :
    (bitIf condition bit).toNat < 16 := by
  cases condition
  · show (0 : RuleMatchState).toNat < 16
    decide
  · exact small

theorem or_bitIf (condition : Bool) (state bit : RuleMatchState) :
    (if condition then state ||| bit else state) = state ||| bitIf condition bit := by
  cases condition
  · exact BitVec.or_zero.symm
  · rfl

theorem bitIf_or (first second : Bool) (bit : RuleMatchState) :
    bitIf (first || second) bit = bitIf first bit ||| bitIf second bit := by
  cases first
  · exact BitVec.zero_or.symm
  · cases second
    · exact BitVec.or_zero.symm
    · exact BitVec.or_self.symm

def Absorbs (bit : RuleMatchState) : Prop :=
  ∀ state : RuleMatchState, state.has bit = true → state ||| bit = state

theorem absorbs_sourceAddress : Absorbs ruleMatchSourceAddress := by
  unfold Absorbs
  decide

theorem absorbs_destinationAddress : Absorbs ruleMatchDestinationAddress := by
  unfold Absorbs
  decide

open AbstractDefaultRule

namespace AbstractDefaultRule

variable {ρ : Type}

/-- Some item of the source address group matches. The destination IP items belong to this group
when a rule-set reference redirects them to the source. -/
def sourceAddressMatched (r : AbstractDefaultRule ρ) (metadata : InboundContext) : Bool :=
  matchAnyItem r.sourceAddressItems metadata ||
    (r.destinationIPCIDRMatchesSource metadata && matchAnyItem r.destinationIPCIDRItems metadata)

def destinationAddressMatched (r : AbstractDefaultRule ρ) (metadata : InboundContext) : Bool :=
  matchAnyItem r.destinationAddressItems metadata ||
    (r.destinationIPCIDRMatchesDestination metadata && matchAnyItem r.destinationIPCIDRItems metadata)

def groupBits (r : AbstractDefaultRule ρ) (metadata : InboundContext) : RuleMatchState :=
  bitIf (r.sourceAddressMatched metadata) ruleMatchSourceAddress |||
    bitIf (matchAnyItem r.sourcePortItems metadata) ruleMatchSourcePort |||
    bitIf (r.destinationAddressMatched metadata) ruleMatchDestinationAddress |||
    bitIf (matchAnyItem r.destinationPortItems metadata) ruleMatchDestinationPort

theorem groupBits_toNat_lt (r : AbstractDefaultRule ρ) (metadata : InboundContext) :
    (r.groupBits metadata).toNat < 16 :=
  or_toNat_lt (or_toNat_lt (or_toNat_lt (bitIf_toNat_lt (by decide) _)
    (bitIf_toNat_lt (by decide) _)) (bitIf_toNat_lt (by decide) _)) (bitIf_toNat_lt (by decide) _)

/-- The evaluation has reached `state`, and of the metadata only the mark has changed. -/
def Reached (metadata : InboundContext) (e : Evaluation) (state : RuleMatchState) : Prop :=
  ∃ mark, e = ({ metadata with didMatch := mark }, state)

section

variable {metadata : InboundContext} {e : Evaluation} {state : RuleMatchState} (reached : Reached metadata e state)

include reached

theorem Reached.matchGroup (groupItems : List RuleItem) (bit : RuleMatchState) :
    Reached metadata (matchGroup groupItems bit e) (state ||| bitIf (matchAnyItem groupItems metadata) bit) := by
  obtain ⟨mark, rfl⟩ := reached
  unfold matchGroup
  split
  case isTrue nonempty =>
    refine ⟨true, ?_⟩
    have same : matchAnyItem groupItems { metadata with didMatch := true } =
        matchAnyItem groupItems metadata := matchAnyItem_congr _ rfl
    simp only [same, or_bitIf]
  case isFalse empty =>
    refine ⟨mark, ?_⟩
    have none : groupItems = [] := List.length_eq_zero_iff.mp (by omega)
    rw [none]
    exact Prod.ext rfl BitVec.or_zero.symm

theorem Reached.matchIPCIDRGroup (r : AbstractDefaultRule ρ) (enabled : InboundContext → Bool)
    (unmarked : ∀ mark, enabled { metadata with didMatch := mark } = enabled metadata) {bit : RuleMatchState}
    (absorbs : Absorbs bit) : Reached metadata (r.matchIPCIDRGroup enabled bit e)
      (state ||| bitIf (enabled metadata && matchAnyItem r.destinationIPCIDRItems metadata) bit) := by
  obtain ⟨mark, rfl⟩ := reached
  have same : matchAnyItem r.destinationIPCIDRItems { metadata with didMatch := true } =
      matchAnyItem r.destinationIPCIDRItems metadata := matchAnyItem_congr _ rfl
  unfold matchIPCIDRGroup
  simp only [unmarked]
  cases enabled metadata with
  | false => exact ⟨mark, Prod.ext rfl BitVec.or_zero.symm⟩
  | true =>
    refine ⟨true, ?_⟩
    cases set : state.has bit with
    | false =>
      simp only [Bool.not_false, if_true, same, Bool.true_and, or_bitIf]
    | true =>
      -- the items are not consulted, and their bit would change nothing
      have kept : state ||| bitIf (matchAnyItem r.destinationIPCIDRItems metadata) bit = state := by
        rw [← or_bitIf, absorbs state set, ite_self]
      simp only [Bool.not_true, Bool.false_eq_true, if_false, if_true, Bool.true_and, kept]

end

theorem matchGroups_eq (r : AbstractDefaultRule ρ) (metadata : InboundContext) (base : RuleMatchState) :
    Reached metadata (r.matchGroups metadata base) (base ||| r.groupBits metadata) := by
  have start : Reached metadata (metadata, base) base := ⟨metadata.didMatch, rfl⟩
  have finish := ((((start.matchGroup r.sourceAddressItems ruleMatchSourceAddress).matchIPCIDRGroup
    r r.destinationIPCIDRMatchesSource (fun _ => rfl) absorbs_sourceAddress).matchGroup
    r.sourcePortItems ruleMatchSourcePort).matchGroup r.destinationAddressItems
    ruleMatchDestinationAddress).matchIPCIDRGroup r r.destinationIPCIDRMatchesDestination
    (fun _ => rfl) absorbs_destinationAddress |>.matchGroup r.destinationPortItems
    ruleMatchDestinationPort
  unfold groupBits sourceAddressMatched destinationAddressMatched
  rw [bitIf_or, bitIf_or]
  simp only [← BitVec.or_assoc]
  exact finish

/-! ### The states of a default rule -/

section Evaluate

variable {matchItem : ρ → InboundContext → RuleMatchState → RuleMatchStateSet}

theorem markIf_eq (metadata : InboundContext) (mark condition : Bool) :
    ∃ mark', markIf condition { metadata with didMatch := mark } = { metadata with didMatch := mark' } := by
  cases condition
  · exact ⟨mark, rfl⟩
  · exact ⟨true, rfl⟩

/-- The evaluation of a rule-set reference starts from a fresh mark. -/
def Unmarked (matchItem : ρ → InboundContext → RuleMatchState → RuleMatchStateSet) : Prop :=
  ∀ item metadata mark base, matchItem item { metadata with didMatch := mark } base = matchItem item metadata base

theorem branchStates_unmarked (unmarked : Unmarked matchItem) (r : AbstractDefaultRule ρ)
    (metadata : InboundContext) (mark : Bool) (base : RuleMatchState) :
    r.branchStates matchItem { metadata with didMatch := mark } base = r.branchStates matchItem metadata base := by
  unfold branchStates
  cases r.ruleSetItem with
  | none => rfl
  | some item => exact unmarked item metadata mark base

theorem otherItemsMatch_congr (r : AbstractDefaultRule ρ) {first second : InboundContext}
    (view : first.itemView = second.itemView) : r.otherItemsMatch first = r.otherItemsMatch second := by
  unfold otherItemsMatch
  congr 1
  funext item
  exact item.match_congr view

def filteredStates (matchItem : ρ → InboundContext → RuleMatchState → RuleMatchStateSet)
    (r : AbstractDefaultRule ρ) (metadata : InboundContext) (base : RuleMatchState) :
    RuleMatchStateSet :=
  (r.branchStates matchItem metadata (base ||| r.groupBits metadata)).filter (r.allowed metadata)

/-- **One step of a default rule**, with the marks resolved: `mark` is what the evaluation leaves
in `didMatch`. -/
theorem matchStatesWithBase_eq (unmarked : Unmarked matchItem) (r : AbstractDefaultRule ρ)
    (metadata : InboundContext) (base : RuleMatchState) (hasItems : r.allItemsLength ≠ 0) :
    ∃ mark, r.matchStatesWithBase matchItem metadata base =
      let stateSet := r.filteredStates matchItem metadata (if r.invert then 0 else base)
      if !r.otherItemsMatch metadata then r.invertedFailure base
      else if stateSet.isEmpty then r.invertedFailure base
      else if r.invert then
        if metadata.ignoreDestinationIPCIDRMatch && decide (stateSet = emptyRuleMatchState) &&
            !mark && decide (r.destinationIPCIDRItems.length > 0) then
          emptyRuleMatchState.withBase base
        else .none
      else stateSet := by
  obtain ⟨mark, groups⟩ := r.matchGroups_eq metadata (if r.invert then 0 else base)
  -- the two later marks of the source: in the loop over `items`, and before the rule-sets
  obtain ⟨mark₁, afterItems⟩ := markIf_eq metadata mark (decide (r.items.length > 0))
  obtain ⟨mark₂, afterRuleSet⟩ := markIf_eq metadata mark₁ r.ruleSetItem.isSome
  have others : r.otherItemsMatch { metadata with didMatch := mark₁ } =
      r.otherItemsMatch metadata := r.otherItemsMatch_congr rfl
  refine ⟨mark₂, ?_⟩
  unfold matchStatesWithBase
  rw [if_neg hasItems]
  simp only [groups, afterItems, afterRuleSet, others, r.branchStates_unmarked unmarked]
  rfl

theorem eq_of_noItems (r : AbstractDefaultRule ρ) (noItems : r.allItemsLength = 0) : r = { invert := r.invert } := by
  cases r
  simp_all [allItemsLength]

theorem contains_matchStatesWithBase (unmarked : Unmarked matchItem) (r : AbstractDefaultRule ρ)
    (plain : r.invert = false) (metadata : InboundContext) {base : RuleMatchState}
    (bound : base.toNat < 16) (state : RuleMatchState) :
    (r.matchStatesWithBase matchItem metadata base).contains state = true ↔ r.otherItemsMatch metadata = true ∧
        (r.branchStates matchItem metadata (base ||| r.groupBits metadata)).contains state = true ∧
        r.allowed metadata state = true := by
  have filtered : (r.filteredStates matchItem metadata base).contains state = true ↔
      (r.branchStates matchItem metadata (base ||| r.groupBits metadata)).contains state = true ∧
        r.allowed metadata state = true := RuleMatchStateSet.contains_filter _ _ _
  by_cases noItems : r.allItemsLength = 0
  · rw [r.eq_of_noItems noItems, plain]
    have bits : (({} : AbstractDefaultRule ρ).groupBits metadata) = 0 := by
      unfold groupBits sourceAddressMatched destinationAddressMatched
      simp only [matchAnyItem_nil, Bool.and_false]
      rfl
    have free : ({} : AbstractDefaultRule ρ).allowed metadata state = true := by
      simp [allowed, requiresSourceAddressMatch, requiresDestinationAddressMatch,
        destinationIPCIDRMatchesSource, destinationIPCIDRMatchesDestination]
    have answer : ({} : AbstractDefaultRule ρ).matchStatesWithBase matchItem metadata base =
        singleRuleMatchState base := RuleMatchStateSet.withBase_empty bound
    have branch : ({} : AbstractDefaultRule ρ).branchStates matchItem metadata (base ||| 0) =
        singleRuleMatchState base := congrArg singleRuleMatchState BitVec.or_zero
    rw [answer, bits, branch, free]
    simp [otherItemsMatch]
  · obtain ⟨mark, step⟩ := r.matchStatesWithBase_eq unmarked metadata base noItems
    have failure : r.invertedFailure base = .none := by
      unfold invertedFailure
      rw [plain]
      rfl
    rw [step, plain, failure, ← filtered]
    cases r.otherItemsMatch metadata with
    | false => simp
    | true =>
      by_cases empty : (r.filteredStates matchItem metadata base).isEmpty = true
      · simp [empty, (RuleMatchStateSet.isEmpty_iff _).mp empty]
      · simp [empty]

theorem matchStatesWithBase_inverted (r : AbstractDefaultRule ρ) (inverted : r.invert = true)
    (metadata : InboundContext) : ∃ answer : Bool, ∀ base, r.matchStatesWithBase matchItem metadata base =
      if answer then emptyRuleMatchState.withBase base else .none := by
  unfold matchStatesWithBase invertedFailure
  dsimp only
  split
  · exact ⟨true, fun _ => rfl⟩
  split
  · exact ⟨true, fun _ => rfl⟩
  split
  · exact ⟨true, fun _ => rfl⟩
  split
  · exact ⟨true, fun _ => rfl⟩
  · exact ⟨false, fun _ => rfl⟩

end Evaluate

end AbstractDefaultRule

/-! ### The loops -/

namespace RuleTree

variable {ρ : Type} {matchItem : ρ → InboundContext → RuleMatchState → RuleMatchStateSet}

theorem contains_orStates_iff (rules : List (RuleTree ρ)) (metadata : InboundContext)
    (base : RuleMatchState) (stateSet : RuleMatchStateSet) (state : RuleMatchState) :
    (orStates matchItem rules metadata base stateSet).contains state = true ↔ stateSet.contains state = true ∨
        ∃ rule ∈ rules, (rule.matchStatesWithBase matchItem metadata.resetRuleCache base).contains state = true := by
  induction rules generalizing stateSet with
  | nil => simp [orStates]
  | cons rule rules ih =>
    rw [orStates, ih, RuleMatchStateSet.contains_merge, Bool.or_eq_true, or_assoc, List.exists_mem_cons_iff]

/-- A state that the `and` loop returns contains a state of the accumulator it started from. -/
theorem contains_andStates {rules : List (RuleTree ρ)} {metadata : InboundContext}
    {base : RuleMatchState} {stateSet result : RuleMatchStateSet}
    (returned : andStates matchItem rules metadata base stateSet = some result)
    {state : RuleMatchState} (member : result.contains state = true) :
    ∃ start rest, stateSet.contains start = true ∧ state = start ||| rest := by
  induction rules generalizing stateSet with
  | nil =>
    rw [andStates, Option.some.injEq] at returned
    rw [← returned] at member
    exact ⟨state, 0, member, BitVec.or_zero.symm⟩
  | cons rule rules ih =>
    rw [andStates] at returned
    split at returned
    · exact absurd returned (by simp)
    obtain ⟨start, rest, inCombined, rfl⟩ := ih returned
    obtain ⟨left, right, inLeft, -, rfl⟩ :=
      (RuleMatchStateSet.contains_combine _ _ _).mp inCombined
    exact ⟨left, right ||| rest, inLeft, BitVec.or_assoc ..⟩

end RuleTree

theorem contains_foldl_merge_iff {α : Type} {list : List α} (states : α → RuleMatchStateSet) {state : RuleMatchState} :
    (list.foldl (fun (stateSet : RuleMatchStateSet) x => stateSet.merge (states x)) .none).contains
        state = true ↔ ∃ x ∈ list, (states x).contains state = true := by
  rw [mem_foldl_iff (fun (set : RuleMatchStateSet) y => set.contains y = true)
    (fun x y => (states x).contains y = true)]
  · simp
  · intro x _ acc y
    rw [RuleMatchStateSet.contains_merge, Bool.or_eq_true]

namespace RuleSet

theorem contains_iff (s : RuleSet) (metadata : InboundContext) (base state : RuleMatchState) :
    (s.matchStatesWithBase metadata base).contains state = true ↔
      ∃ rule ∈ s.rules, (HeadlessRule.matchStatesWithBase rule metadata.resetRuleMatchCache
        base).contains state = true := by
  exact contains_foldl_merge_iff _

end RuleSet

namespace RuleSetItem

theorem contains_iff (r : RuleSetItem) (metadata : InboundContext) (base state : RuleMatchState) :
    (r.matchStatesWithBase metadata base).contains state = true ↔
      ∃ ruleSet ∈ r.setList, (ruleSet.matchStatesWithBase (r.nestedMetadata metadata) base).contains state = true := by
  exact contains_foldl_merge_iff _

theorem unmarked : AbstractDefaultRule.Unmarked RuleSetItem.matchStatesWithBase :=
  fun _ _ _ _ => rfl

end RuleSetItem

theorem unmarked_empty : AbstractDefaultRule.Unmarked
      (fun item : Empty => (nomatch item : InboundContext → RuleMatchState → RuleMatchStateSet)) :=
  fun item => nomatch item

/-! ### The inherited base -/

/-- **What a rule does with the base it inherits.** Every state it returns contains the base; when
its `invert` flag is set it returns the base alone or nothing, and the base does not decide
which. -/
structure InheritsBase (invert : Bool) (evaluate : RuleMatchState → RuleMatchStateSet) : Prop where
  keeps : ∀ base, base.toNat < 16 → ∀ state, (evaluate base).contains state = true → state ||| base = state
  inverted : invert = true → ∀ base, base.toNat < 16 → evaluate base = .none ∨ evaluate base = singleRuleMatchState base
  uniform : invert = true → ∀ base base', base.toNat < 16 → base'.toNat < 16 →
    (evaluate base).isEmpty = (evaluate base').isEmpty

theorem or_or_self (base rest : RuleMatchState) : base ||| rest ||| base = base ||| rest := by
  rw [BitVec.or_comm base rest, BitVec.or_assoc, BitVec.or_self]

section

variable {evaluate : RuleMatchState → RuleMatchStateSet}

/-- An evaluation that answers `{base}` or nothing, whatever the base, inherits it. -/
theorem InheritsBase.of_answer (invert : Bool) (decided : ∃ answer : Bool, ∀ base, evaluate base =
      if answer then emptyRuleMatchState.withBase base else .none) : InheritsBase invert evaluate := by
  obtain ⟨answer, equal⟩ := decided
  cases answer with
  | false =>
    have nothing : ∀ base, evaluate base = .none := equal
    refine ⟨fun base _ state member => ?_, fun _ base _ => .inl (nothing base),
      fun _ base base' _ _ => by rw [nothing, nothing]⟩
    rw [nothing, RuleMatchStateSet.contains_none] at member
    cases member
  | true =>
    have alone : ∀ base, base.toNat < 16 → evaluate base = singleRuleMatchState base :=
      fun base bound => (equal base).trans (RuleMatchStateSet.withBase_empty bound)
    refine ⟨fun base bound state member => ?_, fun _ base bound => .inr (alone base bound),
      fun _ base base' bound bound' => ?_⟩
    · rw [alone base bound] at member
      obtain ⟨rfl, -⟩ := (RuleMatchStateSet.contains_single _ _).mp member
      exact BitVec.or_self
    · rw [alone base bound, alone base' bound', RuleMatchStateSet.isEmpty_single bound,
        RuleMatchStateSet.isEmpty_single bound']

theorem InheritsBase.of_keeps (keeps : ∀ base, base.toNat < 16 → ∀ state, (evaluate base).contains state = true →
      state ||| base = state) : InheritsBase false evaluate :=
  ⟨keeps, fun inverted => absurd inverted Bool.false_ne_true, fun inverted => absurd inverted Bool.false_ne_true⟩

end

def ItemsKeepBase {ρ : Type} (matchItem : ρ → InboundContext → RuleMatchState → RuleMatchStateSet) : Prop :=
  ∀ item metadata base, base.toNat < 16 → ∀ state,
    (matchItem item metadata base).contains state = true → state ||| base = state

section Tree

variable {ρ : Type} {matchItem : ρ → InboundContext → RuleMatchState → RuleMatchStateSet}

variable (unmarked : AbstractDefaultRule.Unmarked matchItem) (itemsKeep : ItemsKeepBase matchItem)

include unmarked itemsKeep

theorem AbstractDefaultRule.inheritsBase (r : AbstractDefaultRule ρ) (metadata : InboundContext) :
    InheritsBase r.invert (r.matchStatesWithBase matchItem metadata) := by
  cases inverted : r.invert with
  | true => exact .of_answer true (r.matchStatesWithBase_inverted inverted metadata)
  | false =>
    refine .of_keeps fun base bound state member => ?_
    obtain ⟨-, inBranch, -⟩ :=
      (r.contains_matchStatesWithBase unmarked inverted metadata bound state).mp member
    have small : (base ||| r.groupBits metadata).toNat < 16 :=
      or_toNat_lt bound (r.groupBits_toNat_lt metadata)
    have keepsBranch : state ||| (base ||| r.groupBits metadata) = state := by
      unfold branchStates at inBranch
      cases reference : r.ruleSetItem with
      | none =>
        rw [reference] at inBranch
        obtain ⟨rfl, -⟩ := (RuleMatchStateSet.contains_single _ _).mp inBranch
        exact BitVec.or_self
      | some item =>
        rw [reference] at inBranch
        exact itemsKeep item metadata _ small state inBranch
    calc state ||| base = state ||| (base ||| r.groupBits metadata) ||| base := by rw [keepsBranch]
      _ = state ||| (base ||| r.groupBits metadata) := by
          rw [BitVec.or_assoc, or_or_self]
      _ = state := keepsBranch

theorem RuleTree.inheritsBase (rule : RuleTree ρ) :
    ∀ metadata, InheritsBase rule.invert (rule.matchStatesWithBase matchItem metadata) := by
  induction rule using induction with
  | default r => exact r.inheritsBase unmarked itemsKeep
  | logical mode invert rules ih =>
    intro metadata
    cases invert with
    | true =>
      refine .of_answer true ?_
      cases mode with
      | and | or =>
        simp only [matchStatesWithBase, if_true]
        split
        · exact ⟨true, fun _ => rfl⟩
        · exact ⟨false, fun _ => rfl⟩
    | false =>
      refine .of_keeps fun base bound state member => ?_
      cases mode with
      | and =>
        simp only [matchStatesWithBase, Bool.false_eq_true, if_false] at member
        split at member
        · exact absurd member (by simp)
        rename_i result returned
        obtain ⟨start, -, inStart, rfl⟩ := contains_andStates returned member
        rw [RuleMatchStateSet.withBase_empty bound] at inStart
        obtain ⟨rfl, -⟩ := (RuleMatchStateSet.contains_single _ _).mp inStart
        exact or_or_self _ _
      | or =>
        simp only [matchStatesWithBase, Bool.false_eq_true, if_false] at member
        split at member
        · exact absurd member (by simp)
        · obtain none | ⟨nested, inRules, inNested⟩ := (contains_orStates_iff _ _ _ _ _).mp member
          · exact absurd none (by simp)
          · exact (ih nested inRules metadata.resetRuleCache).keeps base bound state inNested

end Tree

theorem HeadlessRule.inheritsBase (rule : HeadlessRule) (metadata : InboundContext) :
    InheritsBase rule.invert (HeadlessRule.matchStatesWithBase rule metadata) :=
  RuleTree.inheritsBase unmarked_empty (fun item => nomatch item) rule metadata

theorem RuleSet.keepsBase (s : RuleSet) (metadata : InboundContext) {base : RuleMatchState}
    (bound : base.toNat < 16) {state : RuleMatchState}
    (member : (s.matchStatesWithBase metadata base).contains state = true) : state ||| base = state := by
  obtain ⟨rule, -, inRule⟩ := (s.contains_iff metadata base state).mp member
  exact (HeadlessRule.inheritsBase rule _).keeps base bound state inRule

theorem RuleSetItem.keepsBase : ItemsKeepBase RuleSetItem.matchStatesWithBase := by
  intro r metadata base bound state member
  obtain ⟨ruleSet, -, inRuleSet⟩ := (r.contains_iff metadata base state).mp member
  exact ruleSet.keepsBase _ bound inRuleSet

/-- **The inherited-base invariant of rule evaluation**, for every headless, route or DNS rule tree and every
metadata. -/
theorem inheritedBase_invariant : (∀ (rule : HeadlessRule) (metadata : InboundContext),
      InheritsBase rule.invert (HeadlessRule.matchStatesWithBase rule metadata)) ∧
    (∀ (rule : Rule) (metadata : InboundContext), InheritsBase rule.invert (Rule.matchStatesWithBase rule metadata)) :=
  ⟨HeadlessRule.inheritsBase, RuleTree.inheritsBase RuleSetItem.unmarked RuleSetItem.keepsBase⟩

/-! ### Matching from no base -/

namespace RuleTree

variable {ρ : Type} {matchItem : ρ → InboundContext → RuleMatchState → RuleMatchStateSet}

section

variable (rules : List (RuleTree ρ)) (metadata : InboundContext)

include rules metadata

/-- The `and` loop leaves a state if and only if every rule does. -/
theorem andStates_cases (base : RuleMatchState) {stateSet : RuleMatchStateSet} (some : stateSet.isEmpty = false) :
    (∃ result, andStates matchItem rules metadata base stateSet = Option.some result ∧
      result.isEmpty = false ∧ ∀ rule ∈ rules,
        (rule.matchStatesWithBase matchItem metadata.resetRuleCache base).isEmpty = false) ∨
    andStates matchItem rules metadata base stateSet = none ∧ ∃ rule ∈ rules,
      (rule.matchStatesWithBase matchItem metadata.resetRuleCache base).isEmpty = true := by
  induction rules generalizing stateSet with
  | nil => exact .inl ⟨stateSet, rfl, some, by simp⟩
  | cons rule rules ih =>
    rw [andStates]
    cases nested : (rule.matchStatesWithBase matchItem metadata.resetRuleCache base).isEmpty with
    | true => exact .inr ⟨if_pos rfl, rule, List.mem_cons_self, nested⟩
    | false =>
      obtain ⟨left, inLeft⟩ := (RuleMatchStateSet.isEmpty_eq_false_iff _).mp some
      obtain ⟨right, inRight⟩ := (RuleMatchStateSet.isEmpty_eq_false_iff _).mp nested
      have combined := (RuleMatchStateSet.isEmpty_eq_false_iff _).mpr
        ⟨_, (RuleMatchStateSet.contains_combine _ _ _).mpr ⟨left, right, inLeft, inRight, rfl⟩⟩
      rcases ih combined with ⟨result, done, full, others⟩ | ⟨done, other, member, empty⟩
      · exact .inl ⟨result, done, full, List.forall_mem_cons.mpr ⟨nested, others⟩⟩
      · exact .inr ⟨done, other, List.mem_cons_of_mem _ member, empty⟩

/-- **An `and` rule matches if all of its rules do.** -/
theorem match_and : (logical .and false rules).Match matchItem metadata =
      rules.all fun rule => rule.Match matchItem metadata.resetRuleCache := by
  have start : (emptyRuleMatchState.withBase 0).isEmpty = false := by decide
  unfold Match
  rw [matchStatesWithBase]
  simp only [Bool.false_eq_true, if_false]
  rcases andStates_cases rules metadata 0 start with
    ⟨result, done, full, all⟩ | ⟨done, rule, member, empty⟩
  · rw [done, eq_comm]
    simp only [full, Bool.not_false, List.all_eq_true]
    intro rule member
    rw [all rule member, Bool.not_false]
  · rw [done]
    refine (List.all_eq_false.mpr ⟨rule, member, ?_⟩).symm
    rw [empty]
    exact Bool.false_ne_true

/-- **An `or` rule matches if one of its rules does.** -/
theorem match_or : (logical .or false rules).Match matchItem metadata =
      rules.any fun rule => rule.Match matchItem metadata.resetRuleCache := by
  have states : (orStates matchItem rules metadata 0 .none).isEmpty = false ↔ ∃ rule ∈ rules,
      (rule.matchStatesWithBase matchItem metadata.resetRuleCache 0).isEmpty = false := by
    simp only [RuleMatchStateSet.isEmpty_eq_false_iff, contains_orStates_iff,
      RuleMatchStateSet.contains_none, Bool.false_eq_true, false_or]
    constructor
    · rintro ⟨state, rule, member, found⟩
      exact ⟨rule, member, state, found⟩
    · rintro ⟨rule, member, state, found⟩
      exact ⟨state, rule, member, found⟩
  unfold Match
  rw [matchStatesWithBase, Bool.eq_iff_iff]
  simp only [Bool.false_eq_true, if_false, List.any_eq_true, Bool.not_eq_true']
  rw [← states]
  cases empty : (orStates matchItem rules metadata 0 .none).isEmpty with
  | true => simp [RuleMatchStateSet.isEmpty, RuleMatchStateSet.none]
  | false =>
    exact iff_of_true empty rfl

end

theorem filteredStates_destination {r : AbstractDefaultRule ρ} {first : RuleItem}
    {others : List RuleItem} {invert : Bool}
    (same : r = { destinationAddressItems := first :: others, invert := invert }) (metadata : InboundContext) :
    (r.filteredStates matchItem metadata 0).isEmpty = !matchAnyItem (first :: others) metadata := by
  subst same
  set r : AbstractDefaultRule ρ := { destinationAddressItems := first :: others, invert := invert }
  have bits : r.groupBits metadata = bitIf (matchAnyItem (first :: others) metadata) ruleMatchDestinationAddress := by
    simp [r, groupBits, sourceAddressMatched, destinationAddressMatched, bitIf]
  have allowed state : r.allowed metadata state = state.has ruleMatchDestinationAddress := by
    simp [r, allowed, requiresSourceAddressMatch,
      requiresDestinationAddressMatch,
      destinationIPCIDRMatchesSource]
  have states : r.filteredStates matchItem metadata 0 =
      (singleRuleMatchState (bitIf (matchAnyItem (first :: others) metadata)
        ruleMatchDestinationAddress)).filter fun state => state.has ruleMatchDestinationAddress := by
    rw [filteredStates, bits, funext allowed]
    exact congrArg (fun state => (singleRuleMatchState state).filter _) BitVec.zero_or
  rw [states]
  cases matchAnyItem (first :: others) metadata <;> decide

theorem match_destination (unmarked : AbstractDefaultRule.Unmarked matchItem) (found : List RuleItem)
    (invert : Bool) (metadata : InboundContext) :
    (default { destinationAddressItems := found, invert := invert } : RuleTree ρ).Match matchItem metadata =
      (found.isEmpty || (matchAnyItem found metadata != invert)) := by
  cases found with
  | nil => rfl
  | cons first others =>
    have hasItems : ({ destinationAddressItems := first :: others, invert := invert } :
        AbstractDefaultRule ρ).allItemsLength ≠ 0 := by simp [allItemsLength]
    obtain ⟨mark, step⟩ := matchStatesWithBase_eq unmarked _ metadata 0 hasItems
    have states := @filteredStates_destination ρ matchItem _ first others invert rfl metadata
    rw [Match, matchStatesWithBase, step]
    simp only [ite_self, states]
    cases hit : matchAnyItem (first :: others) metadata <;> cases invert <;> rw [hit] at states
    · rfl
    · show (!(emptyRuleMatchState.withBase 0).isEmpty) = true
      decide
    · exact congrArg (!·) states
    · simp
      rfl

end RuleTree

theorem HeadlessRule.match_destination (found : List RuleItem) (invert : Bool) (metadata : InboundContext) :
    HeadlessRule.Match (.default { destinationAddressItems := found, invert := invert }) metadata =
      (found.isEmpty || (matchAnyItem found metadata != invert)) :=
  RuleTree.match_destination (fun item => item.elim) found invert metadata

end SingBox.Route
