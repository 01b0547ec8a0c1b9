/-
**A rule-set reference merges its branches into the outer rule.**

The documentation of the route rules says that "each branch inside an included rule-set can be considered merged into
the outer rule, while different branches keep OR semantics". The evaluator never builds the merged rule: it hands the
groups that the outer rule satisfies down as a base state, and filters what comes back once in the branch and once in
the outer rule. `mergeRule outer branch` is the flat rule whose item lists are the concatenated lists of the two.
-/

import SingBox.Route.Evaluate
import SingBox.Route.Item

namespace SingBox.Route

open AbstractDefaultRule

namespace AbstractDefaultRule

variable {ρ : Type}

theorem allowed_iff (r : AbstractDefaultRule ρ) (metadata : InboundContext) (state : RuleMatchState) :
    r.allowed metadata state = true ↔
      (r.requiresSourceAddressMatch metadata = true → state.has ruleMatchSourceAddress = true) ∧
      (r.sourcePortItems.length > 0 → state.has ruleMatchSourcePort = true) ∧
      (r.requiresDestinationAddressMatch metadata = true → state.has ruleMatchDestinationAddress = true) ∧
      (r.destinationPortItems.length > 0 → state.has ruleMatchDestinationPort = true) := by
  unfold allowed
  cases r.requiresSourceAddressMatch metadata <;>
  cases r.requiresDestinationAddressMatch metadata <;>
  cases state.has ruleMatchSourceAddress <;>
  cases state.has ruleMatchSourcePort <;>
  cases state.has ruleMatchDestinationAddress <;>
  cases state.has ruleMatchDestinationPort <;> simp

open RuleMatchState

theorem has_groupBits (r : AbstractDefaultRule ρ) (metadata : InboundContext) :
    has (r.groupBits metadata) ruleMatchSourceAddress = r.sourceAddressMatched metadata ∧
      has (r.groupBits metadata) ruleMatchSourcePort = matchAnyItem r.sourcePortItems metadata ∧
      has (r.groupBits metadata) ruleMatchDestinationAddress = r.destinationAddressMatched metadata ∧
      has (r.groupBits metadata) ruleMatchDestinationPort = matchAnyItem r.destinationPortItems metadata := by
  unfold groupBits
  cases r.sourceAddressMatched metadata <;> cases matchAnyItem r.sourcePortItems metadata <;>
    cases r.destinationAddressMatched metadata <;> cases matchAnyItem r.destinationPortItems metadata <;> decide

/-! ### Contexts that look the same -/

section Congruence

variable {first second : InboundContext} (view : first.itemView = second.itemView) (r : AbstractDefaultRule ρ)

include view r

variable (ignore : r.destinationIPCIDRItems ≠ [] →
  first.ignoreDestinationIPCIDRMatch = second.ignoreDestinationIPCIDRMatch)

include ignore

theorem destinationIPCIDRMatches_congr :
    r.destinationIPCIDRMatchesSource first = r.destinationIPCIDRMatchesSource second ∧
      r.destinationIPCIDRMatchesDestination first = r.destinationIPCIDRMatchesDestination second := by
  have source : first.ipCIDRMatchSource = second.ipCIDRMatchSource :=
    (congrArg InboundContext.ipCIDRMatchSource view :)
  unfold destinationIPCIDRMatchesSource destinationIPCIDRMatchesDestination
  by_cases empty : r.destinationIPCIDRItems = []
  · simp [empty]
  · rw [source, ignore empty]
    exact ⟨rfl, rfl⟩

theorem groupBits_congr : r.groupBits first = r.groupBits second := by
  obtain ⟨toSource, toDestination⟩ := r.destinationIPCIDRMatches_congr view ignore
  unfold groupBits sourceAddressMatched destinationAddressMatched
  rw [matchAnyItem_congr _ view, matchAnyItem_congr _ view, matchAnyItem_congr _ view,
    matchAnyItem_congr _ view, matchAnyItem_congr _ view, toSource, toDestination]

theorem allowed_congr (state : RuleMatchState) : r.allowed first state = r.allowed second state := by
  obtain ⟨toSource, toDestination⟩ := r.destinationIPCIDRMatches_congr view ignore
  unfold allowed requiresSourceAddressMatch requiresDestinationAddressMatch
  rw [toSource, toDestination]

end Congruence

end AbstractDefaultRule

/-! ### The merged rule -/

def mergeRule (outer : AbstractDefaultRule RuleSetItem) (branch : AbstractDefaultRule Empty) :
    AbstractDefaultRule RuleSetItem where
  items := outer.items ++ branch.items
  sourceAddressItems := outer.sourceAddressItems ++ branch.sourceAddressItems
  sourcePortItems := outer.sourcePortItems ++ branch.sourcePortItems
  destinationAddressItems := outer.destinationAddressItems ++ branch.destinationAddressItems
  destinationIPCIDRItems := outer.destinationIPCIDRItems ++ branch.destinationIPCIDRItems
  destinationPortItems := outer.destinationPortItems ++ branch.destinationPortItems

/-- The metadata of an ordinary evaluation: nothing redirected, nothing deferred. -/
structure Plain (metadata : InboundContext) : Prop where
  matchSource : metadata.ipCIDRMatchSource = false
  acceptEmpty : metadata.ipCIDRAcceptEmpty = false
  ignore : metadata.ignoreDestinationIPCIDRMatch = false

section Plain

variable {metadata : InboundContext} {ρ : Type}

section

variable (plain : Plain metadata)

include plain

section

variable (r : AbstractDefaultRule ρ)

include r

theorem Plain.sourceAddressMatched : r.sourceAddressMatched metadata = matchAnyItem r.sourceAddressItems metadata := by
  unfold AbstractDefaultRule.sourceAddressMatched destinationIPCIDRMatchesSource
  simp [plain.matchSource]

theorem Plain.destinationAddressMatched : r.destinationAddressMatched metadata =
      (matchAnyItem r.destinationAddressItems metadata || matchAnyItem r.destinationIPCIDRItems metadata) := by
  unfold AbstractDefaultRule.destinationAddressMatched destinationIPCIDRMatchesDestination
  cases items : r.destinationIPCIDRItems with
  | nil => simp
  | cons item rest => simp [plain.matchSource, plain.ignore]

theorem Plain.requiresSourceAddressMatch :
    r.requiresSourceAddressMatch metadata = decide (r.sourceAddressItems.length > 0) := by
  unfold AbstractDefaultRule.requiresSourceAddressMatch destinationIPCIDRMatchesSource
  simp [plain.matchSource]

theorem Plain.requiresDestinationAddressMatch : r.requiresDestinationAddressMatch metadata =
      (decide (r.destinationAddressItems.length > 0) || decide (r.destinationIPCIDRItems.length > 0)) := by
  unfold AbstractDefaultRule.requiresDestinationAddressMatch destinationIPCIDRMatchesDestination
  simp [plain.matchSource, plain.ignore]

end

theorem groupBits_mergeRule (outer : AbstractDefaultRule RuleSetItem)
    (branch : AbstractDefaultRule Empty) : (mergeRule outer branch).groupBits metadata =
      outer.groupBits metadata ||| branch.groupBits metadata := by
  unfold groupBits
  simp only [plain.sourceAddressMatched, plain.destinationAddressMatched, mergeRule, matchAnyItem_append, bitIf_or]
  ac_rfl

theorem allowed_mergeRule (outer : AbstractDefaultRule RuleSetItem) (branch : AbstractDefaultRule Empty)
    (state : RuleMatchState) : (mergeRule outer branch).allowed metadata state = true ↔
      outer.allowed metadata state = true ∧ branch.allowed metadata state = true := by
  simp only [allowed_iff, plain.requiresSourceAddressMatch, plain.requiresDestinationAddressMatch,
    mergeRule, List.length_append, Bool.or_eq_true, decide_eq_true_eq,
    Nat.add_pos_iff_pos_or_pos]
  constructor
  · rintro ⟨sourceAddress, sourcePort, destinationAddress, destinationPort⟩
    exact ⟨⟨fun some => sourceAddress (.inl some), fun some => sourcePort (.inl some),
        fun some => destinationAddress (some.imp .inl .inl),
        fun some => destinationPort (.inl some)⟩,
      ⟨fun some => sourceAddress (.inr some), fun some => sourcePort (.inr some),
        fun some => destinationAddress (some.imp .inr .inr),
        fun some => destinationPort (.inr some)⟩⟩
  · rintro ⟨⟨sa, sp, da, dp⟩, ⟨sa', sp', da', dp'⟩⟩
    exact ⟨fun some => some.elim sa sa', fun some => some.elim sp sp',
      fun some => some.elim (fun domain => domain.elim (da ∘ .inl) (da' ∘ .inl))
        (fun ip => ip.elim (da ∘ .inr) (da' ∘ .inr)), fun some => some.elim dp dp'⟩

end

theorem otherItemsMatch_mergeRule (outer : AbstractDefaultRule RuleSetItem)
    (branch : AbstractDefaultRule Empty) (metadata : InboundContext) :
    (mergeRule outer branch).otherItemsMatch metadata = true ↔
      outer.otherItemsMatch metadata = true ∧ branch.otherItemsMatch metadata = true := by
  unfold otherItemsMatch mergeRule
  rw [List.all_append, Bool.and_eq_true]

end Plain

/-! ### The merge law -/

/-- The states of a default rule without rule-sets, evaluated from `base`: at most one. -/
theorem contains_flat {ρ : Type} {matchItem : ρ → InboundContext → RuleMatchState → RuleMatchStateSet}
    (unmarked : Unmarked matchItem) (r : AbstractDefaultRule ρ) (noRuleSet : r.ruleSetItem = none)
    (notInverted : r.invert = false) (metadata : InboundContext) {base : RuleMatchState}
    (bound : base.toNat < 16) (state : RuleMatchState) :
    (r.matchStatesWithBase matchItem metadata base).contains state = true ↔
      r.otherItemsMatch metadata = true ∧ state = base ||| r.groupBits metadata ∧ r.allowed metadata state = true := by
  have small : (base ||| r.groupBits metadata).toNat < 16 :=
    or_toNat_lt bound (r.groupBits_toNat_lt metadata)
  have branch : r.branchStates matchItem metadata (base ||| r.groupBits metadata) =
      singleRuleMatchState (base ||| r.groupBits metadata) := by
    unfold branchStates
    rw [noRuleSet]
  rw [r.contains_matchStatesWithBase unmarked notInverted metadata bound state, branch,
    RuleMatchStateSet.contains_single]
  constructor
  · rintro ⟨others, ⟨equal, -⟩, permitted⟩
    exact ⟨others, equal, permitted⟩
  · rintro ⟨others, equal, permitted⟩
    exact ⟨others, ⟨equal, equal ▸ small⟩, permitted⟩

/-- The metadata that a branch of the reference is evaluated on shows its items what the outer
rule's items see. -/
theorem nestedMetadata_view {metadata : InboundContext} (plain : Plain metadata)
    {item : RuleSetItem} (matchSource : item.ipCidrMatchSource = false) (acceptEmpty : item.ipCidrAcceptEmpty = false) :
    (item.nestedMetadata metadata).resetRuleMatchCache.itemView = metadata.itemView := by
  obtain ⟨source, empty, -⟩ := plain
  cases metadata
  simp only [RuleSetItem.nestedMetadata, InboundContext.resetRuleMatchCache,
    InboundContext.itemView, matchSource, acceptEmpty, source, empty]

/-- The item lists of the two rules match together. -/
structure FlatMatches (outer : AbstractDefaultRule RuleSetItem) (branch : AbstractDefaultRule Empty)
    (metadata : InboundContext) : Prop where
  others : ∀ item ∈ outer.items ++ branch.items, item.Match metadata = true
  sourceAddress : outer.sourceAddressItems ++ branch.sourceAddressItems ≠ [] →
    ∃ item ∈ outer.sourceAddressItems ++ branch.sourceAddressItems, item.Match metadata = true
  sourcePort : outer.sourcePortItems ++ branch.sourcePortItems ≠ [] →
    ∃ item ∈ outer.sourcePortItems ++ branch.sourcePortItems, item.Match metadata = true
  destinationAddress :
    outer.destinationAddressItems ++ branch.destinationAddressItems ++
        (outer.destinationIPCIDRItems ++ branch.destinationIPCIDRItems) ≠ [] →
      ∃ item ∈ outer.destinationAddressItems ++ branch.destinationAddressItems ++
        (outer.destinationIPCIDRItems ++ branch.destinationIPCIDRItems), item.Match metadata = true
  destinationPort : outer.destinationPortItems ++ branch.destinationPortItems ≠ [] →
    ∃ item ∈ outer.destinationPortItems ++ branch.destinationPortItems, item.Match metadata = true

theorem match_default_iff (r : AbstractDefaultRule RuleSetItem) (metadata : InboundContext) :
    Rule.Match (.default r) metadata = true ↔
      ∃ state, (r.matchStatesWithBase RuleSetItem.matchStatesWithBase metadata 0).contains state = true := by
  show (!(r.matchStatesWithBase RuleSetItem.matchStatesWithBase metadata 0).isEmpty) = true ↔ _
  rw [Bool.not_eq_true', RuleMatchStateSet.isEmpty_eq_false_iff]

theorem match_flat_iff (r : AbstractDefaultRule RuleSetItem) (noRuleSet : r.ruleSetItem = none)
    (notInverted : r.invert = false) (metadata : InboundContext) : Rule.Match (.default r) metadata = true ↔
      r.otherItemsMatch metadata = true ∧ r.allowed metadata (r.groupBits metadata) = true := by
  have zero : (0 : RuleMatchState).toNat < 16 := by decide
  have fromZero : (0 : RuleMatchState) ||| r.groupBits metadata = r.groupBits metadata :=
    BitVec.zero_or
  rw [match_default_iff]
  simp only [contains_flat RuleSetItem.unmarked r noRuleSet notInverted metadata zero, fromZero]
  constructor
  · rintro ⟨-, others, rfl, permitted⟩
    exact ⟨others, permitted⟩
  · rintro ⟨others, permitted⟩
    exact ⟨_, others, rfl, permitted⟩

theorem matchAnyItem_iff (items : List RuleItem) (metadata : InboundContext) :
    matchAnyItem items metadata = true ↔ ∃ item ∈ items, item.Match metadata = true :=
  List.any_eq_true

theorem match_mergeRule_iff {metadata : InboundContext} (plain : Plain metadata)
    (outer : AbstractDefaultRule RuleSetItem) (branch : AbstractDefaultRule Empty) :
    Rule.Match (.default (mergeRule outer branch)) metadata = true ↔ FlatMatches outer branch metadata := by
  obtain ⟨sourceAddress, sourcePort, destinationAddress, destinationPort⟩ :=
    (mergeRule outer branch).has_groupBits metadata
  have nonempty : ∀ items : List RuleItem, 0 < items.length ↔ items ≠ [] :=
    fun items => List.length_pos_iff
  rw [match_flat_iff _ rfl rfl, allowed_iff, sourceAddress, sourcePort, destinationAddress,
    destinationPort, plain.requiresSourceAddressMatch, plain.requiresDestinationAddressMatch,
    plain.sourceAddressMatched, plain.destinationAddressMatched, ← matchAnyItem_append,
    matchAnyItem_iff, matchAnyItem_iff, matchAnyItem_iff, matchAnyItem_iff]
  simp only [decide_eq_true_eq, Bool.or_eq_true, nonempty]
  have either : ∀ domain ip : List RuleItem, domain ++ ip ≠ [] ↔ domain ≠ [] ∨ ip ≠ [] := by
    intro domain ip
    rw [ne_eq, List.append_eq_nil_iff, not_and_or]
  constructor
  · rintro ⟨others, sourceAddress, sourcePort, destinationAddress, destinationPort⟩
    exact ⟨List.all_eq_true.mp others, sourceAddress, sourcePort,
      fun some => destinationAddress ((either _ _).mp some), destinationPort⟩
  · rintro ⟨others, sourceAddress, sourcePort, destinationAddress, destinationPort⟩
    exact ⟨List.all_eq_true.mpr others, sourceAddress, sourcePort,
      fun some => destinationAddress ((either _ _).mpr some), destinationPort⟩

/-- **The rule-set merge law.** -/
theorem mergeLaw (outer : AbstractDefaultRule RuleSetItem) (item : RuleSetItem)
    (reference : outer.ruleSetItem = some item) (notInverted : outer.invert = false)
    (matchSource : item.ipCidrMatchSource = false) (acceptEmpty : item.ipCidrAcceptEmpty = false)
    (branches : ∀ ruleSet ∈ item.setList, ∀ rule ∈ ruleSet.rules,
      ∃ branch, rule = .default branch ∧ branch.invert = false)
    (metadata : InboundContext) (plain : Plain metadata) : (Rule.Match (.default outer) metadata = true ↔
      ∃ ruleSet ∈ item.setList, ∃ branch, .default branch ∈ ruleSet.rules ∧
        Rule.Match (.default (mergeRule outer branch)) metadata = true) ∧
    (∀ branch, Rule.Match (.default (mergeRule outer branch)) metadata = true ↔ FlatMatches outer branch metadata) := by
  refine ⟨?_, match_mergeRule_iff plain outer⟩
  have zero : (0 : RuleMatchState).toNat < 16 := by decide
  have fromZero : (0 : RuleMatchState) ||| outer.groupBits metadata = outer.groupBits metadata :=
    BitVec.zero_or
  have small : (outer.groupBits metadata).toNat < 16 := outer.groupBits_toNat_lt metadata
  have view := nestedMetadata_view plain matchSource acceptEmpty
  have ignore : (item.nestedMetadata metadata).resetRuleMatchCache.ignoreDestinationIPCIDRMatch =
      metadata.ignoreDestinationIPCIDRMatch := rfl
  -- one branch, evaluated below the outer rule, against the merged rule
  have branchStates : ∀ branch : AbstractDefaultRule Empty, branch.invert = false → ∀ state,
      (HeadlessRule.matchStatesWithBase (.default branch)
          (item.nestedMetadata metadata).resetRuleMatchCache
          (outer.groupBits metadata)).contains state = true ↔
        branch.otherItemsMatch metadata = true ∧
          state = (mergeRule outer branch).groupBits metadata ∧
          branch.allowed metadata state = true := by
    intro branch plainBranch state
    have noRuleSet : branch.ruleSetItem = none := by
      cases inBranch : branch.ruleSetItem with
      | none => rfl
      | some reference => exact nomatch reference
    refine (contains_flat unmarked_empty branch noRuleSet plainBranch _ small state).trans ?_
    rw [branch.otherItemsMatch_congr view, branch.groupBits_congr view fun _ => ignore,
      branch.allowed_congr view fun _ => ignore, groupBits_mergeRule plain]
  have outerBranches : outer.branchStates RuleSetItem.matchStatesWithBase metadata
      (outer.groupBits metadata) = item.matchStatesWithBase metadata (outer.groupBits metadata) := by
    unfold AbstractDefaultRule.branchStates
    rw [reference]
  rw [match_default_iff]
  simp only [outer.contains_matchStatesWithBase RuleSetItem.unmarked notInverted metadata zero,
    fromZero, outerBranches, item.contains_iff, RuleSet.contains_iff]
  constructor
  · rintro ⟨state, others, ⟨ruleSet, inItem, rule, inRuleSet, inRule⟩, permitted⟩
    obtain ⟨branch, rfl, plainBranch⟩ := branches ruleSet inItem rule inRuleSet
    obtain ⟨othersBranch, rfl, permittedBranch⟩ :=
      (branchStates branch plainBranch state).mp inRule
    refine ⟨ruleSet, inItem, branch, inRuleSet, (match_flat_iff _ rfl rfl metadata).mpr ⟨?_, ?_⟩⟩
    · exact (otherItemsMatch_mergeRule outer branch metadata).mpr ⟨others, othersBranch⟩
    · exact (allowed_mergeRule plain outer branch _).mpr ⟨permitted, permittedBranch⟩
  · rintro ⟨ruleSet, inItem, branch, inRuleSet, matched⟩
    obtain ⟨other, equal, plainBranch⟩ := branches ruleSet inItem _ inRuleSet
    obtain rfl : branch = other := RuleTree.default.inj equal
    obtain ⟨others, permitted⟩ := (match_flat_iff _ rfl rfl metadata).mp matched
    obtain ⟨othersOuter, othersBranch⟩ :=
      (otherItemsMatch_mergeRule outer branch metadata).mp others
    obtain ⟨permittedOuter, permittedBranch⟩ := (allowed_mergeRule plain outer branch _).mp permitted
    exact ⟨_, othersOuter, ⟨ruleSet, inItem, _, inRuleSet,
      (branchStates branch plainBranch _).mpr ⟨othersBranch, rfl, permittedBranch⟩⟩,
      permittedOuter⟩

/-- A rule-set with the one rule `port: 80`. -/
def portRuleSet : RuleSet where
  rules := [.default { destinationPortItems := [portItem false [80]] }]
  metadata := {}
  announced := by decide

/-- A rule `port: 443` that refers to `portRuleSet`. -/
def portRule : AbstractDefaultRule RuleSetItem where
  destinationPortItems := [portItem false [443]]
  ruleSetItem := some { setList := [portRuleSet] }

/-- Port 80 satisfies the destination port group through the rule-set, though not the rule's own
item. -/
theorem mergeLaw_port : Rule.Match (.default portRule) { destination := { port := 80 } } = true := by
  have branches : ∀ ruleSet ∈ [portRuleSet], ∀ rule ∈ ruleSet.rules,
      ∃ branch, rule = .default branch ∧ branch.invert = false := by
    intro ruleSet inItem rule inRuleSet
    obtain rfl := List.mem_singleton.mp inItem
    obtain rfl := List.mem_singleton.mp inRuleSet
    exact ⟨_, rfl, rfl⟩
  have plain : Plain { destination := { port := 80 } } := ⟨rfl, rfl, rfl⟩
  refine (mergeLaw portRule _ rfl rfl rfl rfl branches _ plain).1.mpr ?_
  exact ⟨portRuleSet, List.mem_singleton_self _, _, List.mem_singleton_self _, by decide⟩

end SingBox.Route
