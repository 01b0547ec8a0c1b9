/-
**Rules, rule-sets and their evaluation** (`route/rule/rule_abstract.go`, `route/rule/rule_item_rule_set.go`,
`route/rule/rule_set_abstract.go`).

A default rule holds its items in groups; a logical rule combines rules with `and` or `or`; a rule-set is a list of
headless rules, and a `RuleSetItem` is a reference from a rule to several rule-sets. Evaluation threads a *base* state
down (the grouped conditions that the rules above have already satisfied) and hands a set of states back up. A
headless rule has no `ruleSetItem` (`HeadlessRule = RuleTree Empty`), a route or DNS rule may have one.
-/

import SingBox.Adapter.Metadata
import SingBox.Route.MatchState

namespace SingBox.Route

open SingBox.Lib

/-- `RuleItem`: a pure predicate on the metadata. No item reads the flags that the matcher keeps
for itself, which is what `frame` records. -/
structure RuleItem where
  Match : InboundContext → Bool
  frame : ∀ metadata, Match metadata.itemView = Match metadata

namespace RuleItem

theorem match_congr (item : RuleItem) {first second : InboundContext}
    (view : first.itemView = second.itemView) : item.Match first = item.Match second := by
  rw [← item.frame first, ← item.frame second, view]

end RuleItem

def matchAnyItem (items : List RuleItem) (metadata : InboundContext) : Bool :=
  items.any fun item => item.Match metadata

theorem matchAnyItem_congr (items : List RuleItem) {first second : InboundContext}
    (view : first.itemView = second.itemView) : matchAnyItem items first = matchAnyItem items second := by
  unfold matchAnyItem
  congr 1
  funext item
  exact item.match_congr view

@[simp] theorem matchAnyItem_nil (metadata : InboundContext) : matchAnyItem [] metadata = false :=
  rfl

theorem matchAnyItem_append (first second : List RuleItem) (metadata : InboundContext) :
    matchAnyItem (first ++ second) metadata = (matchAnyItem first metadata || matchAnyItem second metadata) :=
  List.any_append

/-! ### Default rules -/

/-- `abstractDefaultRule`, with `ρ` the type of what `ruleSetItem` may hold. -/
structure AbstractDefaultRule (ρ : Type) where
  (items sourceAddressItems sourcePortItems destinationAddressItems destinationIPCIDRItems : List RuleItem := [])
  destinationPortItems : List RuleItem := []
  ruleSetItem : Option ρ := none
  invert : Bool := false

namespace AbstractDefaultRule

variable {ρ : Type}

section

variable (r : AbstractDefaultRule ρ)

/-- `len(r.allItems)`: every constructor appends each item to `allItems` together with its own
list, so only the number of items is kept here. -/
def allItemsLength : Nat :=
  r.items.length + r.sourceAddressItems.length + r.sourcePortItems.length +
    r.destinationAddressItems.length + r.destinationIPCIDRItems.length +
    r.destinationPortItems.length + r.ruleSetItem.toList.length

def destinationIPCIDRMatchesSource (metadata : InboundContext) : Bool :=
  !metadata.ignoreDestinationIPCIDRMatch && metadata.ipCIDRMatchSource && decide (r.destinationIPCIDRItems.length > 0)

def destinationIPCIDRMatchesDestination (metadata : InboundContext) : Bool :=
  !metadata.ignoreDestinationIPCIDRMatch && !metadata.ipCIDRMatchSource && decide (r.destinationIPCIDRItems.length > 0)

def requiresSourceAddressMatch (metadata : InboundContext) : Bool :=
  decide (r.sourceAddressItems.length > 0) || r.destinationIPCIDRMatchesSource metadata

def requiresDestinationAddressMatch (metadata : InboundContext) : Bool :=
  decide (r.destinationAddressItems.length > 0) || r.destinationIPCIDRMatchesDestination metadata

def invertedFailure (base : RuleMatchState) : RuleMatchStateSet :=
  if r.invert then emptyRuleMatchState.withBase base else .none

end

/-- The metadata and the base state while the groups of a rule are checked one after another. -/
abbrev Evaluation := InboundContext × RuleMatchState

def matchGroup (groupItems : List RuleItem) (bit : RuleMatchState) (e : Evaluation) : Evaluation :=
  if groupItems.length > 0 then
    let metadata := { e.1 with didMatch := true }
    (metadata, if matchAnyItem groupItems metadata then e.2 ||| bit else e.2)
  else e

/-- The check of the destination IP items, which count for the group `bit`. They are skipped when
an earlier item, or the inherited base, has set the bit already. -/
def matchIPCIDRGroup (r : AbstractDefaultRule ρ) (enabled : InboundContext → Bool)
    (bit : RuleMatchState) (e : Evaluation) : Evaluation :=
  if enabled e.1 && !RuleMatchState.has e.2 bit then
    let metadata := { e.1 with didMatch := true }
    (metadata, if matchAnyItem r.destinationIPCIDRItems metadata then e.2 ||| bit else e.2)
  else if enabled e.1 then ({ e.1 with didMatch := true }, e.2)
  else e

def matchGroups (r : AbstractDefaultRule ρ) (metadata : InboundContext)
    (evaluationBase : RuleMatchState) : Evaluation :=
  let e := matchGroup r.sourceAddressItems ruleMatchSourceAddress (metadata, evaluationBase)
  let e := r.matchIPCIDRGroup r.destinationIPCIDRMatchesSource ruleMatchSourceAddress e
  let e := matchGroup r.sourcePortItems ruleMatchSourcePort e
  let e := matchGroup r.destinationAddressItems ruleMatchDestinationAddress e
  let e := r.matchIPCIDRGroup r.destinationIPCIDRMatchesDestination ruleMatchDestinationAddress e
  matchGroup r.destinationPortItems ruleMatchDestinationPort e

/-- The closure given to `stateSet.filter`: every group the rule has items for must be set. -/
def allowed (r : AbstractDefaultRule ρ) (metadata : InboundContext) (state : RuleMatchState) : Bool :=
  if r.requiresSourceAddressMatch metadata && !state.has ruleMatchSourceAddress then false
  else if decide (r.sourcePortItems.length > 0) && !state.has ruleMatchSourcePort then false
  else if r.requiresDestinationAddressMatch metadata && !state.has ruleMatchDestinationAddress then
    false
  else if decide (r.destinationPortItems.length > 0) && !state.has ruleMatchDestinationPort then
    false
  else true

/-- The loop over `items`: every item has to match. -/
def otherItemsMatch (r : AbstractDefaultRule ρ) (metadata : InboundContext) : Bool :=
  r.items.all fun item => item.Match metadata

def branchStates (matchItem : ρ → InboundContext → RuleMatchState → RuleMatchStateSet)
    (r : AbstractDefaultRule ρ) (metadata : InboundContext) (base : RuleMatchState) :
    RuleMatchStateSet :=
  match r.ruleSetItem with
  | some item => matchItem item metadata base
  | none => singleRuleMatchState base

/-- `metadata.DidMatch = true` under a condition. -/
def markIf (condition : Bool) (metadata : InboundContext) : InboundContext :=
  if condition then { metadata with didMatch := true } else metadata

/-- `matchStatesWithBase` of a default rule. `matchItem` evaluates the rule-set reference. -/
def matchStatesWithBase (matchItem : ρ → InboundContext → RuleMatchState → RuleMatchStateSet)
    (r : AbstractDefaultRule ρ) (metadata : InboundContext) (inheritedBase : RuleMatchState) :
    RuleMatchStateSet :=
  if r.allItemsLength = 0 then emptyRuleMatchState.withBase inheritedBase
  else
    let evaluationBase := if r.invert then 0 else inheritedBase
    let e := r.matchGroups metadata evaluationBase
    -- the loop over `items` marks the metadata and leaves at the first item that fails
    let metadata := markIf (decide (r.items.length > 0)) e.1
    if !r.otherItemsMatch metadata then r.invertedFailure inheritedBase
    else
      let metadata := markIf r.ruleSetItem.isSome metadata
      let stateSet := (r.branchStates matchItem metadata e.2).filter (r.allowed metadata)
      if stateSet.isEmpty then r.invertedFailure inheritedBase
      else if r.invert then
        -- DNS pre-lookup defers destination address-limit checks until the response phase.
        if metadata.ignoreDestinationIPCIDRMatch && decide (stateSet = emptyRuleMatchState) &&
            !metadata.didMatch && decide (r.destinationIPCIDRItems.length > 0) then
          emptyRuleMatchState.withBase inheritedBase
        else .none
      else stateSet

end AbstractDefaultRule

/-! ### Rule trees -/

/-- `C.LogicalTypeAnd` and `C.LogicalTypeOr`. -/
inductive LogicalType where
  | and
  | or
  deriving DecidableEq, Repr

inductive RuleTree (ρ : Type) where
  | default (r : AbstractDefaultRule ρ)
  | logical (mode : LogicalType) (invert : Bool) (rules : List (RuleTree ρ))

namespace RuleTree

variable {ρ : Type}

/-- The rule's own `invert` flag. -/
def invert : RuleTree ρ → Bool
  | .default r => r.invert
  | .logical _ invert _ => invert

section Evaluate

variable (matchItem : ρ → InboundContext → RuleMatchState → RuleMatchStateSet)

mutual

/-- `matchStatesWithBase` of a default or logical rule. -/
def matchStatesWithBase : RuleTree ρ → InboundContext → RuleMatchState → RuleMatchStateSet
  | .default r, metadata, base => r.matchStatesWithBase matchItem metadata base
  | .logical mode invert rules, metadata, base =>
    let evaluationBase := if invert then 0 else base
    let failure := if invert then emptyRuleMatchState.withBase base else .none
    match mode with
    | .and =>
      match andStates rules metadata evaluationBase (emptyRuleMatchState.withBase evaluationBase) with
      | none => failure
      | some stateSet => if invert then .none else stateSet
    | .or =>
      let stateSet := orStates rules metadata evaluationBase .none
      if stateSet.isEmpty then failure else if invert then .none else stateSet

/-- The loop of an `and` rule; `none` is the early return at a nested rule without states. -/
def andStates : List (RuleTree ρ) → InboundContext → RuleMatchState → RuleMatchStateSet → Option RuleMatchStateSet
  | [], _, _, stateSet => some stateSet
  | rule :: rules, metadata, evaluationBase, stateSet =>
    let nestedStateSet := matchStatesWithBase rule metadata.resetRuleCache evaluationBase
    if nestedStateSet.isEmpty then none
    else andStates rules metadata evaluationBase (stateSet.combine nestedStateSet)

/-- The loop of an `or` rule. -/
def orStates : List (RuleTree ρ) → InboundContext → RuleMatchState → RuleMatchStateSet → RuleMatchStateSet
  | [], _, _, stateSet => stateSet
  | rule :: rules, metadata, evaluationBase, stateSet =>
    orStates rules metadata evaluationBase
      (stateSet.merge (matchStatesWithBase rule metadata.resetRuleCache evaluationBase))

end

/-- `Match`: some state is left, starting from no inherited group. -/
def Match (rule : RuleTree ρ) (metadata : InboundContext) : Bool :=
  !(rule.matchStatesWithBase matchItem metadata 0).isEmpty

end Evaluate

theorem induction {P : RuleTree ρ → Prop} (default : ∀ r, P (.default r))
    (logical : ∀ mode invert rules, (∀ rule ∈ rules, P rule) → P (.logical mode invert rules)) :
    ∀ rule, P rule
  | .default r => default r
  | .logical mode invert rules =>
    logical mode invert rules fun rule _ => induction default logical rule

end RuleTree

/-! ### Headless rules, rule-sets and references to them -/

abbrev HeadlessRule := RuleTree Empty

namespace HeadlessRule

def matchStatesWithBase (rule : HeadlessRule) (metadata : InboundContext) (base : RuleMatchState) : RuleMatchStateSet :=
  RuleTree.matchStatesWithBase (fun item : Empty => nomatch item) rule metadata base

/-- `Match` of a headless rule. -/
def Match (rule : HeadlessRule) (metadata : InboundContext) : Bool :=
  RuleTree.Match (fun item : Empty => nomatch item) rule metadata

end HeadlessRule

namespace RuleTree

variable {ρ : Type}

section AnyDefault

variable (p : AbstractDefaultRule ρ → Bool)

mutual

/-- Some default rule of the tree satisfies `p`. -/
def anyDefault : RuleTree ρ → Bool
  | .default r => p r
  | .logical _ _ rules => anyDefaultOf rules

/-- Some default rule of the trees satisfies `p`. -/
def anyDefaultOf : List (RuleTree ρ) → Bool
  | [] => false
  | rule :: rules => anyDefault rule || anyDefaultOf rules

end

theorem anyDefaultOf_eq_false_iff {p : AbstractDefaultRule ρ → Bool} {rules : List (RuleTree ρ)} :
    anyDefaultOf p rules = false ↔ ∀ rule ∈ rules, anyDefault p rule = false := by
  induction rules with
  | nil => simp [anyDefaultOf]
  | cons head tail ih =>
    rw [anyDefaultOf, Bool.or_eq_false_iff, ih, List.forall_mem_cons]

end AnyDefault

/-- Some default rule of the trees has destination IP items of its own. -/
def anyDestinationIPCIDRItems (rules : List (RuleTree ρ)) : Bool :=
  anyDefaultOf (fun r => decide (r.destinationIPCIDRItems.length > 0)) rules

end RuleTree

structure RuleSetMetadata where
  (containsProcessRule containsWIFIRule containsIPCIDRRule : Bool := false)
  deriving DecidableEq

/-- `abstractRuleSet`: the loaded rules and what is known about them. `reloadRules` writes them
together, so a rule with destination IP items is always announced in the metadata. -/
structure RuleSet where
  rules : List HeadlessRule
  ruleCount : UInt64 := 0
  metadata : RuleSetMetadata
  announced : RuleTree.anyDestinationIPCIDRItems rules = true → metadata.containsIPCIDRRule = true

namespace RuleSet

def matchStatesWithBase (s : RuleSet) (metadata : InboundContext) (base : RuleMatchState) : RuleMatchStateSet :=
  s.rules.foldl (fun stateSet rule =>
    stateSet.merge (HeadlessRule.matchStatesWithBase rule metadata.resetRuleMatchCache base)) .none

def Match (s : RuleSet) (metadata : InboundContext) : Bool :=
  !(s.matchStatesWithBase metadata 0).isEmpty

end RuleSet

/-- `RuleSetItem`, after `Start` has resolved its tags. -/
structure RuleSetItem where
  setList : List RuleSet
  (ipCidrMatchSource ipCidrAcceptEmpty : Bool := false)

namespace RuleSetItem

/-- The copy of the metadata that the rule-sets of the reference get to see. -/
def nestedMetadata (r : RuleSetItem) (metadata : InboundContext) : InboundContext :=
  { metadata.resetRuleMatchCache with
    ipCIDRMatchSource := r.ipCidrMatchSource
    ipCIDRAcceptEmpty := r.ipCidrAcceptEmpty }

def matchStatesWithBase (r : RuleSetItem) (metadata : InboundContext) (base : RuleMatchState) : RuleMatchStateSet :=
  r.setList.foldl (fun stateSet ruleSet =>
    stateSet.merge (ruleSet.matchStatesWithBase (r.nestedMetadata metadata) base)) .none

def containsDestinationIPCIDRRule (r : RuleSetItem) : Bool :=
  if r.ipCidrMatchSource then false
  else r.setList.any fun ruleSet => ruleSet.metadata.containsIPCIDRRule

end RuleSetItem

/-- A route or DNS rule: its default rules may refer to rule-sets. -/
abbrev Rule := RuleTree RuleSetItem

namespace Rule

def matchStatesWithBase (rule : Rule) (metadata : InboundContext) (base : RuleMatchState) : RuleMatchStateSet :=
  RuleTree.matchStatesWithBase RuleSetItem.matchStatesWithBase rule metadata base

/-- `DefaultRule.Match`, `LogicalRule.Match`. -/
def Match (rule : Rule) (metadata : InboundContext) : Bool :=
  RuleTree.Match RuleSetItem.matchStatesWithBase rule metadata

end Rule

end SingBox.Route
