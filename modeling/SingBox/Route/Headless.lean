/-
**Loading the rules of a rule-set** (`route/rule/rule_headless.go`, and `reloadRules` in
`route/rule/rule_set_abstract.go`).

`newHeadlessRule` builds a rule from its options: every condition that was given becomes an item in
the group it belongs to, in the order of the source. A rule whose options come from a binary file
has matchers and IP sets in place of the lists, and builds the same kinds of items from them.

`newDefaultHeadlessRule_eq_ok` says what a successful construction consists of; the rest of the
development uses the constructor through it only.
-/

import SingBox.Options.HeadlessRule

namespace SingBox.Route

open SingBox.Lib SingBox.Options Options.HeadlessRule

/-- What the constructors look up in their context: the network manager, and the default strategy
of the router. Either may be missing. -/
structure RuleContext where
  networkManager : Option NetworkManager := none
  router : Option DomainMatchStrategy := none

def RuleContext.strategy (ctx : RuleContext) (given : DomainMatchStrategy) : DomainMatchStrategy :=
  match ctx.router with
  | none => given
  | some defaultStrategy => if given = .asIS then defaultStrategy else given

section Items

/-! ### The items of a default rule -/

variable (lib : ItemLibrary)

def itemWhen (given : Bool) (item : RuleItem) : List RuleItem := if given then [item] else []

/-- The same for an item whose constructor can fail. -/
def newItemWhen (given : Bool) (item : Except Error RuleItem) : Except Error (List RuleItem) :=
  if given then do return [← item] else return []

/-- The `domain` and `domain_suffix` lists, or else a matcher from a binary file. -/
def newDomainItems (options : DefaultHeadlessRule lib) (strategy : DomainMatchStrategy) :
    Except Error (List RuleItem) :=
  if options.domain.items.length > 0 || options.domainSuffix.items.length > 0 then do
    return [← newDomainItem lib options.domain.items options.domainSuffix.items strategy]
  else
    match options.domainMatcher with
    | some matcher => return [domainItem lib matcher strategy]
    | none => return []

def newIPCIDRItems (isSource : Bool) (text : String) (list : Listable Bytes)
    (ipSet : Option IPSet) : Except Error (List RuleItem) :=
  if list.items.length > 0 then do
    return [← wrapError text (newIPCIDRItem lib isSource list.items)]
  else
    match ipSet with
    | some ipSet => return [ipCIDRItem lib isSource ipSet]
    | none => return []

def adGuardItems (options : DefaultHeadlessRule lib) (strategy : DomainMatchStrategy) : List RuleItem :=
  if options.adGuardDomain.items.length > 0 then
    [adGuardDomainItem lib (lib.newAdGuardMatcher options.adGuardDomain.items) strategy]
  else
    match options.adGuardDomainMatcher with
    | some matcher => [adGuardDomainItem lib matcher strategy]
    | none => []

/-- The prefixes of a list, a `null` as the zero prefix. -/
def buildPrefixes (list : Listable Prefixable) : List Prefix :=
  list.items.map fun prefixable => prefixable.build .none

def newNetworkInterfaceAddressItem (networkManager : NetworkManager)
    (entries : List (UInt8 × Listable Prefixable)) : RuleItem :=
  networkInterfaceAddressItem networkManager (entries.map fun entry => (entry.1, buildPrefixes entry.2))

def networkItems (ctx : RuleContext) (options : DefaultHeadlessRule lib) : List RuleItem :=
  match ctx.networkManager with
  | none => []
  | some networkManager =>
    itemWhen (options.networkType.items.length > 0) (networkTypeItem networkManager options.networkType.items) ++
    itemWhen options.networkIsExpensive (networkIsExpensiveItem networkManager) ++
    itemWhen options.networkIsConstrained (networkIsConstrainedItem networkManager) ++
    itemWhen (options.wifiSSID.items.length > 0) (wifiSSIDItem networkManager options.wifiSSID.items) ++
    itemWhen (options.wifiBSSID.items.length > 0) (wifiBSSIDItem lib networkManager options.wifiBSSID.items) ++
    itemWhen (options.interfaceEntries.length > 0)
      (newNetworkInterfaceAddressItem networkManager options.interfaceEntries) ++
    itemWhen (options.defaultInterfaceAddress.items.length > 0)
      (defaultInterfaceAddressItem networkManager (buildPrefixes options.defaultInterfaceAddress))

def newDefaultHeadlessRule (ctx : RuleContext) (options : DefaultHeadlessRule lib) :
    Except Error (AbstractDefaultRule Empty) := do
  let strategy := ctx.strategy options.domainMatchStrategy
  let domain ← newDomainItems lib options strategy
  let domainRegex ← newItemWhen (options.domainRegex.items.length > 0)
    (wrapError "domain_regex" (newDomainRegexItem lib options.domainRegex.items strategy))
  let sourceIPCIDR ← newIPCIDRItems lib true "source_ip_cidr" options.sourceIPCIDR options.sourceIPSet
  let ipCIDR ← newIPCIDRItems lib false "ipcidr" options.ipCIDR options.ipSet
  let sourcePortRange ← newItemWhen (options.sourcePortRange.items.length > 0)
    (wrapError "source_port_range" (newPortRangeItem true options.sourcePortRange.items))
  let portRange ← newItemWhen (options.portRange.items.length > 0)
    (wrapError "port_range" (newPortRangeItem false options.portRange.items))
  let processPathRegex ← newItemWhen (options.processPathRegex.items.length > 0)
    (wrapError "process_path_regex" (newProcessPathRegexItem lib options.processPathRegex.items))
  return {
    items :=
      itemWhen (options.queryType.items.length > 0) (queryTypeItem options.queryType.items) ++
      itemWhen (options.network.items.length > 0) (networkItem options.network.items) ++
      itemWhen (options.processName.items.length > 0) (processItem lib options.processName.items) ++
      itemWhen (options.processPath.items.length > 0) (processPathItem lib options.processPath.items) ++
      processPathRegex ++
      itemWhen (options.packageName.items.length > 0) (packageNameItem options.packageName.items) ++
      networkItems lib ctx options
    sourceAddressItems := sourceIPCIDR
    sourcePortItems :=
      itemWhen (options.sourcePort.items.length > 0) (portItem true options.sourcePort.items) ++
      sourcePortRange
    destinationAddressItems := domain ++
      itemWhen (options.domainKeyword.items.length > 0) (domainKeywordItem lib options.domainKeyword.items strategy) ++
      domainRegex ++
      adGuardItems lib options strategy
    destinationIPCIDRItems := ipCIDR
    destinationPortItems :=
      itemWhen (options.port.items.length > 0) (portItem false options.port.items) ++ portRange
    invert := options.invert }

end Items

/-! ### Rules -/

def AbstractDefaultRule.ruleCount (rule : AbstractDefaultRule Empty) : UInt64 :=
  let destination := rule.destinationAddressItems.length + rule.destinationIPCIDRItems.length
  if rule.allItemsLength = destination then UInt64.ofNat destination
  else if rule.allItemsLength = rule.sourceAddressItems.length then
    UInt64.ofNat rule.sourceAddressItems.length
  else if rule.allItemsLength = rule.sourcePortItems.length then
    UInt64.ofNat rule.sourcePortItems.length
  else if rule.allItemsLength = rule.destinationPortItems.length then
    UInt64.ofNat rule.destinationPortItems.length
  else 1

def HeadlessRule.ruleCount : HeadlessRule → UInt64
  | .default rule => rule.ruleCount
  | .logical _ _ _ => 1

section Loading

variable (lib : ItemLibrary) (ctx : RuleContext)

def newMode : LogicalMode → Except Error LogicalType
  | .and => .ok .and
  | .or => .ok .or
  | .unknown mode => .error (.extend (.new "unknown logical mode: ") mode)

mutual

/-- `NewHeadlessRule`, with `NewLogicalHeadlessRule`. -/
def newHeadlessRule : Options.HeadlessRule lib → Except Error HeadlessRule
  | .default options =>
    if !options.isValid then .error (.new "missing conditions")
    else do return .default (← newDefaultHeadlessRule lib ctx options)
  | .logical mode rules _ invert =>
    if rules.isEmpty || !allValid rules then
      .error (.new "missing conditions")
    else do
      let mode ← newMode mode
      let rules ← newHeadlessRules (fun i => "sub rule[" ++ toString i ++ "]") 0 rules
      return .logical mode invert rules

def newHeadlessRules (text : Nat → String) : Nat → List (Options.HeadlessRule lib) → Except Error (List HeadlessRule)
  | _, [] => .ok []
  | i, rule :: rules => do
    let first ← wrapError (text i) (newHeadlessRule rule)
    let rest ← newHeadlessRules text (i + 1) rules
    return first :: rest

end

def isProcessHeadlessRule (rule : DefaultHeadlessRule lib) : Bool :=
  rule.processName.items.length > 0 || rule.processPath.items.length > 0 ||
    rule.processPathRegex.items.length > 0 || rule.packageName.items.length > 0

def isWIFIHeadlessRule (rule : DefaultHeadlessRule lib) : Bool :=
  rule.wifiSSID.items.length > 0 || rule.wifiBSSID.items.length > 0

def isIPCIDRHeadlessRule (rule : DefaultHeadlessRule lib) : Bool :=
  rule.ipCIDR.items.length > 0 || rule.ipSet.isSome

end Loading

section Inversion

variable {lib : ItemLibrary} {ctx : RuleContext}

theorem newDefaultHeadlessRule_eq_ok {options : DefaultHeadlessRule lib}
    {r : AbstractDefaultRule Empty} (built : newDefaultHeadlessRule lib ctx options = .ok r) :
    (∃ items, newDomainItems lib options (ctx.strategy options.domainMatchStrategy) = .ok items) ∧
    (∃ items, newIPCIDRItems lib true "source_ip_cidr" options.sourceIPCIDR options.sourceIPSet = .ok items) ∧
    newIPCIDRItems lib false "ipcidr" options.ipCIDR options.ipSet = .ok r.destinationIPCIDRItems := by
  obtain ⟨domain, domainBuilt, built⟩ := bind_eq_ok_iff.mp built
  obtain ⟨domainRegex, -, built⟩ := bind_eq_ok_iff.mp built
  obtain ⟨sourceIPCIDR, sourceBuilt, built⟩ := bind_eq_ok_iff.mp built
  obtain ⟨ipCIDR, ipBuilt, built⟩ := bind_eq_ok_iff.mp built
  obtain ⟨sourcePortRange, -, built⟩ := bind_eq_ok_iff.mp built
  obtain ⟨portRange, -, built⟩ := bind_eq_ok_iff.mp built
  obtain ⟨processPathRegex, -, built⟩ := bind_eq_ok_iff.mp built
  refine ⟨⟨domain, domainBuilt⟩, ⟨sourceIPCIDR, sourceBuilt⟩, ?_⟩
  rw [← Except.ok.inj built]
  exact ipBuilt

structure SameItems (ctx : RuleContext) (a b : DefaultHeadlessRule lib) : Prop where
  queryType : a.queryType.items = b.queryType.items
  network : a.network.items = b.network.items
  domain : newDomainItems lib a (ctx.strategy a.domainMatchStrategy) =
    newDomainItems lib b (ctx.strategy b.domainMatchStrategy)
  domainKeyword :
    itemWhen (a.domainKeyword.items.length > 0)
      (domainKeywordItem lib a.domainKeyword.items (ctx.strategy a.domainMatchStrategy)) =
    itemWhen (b.domainKeyword.items.length > 0)
      (domainKeywordItem lib b.domainKeyword.items (ctx.strategy b.domainMatchStrategy))
  domainRegex :
    newItemWhen (a.domainRegex.items.length > 0) (wrapError "domain_regex"
      (newDomainRegexItem lib a.domainRegex.items (ctx.strategy a.domainMatchStrategy))) =
    newItemWhen (b.domainRegex.items.length > 0) (wrapError "domain_regex"
      (newDomainRegexItem lib b.domainRegex.items (ctx.strategy b.domainMatchStrategy)))
  sourceIPCIDR : newIPCIDRItems lib true "source_ip_cidr" a.sourceIPCIDR a.sourceIPSet =
    newIPCIDRItems lib true "source_ip_cidr" b.sourceIPCIDR b.sourceIPSet
  ipCIDR : newIPCIDRItems lib false "ipcidr" a.ipCIDR a.ipSet = newIPCIDRItems lib false "ipcidr" b.ipCIDR b.ipSet
  sourcePort : a.sourcePort.items = b.sourcePort.items
  sourcePortRange : a.sourcePortRange.items = b.sourcePortRange.items
  port : a.port.items = b.port.items
  portRange : a.portRange.items = b.portRange.items
  processName : a.processName.items = b.processName.items
  processPath : a.processPath.items = b.processPath.items
  processPathRegex : a.processPathRegex.items = b.processPathRegex.items
  packageName : a.packageName.items = b.packageName.items
  networkType : a.networkType.items = b.networkType.items
  networkIsExpensive : a.networkIsExpensive = b.networkIsExpensive
  networkIsConstrained : a.networkIsConstrained = b.networkIsConstrained
  wifiSSID : a.wifiSSID.items = b.wifiSSID.items
  wifiBSSID : a.wifiBSSID.items = b.wifiBSSID.items
  networkInterfaceAddress :
    (a.interfaceEntries.map fun entry => (entry.1, buildPrefixes entry.2)) =
      b.interfaceEntries.map fun entry => (entry.1, buildPrefixes entry.2)
  defaultInterfaceAddress : buildPrefixes a.defaultInterfaceAddress = buildPrefixes b.defaultInterfaceAddress
  adGuard : adGuardItems lib a (ctx.strategy a.domainMatchStrategy) =
    adGuardItems lib b (ctx.strategy b.domainMatchStrategy)
  invert : a.invert = b.invert

theorem SameItems.networkItems_eq {a b : DefaultHeadlessRule lib} (same : SameItems ctx a b) :
    networkItems lib ctx a = networkItems lib ctx b := by
  have entries : a.interfaceEntries.length = b.interfaceEntries.length := by
    simpa only [List.length_map] using congrArg List.length same.networkInterfaceAddress
  have addresses : a.defaultInterfaceAddress.items.length = b.defaultInterfaceAddress.items.length := by
    simpa only [buildPrefixes, List.length_map] using congrArg List.length same.defaultInterfaceAddress
  unfold networkItems newNetworkInterfaceAddressItem
  simp only [same.networkType, same.networkIsExpensive, same.networkIsConstrained, same.wifiSSID,
    same.wifiBSSID, entries, addresses, same.networkInterfaceAddress, same.defaultInterfaceAddress]

/-- **The constructor sees its options through their items only.** -/
theorem newDefaultHeadlessRule_congr {a b : DefaultHeadlessRule lib} (same : SameItems ctx a b) :
    newDefaultHeadlessRule lib ctx a = newDefaultHeadlessRule lib ctx b := by
  unfold newDefaultHeadlessRule
  simp only [same.domain, same.domainRegex, same.domainKeyword, same.adGuard, same.sourceIPCIDR,
    same.ipCIDR, same.queryType, same.network, same.sourcePort, same.sourcePortRange, same.port,
    same.portRange, same.processName, same.processPath, same.processPathRegex, same.packageName,
    same.networkItems_eq, same.invert]

theorem newHeadlessRules_eq_ok_iff {text : Nat → String} {i : Nat}
    {rules : List (Options.HeadlessRule lib)} {results : List HeadlessRule} :
    newHeadlessRules lib ctx text i rules = .ok results ↔
      List.Forall₂ (fun rule result => newHeadlessRule lib ctx rule = .ok result) rules results := by
  induction rules generalizing i results with
  | nil =>
    rw [newHeadlessRules, List.forall₂_nil_left_iff]
    exact ⟨fun done => (Except.ok.inj done).symm, fun empty => by rw [empty]⟩
  | cons rule rules ih =>
    rw [newHeadlessRules, bind_eq_ok_iff, List.forall₂_cons_left_iff]
    refine ⟨?_, ?_⟩
    · rintro ⟨first, head, done⟩
      obtain ⟨rest, tail, done⟩ := bind_eq_ok_iff.mp done
      exact ⟨first, rest, wrapError_eq_ok_iff.mp head, ih.mp tail, (Except.ok.inj done).symm⟩
    · rintro ⟨first, rest, head, tail, rfl⟩
      refine ⟨first, wrapError_eq_ok_iff.mpr head, bind_eq_ok_iff.mpr ⟨rest, ih.mpr tail, rfl⟩⟩

theorem newHeadlessRule_default_iff {options : DefaultHeadlessRule lib} {result : HeadlessRule} :
    newHeadlessRule lib ctx (.default options) = .ok result ↔ options.isValid = true ∧
      ∃ r, newDefaultHeadlessRule lib ctx options = .ok r ∧ result = .default r := by
  rw [newHeadlessRule]
  cases options.isValid with
  | false =>
    refine ⟨fun impossible => ?_, fun impossible => ?_⟩
    · exact nomatch impossible
    · exact nomatch impossible.1
  | true =>
    refine bind_eq_ok_iff.trans ⟨?_, ?_⟩
    · rintro ⟨r, built, done⟩
      exact ⟨rfl, r, built, (Except.ok.inj done).symm⟩
    · rintro ⟨-, r, built, rfl⟩
      exact ⟨r, built, rfl⟩

theorem newHeadlessRule_logical_iff {mode : LogicalMode} {rules : List (Options.HeadlessRule lib)}
    {strategy : DomainMatchStrategy} {invert : Bool} {result : HeadlessRule} :
    newHeadlessRule lib ctx (.logical mode rules strategy invert) = .ok result ↔
      (rules ≠ [] ∧ allValid rules = true) ∧
      ∃ logicalType results, newMode mode = .ok logicalType ∧
        List.Forall₂ (fun rule result => newHeadlessRule lib ctx rule = .ok result) rules results ∧
        result = .logical logicalType invert results := by
  rw [newHeadlessRule]
  split_ifs with valid
  · refine ⟨fun impossible => ?_, ?_⟩
    · exact nomatch impossible
    · rintro ⟨⟨nonempty, allValid⟩, -⟩
      rw [allValid, List.isEmpty_eq_false_iff.mpr nonempty] at valid
      exact absurd valid (by decide)
  · have given : rules ≠ [] ∧ allValid rules = true := by
      simpa using valid
    refine bind_eq_ok_iff.trans ⟨?_, ?_⟩
    · rintro ⟨logicalType, known, done⟩
      obtain ⟨results, built, done⟩ := bind_eq_ok_iff.mp done
      exact ⟨given, logicalType, results, known, newHeadlessRules_eq_ok_iff.mp built, (Except.ok.inj done).symm⟩
    · rintro ⟨-, logicalType, results, known, built, rfl⟩
      exact ⟨logicalType, known, bind_eq_ok_iff.mpr ⟨results, newHeadlessRules_eq_ok_iff.mpr built, rfl⟩⟩

theorem destinationIPCIDRItems_announced (rule : Options.HeadlessRule lib) :
    ∀ {result : HeadlessRule}, newHeadlessRule lib ctx rule = .ok result →
      rule.anyDefault (isIPCIDRHeadlessRule lib) = false →
      result.anyDefault (fun r => decide (r.destinationIPCIDRItems.length > 0)) = false := by
  induction rule using induction with
  | default options =>
    intro result loaded absent
    obtain ⟨-, r, built, rfl⟩ := newHeadlessRule_default_iff.mp loaded
    obtain ⟨-, -, items⟩ := newDefaultHeadlessRule_eq_ok built
    obtain ⟨noList, noSet⟩ := Bool.or_eq_false_iff.mp absent
    have noItems : newIPCIDRItems lib false "ipcidr" options.ipCIDR options.ipSet = .ok [] := by
      unfold newIPCIDRItems
      rw [if_neg (of_decide_eq_false noList), Option.isSome_eq_false_iff.mp noSet |> Option.isNone_iff_eq_none.mp]
      rfl
    rw [noItems] at items
    show decide (r.destinationIPCIDRItems.length > 0) = false
    rw [← Except.ok.inj items]
    rfl
  | logical mode rules strategy invert ih =>
    intro result built absent
    obtain ⟨-, -, results, -, each, rfl⟩ := newHeadlessRule_logical_iff.mp built
    refine RuleTree.anyDefaultOf_eq_false_iff.mpr fun result member => ?_
    obtain ⟨rule, inRules, built⟩ := exists_of_forall₂ each member
    exact ih rule inRules built (hasHeadlessRule_eq_false_iff.mp absent rule inRules)

theorem announced_of_loaded {text : Nat → String} {i : Nat}
    {headlessRules : List (Options.HeadlessRule lib)} {rules : List HeadlessRule}
    (loaded : newHeadlessRules lib ctx text i headlessRules = .ok rules)
    (some : RuleTree.anyDestinationIPCIDRItems rules = true) :
    hasHeadlessRule (isIPCIDRHeadlessRule lib) headlessRules = true := by
  by_contra absent
  have nowhere := hasHeadlessRule_eq_false_iff.mp (Bool.eq_false_iff.mpr absent)
  have none : RuleTree.anyDestinationIPCIDRItems rules = false := by
    refine RuleTree.anyDefaultOf_eq_false_iff.mpr fun result member => ?_
    obtain ⟨rule, inRules, built⟩ := exists_of_forall₂ (newHeadlessRules_eq_ok_iff.mp loaded) member
    exact destinationIPCIDRItems_announced rule built (nowhere rule inRules)
  rw [none] at some
  exact absurd some (by decide)

end Inversion

section Reload

variable (lib : ItemLibrary) (ctx : RuleContext)

/-- `adapter.RuleSetMetadata` of the options. -/
def ruleSetMetadata (headlessRules : List (Options.HeadlessRule lib)) : RuleSetMetadata where
  containsProcessRule :=
    hasHeadlessRule (isProcessHeadlessRule lib) headlessRules
  containsWIFIRule := hasHeadlessRule (isWIFIHeadlessRule lib) headlessRules
  containsIPCIDRRule :=
    hasHeadlessRule (isIPCIDRHeadlessRule lib) headlessRules

/-- `abstractRuleSet.reloadRules`: the rules, their number and their metadata, or an error and
nothing is replaced. -/
def reloadRules (headlessRules : List (Options.HeadlessRule lib)) : Except Error RuleSet :=
  match loaded : newHeadlessRules lib ctx (fun i => "parse rule_set.rules.[" ++ toString i ++ "]") 0 headlessRules with
  | .error error => .error error
  | .ok rules => .ok
      { rules := rules
        ruleCount := rules.foldl (fun count rule => count + rule.ruleCount) 0
        metadata := ruleSetMetadata lib headlessRules
        announced := announced_of_loaded loaded }

end Reload

theorem reloadRules_eq_ok_iff {lib : ItemLibrary} {ctx : RuleContext}
    {headlessRules : List (Options.HeadlessRule lib)} {ruleSet : RuleSet} :
    reloadRules lib ctx headlessRules = .ok ruleSet ↔
      List.Forall₂ (fun rule result => newHeadlessRule lib ctx rule = .ok result) headlessRules
        ruleSet.rules ∧ ruleSet.ruleCount = ruleSet.rules.foldl (fun count rule => count + rule.ruleCount) 0 ∧
      ruleSet.metadata = ruleSetMetadata lib headlessRules := by
  unfold reloadRules
  split
  · rename_i error failed
    refine ⟨fun impossible => ?_, fun ⟨built, _⟩ => ?_⟩
    · exact nomatch impossible
    · rw [newHeadlessRules_eq_ok_iff.mpr built] at failed
      exact nomatch failed
  · rename_i rules loaded
    refine ⟨fun done => ?_, fun ⟨built, count, metadata⟩ => ?_⟩
    · rw [← Except.ok.inj done]
      exact ⟨newHeadlessRules_eq_ok_iff.mp loaded, rfl, rfl⟩
    obtain ⟨others, number, announcements, announced⟩ := ruleSet
    obtain rfl : rules = others :=
      Except.ok.inj (loaded.symm.trans (newHeadlessRules_eq_ok_iff.mpr built))
    obtain rfl : number = rules.foldl (fun count rule => count + rule.ruleCount) 0 := count
    obtain rfl : announcements = ruleSetMetadata lib headlessRules := metadata
    rfl

end SingBox.Route
