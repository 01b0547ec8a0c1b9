/-
**Compiling a rule-set** (`cmd/sing-box/cmd_rule_set_compile.go`, and `loadBytes` in
`route/rule/rule_set_abstract.go`).

`compileRuleSet` decodes a source rule-set and writes it in the lowest version that its conditions need; `loadBytes`
loads a rule-set in either format. The decoder of the source format fills only the fields that have a name in it.
`Compilable` names what the binary format has a place for.
-/

import SingBox.Route.Headless
import SingBox.Srs.RoundTrip

namespace SingBox.Srs

open SingBox.Lib SingBox.Options HeadlessRule List Route
open SingBox.Route (ItemLibrary parseIPSet RuleContext RuleSet newHeadlessRule newDefaultHeadlessRule
  SameItems)

/-! ### Loading -/

/-- Matchers and sets that only the binary reader fills in. -/
def binaryOnly {lib : ItemLibrary} (rule : DefaultHeadlessRule lib) : Bool :=
  rule.domainMatcher.isSome || rule.sourceIPSet.isSome || rule.ipSet.isSome || rule.adGuardDomainMatcher.isSome

/-- What rule-sets are loaded with. `unmarshal` is `json.UnmarshalExtended`, which leaves the fields
alone that are tagged as not being part of the source format. -/
structure LoadContext (lib : BinaryLibrary) extends RuleContext where
  unmarshal : Bytes → Except Error (PlainRuleSetCompat lib)
  unmarshal_source : ∀ content ruleSet, unmarshal content = .ok ruleSet →
    hasHeadlessRule binaryOnly ruleSet.rules = false

inductive RuleSetFormat where
  | source
  | binary
  | unknown (format : Bytes)
  deriving DecidableEq, Repr

section Loading

variable (lib : BinaryLibrary) (ctx : LoadContext lib)

def upgrade (ruleSet : PlainRuleSetCompat lib) : Except Error (List (HeadlessRule lib)) :=
  if ruleSet.version = ruleSetVersion1 ∨ ruleSet.version = ruleSetVersion2 ∨
      ruleSet.version = ruleSetVersion3 ∨ ruleSet.version = ruleSetVersion4 then
    .ok ruleSet.rules
  else .error (.new ("unknown rule-set version: " ++ toString ruleSet.version))

/-- The decoding part of `loadBytes`. -/
def decode (format : RuleSetFormat) (content : Bytes) : Except Error (PlainRuleSetCompat lib) :=
  match format with
  | .source => ctx.unmarshal content
  | .binary => read lib false content
  | .unknown format => .error (.extend (.new "unknown rule-set format: ") format)

def loadBytes (format : RuleSetFormat) (content : Bytes) : Except Error RuleSet := do
  let ruleSet ← decode lib ctx format content
  let rules ← upgrade lib ruleSet
  Route.reloadRules lib ctx.toRuleContext rules

def usesInterfaceAddress (rule : DefaultHeadlessRule lib) : Bool :=
  rule.interfaceEntries.length > 0 || rule.defaultInterfaceAddress.items.length > 0

def usesNetworkType (rule : DefaultHeadlessRule lib) : Bool :=
  rule.networkType.items.length > 0 || rule.networkIsExpensive || rule.networkIsConstrained

def downgradeRuleSetVersion (version : UInt8) (rules : List (HeadlessRule lib)) : UInt8 :=
  let version :=
    if version = ruleSetVersion4 ∧ hasHeadlessRule (usesInterfaceAddress lib) rules = false then ruleSetVersion3
    else version
  if version = ruleSetVersion3 ∧ hasHeadlessRule (usesNetworkType lib) rules = false then ruleSetVersion2
  else version

/-- `compileRuleSet`, from the content of the source file to that of the output file. -/
def compileRuleSet (content : Bytes) : Except Error Bytes := do
  let plainRuleSet ← ctx.unmarshal content
  write lib plainRuleSet.rules (downgradeRuleSetVersion lib plainRuleSet.version plainRuleSet.rules)

/-! ### What the binary format has a place for -/

section

variable (rule : DefaultHeadlessRule lib)

def usesAdGuard : Bool :=
  rule.adGuardDomain.items.length > 0

def usesDomain : Bool :=
  hasDomain rule || rule.domainKeyword.items.length > 0 || rule.domainRegex.items.length > 0 || usesAdGuard lib rule

def choosesStrategy : Bool :=
  decide (rule.domainMatchStrategy ≠ .asIS) && usesDomain lib rule

def noCondition : Bool :=
  !(rule.queryType.items.length > 0 || rule.network.items.length > 0 || usesDomain lib rule ||
    rule.sourceIPCIDR.items.length > 0 || rule.ipCIDR.items.length > 0 ||
    rule.sourcePort.items.length > 0 || rule.sourcePortRange.items.length > 0 ||
    rule.port.items.length > 0 || rule.portRange.items.length > 0 ||
    rule.processName.items.length > 0 || rule.processPath.items.length > 0 ||
    rule.processPathRegex.items.length > 0 || rule.packageName.items.length > 0 ||
    usesNetworkType lib rule || usesInterfaceAddress lib rule || rule.wifiSSID.items.length > 0 ||
    rule.wifiBSSID.items.length > 0)

end

structure Supported (version : UInt8) (rules : List (HeadlessRule lib)) : Prop where
  adGuard : hasHeadlessRule (usesAdGuard lib) rules = true → ruleSetVersion2 ≤ version
  networkType : hasHeadlessRule (usesNetworkType lib) rules = true → ruleSetVersion3 ≤ version
  interfaceAddress : hasHeadlessRule (usesInterfaceAddress lib) rules = true → ruleSetVersion4 ≤ version

/-- **What the binary format has a place for.** -/
structure Compilable (version : UInt8) (rules : List (HeadlessRule lib)) : Prop where
  supported : Supported lib version rules
  shallow : maxDepth rules ≤ maxLogicalRuleDepth
  addressed : hasHeadlessRule nullAddress rules = false
  conditions : hasHeadlessRule (noCondition lib) rules = false
  strategy : hasHeadlessRule (choosesStrategy lib) rules = false

end Loading

section Compile

variable {lib : BinaryLibrary}

/-! ### The version -/

variable {rules : List (HeadlessRule lib)} {version : UInt8} {items : List Route.RuleItem}
  {ctx : RuleContext} {options : DefaultHeadlessRule lib}

variable {cond : DefaultHeadlessRule lib → Bool} {rule : HeadlessRule lib}

theorem Supported.downgrade (supported : Supported lib version rules) :
    Supported lib (downgradeRuleSetVersion lib version rules) rules := by
  obtain ⟨adGuard, networkType, interfaceAddress⟩ := supported
  fun_cases downgradeRuleSetVersion lib version rules with
  | case1 lowered older =>
    refine ⟨fun _ => by decide, fun some => ?_, fun some => ?_⟩
    · cases some.symm.trans older.2
    · have needed := interfaceAddress some
      have same : lowered = version := if_neg fun newest => by cases some.symm.trans newest.2
      rw [← same, older.1] at needed
      exact absurd needed (by decide)
  | case2 =>
    show Supported lib (ite ..) rules
    split_ifs with newest
    · exact ⟨fun _ => by decide, fun _ => by decide, fun some => by cases some.symm.trans newest.2⟩
    · exact ⟨adGuard, networkType, interfaceAddress⟩

/-- The versions that `Upgrade` knows. -/
def knownVersion (version : UInt8) : Prop :=
  version = ruleSetVersion1 ∨ version = ruleSetVersion2 ∨ version = ruleSetVersion3 ∨ version = ruleSetVersion4

theorem knownVersion_downgrade (known : knownVersion version) :
    knownVersion (downgradeRuleSetVersion lib version rules) := by
  fun_cases downgradeRuleSetVersion lib version rules with
  | case1 => exact .inr (.inl rfl)
  | case2 =>
    show knownVersion (ite ..)
    split
    · exact .inr (.inr (.inl rfl))
    · exact known

theorem knownVersion.le_current (known : knownVersion version) : version ≤ ruleSetVersionCurrent := by
  rcases known with rfl | rfl | rfl | rfl <;> decide

theorem upgrade_eq_ok {ruleSet : PlainRuleSetCompat lib} (upgraded : upgrade lib ruleSet = .ok rules) :
    knownVersion ruleSet.version ∧ rules = ruleSet.rules := by
  unfold upgrade at upgraded
  split at upgraded
  · rename_i known
    exact ⟨known, (Except.ok.inj upgraded).symm⟩
  · exact nomatch upgraded

/-! ### Writing succeeds -/

theorem mapM_of_ok {writers : List (Except Error Bytes)}
    (each : ∀ writer ∈ writers, ∃ bytes, writer = .ok bytes) : ∃ parts, writers.mapM id = .ok parts := by
  induction writers with
  | nil => exact ⟨[], rfl⟩
  | cons head tail ih =>
    obtain ⟨⟨bytes, headOk⟩, tailOk⟩ := forall_mem_cons.mp each
    obtain ⟨parts, rest⟩ := ih tailOk
    refine ⟨bytes :: parts, ?_⟩
    rw [mapM_cons, rest, headOk]
    rfl

theorem writeWhen_ok {condition : Bool} {writer : Except Error Bytes}
    (ok : condition = true → ∃ bytes, writer = .ok bytes) : ∃ bytes, writeWhen condition writer = .ok bytes := by
  cases condition with
  | false => exact ⟨[], rfl⟩
  | true => exact ok rfl

theorem writeSince_ok {generateVersion : UInt8} {text : String} {writer : Except Error Bytes}
    (enough : version ≤ generateVersion) (ok : ∃ bytes, writer = .ok bytes) :
    ∃ bytes, writeSince version generateVersion text writer = .ok bytes := by
  unfold writeSince
  rw [if_neg (UInt8.not_lt.mpr enough)]
  exact ok

section

variable {isSource : Bool} {text : String} {list : Listable Bytes} {ipSet : Option IPSet}

theorem parsed_of_newIPCIDRItems (some : list.items.length > 0)
    (built : newIPCIDRItems lib isSource text list ipSet = .ok items) :
    parseIPSet lib list.items = .ok (ipSetOf lib list.items) := by
  unfold newIPCIDRItems at built
  rw [if_pos some] at built
  obtain ⟨item, wrapped, -⟩ := bind_eq_ok_iff.mp built
  obtain ⟨parsed, ok, -⟩ := bind_eq_ok_iff.mp (wrapError_eq_ok_iff.mp wrapped)
  rw [ipSetOf, ok]

theorem writeRuleItemCIDR_ok {itemType : ItemType} (built : newIPCIDRItems lib isSource text list ipSet = .ok items) :
    ∃ bytes, writeWhen (list.items.length > 0)
      (wrapError text (writeRuleItemCIDR lib itemType list.items)) = .ok bytes := by
  refine writeWhen_ok fun some => ?_
  have parsed := parsed_of_newIPCIDRItems (of_decide_eq_true some) built
  exact ⟨_, wrapError_eq_ok_iff.mpr (bind_eq_ok_iff.mpr ⟨_, parsed, rfl⟩)⟩

end

abbrev SupportedRule (lib : BinaryLibrary) (version : UInt8) (rule : HeadlessRule lib) : Prop :=
  Supported lib version [rule]

theorem hasHeadlessRule_singleton (cond : DefaultHeadlessRule lib → Bool) (rule : HeadlessRule lib) :
    hasHeadlessRule cond [rule] = rule.anyDefault cond := by
  rw [hasHeadlessRule, hasHeadlessRule, Bool.or_false]

theorem Supported.of_mem (supported : Supported lib version rules) (member : rule ∈ rules) :
    SupportedRule lib version rule := by
  refine ⟨fun some => supported.adGuard ?_, fun some => supported.networkType ?_,
    fun some => supported.interfaceAddress ?_⟩
  all_goals
    rw [hasHeadlessRule_singleton] at some
    by_contra absent
    cases some.symm.trans (hasHeadlessRule_eq_false_iff.mp (Bool.eq_false_iff.mpr absent) rule member)

theorem itemWriters_ok {r : Route.AbstractDefaultRule Empty} (supported : SupportedRule lib version (.default options))
    (built : newDefaultHeadlessRule lib ctx options = .ok r) :
    ∃ parts, (itemWriters lib options version).mapM id = .ok parts := by
  obtain ⟨-, ⟨_, sourceCIDR⟩, destinationCIDR⟩ := newDefaultHeadlessRule_eq_ok built
  have network (uses : usesNetworkType lib options = true) : ruleSetVersion3 ≤ version :=
    supported.networkType ((hasHeadlessRule_singleton _ _).trans uses)
  have address (uses : usesInterfaceAddress lib options = true) : ruleSetVersion4 ≤ version :=
    supported.interfaceAddress ((hasHeadlessRule_singleton _ _).trans uses)
  refine mapM_of_ok ?_
  simp only [itemWriters, forall_mem_cons, not_mem_nil, false_imp_iff, implies_true, and_true]
  refine ⟨?_, ?_, ?_, ?_, ?_, writeRuleItemCIDR_ok sourceCIDR, writeRuleItemCIDR_ok destinationCIDR,
    ?_, ?_, ?_, ?_, ?_, ?_, ?_, ?_, ?networkType, ?expensive, ?constrained, ?interface, ?default,
    ?_, ?_, ?adGuard⟩
  case networkType | expensive | constrained =>
    refine writeWhen_ok fun some => writeSince_ok (network ?_) ⟨_, rfl⟩
    simp only [usesNetworkType, some, Bool.true_or, Bool.or_true]
  case interface | default =>
    refine writeWhen_ok fun some => writeSince_ok (address ?_) ⟨_, rfl⟩
    simp only [usesInterfaceAddress, some, Bool.true_or, Bool.or_true]
  case adGuard =>
    refine writeWhen_ok fun some => writeSince_ok (supported.adGuard ?_) ⟨_, rfl⟩
    exact (hasHeadlessRule_singleton _ _).trans some
  all_goals exact writeWhen_ok fun _ => ⟨_, rfl⟩

theorem writeMode_of_newMode {mode : LogicalMode} {logicalType : Route.LogicalType}
    (known : newMode mode = .ok logicalType) : ∃ bytes, writeMode mode = .ok bytes := by
  cases mode with
  | and | or => exact ⟨_, rfl⟩
  | unknown name => exact nomatch known

theorem writeRules_of_ok (each : ∀ rule ∈ rules, ∃ bytes, writeRule lib version rule = .ok bytes) :
    ∃ body, writeRules lib version rules = .ok body := by
  induction rules with
  | nil => exact ⟨[], rfl⟩
  | cons rule rules ih =>
    obtain ⟨⟨first, head⟩, others⟩ := forall_mem_cons.mp each
    obtain ⟨rest, tail⟩ := ih others
    exact ⟨first ++ rest, bind_eq_ok_iff.mpr ⟨first, head, bind_eq_ok_iff.mpr ⟨rest, tail, rfl⟩⟩⟩

theorem writeRule_ok (rule : HeadlessRule lib) {result : Route.HeadlessRule} (supported : SupportedRule lib version rule)
    (loaded : newHeadlessRule lib ctx rule = .ok result) : ∃ bytes, writeRule lib version rule = .ok bytes := by
  induction rule using induction generalizing result with
  | default options =>
    obtain ⟨-, r, built, -⟩ := newHeadlessRule_default_iff.mp loaded
    obtain ⟨parts, written⟩ := itemWriters_ok supported built
    exact ⟨_, bind_eq_ok_iff.mpr ⟨parts, written, rfl⟩⟩
  | logical mode rules strategy invert ih =>
    obtain ⟨-, logicalType, results, known, each, -⟩ := newHeadlessRule_logical_iff.mp loaded
    obtain ⟨modeBytes, modeWritten⟩ := writeMode_of_newMode known
    have nested : Supported lib version rules := by
      refine ⟨fun some => supported.adGuard ?_, fun some => supported.networkType ?_,
        fun some => supported.interfaceAddress ?_⟩
      all_goals exact (hasHeadlessRule_singleton _ _).trans some
    obtain ⟨body, rulesWritten⟩ := writeRules_of_ok fun rule member => by
      obtain ⟨result, -, built⟩ := exists_of_forall₂ each.flip member
      exact ih rule member (nested.of_mem member) built
    exact ⟨_, bind_eq_ok_iff.mpr ⟨modeBytes, modeWritten, bind_eq_ok_iff.mpr ⟨body, rulesWritten, rfl⟩⟩⟩

/-! ### What is read back loads the same -/

theorem strategy_of_not_chosen (ctx : RuleContext) (kept : choosesStrategy lib options = false)
    (uses : usesDomain lib options = true) : ctx.strategy options.domainMatchStrategy = ctx.strategy .asIS := by
  rw [choosesStrategy, uses, Bool.and_true] at kept
  rw [not_not.mp (of_decide_eq_false kept)]

theorem newDomainItem_eq_ok {domains suffixes : List Bytes} {strategy : Route.DomainMatchStrategy}
    {item : Route.RuleItem} (built : newDomainItem lib domains suffixes strategy = .ok item) :
    item = domainItem lib (lib.newMatcher domains suffixes false) strategy := by
  revert built
  fun_cases newDomainItem lib domains suffixes strategy with
  | case3 => exact fun built => (Except.ok.inj built).symm
  | _ => rintro ⟨⟩

theorem newDomainItems_stored (lawful : lib.Lawful) (source : options.domainMatcher = none)
    (kept : choosesStrategy lib options = false) (built : newDomainItems lib options
      (ctx.strategy options.domainMatchStrategy) = .ok items) :
    newDomainItems lib (storedDefault lawful false version options) (ctx.strategy .asIS) = .ok items := by
  unfold newDomainItems at built
  cases has : hasDomain options with
  | false =>
    rw [if_neg (by rw [← hasDomain, has]; decide), source] at built
    rw [← built]
    simp only [storedDefault, has]
    rfl
  | true =>
    rw [if_pos (by rw [← hasDomain, has])] at built
    obtain ⟨item, new, done⟩ := bind_eq_ok_iff.mp built
    have uses : usesDomain lib options = true := by simp only [usesDomain, has, Bool.true_or]
    have stored : newDomainItems lib (storedDefault lawful false version options)
        (ctx.strategy .asIS) = .ok [domainItem lib (ruleMatcher lawful options version) (ctx.strategy .asIS)] := by
      simp only [storedDefault, has]
      rfl
    have same : lib.matcherMatch (ruleMatcher lawful options version) =
        lib.matcherMatch (lib.newMatcher options.domain.items options.domainSuffix.items false) :=
      (Classical.choose_spec (lawful.readMatcher_write options.domain.items
        options.domainSuffix.items (decide (version = ruleSetVersion1)))).2.1
    rw [stored, ← done, newDomainItem_eq_ok new, strategy_of_not_chosen ctx kept uses]
    unfold domainItem
    rw [same]
    rfl

theorem newIPCIDRItems_stored {isSource : Bool} {text : String} {list : Listable Bytes}
    (built : newIPCIDRItems lib isSource text list none = .ok items) : newIPCIDRItems lib isSource text none
      (pick (list.items.length > 0) (some (ipSetOf lib list.items)) none) = .ok items := by
  by_cases given : list.items.length > 0
  · have parsed := parsed_of_newIPCIDRItems given built
    unfold newIPCIDRItems newIPCIDRItem at built
    rw [if_pos given, parsed] at built
    rw [decide_eq_true given, ← built]
    rfl
  · unfold newIPCIDRItems at built
    rw [if_neg given] at built
    rw [decide_eq_false given, ← built]
    rfl

theorem adGuardItems_stored (lawful : lib.Lawful) (source : options.adGuardDomainMatcher = none)
    (kept : choosesStrategy lib options = false) :
    adGuardItems lib (storedDefault lawful false version options) (ctx.strategy .asIS) =
      adGuardItems lib options (ctx.strategy options.domainMatchStrategy) := by
  by_cases given : options.adGuardDomain.items.length > 0
  · have uses : usesDomain lib options = true := by
      simp only [usesDomain, usesAdGuard, decide_eq_true given, Bool.or_true]
    have stored : adGuardItems lib (storedDefault lawful false version options)
        (ctx.strategy .asIS) = [adGuardDomainItem lib
          (storedAdGuardMatcher lawful options.adGuardDomain.items) (ctx.strategy .asIS)] := by
      simp only [storedDefault, decide_eq_true given]
      rfl
    have same : lib.adGuardMatch (storedAdGuardMatcher lawful options.adGuardDomain.items) =
        lib.adGuardMatch (lib.newAdGuardMatcher options.adGuardDomain.items) :=
      (Classical.choose_spec (lawful.readAdGuardMatcher_write options.adGuardDomain.items)).2.1
    rw [stored, adGuardItems, if_pos given, strategy_of_not_chosen ctx kept uses]
    unfold adGuardDomainItem
    rw [same]
  · rw [adGuardItems, adGuardItems, if_neg given, source]
    simp only [storedDefault, decide_eq_false given]
    rfl

theorem buildPrefixes_stored (value : List Prefixable) :
    buildPrefixes (.ofList (storedPrefixes value)) = value.map fun p => p.build .none := by
  unfold buildPrefixes storedPrefixes
  rw [Listable.items_ofList, map_map]
  rfl

theorem storedDefault_sameItems (lawful : lib.Lawful) (version : UInt8)
    {r : Route.AbstractDefaultRule Empty} (source : binaryOnly options = false)
    (kept : choosesStrategy lib options = false) (built : newDefaultHeadlessRule lib ctx options = .ok r) :
    SameItems ctx (storedDefault lawful false version options) options := by
  obtain ⟨⟨_, domain⟩, ⟨_, sourceCIDR⟩, destinationCIDR⟩ := newDefaultHeadlessRule_eq_ok built
  simp only [binaryOnly, Bool.or_eq_false_iff, Option.isSome_eq_false_iff, Option.isNone_iff_eq_none] at source
  obtain ⟨⟨⟨noMatcher, noSourceSet⟩, noSet⟩, noAdGuard⟩ := source
  constructor
  case domain => exact (newDomainItems_stored lawful noMatcher kept domain).trans domain.symm
  case queryType => exact items_pick_some _
  case networkIsExpensive | networkIsConstrained => exact pick_flag _
  case adGuard => exact adGuardItems_stored lawful noAdGuard kept
  case invert => rfl
  case domainKeyword | domainRegex =>
    simp only [storedDefault, items_pick]
    refine ite_congr rfl (fun given => ?_) fun _ => rfl
    have uses : usesDomain lib options = true := by
      simp only [usesDomain, given, Bool.or_true, Bool.true_or]
    rw [strategy_of_not_chosen ctx kept uses]
  case sourceIPCIDR =>
    rw [noSourceSet] at sourceCIDR ⊢
    rw [sourceCIDR]
    simp only [storedDefault, Bool.and_false]
    exact newIPCIDRItems_stored sourceCIDR
  case ipCIDR =>
    rw [noSet] at destinationCIDR ⊢
    rw [destinationCIDR]
    simp only [storedDefault, Bool.and_false]
    exact newIPCIDRItems_stored destinationCIDR
  case networkInterfaceAddress =>
    rw [interfaceEntries_stored, storedEntries, map_map]
    refine map_congr_left fun entry _ => ?_
    show (entry.1, buildPrefixes (.ofList (storedPrefixes entry.2.items))) = _
    rw [buildPrefixes_stored]
    rfl
  case defaultInterfaceAddress =>
    by_cases given : options.defaultInterfaceAddress.items.length > 0
    · simp only [storedDefault, decide_eq_true given]
      exact buildPrefixes_stored _
    have none : options.defaultInterfaceAddress.items = [] :=
      length_eq_zero_iff.mp (by omega)
    simp only [storedDefault, buildPrefixes, none]
    rfl
  all_goals exact items_pick _

theorem isNone_pick {α β : Type} (values : List α) (f : α → β) :
    (pick (values.length > 0) (Listable.ofList (values.map f)) none).isNone = !decide (values.length > 0) := by
  cases values <;> rfl

theorem isNone_pick_some {α : Type} (condition : Bool) (value : α) :
    (pick condition (some value) none).isNone = !condition := by
  cases condition <;> rfl

theorem storedDefault_isValid (lawful : lib.Lawful) (version : UInt8) (given : noCondition lib options = false) :
    (storedDefault lawful false version options).isValid = true := by
  have lists {α : Type} (values : List α) := isNone_pick values id
  simp only [map_id] at lists
  rw [noCondition, Bool.not_eq_false'] at given
  simp only [DefaultHeadlessRule.isValid, storedDefault, storedPrefixes, lists, isNone_pick,
    isNone_pick_some, pick_flag]
  simp only [usesDomain, usesAdGuard, usesNetworkType, usesInterfaceAddress, hasDomain] at given
  simp only [hasDomain]
  refine .trans ?_ given
  simp only [Bool.not_and, Bool.not_not]
  ac_rfl

theorem hasHeadlessRule_map {f : HeadlessRule lib → HeadlessRule lib}
    (same : ∀ rule ∈ rules, (f rule).anyDefault cond = rule.anyDefault cond) :
    hasHeadlessRule cond (rules.map f) = hasHeadlessRule cond rules := by
  induction rules with
  | nil => rfl
  | cons rule rules ih =>
    obtain ⟨head, tail⟩ := forall_mem_cons.mp same
    rw [map_cons, hasHeadlessRule, hasHeadlessRule, head, ih tail]

theorem anyDefault_stored (lawful : lib.Lawful) (kept : ∀ options, binaryOnly options = false →
      cond (storedDefault lawful false version options) = cond options)
    (rule : HeadlessRule lib) (source : rule.anyDefault binaryOnly = false) :
    (storedRule lawful false version rule).anyDefault cond = rule.anyDefault cond := by
  induction rule using induction with
  | default options => exact kept options source
  | logical mode rules strategy invert ih =>
    rw [storedRule, storedRules_eq_map]
    refine hasHeadlessRule_map fun rule member => ih rule member ?_
    exact hasHeadlessRule_eq_false_iff.mp source rule member

/-- **What is announced about the rules that are read back.** -/
theorem ruleSetMetadata_stored (lawful : lib.Lawful) (source : hasHeadlessRule binaryOnly rules = false) :
    ruleSetMetadata lib (storedRules lawful false version rules) = ruleSetMetadata lib rules := by
  have each {cond : DefaultHeadlessRule lib → Bool}
      (kept : ∀ options, binaryOnly options = false →
        cond (storedDefault lawful false version options) = cond options) :
      hasHeadlessRule cond (storedRules lawful false version rules) = hasHeadlessRule cond rules := by
    rw [storedRules_eq_map]
    refine hasHeadlessRule_map fun rule member => anyDefault_stored lawful kept rule ?_
    exact hasHeadlessRule_eq_false_iff.mp source rule member
  unfold ruleSetMetadata
  rw [each, each, each]
  · intro options absent
    have noSet : options.ipSet = none := by
      simp only [binaryOnly, Bool.or_eq_false_iff, Option.isSome_eq_false_iff, Option.isNone_iff_eq_none] at absent
      exact absent.1.2
    unfold isIPCIDRHeadlessRule
    simp only [storedDefault, noSet, Bool.and_false]
    cases options.ipCIDR.items <;> rfl
  · intro options _
    simp only [isWIFIHeadlessRule, storedDefault, items_pick]
  · intro options _
    simp only [isProcessHeadlessRule, storedDefault, items_pick]

theorem isValid_of_built {result : Route.HeadlessRule}
    (built : newHeadlessRule lib ctx rule = .ok result) : rule.isValid = true := by
  cases rule with
  | default options => exact (newHeadlessRule_default_iff.mp built).1
  | logical mode rules strategy invert =>
    obtain ⟨⟨nonempty, valid⟩, -⟩ := newHeadlessRule_logical_iff.mp built
    rw [isValid, valid, isEmpty_eq_false_iff.mpr nonempty]
    rfl

theorem allValid_of_built {results : List Route.HeadlessRule} (built : List.Forall₂ (fun rule result =>
      newHeadlessRule lib ctx rule = .ok result) rules results) : allValid rules = true := by
  induction built with
  | nil => rfl
  | cons head tail ih => rw [allValid, isValid_of_built head, ih]; rfl

/-- The binary format has a place for the rule. -/
structure CompilableRule (rule : HeadlessRule lib) : Prop where
  source : rule.anyDefault binaryOnly = false
  conditions : rule.anyDefault (noCondition lib) = false
  strategy : rule.anyDefault (choosesStrategy lib) = false

theorem newHeadlessRule_stored (lawful : lib.Lawful) (rule : HeadlessRule lib) {result : Route.HeadlessRule}
    (compilable : CompilableRule rule) (loaded : newHeadlessRule lib ctx rule = .ok result) :
    newHeadlessRule lib ctx (storedRule lawful false version rule) = .ok result := by
  induction rule using induction generalizing result with
  | default options =>
    obtain ⟨-, r, built, rfl⟩ := newHeadlessRule_default_iff.mp loaded
    have same := storedDefault_sameItems lawful version compilable.source compilable.strategy built
    refine newHeadlessRule_default_iff.mpr ⟨?_, r, ?_, rfl⟩
    · exact storedDefault_isValid lawful version compilable.conditions
    · rw [newDefaultHeadlessRule_congr same]
      exact built
  | logical mode rules strategy invert ih =>
    obtain ⟨⟨nonempty, -⟩, logicalType, results, known, each, rfl⟩ :=
      newHeadlessRule_logical_iff.mp loaded
    have compilableRule : ∀ rule ∈ rules, CompilableRule rule := fun rule member =>
      ⟨hasHeadlessRule_eq_false_iff.mp compilable.source rule member,
        hasHeadlessRule_eq_false_iff.mp compilable.conditions rule member,
        hasHeadlessRule_eq_false_iff.mp compilable.strategy rule member⟩
    have stored : List.Forall₂ (fun rule result =>
        newHeadlessRule lib ctx rule = .ok result)
        (rules.map (storedRule lawful false version)) results :=
      forall₂_map_of_mem each fun rule member result built =>
        ih rule member (compilableRule rule member) built
    rw [storedRule, storedRules_eq_map]
    refine newHeadlessRule_logical_iff.mpr ⟨⟨?_, allValid_of_built stored⟩, logicalType, results, known, stored, rfl⟩
    rw [Ne, map_eq_nil_iff]
    exact nonempty

/-- **Compiling a rule-set preserves it**: if it loads and the format has a place for everything, it is written and
read back, and then matches the same metadata from every state. -/
theorem compile_preserves (lawful : lib.Lawful) (ctx : LoadContext lib) (content : Bytes)
    (plainRuleSet : PlainRuleSetCompat lib) (source : RuleSet) (decoded : ctx.unmarshal content = .ok plainRuleSet)
    (loaded : loadBytes lib ctx .source content = .ok source)
    (compilable : Compilable lib plainRuleSet.version plainRuleSet.rules) : ∃ file, write lib plainRuleSet.rules
        (downgradeRuleSetVersion lib plainRuleSet.version plainRuleSet.rules) = .ok file ∧
      (∃ result, read lib false file = .ok result) ∧ ∃ binary, loadBytes lib ctx .binary file = .ok binary ∧
        ∀ metadata, binary.Match metadata = source.Match metadata ∧
          ∀ base, binary.matchStatesWithBase metadata base = source.matchStatesWithBase metadata base := by
  obtain ⟨version, plainRules⟩ := plainRuleSet
  obtain ⟨decodedAgain, same, upgrading⟩ := bind_eq_ok_iff.mp loaded
  obtain rfl : decodedAgain = ⟨version, plainRules⟩ := Except.ok.inj (same.symm.trans decoded)
  obtain ⟨rules, upgraded, reloading⟩ := bind_eq_ok_iff.mp upgrading
  obtain ⟨known, rfl⟩ := upgrade_eq_ok upgraded
  obtain ⟨built, count, announced⟩ := reloadRules_eq_ok_iff.mp reloading
  have fromSource := ctx.unmarshal_source content _ decoded
  have supported := compilable.supported.downgrade
  have knownAgain : knownVersion (downgradeRuleSetVersion lib version rules) :=
    knownVersion_downgrade known
  -- the writer accepts what the source loader accepted
  obtain ⟨body, rulesWritten⟩ := writeRules_of_ok fun rule member => by
    obtain ⟨result, -, ruleBuilt⟩ := exists_of_forall₂ built.flip member
    exact writeRule_ok rule (supported.of_mem member) ruleBuilt
  have written : write lib rules (downgradeRuleSetVersion lib version rules) = .ok _ :=
    bind_eq_ok_iff.mpr ⟨_, bind_eq_ok_iff.mpr ⟨body, rulesWritten, rfl⟩, rfl⟩
  have readBack := (read_write lawful false compilable.shallow knownAgain.le_current written).1 compilable.addressed
  -- and what is read back builds the same rules
  have rebuilt : List.Forall₂ (fun rule result =>
      newHeadlessRule lib ctx.toRuleContext rule = .ok result)
      (storedRules lawful false (downgradeRuleSetVersion lib version rules) rules)
      source.rules := by
    rw [storedRules_eq_map]
    refine forall₂_map_of_mem built fun rule member result ruleBuilt => ?_
    exact newHeadlessRule_stored lawful rule
      ⟨hasHeadlessRule_eq_false_iff.mp fromSource rule member,
        hasHeadlessRule_eq_false_iff.mp compilable.conditions rule member,
        hasHeadlessRule_eq_false_iff.mp compilable.strategy rule member⟩ ruleBuilt
  have reloaded : reloadRules lib ctx.toRuleContext
      (storedRules lawful false (downgradeRuleSetVersion lib version rules) rules) = .ok source :=
    reloadRules_eq_ok_iff.mpr ⟨rebuilt, count, announced.trans (ruleSetMetadata_stored lawful fromSource).symm⟩
  refine ⟨_, written, ⟨_, readBack⟩, source, ?_, fun metadata => ⟨rfl, fun base => rfl⟩⟩
  refine bind_eq_ok_iff.mpr ⟨_, readBack, bind_eq_ok_iff.mpr ⟨_, ?_, reloaded⟩⟩
  exact if_pos knownAgain

end Compile

/-! ### Two source files -/

/-- A source file with `sampleRules` in it. -/
def sampleText : Bytes :=
  ("\x7b\"version\":4,\"rules\":[\x7b\"type\":\"logical\",\"mode\":\"or\",\"rules\":[" ++
    "\x7b\"domain\":[\"a.b\"],\"ip_cidr\":[\"10.0.0.1\"],\"port\":[443]," ++
    "\"default_interface_address\":[\"10.0.0.1/32\"]\x7d," ++
    "\x7b\"domain_suffix\":[\"c\"],\"invert\":true\x7d],\"invert\":true\x7d]\x7d").toUTF8.toList

def sampleContext (text : Bytes) (ruleSet : PlainRuleSetCompat sampleLibrary)
    (source : hasHeadlessRule binaryOnly ruleSet.rules = false) :
    LoadContext sampleLibrary where
  networkManager := some
    { defaultNetworkInterface := none, networkInterfaces := [], myInterfaces := []
      defaultInterfaceAddresses := some [hostPrefix], wifiSSID := [], wifiBSSID := [] }
  router := some .preferFQDN
  unmarshal content := if content = text then .ok ruleSet else .error .invalid
  unmarshal_source content decoded ok := by
    split at ok
    · rw [← Except.ok.inj ok]
      exact source
    · exact nomatch ok

/-- The file is compiled, and loads the same in both formats. -/
theorem compile_preserves_sample : ∃ file source binary,
    loadBytes sampleLibrary (sampleContext sampleText ⟨ruleSetVersion4, sampleRules⟩ rfl) .source
      sampleText = .ok source ∧ write sampleLibrary sampleRules
      (downgradeRuleSetVersion sampleLibrary ruleSetVersion4 sampleRules) = .ok file ∧
    loadBytes sampleLibrary (sampleContext sampleText ⟨ruleSetVersion4, sampleRules⟩ rfl) .binary
      file = .ok binary ∧ ∀ metadata, binary.Match metadata = source.Match metadata := by
  let ctx := sampleContext sampleText ⟨ruleSetVersion4, sampleRules⟩ rfl
  have decoded : ctx.unmarshal sampleText = .ok ⟨ruleSetVersion4, sampleRules⟩ := if_pos rfl
  have loaded : ∃ source, loadBytes sampleLibrary ctx .source sampleText = .ok source := by
    have reloaded : ∃ source, Route.reloadRules sampleLibrary ctx.toRuleContext sampleRules = .ok source := ⟨_, rfl⟩
    obtain ⟨source, reloaded⟩ := reloaded
    exact ⟨source, bind_eq_ok_iff.mpr ⟨_, decoded, reloaded⟩⟩
  obtain ⟨source, loaded⟩ := loaded
  have compilable : Compilable sampleLibrary ruleSetVersion4 sampleRules :=
    { supported := ⟨fun _ => by decide, fun _ => by decide, fun _ => by decide⟩
      shallow := by decide
      addressed := rfl
      conditions := rfl
      strategy := rfl }
  obtain ⟨file, written, -, binary, again, same⟩ := compile_preserves sampleLibrary_lawful ctx
    sampleText ⟨ruleSetVersion4, sampleRules⟩ source decoded loaded compilable
  exact ⟨file, source, binary, loaded, written, again, fun metadata => (same metadata).1⟩

/-- A version 1 rule-set with a condition on the network type. -/
def gatedRules : List (HeadlessRule sampleLibrary) :=
  [.default { networkType := some [0] }]

def gatedText : Bytes :=
  "\x7b\"version\":1,\"rules\":[\x7b\"network_type\":[\"wifi\"]\x7d]\x7d".toUTF8.toList

/-- **The source loader accepts what the writer refuses**: the condition needs version 3. -/
theorem compile_refused : gatedRules.all isValid = true ∧
    (∃ source, loadBytes sampleLibrary (sampleContext gatedText ⟨ruleSetVersion1, gatedRules⟩ rfl)
      .source gatedText = .ok source) ∧ ∃ error, write sampleLibrary gatedRules
      (downgradeRuleSetVersion sampleLibrary ruleSetVersion1 gatedRules) = .error error := by
  refine ⟨rfl, ?_, _, rfl⟩
  have reloaded : ∃ source, Route.reloadRules sampleLibrary
      (sampleContext gatedText ⟨ruleSetVersion1, gatedRules⟩ rfl).toRuleContext gatedRules = .ok source := ⟨_, rfl⟩
  obtain ⟨source, reloaded⟩ := reloaded
  exact ⟨source, bind_eq_ok_iff.mpr ⟨⟨ruleSetVersion1, gatedRules⟩, if_pos rfl, reloaded⟩⟩

end SingBox.Srs
