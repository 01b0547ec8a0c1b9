/-
**What the rules ask of the system** (`route/rule_conds.go`, `route/router.go`, `route/network.go`).

Rules on processes and on Wi-Fi networks match only if the router looks for processes, and the network manager for the
Wi-Fi state. Both are decided at the start, from the rules of the options and from the metadata that the rule-sets
have then. Rule-sets are reloaded later, and nobody decides again.
-/

import SingBox.Lib.Machine
import SingBox.Route.Headless

namespace SingBox.Route

open SingBox.Lib SingBox.Options

/-! ### Options -/

/-- What the needs depend on in `option.DefaultRule` and in `option.DefaultDNSRule`. -/
structure DefaultRuleOptions where
  (processName processPath processPathRegex packageName user : Listable Bytes := none)
  userID : Listable Int32 := none
  (wifiSSID wifiBSSID : Listable Bytes := none)

/-- `option.Rule` and `option.DNSRule`, by their type. -/
inductive RuleOptions where
  | default (options : DefaultRuleOptions)
  | logical (rules : List RuleOptions)

mutual

def RuleOptions.anyDefault (cond : DefaultRuleOptions → Bool) : RuleOptions → Bool
  | .default options => cond options
  | .logical rules => hasRule cond rules

def hasRule (cond : DefaultRuleOptions → Bool) : List RuleOptions → Bool
  | [] => false
  | rule :: rules => rule.anyDefault cond || hasRule cond rules

end

def hasDNSRule := hasRule

def isProcessRule (rule : DefaultRuleOptions) : Bool :=
  rule.processName.items.length > 0 || rule.processPath.items.length > 0 ||
    rule.processPathRegex.items.length > 0 || rule.packageName.items.length > 0 ||
    rule.user.items.length > 0 || rule.userID.items.length > 0

def isProcessDNSRule := isProcessRule

def isWIFIRule (rule : DefaultRuleOptions) : Bool :=
  rule.wifiSSID.items.length > 0 || rule.wifiBSSID.items.length > 0

def isWIFIDNSRule := isWIFIRule

/-! ### Router and network manager -/

structure RouterOptions where
  (rules dnsRules : List RuleOptions := [])
  findProcess : Bool := false
  /-- There is a platform interface. -/
  platformInterface : Bool := false

section Router

variable {lib : ItemLibrary}

abbrev Content (lib : ItemLibrary) := List (Options.HeadlessRule lib)

/-- The two needs, and what the rule-sets were last loaded from. -/
structure Needs (lib : ItemLibrary) where
  needFindProcess : Bool
  needWIFIState : Bool
  ruleSets : List (Content lib)

/-- `NewRouter` and `NewNetworkManager`, with the rule-sets as they are loaded first. -/
def newRouter (options : RouterOptions) (ruleSets : List (Content lib)) : Needs lib where
  needFindProcess := hasRule isProcessRule options.rules || hasDNSRule isProcessDNSRule options.dnsRules ||
    options.findProcess
  needWIFIState := hasRule isWIFIRule options.rules || hasDNSRule isWIFIDNSRule options.dnsRules
  ruleSets := ruleSets

/-- `Router.Start`, at the stage that loads the rule-sets, with `NetworkManager.Initialize`. -/
def Needs.start (s : Needs lib) (options : RouterOptions) : Needs lib :=
  { s with
    needFindProcess := s.needFindProcess ||
      s.ruleSets.any (fun rules => (ruleSetMetadata lib rules).containsProcessRule) ||
      lib.isAndroid && options.platformInterface
    needWIFIState := s.needWIFIState || s.ruleSets.any fun rules => (ruleSetMetadata lib rules).containsWIFIRule }

/-- A reload of the rule-set at an index: nothing happens if the rules cannot be built. -/
def Needs.reload (ctx : RuleContext) (s : Needs lib) (event : Nat × Content lib) : Needs lib :=
  match reloadRules lib ctx event.2 with
  | .error _ => s
  | .ok _ => { s with ruleSets := s.ruleSets.set event.1 event.2 }

/-- **The rule-sets after the start**, reloaded again and again. -/
def ruleSetReloads (ctx : RuleContext) : Machine (Needs lib) (Nat × Content lib) Unit where
  step s event := (s.reload ctx event, none)

/-- Some default rule in the tree satisfies the condition. -/
@[mk_iff]
inductive RuleOptions.Has (cond : DefaultRuleOptions → Bool) : RuleOptions → Prop
  | default (options : DefaultRuleOptions) : cond options = true → Has cond (.default options)
  | logical (rule : RuleOptions) (rules : List RuleOptions) : rule ∈ rules → Has cond rule → Has cond (.logical rules)

@[inherit_doc RuleOptions.Has, mk_iff]
inductive HasHeadless (cond : DefaultHeadlessRule lib → Bool) : Options.HeadlessRule lib → Prop
  | default (options : DefaultHeadlessRule lib) : cond options = true → HasHeadless cond (.default options)
  | logical (rule : Options.HeadlessRule lib) (mode : LogicalMode) (rules : Content lib)
      (strategy : DomainMatchStrategy) (invert : Bool) :
    rule ∈ rules → HasHeadless cond rule → HasHeadless cond (.logical mode rules strategy invert)

variable (cond : DefaultRuleOptions → Bool) (headless : DefaultHeadlessRule lib → Bool) (options : RouterOptions)
  {s : Needs lib} {ctx : RuleContext}

/-- A route rule, a DNS rule or a rule of a rule-set has an item. -/
def Asks (s : Needs lib) : Prop :=
  (∃ rule ∈ options.rules ++ options.dnsRules, rule.Has cond) ∨
    ∃ rules ∈ s.ruleSets, ∃ rule ∈ rules, HasHeadless headless rule

/-- **Process search and Wi-Fi state are there for the rules that ask for them.** -/
def Met (s : Needs lib) : Prop :=
  (Asks isProcessRule (isProcessHeadlessRule lib) options s → s.needFindProcess = true) ∧
    (Asks isWIFIRule (isWIFIHeadlessRule lib) options s → s.needWIFIState = true)

/-- A reload that succeeds brings in no item of a kind that is not needed. -/
def Covered (ctx : RuleContext) (s : Needs lib) (event : Nat × Content lib) : Prop :=
  (∃ ruleSet, reloadRules lib ctx event.2 = .ok ruleSet) → event.1 < s.ruleSets.length →
    ((∃ rule ∈ event.2, HasHeadless (isProcessHeadlessRule lib) rule) → s.needFindProcess = true) ∧
      ((∃ rule ∈ event.2, HasHeadless (isWIFIHeadlessRule lib) rule) → s.needWIFIState = true)

mutual

theorem anyDefault_iff : ∀ rule : RuleOptions, rule.anyDefault cond = true ↔ rule.Has cond
  | .default options => by
    rw [RuleOptions.has_iff]
    simp [RuleOptions.anyDefault]
  | .logical rules => by
    rw [RuleOptions.has_iff]
    simp [RuleOptions.anyDefault, hasRule_iff rules]

theorem hasRule_iff : ∀ rules : List RuleOptions, hasRule cond rules = true ↔ ∃ rule ∈ rules, rule.Has cond
  | [] => by simp [hasRule]
  | rule :: rules => by simp [hasRule, anyDefault_iff rule, hasRule_iff rules]

end

mutual

theorem anyDefaultHeadless_iff :
    ∀ rule : Options.HeadlessRule lib, rule.anyDefault headless = true ↔ HasHeadless headless rule
  | .default options => by
    rw [hasHeadless_iff]
    simp [Options.HeadlessRule.anyDefault]
  | .logical mode rules strategy invert => by
    rw [hasHeadless_iff]
    simp [Options.HeadlessRule.anyDefault, hasHeadlessRule_iff rules]

theorem hasHeadlessRule_iff : ∀ rules : Content lib,
    Options.HeadlessRule.hasHeadlessRule headless rules = true ↔ ∃ rule ∈ rules, HasHeadless headless rule
  | [] => by simp [Options.HeadlessRule.hasHeadlessRule]
  | rule :: rules => by
    simp [Options.HeadlessRule.hasHeadlessRule, anyDefaultHeadless_iff rule, hasHeadlessRule_iff rules]

end

/-! ### Start and reloads -/

variable {cond headless}

theorem scanned_of_asks (asks : Asks cond headless options s) :
    (hasRule cond options.rules || hasDNSRule cond options.dnsRules) = true ∨
      (s.ruleSets.any fun rules => Options.HeadlessRule.hasHeadlessRule headless rules) = true := by
  simp only [hasDNSRule, Bool.or_eq_true, List.any_eq_true, hasHeadlessRule_iff, hasRule_iff]
  rcases asks with ⟨rule, member, has⟩ | inRuleSet
  · rcases List.mem_append.mp member with route | dns
    · exact .inl (.inl ⟨rule, route, has⟩)
    · exact .inl (.inr ⟨rule, dns, has⟩)
  · exact .inr inRuleSet

theorem met_start (ruleSets : List (Content lib)) : Met options ((newRouter options ruleSets).start options) := by
  refine ⟨fun asks => ?_, fun asks => Bool.or_eq_true_iff.mpr (scanned_of_asks options asks)⟩
  rcases scanned_of_asks options asks with inOptions | inRuleSet
  · simp only [Needs.start, newRouter, isProcessDNSRule, inOptions, Bool.true_or]
  · simp only [Needs.start, ruleSetMetadata]
    rw [show (newRouter options ruleSets).ruleSets.any _ = true from inRuleSet, Bool.or_true, Bool.true_or]

variable {options}

theorem asks_set_iff {need : Prop} (met : Asks cond headless options s → need) {i : Nat}
    (valid : i < s.ruleSets.length) (rules : Content lib) :
    (Asks cond headless options { s with ruleSets := s.ruleSets.set i rules } → need) ↔
      ((∃ rule ∈ rules, HasHeadless headless rule) → need) := by
  constructor
  · exact fun met brings => met (.inr ⟨rules, List.mem_set valid rules, brings⟩)
  rintro covered (asks | ⟨other, member, asks⟩)
  · exact met (.inl asks)
  · rcases List.mem_or_eq_of_mem_set member with before | rfl
    · exact met (.inr ⟨other, before, asks⟩)
    · exact covered asks

theorem met_reload_iff (met : Met options s) (event : Nat × Content lib) :
    Met options (s.reload ctx event) ↔ Covered ctx s event := by
  unfold Needs.reload Covered
  cases reloadRules lib ctx event.2 with
  | error error => simpa using met
  | ok ruleSet =>
    by_cases valid : event.1 < s.ruleSets.length
    · rw [forall_prop_of_true ⟨ruleSet, rfl⟩, forall_prop_of_true valid]
      exact and_congr (asks_set_iff met.1 valid _) (asks_set_iff met.2 valid _)
    · rw [List.set_eq_of_length_le (Nat.le_of_not_lt valid)]
      exact iff_of_true met fun _ inside => absurd inside valid

/-- **Rules find what they ask for**: always at the start, and then exactly if the reloads are covered. -/
theorem needs_met_iff (ctx : RuleContext) (options : RouterOptions) (ruleSets : List (Content lib))
    (reloads : List (Nat × Content lib)) : Met options ((newRouter options ruleSets).start options) ∧
      ((ruleSetReloads ctx).Along (fun s event => Met options (s.reload ctx event))
          ((newRouter options ruleSets).start options) reloads ↔
        (ruleSetReloads ctx).Along (Covered ctx) ((newRouter options ruleSets).start options) reloads) := by
  have met := met_start options ruleSets
  refine ⟨met, Machine.along_iff_of_invariant (Met options) (fun s event met _ => met_reload_iff met event) ?_ met
    ((ruleSetReloads ctx).along_of_forall (fun _ _ => trivial) _ reloads)⟩
  exact fun s event met _ covered => (met_reload_iff met event).mpr covered

end Router

/-- A rule-set that is empty at the start gets a rule on a process, and nobody looks for processes. -/
theorem process_not_found : ¬(ruleSetReloads {}).Along (fun s event => Met {} (s.reload {} event))
      ((newRouter {} [[]] : Needs sampleLibrary).start {}) [(0, [.default { processName := some [[97]] }])] := by
  rintro ⟨⟨process, -⟩, -⟩
  exact Bool.false_ne_true (process (.inr ⟨_, List.mem_singleton_self _, _, List.mem_singleton_self _, .default _ rfl⟩))

end SingBox.Route
