/-
**DNS rules: the two phases of a match** (`route/rule/rule_dns.go`, `dns/router.go`).

A DNS rule is matched before the lookup, when there are no addresses yet (`Match`, which ignores destination IP
items), and, if it `WithAddressLimit`, once more on the response (`MatchAddressLimit`, through
`addressLimitResponseCheck`). The address filters and the domain items share one group, and a domain item that matches
leaves nothing for the filters to decide.
-/

import SingBox.Route.MergeLaw

namespace SingBox.Route

open AbstractDefaultRule List

/-- A DNS rule: `DefaultDNSRule` or `LogicalDNSRule`. -/
abbrev DNSRule := RuleTree RuleSetItem

namespace DNSRule

/-- `DefaultDNSRule.WithAddressLimit`. -/
def defaultWithAddressLimit (r : AbstractDefaultRule RuleSetItem) : Bool :=
  if r.destinationIPCIDRItems.length > 0 then true
  else match r.ruleSetItem with
    | some item => item.containsDestinationIPCIDRRule
    | none => false

/-- `WithAddressLimit`: a logical rule has a limit when one of its rules has one. -/
def withAddressLimit (rule : DNSRule) : Bool :=
  rule.anyDefault defaultWithAddressLimit

/-- `MatchAddressLimit`: the rule with all of its items. -/
def matchAddressLimit (rule : DNSRule) (metadata : InboundContext) : Bool :=
  Rule.Match rule metadata

/-- `Match`: the rule before the lookup, while `IgnoreDestinationIPCIDRMatch` is set. -/
def Match (rule : DNSRule) (metadata : InboundContext) : Bool :=
  Rule.Match rule { metadata with ignoreDestinationIPCIDRMatch := true }

/-- `addressLimitResponseCheck`. Without a rule, or without a limit, there is no check. -/
def addressLimitResponseCheck (rule : Option DNSRule) (metadata : InboundContext) : Option (List Addr → Bool) :=
  match rule with
  | none => none
  | some rule =>
    if !withAddressLimit rule then none
    else some fun responseAddrs =>
      matchAddressLimit rule { metadata with destinationAddresses := responseAddrs }

/-- `ip_cidr: 10.0.0.0/8`. -/
def privateItem : RuleItem :=
  ipCIDRItem sampleLibrary false [⟨.v4 0x0A000000, .v4 0x0AFFFFFF⟩]

/-! ### The check of a response -/

/-- **What the check of a response enforces**: an address filter item that matches it or a domain item that matches
the query. -/
theorem addressFilter_or_domain (r : AbstractDefaultRule RuleSetItem)
    (notInverted : r.invert = false) (noRuleSet : r.ruleSetItem = none)
    (filters : r.destinationIPCIDRItems ≠ []) (metadata : InboundContext)
    (matchSource : metadata.ipCIDRMatchSource = false)
    (ignore : metadata.ignoreDestinationIPCIDRMatch = false) :
    ∃ check, addressLimitResponseCheck (some (.default r)) metadata = some check ∧
      ∀ addrs, check addrs = true →
        (∃ item ∈ r.destinationIPCIDRItems, item.Match { metadata with destinationAddresses := addrs } = true) ∨
        (∃ item ∈ r.destinationAddressItems, item.Match { metadata with destinationAddresses := addrs } = true) := by
  have some : r.destinationIPCIDRItems.length > 0 := length_pos_iff.mpr filters
  have limited : withAddressLimit (.default r) = true := if_pos some
  refine ⟨_, by simp only [addressLimitResponseCheck, limited]; rfl, fun addrs accepted => ?_⟩
  obtain ⟨-, permitted⟩ := (match_flat_iff r noRuleSet notInverted _).mp accepted
  obtain ⟨-, -, bit, -⟩ := (r.allowed_iff _ _).mp permitted
  obtain ⟨-, -, hasDestination, -⟩ :=
    r.has_groupBits { metadata with destinationAddresses := addrs }
  -- the filters are items of the destination group, so the group has to be satisfied
  have enabled : r.destinationIPCIDRMatchesDestination { metadata with destinationAddresses := addrs } = true := by
    simp [destinationIPCIDRMatchesDestination, matchSource, ignore, some]
  have satisfied := bit (by
    unfold requiresDestinationAddressMatch
    rw [enabled, Bool.or_true])
  rw [hasDestination, destinationAddressMatched, enabled, Bool.true_and,
    Bool.or_eq_true, matchAnyItem_iff, matchAnyItem_iff] at satisfied
  exact satisfied.symm

/-- `domain: a.b` with the address filter `ip_cidr: 10.0.0.0/8`. -/
def filteredRule : AbstractDefaultRule RuleSetItem where
  destinationAddressItems := [domainItem sampleLibrary ([[97, 46, 98]], []) .asIS]
  destinationIPCIDRItems := [privateItem]

/-- A query for `a.c` that is answered with `10.0.0.1`: accepted through the filter. -/
theorem addressFilter_accepts :
    ∃ check, addressLimitResponseCheck (some (.default filteredRule)) { domain := [97, 46, 99] } =
        some check ∧ check [.v4 0x0A000001] = true ∧ ∃ item ∈ filteredRule.destinationIPCIDRItems,
        item.Match { domain := [97, 46, 99], destinationAddresses := [.v4 0x0A000001] } = true := by
  have filters : filteredRule.destinationIPCIDRItems ≠ [] := List.cons_ne_nil _ _
  obtain ⟨check, built, enforced⟩ :=
    addressFilter_or_domain filteredRule rfl rfl filters { domain := [97, 46, 99] } rfl rfl
  have accepted : check [.v4 0x0A000001] = true := by
    rw [← Option.some.inj built]
    decide
  refine ⟨check, built, accepted, (enforced _ accepted).resolve_right ?_⟩
  decide

/-- A query for `a.b` that is answered with `192.0.2.1`: accepted, though no address filter of the
rule matches the response. -/
theorem addressFilter_skipped :
    ∃ check, addressLimitResponseCheck (some (.default filteredRule)) { domain := [97, 46, 98] } =
        some check ∧ check [.v4 0xC0000201] = true ∧ ∀ item ∈ filteredRule.destinationIPCIDRItems,
        item.Match { domain := [97, 46, 98], destinationAddresses := [.v4 0xC0000201] } = false :=
  ⟨_, rfl, by decide, by decide⟩

end DNSRule

end SingBox.Route
