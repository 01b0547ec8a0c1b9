/-
**The options of a rule-set** (`option/rule_set.go`, and the conditions on them in `route/rule/rule_set.go`).

A source rule-set is decoded into these options; the binary format is written from them and read back into them. A
list option is `none` when it was never given and `some []` when an empty list was given: `IsValid` tells them apart.
`network_interface_address` is an insertion-ordered map, whose keys are distinct by construction.
-/

import SingBox.Route.Item

open List

namespace SingBox.Options

open SingBox.Route (ItemLibrary DomainMatchStrategy)

/-! ### Values -/

/-- `badoption.Listable`: a slice, which may be nil. -/
abbrev Listable (α : Type) := Option (List α)

namespace Listable

variable {α : Type}

def items (list : Listable α) : List α := list.getD []

/-- A slice that elements are appended to one by one: nil until there is one. -/
def ofList (values : List α) : Listable α := if values.isEmpty then none else some values

@[simp] theorem items_none : items (none : Listable α) = [] := rfl

@[simp] theorem items_some (values : List α) : items (some values) = values := rfl

@[simp] theorem items_ofList (values : List α) : items (ofList values) = values := by
  cases values <;> rfl

end Listable

/-- `*badoption.Prefixable`: a pointer, nil for a `null` in the source. -/
abbrev Prefixable := Option Prefix

def Prefixable.build (p : Prefixable) (defaultPrefix : Prefix) : Prefix := p.getD defaultPrefix

/-- `badjson.TypedMap`: entries in the order of their first insertion. -/
structure TypedMap (κ ν : Type) where
  entries : List (κ × ν)
  distinct : (entries.map Prod.fst).Nodup

namespace TypedMap

variable {κ ν : Type}

def empty : TypedMap κ ν := ⟨[], List.nodup_nil⟩

variable [DecidableEq κ]

def putEntries (entries : List (κ × ν)) (key : κ) (value : ν) : List (κ × ν) :=
  if key ∈ entries.map Prod.fst then
    entries.map fun entry => if entry.1 = key then (key, value) else entry
  else entries ++ [(key, value)]

theorem putEntries_distinct (entries : List (κ × ν)) (distinct : (entries.map Prod.fst).Nodup)
    (key : κ) (value : ν) : ((putEntries entries key value).map Prod.fst).Nodup := by
  unfold putEntries
  split
  · have keys : (entries.map fun entry => if entry.1 = key then (key, value) else entry).map
        Prod.fst = entries.map Prod.fst := by
      rw [map_map]
      refine map_congr_left fun entry _ => ?_
      show (if entry.1 = key then (key, value) else entry).1 = entry.1
      split
      · rename_i same
        exact same.symm
      · rfl
    rw [keys]
    exact distinct
  · rename_i absent
    rw [map_append, nodup_append]
    refine ⟨distinct, nodup_singleton key, fun old inOld new inNew => ?_⟩
    obtain rfl : new = key := mem_singleton.mp inNew
    rintro rfl
    exact absent inOld

def put (map : TypedMap κ ν) (key : κ) (value : ν) : TypedMap κ ν :=
  ⟨putEntries map.entries key value, putEntries_distinct map.entries map.distinct key value⟩

theorem foldl_put (entries : List (κ × ν)) (map : TypedMap κ ν)
    (distinct : ((map.entries ++ entries).map Prod.fst).Nodup) :
    (entries.foldl (fun map entry => map.put entry.1 entry.2) map).entries = map.entries ++ entries := by
  induction entries generalizing map with
  | nil => rw [append_nil, foldl_nil]
  | cons entry rest ih =>
    have absent : entry.1 ∉ map.entries.map Prod.fst := by
      intro present
      rw [map_append, nodup_append] at distinct
      exact distinct.2.2 entry.1 present entry.1 (by simp) rfl
    have appended : (map.put entry.1 entry.2).entries = map.entries ++ [entry] :=
      if_neg absent
    rw [foldl_cons, ih, appended, append_assoc, singleton_append]
    rw [appended, append_assoc]
    exact distinct

end TypedMap

/-! ### Headless rules -/

/-- `DefaultHeadlessRule`. The last four fields are filled by the binary reader only. -/
@[ext]
structure DefaultHeadlessRule (lib : ItemLibrary) where
  queryType : Listable UInt16 := none
  (network domain domainSuffix domainKeyword domainRegex sourceIPCIDR ipCIDR : Listable Bytes := none)
  sourcePort : Listable UInt16 := none
  sourcePortRange : Listable Bytes := none
  port : Listable UInt16 := none
  (portRange processName processPath processPathRegex packageName : Listable Bytes := none)
  networkType : Listable UInt8 := none
  (networkIsExpensive networkIsConstrained : Bool := false)
  (wifiSSID wifiBSSID : Listable Bytes := none)
  domainMatchStrategy : DomainMatchStrategy := .asIS
  networkInterfaceAddress : Option (TypedMap UInt8 (Listable Prefixable)) := none
  defaultInterfaceAddress : Listable Prefixable := none
  invert : Bool := false
  adGuardDomain : Listable Bytes := none
  domainMatcher : Option lib.Matcher := none
  (sourceIPSet ipSet : Option IPSet := none)
  adGuardDomainMatcher : Option lib.AdGuardMatcher := none

namespace DefaultHeadlessRule

variable {lib : ItemLibrary}

/-- The entries of `network_interface_address`. -/
def interfaceEntries (r : DefaultHeadlessRule lib) : List (UInt8 × Listable Prefixable) :=
  match r.networkInterfaceAddress with
  | none => []
  | some map => map.entries

/-- `DefaultHeadlessRule.IsValid`: some field but `invert` was given. -/
def isValid (r : DefaultHeadlessRule lib) : Bool :=
  !(r.queryType.isNone && r.network.isNone && r.domain.isNone && r.domainSuffix.isNone &&
    r.domainKeyword.isNone && r.domainRegex.isNone && r.sourceIPCIDR.isNone && r.ipCIDR.isNone &&
    r.sourcePort.isNone && r.sourcePortRange.isNone && r.port.isNone && r.portRange.isNone &&
    r.processName.isNone && r.processPath.isNone && r.processPathRegex.isNone &&
    r.packageName.isNone && r.networkType.isNone && !r.networkIsExpensive &&
    !r.networkIsConstrained && r.wifiSSID.isNone && r.wifiBSSID.isNone &&
    decide (r.domainMatchStrategy = .asIS) && r.networkInterfaceAddress.isNone &&
    r.defaultInterfaceAddress.isNone && r.adGuardDomain.isNone && r.domainMatcher.isNone &&
    r.sourceIPSet.isNone && r.ipSet.isNone && r.adGuardDomainMatcher.isNone)

end DefaultHeadlessRule

inductive LogicalMode where
  | and
  | or
  | unknown (mode : Bytes)
  deriving DecidableEq, Repr

/-- `HeadlessRule`, by its type. Decoding refuses other types. -/
inductive HeadlessRule (lib : ItemLibrary) where
  | default (options : DefaultHeadlessRule lib)
  | logical (mode : LogicalMode) (rules : List (HeadlessRule lib))
      (domainMatchStrategy : DomainMatchStrategy) (invert : Bool)

namespace HeadlessRule

variable {lib : ItemLibrary}

mutual

def isValid : HeadlessRule lib → Bool
  | .default options => options.isValid
  | .logical _ rules _ _ => !rules.isEmpty && allValid rules

def allValid : List (HeadlessRule lib) → Bool
  | [] => true
  | rule :: rules => isValid rule && allValid rules

end

theorem induction {P : HeadlessRule lib → Prop} (default : ∀ options, P (.default options))
    (logical : ∀ mode rules strategy invert, (∀ rule ∈ rules, P rule) →
      P (.logical mode rules strategy invert)) : ∀ rule, P rule
  | .default options => default options
  | .logical mode rules strategy invert =>
    logical mode rules strategy invert fun rule member =>
      have : sizeOf rule < sizeOf rules := sizeOf_lt_of_mem member
      induction default logical rule

mutual

def anyDefault (cond : DefaultHeadlessRule lib → Bool) : HeadlessRule lib → Bool
  | .default options => cond options
  | .logical _ rules _ _ => hasHeadlessRule cond rules

def hasHeadlessRule (cond : DefaultHeadlessRule lib → Bool) : List (HeadlessRule lib) → Bool
  | [] => false
  | rule :: rules => anyDefault cond rule || hasHeadlessRule cond rules

end

mutual

/-- The number of logical rules around the innermost default rule. -/
def depth : HeadlessRule lib → Nat
  | .default _ => 0
  | .logical _ rules _ _ => maxDepth rules + 1

def maxDepth : List (HeadlessRule lib) → Nat
  | [] => 0
  | rule :: rules => max (depth rule) (maxDepth rules)

end

theorem depth_le_maxDepth {rules : List (HeadlessRule lib)} {rule : HeadlessRule lib}
    (member : rule ∈ rules) : depth rule ≤ maxDepth rules := by
  induction rules with
  | nil => exact absurd member not_mem_nil
  | cons head tail ih =>
    rcases mem_cons.mp member with rfl | inTail
    · exact le_max_left _ _
    · exact (ih inTail).trans (le_max_right _ _)

theorem hasHeadlessRule_eq_false_iff {cond : DefaultHeadlessRule lib → Bool} {rules : List (HeadlessRule lib)} :
    hasHeadlessRule cond rules = false ↔ ∀ rule ∈ rules, anyDefault cond rule = false := by
  induction rules with
  | nil => simp [hasHeadlessRule]
  | cons head tail ih =>
    rw [hasHeadlessRule, Bool.or_eq_false_iff, ih, forall_mem_cons]

end HeadlessRule

/-- `PlainRuleSetCompat`: the version of the file and the rules in it. -/
structure PlainRuleSetCompat (lib : ItemLibrary) where
  version : UInt8
  rules : List (HeadlessRule lib)

end SingBox.Options
