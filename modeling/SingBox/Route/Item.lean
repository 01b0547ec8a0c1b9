/-
**The rule items** (`route/rule/rule_item_*.go`).

Every item is a `RuleItem`: a predicate on the metadata together with the fact that it does not look at the matcher's
own flags. Four items look at a domain name; they choose it by the same `domainHost`, and differ only in the test.
What the items call outside of the repository is collected in `ItemLibrary`: the domain matchers, the address
predicates, `netipx.IPSet` and `regexp`. Nothing is assumed about them here.
-/

import SingBox.Route.Rule

namespace SingBox

/-- One range of a `netipx.IPSet`. -/
structure IPRange where
  fromAddr : Addr
  toAddr : Addr
  deriving DecidableEq

/-- `netipx.IPSet`, by its only field: the list of its ranges. -/
abbrev IPSet := List IPRange

/-- What a CIDR list adds to a `netipx.IPSetBuilder`. -/
inductive IPSetEntry where
  | cidr (p : Prefix)
  | addr (a : Addr)
  deriving DecidableEq

namespace Prefix

/-- The leading `n` bits of an address, as a number. -/
def leadingBits (a : Addr) (n : Nat) : Nat :=
  match a with
  | .invalid => 0
  | .v4 bits => bits.toNat >>> (32 - n)
  | .v6 bits _ => bits.toNat >>> (128 - n)

def overlaps (p o : Prefix) : Bool :=
  if !p.isValid || !o.isValid then false
  else if decide (p = o) then true
  else if p.addr.bitLen != o.addr.bitLen then false
  else
    let minBits := min p.bitsPlusOne o.bitsPlusOne - 1
    leadingBits p.addr minBits == leadingBits o.addr minBits

end Prefix

end SingBox

namespace SingBox.Route

open SingBox.Lib

inductive DomainMatchStrategy where
  | asIS
  | preferFQDN
  | preferSniffHost
  | fqdnOnly
  | sniffHostOnly
  deriving DecidableEq, Repr

/-- The functions of other packages that rule items are built from and call. -/
structure ItemLibrary where
  /-- `domain.Matcher`, `domain.NewMatcher` and `Matcher.Match`. -/
  Matcher : Type
  newMatcher : List Bytes → List Bytes → Bool → Matcher
  matcherMatch : Matcher → Bytes → Bool
  /-- `domain.AdGuardMatcher`, `domain.NewAdGuardMatcher` and `AdGuardMatcher.Match`. -/
  AdGuardMatcher : Type
  newAdGuardMatcher : List Bytes → AdGuardMatcher
  adGuardMatch : AdGuardMatcher → Bytes → Bool
  /-- `regexp.Compile` and `Regexp.MatchString`. -/
  Regexp : Type
  compile : Bytes → Except Error Regexp
  matchString : Regexp → Bytes → Bool
  /-- `netip.ParsePrefix` and `netip.ParseAddr`. -/
  parsePrefix : Bytes → Except Error Prefix
  parseAddr : Bytes → Except Error Addr
  /-- `netipx.IPSetBuilder` and `IPSet.Contains`. -/
  buildIPSet : List IPSetEntry → Except Error IPSet
  ipSetContains : IPSet → Addr → Bool
  /-- `Socksaddr.IsIP`, `Socksaddr.IsDomain` and `N.IsPublicAddr`. -/
  isIP : Socksaddr → Bool
  isDomain : Socksaddr → Bool
  isPublicAddr : Addr → Bool
  /-- `strings.ToLower` and `filepath.Base`. -/
  toLower : Bytes → Bytes
  base : Bytes → Bytes
  /-- `strings.TrimSpace`, `net.ParseMAC`, `hex.DecodeString` and `HardwareAddr.String`. -/
  trimSpace : Bytes → Bytes
  (parseMAC decodeHex : Bytes → Option Bytes)
  hardwareAddr : Bytes → Bytes
  /-- `C.IsAndroid`. -/
  isAndroid : Bool

section Items

variable (lib : ItemLibrary)

/-! ### Items on strings and numbers of the connection -/

def queryTypeItem (typeList : List UInt16) : RuleItem where
  Match metadata := if metadata.queryType = 0 then false else typeList.contains metadata.queryType
  frame _ := rfl

def networkItem (networks : List Bytes) : RuleItem where
  Match metadata := networks.contains metadata.network
  frame _ := rfl

def itemPort (isSource : Bool) (metadata : InboundContext) : UInt16 :=
  if isSource then metadata.source.port else metadata.destination.port

def portItem (isSource : Bool) (ports : List UInt16) : RuleItem where
  Match metadata := ports.contains (itemPort isSource metadata)
  frame _ := rfl

def portRangeItem (isSource : Bool) (portRangeList : List (UInt16 × UInt16)) : RuleItem where
  Match metadata := portRangeList.any fun range =>
    decide (range.1 ≤ itemPort isSource metadata) && decide (itemPort isSource metadata ≤ range.2)
  frame _ := rfl

/-- `strconv.ParseUint(s, 10, 16)`. -/
def parseUint16 (s : Bytes) : Except Error UInt16 :=
  if s.isEmpty || !s.all fun c => decide (48 ≤ c) && decide (c ≤ 57) then
    .error (.extend (.new "strconv.ParseUint: invalid syntax") s)
  else
    let value := s.foldl (fun n c => n * 10 + (c.toNat - 48)) 0
    if value < 65536 then .ok (UInt16.ofNat value)
    else .error (.extend (.new "strconv.ParseUint: value out of range") s)

/-- `ErrBadPortRange`, for one range. -/
def badPortRange (portRange : Bytes) : Error :=
  .extend (.new "bad port range") portRange

def parsePort (portRange s : Bytes) : Except Error UInt16 :=
  match parseUint16 s with
  | .ok port => .ok port
  | .error error => .error (.cause error (badPortRange portRange))

/-- One element of the loop of `NewPortRangeItem`: `start:end`, either side may be left out. -/
def parsePortRange (portRange : Bytes) : Except Error (UInt16 × UInt16) :=
  match portRange.findIdx? (· == 58) with
  | none => .error (badPortRange portRange)
  | some subIndex => do
    let start ← if subIndex > 0 then parsePort portRange (portRange.take subIndex) else .ok 0
    let stop ← if subIndex = portRange.length - 1 then .ok 0xFFFF
      else parsePort portRange (portRange.drop (subIndex + 1))
    return (start, stop)

def newPortRangeItem (isSource : Bool) (rangeList : List Bytes) : Except Error RuleItem := do
  let portRangeList ← rangeList.mapM parsePortRange
  return portRangeItem isSource portRangeList

def processItem (processNameList : List Bytes) : RuleItem where
  Match metadata := match metadata.processInfo with
    | none => false
    | some info =>
      if info.processPath = [] then false
      else processNameList.contains (lib.base info.processPath)
  frame _ := rfl

def processPathItem (processNameList : List Bytes) : RuleItem where
  Match metadata := match metadata.processInfo with
    | none => false
    | some info =>
      if info.processPath ≠ [] && processNameList.contains info.processPath then true
      else if lib.isAndroid then info.androidPackageNames.any processNameList.contains
      else false
  frame _ := rfl

def processPathRegexItem (matchers : List lib.Regexp) : RuleItem where
  Match metadata := match metadata.processInfo with
    | none => false
    | some info =>
      if info.processPath = [] then false
      else matchers.any fun matcher => lib.matchString matcher info.processPath
  frame _ := rfl

/-- The loop of `NewDomainRegexItem` and `NewProcessPathRegexItem`. -/
def compileAll (expressions : List Bytes) : Except Error (List lib.Regexp) :=
  expressions.zipIdx.mapM fun (regex, i) =>
    match lib.compile regex with
    | .ok matcher => .ok matcher
    | .error error => .error (.cause error (.new ("parse expression " ++ toString i)))

def newProcessPathRegexItem (expressions : List Bytes) : Except Error RuleItem := do
  let matchers ← compileAll lib expressions
  return processPathRegexItem lib matchers

def packageNameItem (packageNameList : List Bytes) : RuleItem where
  Match metadata := match metadata.processInfo with
    | none => false
    | some info => info.androidPackageNames.any packageNameList.contains
  frame _ := rfl

/-! ### Items on the domain -/

/-- The name that a domain item looks at, chosen by the strategy of the rule. -/
def domainHost (strategy : DomainMatchStrategy) (metadata : InboundContext) : Bytes :=
  match strategy with
  | .preferFQDN =>
    if lib.isDomain metadata.destination then metadata.destination.fqdn
    else if metadata.sniffHost ≠ [] then metadata.sniffHost
    else metadata.domain
  | .fqdnOnly => if lib.isDomain metadata.destination then metadata.destination.fqdn else []
  | .sniffHostOnly => metadata.sniffHost
  | .asIS | .preferSniffHost =>
    if metadata.sniffHost ≠ [] then metadata.sniffHost
    else if lib.isDomain metadata.destination then metadata.destination.fqdn
    else metadata.domain

/-- The body shared by the four domain items: no name never matches. -/
def domainTestItem (test : Bytes → Bool) (strategy : DomainMatchStrategy) : RuleItem where
  Match metadata :=
    if domainHost lib strategy metadata = [] then false
    else test (lib.toLower (domainHost lib strategy metadata))
  frame _ := rfl

def domainItem (matcher : lib.Matcher) : DomainMatchStrategy → RuleItem :=
  domainTestItem lib (lib.matcherMatch matcher)

def newDomainItem (domains domainSuffixes : List Bytes) (strategy : DomainMatchStrategy) : Except Error RuleItem :=
  if domains.contains [] then .error (.new "domain: empty item is not allowed")
  else if domainSuffixes.contains [] then
    .error (.new "domain_suffix: empty item is not allowed")
  else .ok (domainItem lib (lib.newMatcher domains domainSuffixes false) strategy)

def domainKeywordItem (keywords : List Bytes) : DomainMatchStrategy → RuleItem :=
  domainTestItem lib fun host => keywords.any fun keyword => host.tails.any keyword.isPrefixOf

def domainRegexItem (matchers : List lib.Regexp) : DomainMatchStrategy → RuleItem :=
  domainTestItem lib fun host => matchers.any fun matcher => lib.matchString matcher host

def newDomainRegexItem (expressions : List Bytes) (strategy : DomainMatchStrategy) : Except Error RuleItem := do
  let matchers ← compileAll lib expressions
  return domainRegexItem lib matchers strategy

def adGuardDomainItem (matcher : lib.AdGuardMatcher) : DomainMatchStrategy → RuleItem :=
  domainTestItem lib (lib.adGuardMatch matcher)

/-! ### Items on addresses -/

/-- `IPCIDRItem`. Without any address to look at, the answer is `IPCIDRAcceptEmpty`. -/
def ipCIDRItem (isSource : Bool) (ipSet : IPSet) : RuleItem where
  Match metadata :=
    if isSource || metadata.ipCIDRMatchSource then lib.ipSetContains ipSet metadata.source.addr
    else if lib.isIP metadata.destination then lib.ipSetContains ipSet metadata.destination.addr
    else if metadata.destinationAddresses.length > 0 then
      metadata.destinationAddresses.any (lib.ipSetContains ipSet)
    else if metadata.cacheIPs.length > 0 then metadata.cacheIPs.any (lib.ipSetContains ipSet)
    else metadata.ipCIDRAcceptEmpty
  frame _ := rfl

/-- One element of a CIDR list: a prefix, or else an address. -/
def parseIPSetEntry (prefixString : Bytes) (i : Nat) : Except Error IPSetEntry :=
  match lib.parsePrefix prefixString with
  | .ok p => .ok (.cidr p)
  | .error error => match lib.parseAddr prefixString with
    | .ok addr => .ok (.addr addr)
    | .error _ => .error (.cause error (.new ("parse [" ++ toString i ++ "]")))

/-- The set of a CIDR list, as `NewIPCIDRItem` and the binary writer build it. -/
def parseIPSet (prefixStrings : List Bytes) : Except Error IPSet := do
  let entries ← prefixStrings.zipIdx.mapM fun (prefixString, i) =>
    parseIPSetEntry lib prefixString i
  lib.buildIPSet entries

def newIPCIDRItem (isSource : Bool) (prefixStrings : List Bytes) : Except Error RuleItem := do
  let ipSet ← parseIPSet lib prefixStrings
  return ipCIDRItem lib isSource ipSet

def ipIsPrivateItem (isSource : Bool) : RuleItem where
  Match metadata :=
    let destination := if isSource then metadata.source.addr else metadata.destination.addr
    if destination.isValid then !lib.isPublicAddr destination
    else if !isSource then
      metadata.destinationAddresses.any (fun address => !lib.isPublicAddr address) ||
        metadata.cacheIPs.any fun address => !lib.isPublicAddr address
    else false
  frame _ := rfl

def ipAcceptAnyItem : RuleItem where
  Match metadata := decide (metadata.destinationAddresses.length > 0)
  frame _ := rfl

/-! ### Items on the network of the host -/

/-- `adapter.NetworkInterface`, as far as rule items read it. -/
structure NetworkInterface where
  name : Bytes
  addresses : List Prefix
  type : UInt8
  expensive : Bool
  constrained : Bool

/-- What `adapter.NetworkManager` reports at the moment of a match. -/
structure NetworkManager where
  defaultNetworkInterface : Option NetworkInterface
  networkInterfaces : List NetworkInterface
  myInterfaces : List Bytes
  /-- The addresses of the monitor's default interface. -/
  defaultInterfaceAddresses : Option (List Prefix)
  wifiSSID : Bytes
  wifiBSSID : Bytes

variable (networkManager : NetworkManager)

def defaultInterfaceItem (test : NetworkInterface → Bool) : RuleItem where
  Match _ := match networkManager.defaultNetworkInterface with
    | none => false
    | some networkInterface => test networkInterface
  frame _ := rfl

def networkTypeItem (networkType : List UInt8) : RuleItem :=
  defaultInterfaceItem networkManager fun networkInterface =>
    networkType.contains networkInterface.type

def networkIsExpensiveItem : RuleItem :=
  defaultInterfaceItem networkManager fun networkInterface => networkInterface.expensive

def networkIsConstrainedItem : RuleItem :=
  defaultInterfaceItem networkManager fun networkInterface => networkInterface.constrained

def wifiSSIDItem (ssidList : List Bytes) : RuleItem where
  Match _ := ssidList.contains networkManager.wifiSSID
  frame _ := rfl

/-- The last attempt of `adapter.NormalizeWIFIBSSID`: twelve hexadecimal digits. -/
def normalizeHexBSSID (bssid : Bytes) : Bytes :=
  if bssid.length = 12 then
    match lib.decodeHex bssid with
    | some decoded => lib.hardwareAddr decoded
    | none => bssid
  else bssid

def normalizeWIFIBSSID (raw : Bytes) : Bytes :=
  let bssid := lib.trimSpace raw
  if bssid = [] then []
  else match lib.parseMAC bssid with
    | some parsed =>
      if parsed.length = 6 then lib.hardwareAddr parsed else normalizeHexBSSID lib bssid
    | none => normalizeHexBSSID lib bssid

def wifiBSSIDItem (bssidList : List Bytes) : RuleItem where
  Match _ := (bssidList.map (normalizeWIFIBSSID lib)).contains networkManager.wifiBSSID
  frame _ := rfl

/-- `NetworkInterfaceAddressItem`: every listed interface type has a foreign interface with an
overlapping address. -/
def networkInterfaceAddressItem (interfaceAddresses : List (UInt8 × List Prefix)) : RuleItem where
  Match _ := interfaceAddresses.all fun entry =>
    networkManager.networkInterfaces.any fun networkInterface =>
      !networkManager.myInterfaces.contains networkInterface.name &&
        networkInterface.type == entry.1 &&
        networkInterface.addresses.any fun it => entry.2.any fun p => p.overlaps it
  frame _ := rfl

def defaultInterfaceAddressItem (interfaceAddresses : List Prefix) : RuleItem where
  Match _ := match networkManager.defaultInterfaceAddresses with
    | none => false
    | some addresses => interfaceAddresses.all fun address =>
        !addresses.all fun it => !address.overlaps it
  frame _ := rfl

end Items

/-! ### A small library, for concrete rules -/

def rangeContains (range : IPRange) (address : Addr) : Bool :=
  match range.fromAddr, range.toAddr, address with
  | .v4 low, .v4 high, .v4 bits => decide (low ≤ bits) && decide (bits ≤ high)
  | .v6 low _, .v6 high _, .v6 bits zone =>
    decide (low ≤ bits) && decide (bits ≤ high) && zone.isEmpty
  | _, _, _ => false

/-- Plain versions of the functions of other packages. Domains are compared as a whole or by
suffix, addresses by range; regular expressions, AdGuard rules and textual addresses are left out. -/
def sampleLibrary : ItemLibrary where
  Matcher := List Bytes × List Bytes
  newMatcher domains suffixes _ := (domains, suffixes)
  matcherMatch matcher host := matcher.1.contains host ||
    matcher.2.any fun suffix => host == suffix || (46 :: suffix).isSuffixOf host
  AdGuardMatcher := List Bytes
  newAdGuardMatcher lines := lines
  adGuardMatch lines host := lines.contains host
  Regexp := Empty
  compile _ := .error .invalid
  matchString regexp := nomatch regexp
  parsePrefix _ := .error .invalid
  parseAddr _ := .error .invalid
  buildIPSet _ := .error .invalid
  ipSetContains ipSet address := ipSet.any fun range => rangeContains range address
  isIP address := address.addr.isValid
  isDomain address := !address.addr.isValid && address.fqdn != []
  isPublicAddr _ := true
  toLower s := s.map fun c => if 65 ≤ c ∧ c ≤ 90 then c + 32 else c
  base path := path
  trimSpace s := s
  parseMAC _ := none
  decodeHex _ := none
  hardwareAddr s := s
  isAndroid := false

end SingBox.Route
