/-
**The binary rule-set format** (`common/srs/binary.go`, `common/srs/ip_set.go`, `common/srs/ip_cidr.go`).

A file is three magic bytes, a version byte and a zlib stream with a count and the rules. A default rule is a sequence
of items, each a tag with its payload, closed by a final tag and the `invert` byte; a logical rule is its mode, a
count, its rules and the `invert` byte. The writer leaves empty conditions out and refuses those that are newer than
the version it generates; the reader refuses rules nested too deep. `BinaryLibrary` collects what the format takes
from other packages, and `Lawful` what is documented about it. Counts are unbounded here; the code has them in 64
bits.
-/

import SingBox.Options.HeadlessRule

namespace SingBox.Srs

open SingBox.Lib SingBox.Options
open SingBox.Route (ItemLibrary parseIPSet)

/-- The functions of other packages that the binary format is built on. -/
structure BinaryLibrary extends ItemLibrary where
  /-- A zlib stream, written and read as a whole. -/
  compress : Bytes → Bytes
  decompress : Bytes → Except Error Bytes
  /-- `Matcher.Write`, `domain.ReadMatcher` and `Matcher.Dump`. -/
  writeMatcher : Matcher → Bytes
  readMatcher : Reader Matcher
  dumpMatcher : Matcher → List Bytes × List Bytes
  /-- `AdGuardMatcher.Write`, `domain.ReadAdGuardMatcher` and `AdGuardMatcher.Dump`. -/
  writeAdGuardMatcher : AdGuardMatcher → Bytes
  readAdGuardMatcher : Reader AdGuardMatcher
  dumpAdGuardMatcher : AdGuardMatcher → List Bytes
  /-- `M.AddrFromIP`. -/
  addrFromIP : Bytes → Addr
  /-- `IPSet.Prefixes` and `Prefix.String`. -/
  prefixes : IPSet → List Prefix
  prefixString : Prefix → Bytes

instance : Coe BinaryLibrary ItemLibrary := ⟨BinaryLibrary.toItemLibrary⟩

def ruleSetVersion1 : UInt8 := 1
def ruleSetVersion2 : UInt8 := 2
def ruleSetVersion3 : UInt8 := 3
def ruleSetVersion4 : UInt8 := 4
def ruleSetVersionCurrent : UInt8 := ruleSetVersion4

def magicBytes : Bytes := [0x53, 0x52, 0x53]

/-- The tags of the items of a default rule, in the order of the constants. -/
inductive ItemType where
  | queryType | network | domain | domainKeyword | domainRegex | sourceIPCIDR | ipCIDR | sourcePort
  | sourcePortRange | port | portRange | processName | processPath | packageName | wifiSSID
  | wifiBSSID | adGuardDomain | processPathRegex | networkType | networkIsExpensive
  | networkIsConstrained | networkInterfaceAddress | defaultInterfaceAddress | final
  deriving DecidableEq, Repr

namespace ItemType

def toByte : ItemType → UInt8
  | queryType => 0
  | network => 1
  | domain => 2
  | domainKeyword => 3
  | domainRegex => 4
  | sourceIPCIDR => 5
  | ipCIDR => 6
  | sourcePort => 7
  | sourcePortRange => 8
  | port => 9
  | portRange => 10
  | processName => 11
  | processPath => 12
  | packageName => 13
  | wifiSSID => 14
  | wifiBSSID => 15
  | adGuardDomain => 16
  | processPathRegex => 17
  | networkType => 18
  | networkIsExpensive => 19
  | networkIsConstrained => 20
  | networkInterfaceAddress => 21
  | defaultInterfaceAddress => 22
  | final => 0xFF

/-- All tags; the dispatch of the reader looks a byte up in them. -/
def all : List ItemType :=
  [queryType, network, domain, domainKeyword, domainRegex, sourceIPCIDR, ipCIDR, sourcePort,
    sourcePortRange, port, portRange, processName, processPath, packageName, wifiSSID, wifiBSSID,
    adGuardDomain, processPathRegex, networkType, networkIsExpensive, networkIsConstrained,
    networkInterfaceAddress, defaultInterfaceAddress, final]

def ofByte (byte : UInt8) : Option ItemType :=
  all.find? fun itemType => itemType.toByte == byte

theorem ofByte_toByte (itemType : ItemType) : ofByte itemType.toByte = some itemType := by
  cases itemType <;> decide

end ItemType

/-! ### Addresses, prefixes and IP sets -/

section Codecs

variable (lib : BinaryLibrary)

def writeAddr (addr : Addr) : Bytes := uvarint addr.asSlice.length ++ addr.asSlice

/-- The part that `readIPSetAddr` and `readPrefix` share: only 4 and 16 bytes make an address. -/
def readAddr : Reader Addr := do
  let addrLen ← readUvarint
  if addrLen ≠ 4 ∧ addrLen ≠ 16 then throw .invalid
  else do
    let addrBytes ← readFull addrLen
    return lib.addrFromIP addrBytes

def readIPSetAddr : Reader Addr := readAddr lib

def writePrefix (p : Prefix) : Bytes := writeAddr p.addr ++ [UInt8.ofInt p.bits]

def readPrefix : Reader Prefix := do
  let addr ← readAddr lib
  let prefixBits ← readByte
  return Prefix.prefixFrom addr prefixBits.toNat

def writeIPRange (range : IPRange) : Bytes := writeAddr range.fromAddr ++ writeAddr range.toAddr

def readIPRange : Reader IPRange := do
  let fromAddr ← readIPSetAddr lib
  let toAddr ← readIPSetAddr lib
  return ⟨fromAddr, toAddr⟩

def writeIPSet (set : IPSet) : Bytes :=
  [1] ++ bigEndian 8 set.length ++ set.flatMap writeIPRange

def readIPSet : Reader IPSet := do
  let version ← readByte
  if version ≠ 1 then throw .invalid
  else do
    let length ← readUint 8
    readMany (fun _ => readIPRange lib) 0 length

/-! ### Items -/

def writeString (s : Bytes) : Bytes := writeSlice (fun byte => [byte]) s

def readString : Reader Bytes := readSlice readByte

def writeUint16 (value : UInt16) : Bytes := bigEndian 2 value.toNat

def readUint16 : Reader UInt16 := do
  let value ← readUint 2
  return UInt16.ofNat value

def writeRuleItemString (itemType : ItemType) (value : List Bytes) : Except Error Bytes :=
  .ok (itemType.toByte :: writeSlice writeString value)

def writeRuleItemUint8 (itemType : ItemType) (value : List UInt8) : Except Error Bytes :=
  .ok (itemType.toByte :: writeSlice (fun byte => [byte]) value)

def writeRuleItemUint16 (itemType : ItemType) (value : List UInt16) : Except Error Bytes :=
  .ok (itemType.toByte :: writeSlice writeUint16 value)

def writeRuleItemCIDR (itemType : ItemType) (value : List Bytes) : Except Error Bytes := do
  let ipSet ← parseIPSet lib value
  return itemType.toByte :: writeIPSet ipSet

def writePrefixes (value : List Prefixable) : Bytes :=
  writeSlice (fun rawPrefix => writePrefix (rawPrefix.build .none)) value

def readPrefixes : Reader (List Prefixable) := do
  let value ← readSlice (readPrefix lib)
  return value.map some

def writeInterfaceEntry (entry : UInt8 × Listable Prefixable) : Bytes :=
  entry.1 :: writePrefixes entry.2.items

def readInterfaceEntry : Reader (UInt8 × Listable Prefixable) := do
  let key ← readByte
  let value ← readPrefixes lib
  return (key, .ofList value)

/-- An item that is written only if there is something in it. -/
def writeWhen (condition : Bool) (writer : Except Error Bytes) : Except Error Bytes :=
  if condition then writer else .ok []

/-- An item that only files from version `version` on may hold. -/
def writeSince (version : UInt8) (generateVersion : UInt8) (text : String)
    (writer : Except Error Bytes) : Except Error Bytes :=
  if generateVersion < version then .error (.new text) else writer

/-! ### Default rules -/

/-- The items of a default rule, in the order in which `writeDefaultRule` writes them. -/
def itemWriters (rule : DefaultHeadlessRule lib) (generateVersion : UInt8) : List (Except Error Bytes) :=
  [ writeWhen (rule.queryType.items.length > 0) (writeRuleItemUint16 .queryType rule.queryType.items),
    writeWhen (rule.network.items.length > 0) (writeRuleItemString .network rule.network.items),
    writeWhen (rule.domain.items.length > 0 || rule.domainSuffix.items.length > 0)
      (.ok (ItemType.domain.toByte :: lib.writeMatcher (lib.newMatcher rule.domain.items
        rule.domainSuffix.items (decide (generateVersion = ruleSetVersion1))))),
    writeWhen (rule.domainKeyword.items.length > 0) (writeRuleItemString .domainKeyword rule.domainKeyword.items),
    writeWhen (rule.domainRegex.items.length > 0) (writeRuleItemString .domainRegex rule.domainRegex.items),
    writeWhen (rule.sourceIPCIDR.items.length > 0)
      (wrapError "source_ip_cidr" (writeRuleItemCIDR lib .sourceIPCIDR rule.sourceIPCIDR.items)),
    writeWhen (rule.ipCIDR.items.length > 0) (wrapError "ipcidr" (writeRuleItemCIDR lib .ipCIDR rule.ipCIDR.items)),
    writeWhen (rule.sourcePort.items.length > 0) (writeRuleItemUint16 .sourcePort rule.sourcePort.items),
    writeWhen (rule.sourcePortRange.items.length > 0) (writeRuleItemString .sourcePortRange rule.sourcePortRange.items),
    writeWhen (rule.port.items.length > 0) (writeRuleItemUint16 .port rule.port.items),
    writeWhen (rule.portRange.items.length > 0) (writeRuleItemString .portRange rule.portRange.items),
    writeWhen (rule.processName.items.length > 0) (writeRuleItemString .processName rule.processName.items),
    writeWhen (rule.processPath.items.length > 0) (writeRuleItemString .processPath rule.processPath.items),
    writeWhen (rule.processPathRegex.items.length > 0)
      (writeRuleItemString .processPathRegex rule.processPathRegex.items),
    writeWhen (rule.packageName.items.length > 0) (writeRuleItemString .packageName rule.packageName.items),
    writeWhen (rule.networkType.items.length > 0)
      (writeSince ruleSetVersion3 generateVersion
        "`network_type` rule item is only supported in version 3 or later"
        (writeRuleItemUint8 .networkType rule.networkType.items)),
    writeWhen rule.networkIsExpensive
      (writeSince ruleSetVersion3 generateVersion
        "`network_is_expensive` rule item is only supported in version 3 or later"
        (.ok [ItemType.networkIsExpensive.toByte])),
    writeWhen rule.networkIsConstrained
      (writeSince ruleSetVersion3 generateVersion
        "`network_is_constrained` rule item is only supported in version 3 or later"
        (.ok [ItemType.networkIsConstrained.toByte])),
    writeWhen (rule.interfaceEntries.length > 0)
      (writeSince ruleSetVersion4 generateVersion
        "`network_interface_address` rule item is only supported in version 4 or later"
        (.ok (ItemType.networkInterfaceAddress.toByte :: writeSlice writeInterfaceEntry rule.interfaceEntries))),
    writeWhen (rule.defaultInterfaceAddress.items.length > 0)
      (writeSince ruleSetVersion4 generateVersion
        "`default_interface_address` rule item is only supported in version 4 or later"
        (.ok (ItemType.defaultInterfaceAddress.toByte :: writePrefixes rule.defaultInterfaceAddress.items))),
    writeWhen (rule.wifiSSID.items.length > 0) (writeRuleItemString .wifiSSID rule.wifiSSID.items),
    writeWhen (rule.wifiBSSID.items.length > 0) (writeRuleItemString .wifiBSSID rule.wifiBSSID.items),
    writeWhen (rule.adGuardDomain.items.length > 0)
      (writeSince ruleSetVersion2 generateVersion
        "AdGuard rule items is only supported in version 2 or later"
        (.ok (ItemType.adGuardDomain.toByte ::
          lib.writeAdGuardMatcher (lib.newAdGuardMatcher rule.adGuardDomain.items)))) ]

/-- `binary.Write` of a `bool`. -/
def writeBool (value : Bool) : UInt8 := if value then 1 else 0

def writeDefaultRule (rule : DefaultHeadlessRule lib) (generateVersion : UInt8) : Except Error Bytes := do
  let items ← (itemWriters lib rule generateVersion).mapM id
  return [0] ++ (items.flatten ++ [ItemType.final.toByte, writeBool rule.invert])

def readRuleItemString : Reader (Listable Bytes) := do
  let result ← readSlice readString
  return .ofList result

/-- The part of `readDefaultRule` that reads the payload of one item into the rule. -/
def readItem (recover : Bool) (itemType : ItemType)
    (rule : DefaultHeadlessRule lib) :
    Reader (DefaultHeadlessRule lib) :=
  match itemType with
  | .queryType => do
    let value ← readSlice readUint16
    return { rule with queryType := some value }
  | .network => do return { rule with network := ← readRuleItemString }
  | .domain => do
    let matcher ← lib.readMatcher
    let dump := lib.dumpMatcher matcher
    if recover then
      return { rule with
        domainMatcher := some matcher
        domain := .ofList dump.1
        domainSuffix := .ofList dump.2 }
    else return { rule with domainMatcher := some matcher }
  | .domainKeyword => do return { rule with domainKeyword := ← readRuleItemString }
  | .domainRegex => do return { rule with domainRegex := ← readRuleItemString }
  | .sourceIPCIDR => do
    let ipSet ← readIPSet lib
    if recover then
      return { rule with
        sourceIPSet := some ipSet
        sourceIPCIDR := some ((lib.prefixes ipSet).map lib.prefixString) }
    else return { rule with sourceIPSet := some ipSet }
  | .ipCIDR => do
    let ipSet ← readIPSet lib
    if recover then
      return { rule with
        ipSet := some ipSet
        ipCIDR := some ((lib.prefixes ipSet).map lib.prefixString) }
    else return { rule with ipSet := some ipSet }
  | .sourcePort => do
    let value ← readSlice readUint16
    return { rule with sourcePort := .ofList value }
  | .sourcePortRange => do return { rule with sourcePortRange := ← readRuleItemString }
  | .port => do
    let value ← readSlice readUint16
    return { rule with port := .ofList value }
  | .portRange => do return { rule with portRange := ← readRuleItemString }
  | .processName => do return { rule with processName := ← readRuleItemString }
  | .processPath => do return { rule with processPath := ← readRuleItemString }
  | .processPathRegex => do return { rule with processPathRegex := ← readRuleItemString }
  | .packageName => do return { rule with packageName := ← readRuleItemString }
  | .wifiSSID => do return { rule with wifiSSID := ← readRuleItemString }
  | .wifiBSSID => do return { rule with wifiBSSID := ← readRuleItemString }
  | .adGuardDomain => do
    let matcher ← lib.readAdGuardMatcher
    if recover then
      return { rule with
        adGuardDomainMatcher := some matcher
        adGuardDomain := .ofList (lib.dumpAdGuardMatcher matcher) }
    else return { rule with adGuardDomainMatcher := some matcher }
  | .networkType => do
    let value ← readSlice readByte
    return { rule with networkType := .ofList value }
  | .networkIsExpensive => return { rule with networkIsExpensive := true }
  | .networkIsConstrained => return { rule with networkIsConstrained := true }
  | .networkInterfaceAddress => do
    let entries ← readSlice (readInterfaceEntry lib)
    return { rule with
      networkInterfaceAddress := some (entries.foldl (fun map entry => map.put entry.1 entry.2) .empty) }
  | .defaultInterfaceAddress => do
    let value ← readPrefixes lib
    return { rule with defaultInterfaceAddress := .ofList value }
  | .final => do
    let invert ← readByte
    return { rule with invert := invert != 0 }

/-- The loop of `readDefaultRule`. Every round takes at least its tag off the stream, so as many
rounds as there are bytes are enough. -/
def readItems (recover : Bool) : Nat → UInt8 → DefaultHeadlessRule lib → Reader (DefaultHeadlessRule lib)
  | 0, _, _ => throw .eof
  | rounds + 1, lastItemType, rule => do
    let itemType ← readByte
    match ItemType.ofByte itemType with
    | none => throw (.new ("unknown rule item type: " ++ toString itemType ++ ", last type: " ++ toString lastItemType))
    | some tag => do
      let rule ← readItem lib recover tag rule
      if tag = .final then return rule else readItems recover rounds itemType rule

def readDefaultRule (recover : Bool) : Reader (DefaultHeadlessRule lib) :=
  fun input => readItems lib recover (input.length + 1) 0 {} input

/-! ### Rules and rule-sets -/

def writeMode : LogicalMode → Except Error Bytes
  | .and => .ok [0]
  | .or => .ok [1]
  | .unknown name => .error (.extend (.new "unknown logical mode: ") name)

mutual

/-- `writeRule` and `writeLogicalRule`. -/
def writeRule (generateVersion : UInt8) : HeadlessRule lib → Except Error Bytes
  | .default options => writeDefaultRule lib options generateVersion
  | .logical mode rules _ invert => do
    let mode ← writeMode mode
    let body ← writeRules generateVersion rules
    return [1] ++ (mode ++ (uvarint rules.length ++ (body ++ [writeBool invert])))

def writeRules (generateVersion : UInt8) : List (HeadlessRule lib) → Except Error Bytes
  | [] => .ok []
  | rule :: rules => do
    let first ← writeRule generateVersion rule
    let rest ← writeRules generateVersion rules
    return first ++ rest

end

def maxLogicalRuleDepth : Nat := 100

def readMode : Reader LogicalMode := do
  let mode ← readByte
  match mode with
  | 0 => return .and
  | 1 => return .or
  | other => throw (.new ("unknown logical mode: " ++ toString other))

/-- `readLogicalRule`, given the reader for the rules in it. -/
def readLogicalRule (readRule : Reader (HeadlessRule lib)) : Reader (HeadlessRule lib) := do
  let mode ← readMode
  let length ← readUvarint
  let rules ← readMany (fun i => withCause ("read logical rule [" ++ toString i ++ "]") readRule) 0 length
  let invert ← readByte
  return .logical mode rules .asIS (invert != 0)

/-- The dispatch of `readRule` on the type of the rule. -/
def readTypedRule (recover : Bool) (readNested : Reader (HeadlessRule lib))
    (ruleType : UInt8) : Reader (HeadlessRule lib) :=
  match ruleType with
  | 0 => do return .default (← readDefaultRule lib recover)
  | 1 => readLogicalRule lib readNested
  | other => throw (.new ("unknown rule type: " ++ toString other))

/-- `readRule`, by the number of levels that are left: `maxLogicalRuleDepth + 1 - depth`. -/
def readRule (recover : Bool) : Nat → Reader (HeadlessRule lib)
  | 0 => throw (.new "logical rule nested too deep")
  | levels + 1 => do
    let ruleType ← readByte
    readTypedRule lib recover (readRule recover levels) ruleType

def writeBody (rules : List (HeadlessRule lib)) (generateVersion : UInt8) : Except Error Bytes := do
  let body ← writeRules lib generateVersion rules
  return uvarint rules.length ++ body

def write (rules : List (HeadlessRule lib)) (generateVersion : UInt8) : Except Error Bytes := do
  let body ← writeBody lib rules generateVersion
  return magicBytes ++ [generateVersion] ++ lib.compress body

def readBody (recover : Bool) : Reader (List (HeadlessRule lib)) := do
  let length ← readUvarint
  readMany (fun i => withCause ("read rule[" ++ toString i ++ "]")
    (readRule lib recover (maxLogicalRuleDepth + 1))) 0 length

def read (recover : Bool) (content : Bytes) : Except Error (PlainRuleSetCompat lib) := do
  let (magic, content) ← readFull 3 content
  if magic ≠ magicBytes then throw (.new "invalid sing-box rule-set file")
  else do
    let (version, content) ← readByte content
    if version > ruleSetVersionCurrent then
      throw (.new ("unsupported version: " ++ toString version))
    else do
      let body ← lib.decompress content
      let (rules, _) ← readBody lib recover body
      return ⟨version, rules⟩

end Codecs

end SingBox.Srs
