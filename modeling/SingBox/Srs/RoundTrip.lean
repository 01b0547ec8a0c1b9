/-
**Reading back a rule-set.**

`decodes_rule` follows the nesting of logical rules: a rule that is not nested too deep is read back
as `storedRule`, exactly when no default rule in it has an interface address without an address.

`roundTrip_iff`: `Read` after `Write` succeeds and gives the rule-set back exactly under that
condition. The writer stores a `null` prefix as an address of length zero, which the reader refuses.
-/

import SingBox.Srs.DefaultRule

open List

namespace SingBox.Srs

open SingBox.Lib SingBox.Options HeadlessRule
open SingBox.Route (ItemLibrary parseIPSet)

section RoundTrip

variable {lib : BinaryLibrary} {recover : Bool}

/-! ### Rule trees -/

mutual

noncomputable def storedRule (lawful : lib.Lawful) (recover : Bool) (version : UInt8) :
    HeadlessRule lib → HeadlessRule lib
  | .default options => .default (storedDefault lawful recover version options)
  | .logical mode rules _ invert =>
    .logical mode (storedRules lawful recover version rules) .asIS invert

noncomputable def storedRules (lawful : lib.Lawful) (recover : Bool) (version : UInt8) :
    List (HeadlessRule lib) → List (HeadlessRule lib)
  | [] => []
  | rule :: rules =>
    storedRule lawful recover version rule :: storedRules lawful recover version rules

end

variable (lawful : lib.Lawful)

include lawful

theorem storedRules_eq_map (version : UInt8) (rules : List (HeadlessRule lib)) :
    storedRules lawful recover version rules = rules.map (storedRule lawful recover version) := by
  induction rules with
  | nil => rfl
  | cons rule rules ih => rw [storedRules, ih, map_cons]

def ruleBytes (lib : BinaryLibrary) (version : UInt8) (rule : HeadlessRule lib) : Bytes :=
  match writeRule lib version rule with
  | .ok bytes => bytes
  | .error _ => []

variable {rules : List (HeadlessRule lib)} {version : UInt8}

omit lawful in
theorem writeRules_ok {body : Bytes} (written : writeRules lib version rules = .ok body) :
    (∀ rule ∈ rules, writeRule lib version rule = .ok (ruleBytes lib version rule)) ∧
      body = rules.flatMap (ruleBytes lib version) := by
  induction rules generalizing body with
  | nil =>
    obtain rfl : [] = body := Except.ok.inj written
    exact ⟨forall_mem_nil _, rfl⟩
  | cons rule rules ih =>
    obtain ⟨first, head, written⟩ := bind_eq_ok_iff.mp written
    obtain ⟨rest, tail, written⟩ := bind_eq_ok_iff.mp written
    obtain rfl : first ++ rest = body := Except.ok.inj written
    obtain ⟨each, rfl⟩ := ih tail
    have same : ruleBytes lib version rule = first := by
      unfold ruleBytes
      rw [head]
    refine ⟨forall_mem_cons.mpr ⟨?_, each⟩, ?_⟩
    · rw [head, same]
    · rw [flatMap_cons, same]

omit lawful in
theorem decodes_mode {mode : LogicalMode} {bytes : Bytes} (written : writeMode mode = .ok bytes) :
    Decodes readMode bytes True mode := by
  cases mode with
  | and =>
    obtain rfl : [0] = bytes := Except.ok.inj written
    exact .of_accepts fun _ => rfl
  | or =>
    obtain rfl : [1] = bytes := Except.ok.inj written
    exact .of_accepts fun _ => rfl
  | unknown name => exact nomatch written

theorem decodes_rules {body : Bytes} {levels : Nat} (text : Nat → String)
    (written : writeRules lib version rules = .ok body)
    (each : ∀ rule ∈ rules, Decodes (readRule lib recover levels) (ruleBytes lib version rule)
      (rule.anyDefault nullAddress = false) (storedRule lawful recover version rule)) :
    Decodes (readMany (fun i => withCause (text i) (readRule lib recover levels)) 0 rules.length)
      body (hasHeadlessRule nullAddress rules = false) (storedRules lawful recover version rules) := by
  obtain ⟨-, rfl⟩ := writeRules_ok written
  rw [storedRules_eq_map]
  exact (Decodes.many rules 0 fun i rule member =>
    (each rule member).withCause (text i)).of_iff hasHeadlessRule_eq_false_iff.symm

theorem decodes_logical {mode : LogicalMode} {modeBytes body : Bytes} {levels : Nat} (invert : Bool)
    (writtenMode : writeMode mode = .ok modeBytes) (written : writeRules lib version rules = .ok body)
    (each : ∀ rule ∈ rules, Decodes (readRule lib recover levels) (ruleBytes lib version rule)
      (rule.anyDefault nullAddress = false) (storedRule lawful recover version rule)) :
    Decodes (readLogicalRule lib (readRule lib recover levels))
      (modeBytes ++ (uvarint rules.length ++ (body ++ [writeBool invert]))) (hasHeadlessRule nullAddress rules = false)
      (.logical mode (storedRules lawful recover version rules) .asIS invert) := by
  let cause (i : Nat) : String := "read logical rule [" ++ toString i ++ "]"
  have last := (Decodes.byte (writeBool invert)).map fun byte =>
    logical mode (storedRules lawful recover version rules) .asIS (byte != 0)
  have flag : (writeBool invert != 0) = invert := by cases invert <;> rfl
  rw [flag] at last
  refine (decodes_mode writtenMode).andThen ((Decodes.uvarint rules.length).andThen ?_)
  refine ((decodes_rules lawful cause written each).bind ?_).of_iff (and_iff_left trivial)
  exact last

theorem decodes_rule (rule : HeadlessRule lib) {levels : Nat} {bytes : Bytes} (shallow : rule.depth < levels)
    (written : writeRule lib version rule = .ok bytes) : Decodes (readRule lib recover levels) bytes
      (rule.anyDefault nullAddress = false) (storedRule lawful recover version rule) := by
  obtain ⟨levels, rfl⟩ : ∃ left, levels = left + 1 :=
    Nat.exists_eq_succ_of_ne_zero (ne_of_gt (Nat.zero_lt_of_lt shallow))
  induction rule using induction generalizing levels bytes with
  | default options =>
    obtain ⟨parts, items, written⟩ := bind_eq_ok_iff.mp written
    obtain rfl := Except.ok.inj written
    have read := (decodes_defaultRule lawful recover items).map default
    exact (Decodes.byte 0).andThen read
  | logical mode rules strategy invert ih =>
    obtain ⟨modeBytes, modeWritten, written⟩ := bind_eq_ok_iff.mp written
    obtain ⟨body, rulesWritten, written⟩ := bind_eq_ok_iff.mp written
    obtain rfl := Except.ok.inj written
    have each : ∀ rule ∈ rules, Decodes (readRule lib recover levels) (ruleBytes lib version rule)
        (rule.anyDefault nullAddress = false) (storedRule lawful recover version rule) := by
      intro rule member
      have below := depth_le_maxDepth member
      rw [depth] at shallow
      obtain ⟨levels, rfl⟩ : ∃ left, levels = left + 1 := Nat.exists_eq_succ_of_ne_zero (by omega)
      exact ih rule member ((writeRules_ok rulesWritten).1 rule member) levels (by omega)
    exact (Decodes.byte 1).andThen (decodes_logical lawful invert modeWritten rulesWritten each)

theorem decodes_body (recover : Bool) {body : Bytes} (shallow : maxDepth rules ≤ maxLogicalRuleDepth)
    (written : writeBody lib rules version = .ok body) :
    Decodes (readBody lib recover) body (hasHeadlessRule nullAddress rules = false)
      (storedRules lawful recover version rules) := by
  obtain ⟨bytes, rulesWritten, written⟩ := bind_eq_ok_iff.mp written
  obtain rfl := Except.ok.inj written
  let cause (i : Nat) : String := "read rule[" ++ toString i ++ "]"
  have each : ∀ rule ∈ rules, Decodes (readRule lib recover (maxLogicalRuleDepth + 1))
      (ruleBytes lib version rule) (rule.anyDefault nullAddress = false)
      (storedRule lawful recover version rule) := by
    intro rule member
    have below := depth_le_maxDepth member
    exact decodes_rule lawful rule (by omega) ((writeRules_ok rulesWritten).1 rule member)
  refine (Decodes.uvarint rules.length).andThen ?_
  exact decodes_rules lawful cause rulesWritten each

/-- **`Read` after `Write`**: the stored rules, or an error. -/
theorem read_write (recover : Bool) {content : Bytes} (shallow : maxDepth rules ≤ maxLogicalRuleDepth)
    (supported : version ≤ ruleSetVersionCurrent) (written : write lib rules version = .ok content) :
    (hasHeadlessRule nullAddress rules = false →
      read lib recover content = .ok ⟨version, storedRules lawful recover version rules⟩) ∧
    (¬ hasHeadlessRule nullAddress rules = false → ∃ error, read lib recover content = .error error) := by
  obtain ⟨body, bodyWritten, written⟩ := bind_eq_ok_iff.mp written
  obtain rfl := Except.ok.inj written
  have opened : read lib recover (magicBytes ++ [version] ++ lib.compress body) =
      (readBody lib recover body >>= fun result => .ok (.mk version result.1)) := by
    show (if version > ruleSetVersionCurrent then _
      else lib.decompress (lib.compress body) >>= fun body =>
        readBody lib recover body >>= fun result => .ok (PlainRuleSetCompat.mk version result.1)) = _
    rw [if_neg (UInt8.not_lt.mpr supported), lawful.decompress_compress]
    rfl
  have decodes := decodes_body lawful recover shallow bodyWritten
  rw [opened]
  refine ⟨fun holds => ?_, fun bad => ?_⟩
  · have accepted := decodes.accepts holds []
    rw [append_nil] at accepted
    rw [accepted]
    rfl
  · obtain ⟨error, failed⟩ := decodes.rejects bad []
    rw [append_nil] at failed
    rw [failed]
    exact ⟨error, rfl⟩

end RoundTrip

/-! ### Rule-sets that say the same -/

section Agreement

variable (lib : BinaryLibrary)

/-- The names that a `domain` and a `domain_suffix` list stand for. -/
def domainSet (domains suffixes : List Bytes) : Bytes → Bool :=
  lib.matcherMatch (lib.newMatcher domains suffixes false)

def adGuardSet (lines : List Bytes) : Bytes → Bool :=
  lib.adGuardMatch (lib.newAdGuardMatcher lines)

def cidrSet (value : List Bytes) : Option (Addr → Bool) :=
  match parseIPSet lib value with
  | .ok ipSet => some (lib.ipSetContains ipSet)
  | .error _ => none

/-- Two default rules with the same conditions: equal lists and flags, and lists of domains and
prefixes that stand for the same sets. -/
structure DefaultAgrees (original result : DefaultHeadlessRule lib) : Prop where
  queryType : result.queryType.items = original.queryType.items
  network : result.network.items = original.network.items
  domain : domainSet lib result.domain.items result.domainSuffix.items =
    domainSet lib original.domain.items original.domainSuffix.items
  domainKeyword : result.domainKeyword.items = original.domainKeyword.items
  domainRegex : result.domainRegex.items = original.domainRegex.items
  sourceIPCIDR : cidrSet lib result.sourceIPCIDR.items = cidrSet lib original.sourceIPCIDR.items
  ipCIDR : cidrSet lib result.ipCIDR.items = cidrSet lib original.ipCIDR.items
  sourcePort : result.sourcePort.items = original.sourcePort.items
  sourcePortRange : result.sourcePortRange.items = original.sourcePortRange.items
  port : result.port.items = original.port.items
  portRange : result.portRange.items = original.portRange.items
  processName : result.processName.items = original.processName.items
  processPath : result.processPath.items = original.processPath.items
  processPathRegex : result.processPathRegex.items = original.processPathRegex.items
  packageName : result.packageName.items = original.packageName.items
  networkType : result.networkType.items = original.networkType.items
  networkIsExpensive : result.networkIsExpensive = original.networkIsExpensive
  networkIsConstrained : result.networkIsConstrained = original.networkIsConstrained
  networkInterfaceAddress :
    (result.interfaceEntries.map fun entry => (entry.1, entry.2.items)) =
      original.interfaceEntries.map fun entry => (entry.1, entry.2.items)
  defaultInterfaceAddress : result.defaultInterfaceAddress.items = original.defaultInterfaceAddress.items
  wifiSSID : result.wifiSSID.items = original.wifiSSID.items
  wifiBSSID : result.wifiBSSID.items = original.wifiBSSID.items
  adGuardDomain : adGuardSet lib result.adGuardDomain.items = adGuardSet lib original.adGuardDomain.items
  invert : result.invert = original.invert

/-- Two rule trees of the same shape, with the same modes and flags and agreeing default rules. -/
inductive Agrees : HeadlessRule lib → HeadlessRule lib → Prop where
  | default {original result : DefaultHeadlessRule lib}
      (agrees : DefaultAgrees lib original result) : Agrees (.default original) (.default result)
  | logical {mode : LogicalMode} {rules results : List (HeadlessRule lib)}
      {strategy strategy' : Route.DomainMatchStrategy} {invert : Bool}
      (agrees : List.Forall₂ Agrees rules results) :
      Agrees (.logical mode rules strategy invert) (.logical mode results strategy' invert)

end Agreement

section RoundTrip

variable {lib : BinaryLibrary}

theorem parse_printed (prefixes : List Prefix)
    (printed : ∀ p ∈ prefixes, lib.parsePrefix (lib.prefixString p) = .ok p) (start : Nat) :
    (((prefixes.map lib.prefixString).zipIdx start).mapM fun (prefixString, i) =>
      Route.parseIPSetEntry lib prefixString i) = .ok (prefixes.map IPSetEntry.cidr) := by
  induction prefixes generalizing start with
  | nil => rfl
  | cons p rest ih =>
    obtain ⟨first, others⟩ := forall_mem_cons.mp printed
    have entry : Route.parseIPSetEntry lib (lib.prefixString p) start = .ok (.cidr p) := by
      unfold Route.parseIPSetEntry
      rw [first]
    rw [map_cons, zipIdx_cons, mapM_cons, ih others]
    show (Route.parseIPSetEntry lib (lib.prefixString p) start >>= _) = _
    rw [entry]
    rfl

theorem cidrSet_recovered (lawful : lib.Lawful) {value : List Bytes} {ipSet : IPSet}
    (parsed : parseIPSet lib value = .ok ipSet) : cidrSet lib (recoveredCIDR lib ipSet).items = cidrSet lib value := by
  obtain ⟨entries, built⟩ := built_of_parse parsed
  obtain ⟨printed, rebuilt, again, same⟩ := lawful.prefixes_cover entries ipSet built
  have parsedAgain : parseIPSet lib ((lib.prefixes ipSet).map lib.prefixString) = .ok rebuilt := by
    unfold parseIPSet
    rw [parse_printed _ printed 0]
    exact again
  show cidrSet lib ((lib.prefixes ipSet).map lib.prefixString) = _
  unfold cidrSet
  rw [parsed, parsedAgain]
  exact congrArg some same

theorem items_pick {α : Type} (values : List α) :
    (pick (values.length > 0) (Listable.ofList values) none).items = values := by
  cases values <;> rfl

theorem items_pick_some {α : Type} (values : List α) :
    Listable.items (pick (values.length > 0) (some values) none) = values := by
  cases values <;> rfl

theorem pick_flag (flag : Bool) : pick flag true false = flag := by
  cases flag <;> rfl

theorem ok_of_mapM {writers : List (Except Error Bytes)} {parts : List Bytes}
    (written : writers.mapM id = .ok parts) {writer : Except Error Bytes}
    (member : writer ∈ writers) : ∃ bytes, writer = .ok bytes := by
  induction writers generalizing parts with
  | nil => exact absurd member not_mem_nil
  | cons head tail ih =>
    obtain ⟨first, rest, headOk, tailOk, -⟩ := mapM_id_cons_eq_ok_iff.mp written
    rcases mem_cons.mp member with rfl | inTail
    · exact ⟨first, headOk⟩
    · exact ih tailOk inTail

theorem cidrSet_stored (lawful : lib.Lawful) {itemType : ItemType} {text : String}
    {value : List Bytes} {bytes : Bytes} (written : writeWhen (value.length > 0)
      (wrapError text (writeRuleItemCIDR lib itemType value)) = .ok bytes) :
    cidrSet lib (pick (decide (value.length > 0) && true)
      (recoveredCIDR lib (ipSetOf lib value)) none).items = cidrSet lib value := by
  by_cases nonempty : value.length > 0
  · rw [decide_eq_true nonempty]
    rw [writeWhen, if_pos (decide_eq_true nonempty)] at written
    exact cidrSet_recovered lawful (writeRuleItemCIDR_eq_ok (wrapError_eq_ok_iff.mp written)).1
  · obtain rfl : value = [] := length_eq_zero_iff.mp (by omega)
    rfl

theorem storedPrefixes_eq {value : List Prefixable} (valid : ∀ p ∈ value, addressed p) :
    storedPrefixes value = value := by
  calc value.map (fun p => some (p.build .none))
      = value.map id := map_congr_left fun p member => some_build (valid p member)
    _ = value := map_id value

section

variable {entries : List (UInt8 × Listable Prefixable)}

theorem entries_storedMap (distinct : (entries.map Prod.fst).Nodup) :
    (storedMap entries).entries = storedEntries entries := by
  have keys : (storedEntries entries).map Prod.fst = entries.map Prod.fst := by
    unfold storedEntries
    rw [map_map]
    rfl
  refine TypedMap.foldl_put (storedEntries entries) .empty ?_
  show ((storedEntries entries).map Prod.fst).Nodup
  rw [keys]
  exact distinct

theorem storedEntries_items (valid : ∀ entry ∈ entries, ∀ p ∈ entry.2.items, addressed p) :
    ((storedEntries entries).map fun entry => (entry.1, entry.2.items)) =
      entries.map fun entry => (entry.1, entry.2.items) := by
  unfold storedEntries
  rw [map_map]
  refine map_congr_left fun entry member => ?_
  show (entry.1, (Listable.ofList (storedPrefixes entry.2.items)).items) = _
  rw [Listable.items_ofList, storedPrefixes_eq (valid entry member)]

end

section

variable (rule : DefaultHeadlessRule lib)

include rule

theorem interfaceEntries_distinct : (rule.interfaceEntries.map Prod.fst).Nodup := by
  unfold DefaultHeadlessRule.interfaceEntries
  cases rule.networkInterfaceAddress with
  | none => exact nodup_nil
  | some map => exact map.distinct

theorem interfaceEntries_eq : rule.interfaceEntries = (rule.networkInterfaceAddress.map TypedMap.entries).getD [] := by
  unfold DefaultHeadlessRule.interfaceEntries
  cases rule.networkInterfaceAddress with
  | none | some map => rfl

theorem interfaceEntries_stored (lawful : lib.Lawful) (recover : Bool) (version : UInt8) :
    (storedDefault lawful recover version rule).interfaceEntries = storedEntries rule.interfaceEntries := by
  have field : (storedDefault lawful recover version rule).networkInterfaceAddress =
      pick (rule.interfaceEntries.length > 0) (some (storedMap rule.interfaceEntries)) none := rfl
  rw [← entries_storedMap (interfaceEntries_distinct rule),
    interfaceEntries_eq (storedDefault lawful recover version rule), field]
  cases rule.interfaceEntries <;> rfl

end

theorem storedDefault_agrees (lawful : lib.Lawful) {rule : DefaultHeadlessRule lib}
    {version : UInt8} {parts : List Bytes} (written : (itemWriters lib rule version).mapM id = .ok parts)
    (valid : nullAddress rule = false) : DefaultAgrees lib rule (storedDefault lawful true version rule) := by
  obtain ⟨validEntries, validDefault⟩ := (nullAddress_eq_false_iff rule).mp valid
  have cidrWritten : ∀ writer ∈ itemWriters lib rule version, ∃ bytes, writer = .ok bytes :=
    fun writer member => ok_of_mapM written member
  simp only [itemWriters, forall_mem_cons] at cidrWritten
  obtain ⟨-, -, -, -, -, ⟨_, sourceCIDR⟩, ⟨_, destinationCIDR⟩, -⟩ := cidrWritten
  obtain ⟨-, -, dumped⟩ := Classical.choose_spec (lawful.readMatcher_write rule.domain.items
    rule.domainSuffix.items (decide (version = ruleSetVersion1)))
  obtain ⟨-, -, dumpedAdGuard⟩ :=
    Classical.choose_spec (lawful.readAdGuardMatcher_write rule.adGuardDomain.items)
  constructor
  case queryType => exact items_pick_some _
  case sourceIPCIDR => exact cidrSet_stored lawful sourceCIDR
  case ipCIDR => exact cidrSet_stored lawful destinationCIDR
  case networkIsExpensive | networkIsConstrained => exact pick_flag _
  case invert => rfl
  case domain =>
    cases has : hasDomain rule with
    | false =>
      have empty : rule.domain.items = [] ∧ rule.domainSuffix.items = [] := by
        simpa [hasDomain] using has
      simp only [storedDefault, has, empty.1, empty.2]
      rfl
    | true =>
      simp only [storedDefault, has, Bool.and_true, pick, if_true, Listable.items_ofList]
      exact dumped
  case networkInterfaceAddress => rw [interfaceEntries_stored, storedEntries_items validEntries]
  case defaultInterfaceAddress =>
    simp only [storedDefault, storedPrefixes_eq validDefault]
    exact items_pick _
  case adGuardDomain =>
    by_cases some : rule.adGuardDomain.items.length > 0
    · simp only [storedDefault, decide_eq_true some, Bool.and_true, pick, if_true, Listable.items_ofList]
      exact dumpedAdGuard
    · have none : rule.adGuardDomain.items = [] := length_eq_zero_iff.mp (by omega)
      simp only [storedDefault, none]
      rfl
  all_goals exact items_pick _

/-- **A rule tree that is read back agrees** with the tree that was written. -/
theorem storedRule_agrees (lawful : lib.Lawful) {version : UInt8} (rule : HeadlessRule lib) {bytes : Bytes}
    (written : writeRule lib version rule = .ok bytes) (valid : rule.anyDefault nullAddress = false) :
    Agrees lib rule (storedRule lawful true version rule) := by
  induction rule using induction generalizing bytes with
  | default options =>
    obtain ⟨parts, items, -⟩ := bind_eq_ok_iff.mp written
    exact .default (storedDefault_agrees lawful items valid)
  | logical mode rules strategy invert ih =>
    obtain ⟨modeBytes, -, written⟩ := bind_eq_ok_iff.mp written
    obtain ⟨body, rulesWritten, -⟩ := bind_eq_ok_iff.mp written
    rw [storedRule, storedRules_eq_map]
    refine .logical (forall₂_map_right_iff.mpr (forall₂_same.mpr ?_))
    intro rule member
    exact ih rule member ((writeRules_ok rulesWritten).1 rule member)
      (hasHeadlessRule_eq_false_iff.mp valid rule member)

/-- **The binary round trip.** What `Write` wrote is read back with the same version and agreeing
rules if and only if every interface address of the rule-set has an address. -/
theorem roundTrip_iff (lawful : lib.Lawful) (rules : List (HeadlessRule lib))
    (version : UInt8) (content : Bytes) (shallow : maxDepth rules ≤ maxLogicalRuleDepth)
    (supported : version ≤ ruleSetVersionCurrent) (written : write lib rules version = .ok content) :
    (∃ result, read lib true content = .ok result ∧ result.version = version ∧
      List.Forall₂ (Agrees lib) rules result.rules) ↔ hasHeadlessRule nullAddress rules = false := by
  obtain ⟨accepts, rejects⟩ := read_write lawful true shallow supported written
  refine ⟨fun ⟨result, ok, _⟩ => ?_, fun valid => ?_⟩
  · by_contra bad
    obtain ⟨error, failed⟩ := rejects bad
    rw [failed] at ok
    exact nomatch ok
  · refine ⟨_, accepts valid, rfl, ?_⟩
    obtain ⟨_, written, -⟩ := bind_eq_ok_iff.mp written
    obtain ⟨body, rulesWritten, -⟩ := bind_eq_ok_iff.mp written
    rw [storedRules_eq_map]
    refine forall₂_map_right_iff.mpr (forall₂_same.mpr fun rule member => ?_)
    exact storedRule_agrees lawful rule ((writeRules_ok rulesWritten).1 rule member)
      (hasHeadlessRule_eq_false_iff.mp valid rule member)

end RoundTrip

/-! ### A small library, for concrete files -/

/-- `10.0.0.1`, as text, address and prefix. -/
def hostText : Bytes := [49, 48, 46, 48, 46, 48, 46, 49]

def hostPrefixText : Bytes := hostText ++ [47, 51, 50]

def hostAddr : Addr := .v4 0x0A000001

def hostPrefix : Prefix := Prefix.prefixFrom hostAddr 32

/-- The set of a list of entries, if it only names `10.0.0.1`. -/
def hostSet (entries : List IPSetEntry) : Except Error IPSet :=
  if entries.all fun entry => entry = .cidr hostPrefix || entry = .addr hostAddr then
    .ok (if entries.isEmpty then [] else [⟨hostAddr, hostAddr⟩])
  else .error .invalid

/-- A plain library: nothing is compressed, and matchers are stored as their lists. The only textual
address is `10.0.0.1`. -/
def sampleLibrary : BinaryLibrary where
  toItemLibrary :=
    { Route.sampleLibrary with
      parsePrefix := fun s => if s = hostPrefixText then .ok hostPrefix else .error .invalid
      parseAddr := fun s => if s = hostText then .ok hostAddr else .error .invalid
      buildIPSet := hostSet }
  compress content := content
  decompress content := .ok content
  writeMatcher matcher := writeSlice writeString matcher.1 ++ writeSlice writeString matcher.2
  readMatcher := do
    let domains ← readSlice readString
    let suffixes ← readSlice readString
    return (domains, suffixes)
  dumpMatcher matcher := matcher
  writeAdGuardMatcher lines := writeSlice writeString lines
  readAdGuardMatcher := readSlice readString
  dumpAdGuardMatcher lines := lines
  addrFromIP := Addr.fromSlice
  prefixes set := if set = [⟨hostAddr, hostAddr⟩] then [hostPrefix] else []
  prefixString _ := hostPrefixText

theorem sampleLibrary_lawful : sampleLibrary.Lawful := by
  have strings : ∀ value : List Bytes, Decodes (readSlice readString) (writeSlice writeString value) True value := by
    intro value
    have read := Decodes.slice_all value fun s _ => decodes_string s
    rwa [map_id'] at read
  have sets : ∀ entries set, hostSet entries = .ok set → set = [] ∨ set = [⟨hostAddr, hostAddr⟩] := by
    intro entries set built
    unfold hostSet at built
    split at built
    · rw [← Except.ok.inj built]
      split
      · exact .inl rfl
      · exact .inr rfl
    · exact nomatch built
  refine
    { decompress_compress := fun _ => rfl
      readMatcher_write := fun domains suffixes legacy => ⟨(domains, suffixes), ?_, rfl, rfl⟩
      readAdGuardMatcher_write := fun lines => ⟨lines, (strings lines).accepts trivial, rfl, rfl⟩
      addrFromIP_asSlice := ?_
      ranges_plain := ?_
      prefixes_cover := ?_ }
  · exact ((strings domains).bind ((strings suffixes).map (Prod.mk domains))).accepts ⟨trivial, trivial⟩
  · intro addr plain
    exact Addr.fromSlice_asSlice plain.1 plain.2
  · intro entries set built
    rcases sets entries set built with rfl | rfl
    · exact ⟨by decide, by simp⟩
    refine ⟨by decide, ?_⟩
    intro range member
    rw [mem_singleton.mp member]
    exact ⟨⟨rfl, rfl⟩, rfl, rfl⟩
  · intro entries set built
    rcases sets entries set built with rfl | rfl
    · exact ⟨by simp [sampleLibrary], [], rfl, rfl⟩
    refine ⟨?_, [⟨hostAddr, hostAddr⟩], rfl, rfl⟩
    intro p member
    rw [mem_singleton.mp member]
    rfl

/-- A rule-set with names, addresses, ports and an interface address, under a logical rule. -/
def sampleRules : List (HeadlessRule sampleLibrary) :=
  [.logical .or
    [.default { domain := some [[97, 46, 98]], ipCIDR := some [hostText], port := some [443]
                defaultInterfaceAddress := some [some hostPrefix] },
      .default { domainSuffix := some [[99]], invert := true }]
    .asIS true]

/-- An inverted logical rule over two default rules. -/
theorem roundTrip_sample : ∃ content result, write sampleLibrary sampleRules ruleSetVersion4 = .ok content ∧
    read sampleLibrary true content = .ok result ∧ result.version = ruleSetVersion4 ∧
    List.Forall₂ (Agrees sampleLibrary) sampleRules result.rules := by
  have written : ∃ content, write sampleLibrary sampleRules ruleSetVersion4 = .ok content :=
    ⟨_, rfl⟩
  obtain ⟨content, written⟩ := written
  obtain ⟨result, ok⟩ := (roundTrip_iff sampleLibrary_lawful sampleRules ruleSetVersion4 content
    (by decide) (by decide) written).mpr rfl
  exact ⟨content, result, written, ok⟩

/-- A rule-set whose `default_interface_address` is `[null]`. -/
def nullRules : List (HeadlessRule sampleLibrary) :=
  [.default { defaultInterfaceAddress := some [none] }]

/-- **What `Write` accepts, `Read` refuses**: a missing address is written as one of length zero. -/
theorem roundTrip_null : ∃ content, write sampleLibrary nullRules ruleSetVersion4 = .ok content ∧
    ¬ ∃ result, read sampleLibrary true content = .ok result := by
  refine ⟨_, rfl, ?_⟩
  intro ⟨result, ok⟩
  exact nomatch ok

end SingBox.Srs
