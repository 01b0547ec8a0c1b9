/-
**Reading back a default rule.**

Every part of a default rule gets a `Decodes` fact: the reader returns what the writer wrote, or, if the part holds a
prefix without an address, fails. `Chain` composes the items along the loop of the reader, and `ruleSteps` lists them
with what reading each does.
-/

import SingBox.Srs.Binary

namespace SingBox.Srs

open SingBox.Lib SingBox.Options List
open SingBox.Route (ItemLibrary parseIPSet)

/-- An address that `AsSlice` loses nothing of. -/
def Plain (addr : Addr) : Prop := addr.isValid = true ∧ addr.withoutZone = addr

/-- **What is documented about the other packages.** -/
structure BinaryLibrary.Lawful (lib : BinaryLibrary) : Prop where
  decompress_compress : ∀ content, lib.decompress (lib.compress content) = .ok content
  readMatcher_write : ∀ domains suffixes legacy, ∃ matcher,
    (∀ rest, lib.readMatcher
      (lib.writeMatcher (lib.newMatcher domains suffixes legacy) ++ rest) = .ok (matcher, rest)) ∧
    lib.matcherMatch matcher = lib.matcherMatch (lib.newMatcher domains suffixes false) ∧
    lib.matcherMatch (lib.newMatcher (lib.dumpMatcher matcher).1 (lib.dumpMatcher matcher).2 false) =
      lib.matcherMatch (lib.newMatcher domains suffixes false)
  readAdGuardMatcher_write : ∀ lines, ∃ matcher,
    (∀ rest, lib.readAdGuardMatcher
      (lib.writeAdGuardMatcher (lib.newAdGuardMatcher lines) ++ rest) = .ok (matcher, rest)) ∧
    lib.adGuardMatch matcher = lib.adGuardMatch (lib.newAdGuardMatcher lines) ∧
    lib.adGuardMatch (lib.newAdGuardMatcher (lib.dumpAdGuardMatcher matcher)) =
      lib.adGuardMatch (lib.newAdGuardMatcher lines)
  addrFromIP_asSlice : ∀ addr, Plain addr → lib.addrFromIP addr.asSlice = addr
  /-- The ranges of a set are addresses without zone, and their number is a Go `int`. -/
  ranges_plain : ∀ entries set, lib.buildIPSet entries = .ok set →
    set.length < 2 ^ 63 ∧ ∀ range ∈ set, Plain range.fromAddr ∧ Plain range.toAddr
  /-- The prefixes of a set are printed and parsed back, and cover the set. -/
  prefixes_cover : ∀ entries set, lib.buildIPSet entries = .ok set →
    (∀ p ∈ lib.prefixes set, lib.parsePrefix (lib.prefixString p) = .ok p) ∧
    ∃ rebuilt, lib.buildIPSet ((lib.prefixes set).map .cidr) = .ok rebuilt ∧
      lib.ipSetContains rebuilt = lib.ipSetContains set

section RoundTrip

variable {lib : BinaryLibrary}

/-! ### Addresses, prefixes and IP sets -/

theorem decodes_addr (lawful : lib.Lawful) {addr : Addr} (zoneless : addr.withoutZone = addr) :
    Decodes (readAddr lib) (writeAddr addr) (addr.isValid = true) addr := by
  refine (Decodes.uvarint addr.asSlice.length).andThen ?_
  cases addr with
  | invalid => exact (Decodes.fail .invalid [] _).of_iff (by simp [Addr.isValid])
  | v4 bits =>
    have read := (Decodes.full (Addr.v4 bits).asSlice).map lib.addrFromIP
    rw [lawful.addrFromIP_asSlice _ ⟨rfl, rfl⟩] at read
    exact read.of_iff (by simp [Addr.isValid])
  | v6 bits zone =>
    have read := (Decodes.full (Addr.v6 bits zone).asSlice).map lib.addrFromIP
    rw [lawful.addrFromIP_asSlice _ ⟨rfl, zoneless⟩] at read
    exact read.of_iff (by simp [Addr.isValid])

theorem prefixFrom_byte (p : Prefix) : Prefix.prefixFrom p.addr (UInt8.ofInt p.bits).toNat = p := by
  have value : p.bits = (p.bitsPlusOne : Int) - 1 := rfl
  have small := p.addr.bitLen_le
  have range := p.bound
  have byte : (UInt8.ofInt p.bits).toNat = (p.bits % 256).toNat := by
    exact UInt8.toNat_ofNat_of_lt' (show (p.bits % 256).toNat < 256 by omega)
  by_cases invalid : p.bitsPlusOne = 0
  · have outOfRange : ((p.bits % 256).toNat : Int) = 255 := by omega
    have refused : Prefix.prefixFrom p.addr 255 = .prefixFrom p.addr p.bits := by
      unfold Prefix.prefixFrom
      rw [dif_neg (by omega), dif_neg (by omega)]
    rw [byte, outOfRange, refused, Prefix.prefixFrom_addr_bits]
  · have kept : ((p.bits % 256).toNat : Int) = p.bits := by omega
    rw [byte, kept, Prefix.prefixFrom_addr_bits]

theorem decodes_prefix (lawful : lib.Lawful) (p : Prefix) :
    Decodes (readPrefix lib) (writePrefix p) (p.addr.isValid = true) p := by
  have bits := (Decodes.byte (.ofInt p.bits)).map fun bits =>
    Prefix.prefixFrom p.addr bits.toNat
  rw [prefixFrom_byte] at bits
  refine ((decodes_addr lawful p.zoneless).bind ?_).of_iff (and_iff_left trivial)
  exact bits

theorem decodes_range (lawful : lib.Lawful) {range : IPRange} (first : Plain range.fromAddr)
    (last : Plain range.toAddr) : Decodes (readIPRange lib) (writeIPRange range) True range := by
  have second := (decodes_addr lawful last.2).map fun toAddr => IPRange.mk range.fromAddr toAddr
  refine ((decodes_addr lawful first.2).bind ?_).of_iff (iff_of_true ⟨first.1, last.1⟩ trivial)
  exact second

theorem decodes_ipSet (lawful : lib.Lawful) {entries : List IPSetEntry} {set : IPSet}
    (built : lib.buildIPSet entries = .ok set) : Decodes (readIPSet lib) (writeIPSet set) True set := by
  obtain ⟨count, plain⟩ := lawful.ranges_plain entries set built
  have length : set.length < 256 ^ 8 := count.trans (by norm_num)
  have ranges : Decodes (readMany (fun _ => readIPRange lib) 0 set.length)
      (set.flatMap writeIPRange) True (set.map id) :=
    (Decodes.many set 0 fun _ range member =>
      decodes_range lawful (plain range member).1 (plain range member).2).of_iff (by simp)
  rw [map_id] at ranges
  exact (Decodes.byte 1).andThen ((Decodes.uint length).andThen ranges)

/-! ### Lists -/

theorem decodes_string (s : Bytes) : Decodes readString (writeString s) True s := by
  have bytes := Decodes.slice_all s fun byte _ => .byte byte
  rwa [map_id'] at bytes

theorem decodes_strings (value : List Bytes) :
    Decodes readRuleItemString (writeSlice writeString value) True (Listable.ofList value) := by
  have strings := Decodes.slice_all value fun s _ => decodes_string s
  rw [map_id'] at strings
  exact strings.map Listable.ofList

theorem decodes_uint16 (value : UInt16) : Decodes readUint16 (writeUint16 value) True value := by
  have bound : value.toNat < 256 ^ 2 := value.toNat_lt
  have number := (Decodes.uint bound).map UInt16.ofNat
  rwa [UInt16.ofNat_toNat] at number

def addressed (p : Prefixable) : Prop := (p.build .none).addr.isValid = true

theorem some_build {p : Prefixable} (valid : addressed p) : some (p.build .none) = p := by
  cases p with
  | none => cases valid
  | some p => rfl

theorem decodes_prefixes (lawful : lib.Lawful) (value : List Prefixable) :
    Decodes (readPrefixes lib) (writePrefixes value) (∀ p ∈ value, addressed p)
      (value.map fun p => some (p.build .none)) := by
  have read := Decodes.slice value fun p _ => decodes_prefix lawful (p.build .none)
  have mapped := read.map (map some)
  rw [map_map] at mapped
  exact mapped

theorem decodes_entry (lawful : lib.Lawful) (entry : UInt8 × Listable Prefixable) :
    Decodes (readInterfaceEntry lib) (writeInterfaceEntry entry) (∀ p ∈ entry.2.items, addressed p)
      (entry.1, Listable.ofList (entry.2.items.map fun p => some (p.build .none))) := by
  refine (Decodes.byte entry.1).andThen ?_
  exact (decodes_prefixes lawful entry.2.items).map fun value => (entry.1, Listable.ofList value)

/-! ### The items of a default rule -/

variable {recover : Bool}

/-- In front of anything that the loop of the reader can go on with, `bytes` is read into the rule
as `effect` says, if `good` holds, and is refused otherwise. -/
def Chain (lib : BinaryLibrary) (recover : Bool) (bytes : Bytes) (good : Prop)
    (effect : DefaultHeadlessRule lib → DefaultHeadlessRule lib) :
    Prop :=
  ∀ (needed : Nat) (tail : Bytes) (tailGood : Prop)
    (value : DefaultHeadlessRule lib → DefaultHeadlessRule lib),
    (∀ rounds, needed ≤ rounds → ∀ last rule,
      Decodes (readItems lib recover rounds last rule) tail tailGood (value rule)) →
    ∀ rounds, needed + bytes.length ≤ rounds → ∀ last rule,
      Decodes (readItems lib recover rounds last rule) (bytes ++ tail) (good ∧ tailGood) (value (effect rule))

theorem Chain.nil : Chain lib recover [] True id := by
  intro needed tail tailGood value continues rounds enough last rule
  exact (continues rounds enough last rule).of_iff (and_iff_right trivial).symm

theorem Chain.append {first second : Bytes} {firstGood secondGood : Prop} {firstEffect secondEffect :
      DefaultHeadlessRule lib → DefaultHeadlessRule lib} (one : Chain lib recover first firstGood firstEffect)
    (two : Chain lib recover second secondGood secondEffect) :
    Chain lib recover (first ++ second) (firstGood ∧ secondGood) (secondEffect ∘ firstEffect) := by
  intro needed tail tailGood value continues rounds enough last rule
  rw [length_append] at enough
  have rest := one (needed + second.length) (second ++ tail) (secondGood ∧ tailGood)
    (value ∘ secondEffect) (two needed tail tailGood value continues) rounds (by omega) last rule
  rw [← append_assoc] at rest
  exact rest.of_iff and_assoc.symm

variable {itemType : ItemType} {value : List Bytes} {effect : DefaultHeadlessRule lib → DefaultHeadlessRule lib}

open ItemType

theorem Chain.item (notFinal : itemType ≠ .final) {α : Type} {reader : Reader α} {payload : Bytes} {good : Prop}
    {read : α} (set : α → DefaultHeadlessRule lib → DefaultHeadlessRule lib) (decodes : Decodes reader payload good read)
    (reads : ∀ rule, readItem lib recover itemType rule = reader >>= fun value => pure (set value rule)) :
    Chain lib recover (itemType.toByte :: payload) good (set read) := by
  intro needed tail tailGood value continues rounds enough last rule
  obtain ⟨rounds, rfl⟩ : ∃ left, rounds = left + 1 :=
    Nat.exists_eq_succ_of_ne_zero (by simp at enough; omega)
  have after := continues rounds (by simp at enough; omega) itemType.toByte (set read rule)
  have item := decodes.map (set · rule)
  rw [← reads] at item
  refine (Decodes.byte itemType.toByte).andThen ?_
  rw [ofByte_toByte]
  refine item.bind ?_
  rw [if_neg notFinal]
  exact after

theorem decodes_final (invert : Bool) {rounds : Nat} (enough : 1 ≤ rounds) (last : UInt8)
    (rule : DefaultHeadlessRule lib) :
    Decodes (readItems lib recover rounds last rule) [final.toByte, writeBool invert] True
      { rule with invert := invert } := by
  obtain ⟨-, rfl⟩ : ∃ left, rounds = left + 1 :=
    Nat.exists_eq_succ_of_ne_zero (by omega)
  refine .of_accepts fun rest => ?_
  cases invert <;> rfl

/-- One item of a default rule: how it is written, when it can be read, and what reading it does. -/
structure Step (lib : BinaryLibrary) where
  writer : Except Error Bytes
  good : Prop
  effect : DefaultHeadlessRule lib → DefaultHeadlessRule lib

def pick {α : Type} (written : Bool) (value old : α) : α := if written then value else old

/-- The step of an item that is left out unless `condition` holds. -/
def Step.when (condition : Bool) (writer : Except Error Bytes) (good : Prop)
    (effect : Bool → DefaultHeadlessRule lib → DefaultHeadlessRule lib) : Step lib where
  writer := writeWhen condition writer
  good := condition = true → good
  effect := effect condition

def Step.Sound (recover : Bool) (step : Step lib) : Prop :=
  ∀ bytes, step.writer = .ok bytes → Chain lib recover bytes step.good step.effect

open Step

/-- An item is sound if its tag and payload are read in one round, and nothing happens without it. -/
theorem Step.sound_when {condition : Bool} {writer : Except Error Bytes} {good : Prop}
    {effect : Bool → DefaultHeadlessRule lib → DefaultHeadlessRule lib} (omitted : effect false = id)
    (written : ∀ bytes, writer = .ok bytes → Chain lib recover bytes good (effect true)) :
    (when condition writer good effect).Sound recover := by
  intro bytes ok
  cases condition with
  | false =>
    obtain rfl : [] = bytes := Except.ok.inj ok
    have skipped : (when false writer good effect).good ↔ True := by simp [when]
    rw [propext skipped]
    show Chain lib recover [] True (effect false)
    rw [omitted]
    exact .nil
  | true =>
    have held : (when true writer good effect).good ↔ good := by simp [when]
    rw [propext held]
    exact written bytes ok

theorem chain_since {version generateVersion : UInt8} {text : String} {writer : Except Error Bytes}
    {good : Prop} (written : ∀ bytes, writer = .ok bytes → Chain lib recover bytes good effect) :
    ∀ bytes, writeSince version generateVersion text writer = .ok bytes → Chain lib recover bytes good effect := by
  intro bytes ok
  unfold writeSince at ok
  split at ok
  · exact nomatch ok
  · exact written bytes ok

theorem chain_ok {bytes : Bytes} {good : Prop} (chain : Chain lib recover bytes good effect) :
    ∀ bytes', (Except.ok bytes : Except Error Bytes) = .ok bytes' → Chain lib recover bytes' good effect := by
  intro bytes' ok
  obtain rfl := Except.ok.inj ok
  exact chain

/-- **The items of a rule, one after another.** -/
theorem chain_steps (steps : List (Step lib)) (sound : ∀ step ∈ steps, step.Sound recover)
    {parts : List Bytes} (written : (steps.map writer).mapM id = .ok parts) :
    Chain lib recover parts.flatten (∀ step ∈ steps, step.good)
      fun rule => steps.foldl (fun rule step => step.effect rule) rule := by
  induction steps generalizing parts with
  | nil =>
    obtain rfl : [] = parts := Except.ok.inj written
    have none : (∀ step ∈ ([] : List (Step lib)), step.good) ↔ True := by simp
    rw [propext none]
    exact .nil
  | cons step steps ih =>
    obtain ⟨soundHead, soundTail⟩ := forall_mem_cons.mp sound
    obtain ⟨bytes, rest, head, tail, rfl⟩ := mapM_id_cons_eq_ok_iff.mp written
    rw [propext forall_mem_cons]
    exact (soundHead bytes head).append (ih soundTail tail)

def Step.strings (itemType : ItemType) (value : List Bytes)
    (get : DefaultHeadlessRule lib → Listable Bytes)
    (set : DefaultHeadlessRule lib → Listable Bytes → DefaultHeadlessRule lib) :
    Step lib :=
  .when (value.length > 0) (writeRuleItemString itemType value) True
    fun written read => set read (pick written (.ofList value) (get read))

theorem Step.sound_strings (notFinal : itemType ≠ .final) {get : DefaultHeadlessRule lib → Listable Bytes}
    {set : DefaultHeadlessRule lib → Listable Bytes → DefaultHeadlessRule lib}
    (kept : ∀ rule, set rule (get rule) = rule) (reads : ∀ rule, readItem lib recover itemType rule =
      readRuleItemString >>= fun value => pure (set rule value)) : (strings itemType value get set).Sound recover :=
  sound_when (funext kept)
    (chain_ok (.item notFinal (fun value rule => set rule value) (decodes_strings value) reads))

/-- A list of numbers; `wrap` is the slice that the reader makes of it. -/
def Step.uint16s (itemType : ItemType) (value : List UInt16)
    (wrap : List UInt16 → Listable UInt16)
    (get : DefaultHeadlessRule lib → Listable UInt16)
    (set : DefaultHeadlessRule lib → Listable UInt16 → DefaultHeadlessRule lib) : Step lib :=
  .when (value.length > 0) (writeRuleItemUint16 itemType value) True
    fun written read => set read (pick written (wrap value) (get read))

theorem Step.sound_uint16s (notFinal : itemType ≠ .final) {value : List UInt16}
    {wrap : List UInt16 → Listable UInt16} {get : DefaultHeadlessRule lib → Listable UInt16}
    {set : DefaultHeadlessRule lib → Listable UInt16 →
      DefaultHeadlessRule lib} (kept : ∀ rule, set rule (get rule) = rule)
    (reads : ∀ rule, readItem lib recover itemType rule =
      readSlice readUint16 >>= fun value => pure (set rule (wrap value))) :
    (uint16s itemType value wrap get set).Sound recover :=
  sound_when (funext kept)
    (chain_ok (.item notFinal (fun value rule => set rule (wrap value))
      (by simpa using Decodes.slice_all value fun n _ => decodes_uint16 n) reads))

def ipSetOf (lib : BinaryLibrary) (value : List Bytes) : IPSet :=
  match parseIPSet lib value with
  | .ok ipSet => ipSet
  | .error _ => []

theorem built_of_parse {ipSet : IPSet} (parsed : parseIPSet lib value = .ok ipSet) :
    ∃ entries, lib.buildIPSet entries = .ok ipSet := by
  obtain ⟨entries, -, built⟩ := bind_eq_ok_iff.mp parsed
  exact ⟨entries, built⟩

theorem writeRuleItemCIDR_eq_ok {bytes : Bytes} (written : writeRuleItemCIDR lib itemType value = .ok bytes) :
    parseIPSet lib value = .ok (ipSetOf lib value) ∧ bytes = itemType.toByte :: writeIPSet (ipSetOf lib value) := by
  obtain ⟨ipSet, parsed, done⟩ := bind_eq_ok_iff.mp written
  have same : ipSetOf lib value = ipSet := by
    unfold ipSetOf
    rw [parsed]
  rw [same]
  exact ⟨parsed, (Except.ok.inj done).symm⟩

def Step.cidr (itemType : ItemType) (text : String) (value : List Bytes)
    (set : IPSet → Bool → DefaultHeadlessRule lib → DefaultHeadlessRule lib) : Step lib :=
  .when (value.length > 0) (wrapError text (writeRuleItemCIDR lib itemType value)) True (set (ipSetOf lib value))

variable (lawful : lib.Lawful)

include lawful

theorem Step.sound_cidr (notFinal : itemType ≠ .final) {text : String}
    {set : IPSet → Bool → DefaultHeadlessRule lib → DefaultHeadlessRule lib}
    (omitted : ∀ ipSet, set ipSet false = id) (reads : ∀ rule, readItem lib recover itemType rule =
      readIPSet lib >>= fun ipSet => pure (set ipSet true rule)) : (cidr itemType text value set).Sound recover := by
  refine sound_when (omitted _) fun bytes ok => ?_
  obtain ⟨parsed, rfl⟩ := writeRuleItemCIDR_eq_ok (wrapError_eq_ok_iff.mp ok)
  obtain ⟨entries, built⟩ := built_of_parse parsed
  exact .item notFinal (set · true) (decodes_ipSet lawful built) reads

omit lawful in
theorem chain_flag (notFinal : itemType ≠ .final) {set : DefaultHeadlessRule lib → DefaultHeadlessRule lib}
    (reads : ∀ rule, readItem lib recover itemType rule = pure (set rule)) :
    Chain lib recover [itemType.toByte] True set :=
  .item notFinal (fun _ => set) (.pure ()) reads

noncomputable def storedMatcher (lawful : lib.Lawful) (domains suffixes : List Bytes) (legacy : Bool) : lib.Matcher :=
  Classical.choose (lawful.readMatcher_write domains suffixes legacy)

noncomputable def storedAdGuardMatcher (lawful : lib.Lawful) (lines : List Bytes) : lib.AdGuardMatcher :=
  Classical.choose (lawful.readAdGuardMatcher_write lines)

def setDomainMatcher (recover : Bool) (matcher : lib.Matcher) (written : Bool)
    (rule : DefaultHeadlessRule lib) : DefaultHeadlessRule lib :=
  { rule with
    domainMatcher := pick written (some matcher) rule.domainMatcher
    domain := pick (written && recover) (.ofList (lib.dumpMatcher matcher).1) rule.domain
    domainSuffix :=
      pick (written && recover) (.ofList (lib.dumpMatcher matcher).2) rule.domainSuffix }

def setAdGuardMatcher (recover : Bool) (matcher : lib.AdGuardMatcher) (written : Bool)
    (rule : DefaultHeadlessRule lib) : DefaultHeadlessRule lib :=
  { rule with
    adGuardDomainMatcher := pick written (some matcher) rule.adGuardDomainMatcher
    adGuardDomain :=
      pick (written && recover) (.ofList (lib.dumpAdGuardMatcher matcher)) rule.adGuardDomain }

def recoveredCIDR (lib : BinaryLibrary) (ipSet : IPSet) : Listable Bytes :=
  some ((lib.prefixes ipSet).map lib.prefixString)

def setSourceIPSet (recover : Bool) (ipSet : IPSet) (written : Bool)
    (rule : DefaultHeadlessRule lib) : DefaultHeadlessRule lib :=
  { rule with
    sourceIPSet := pick written (some ipSet) rule.sourceIPSet
    sourceIPCIDR := pick (written && recover) (recoveredCIDR lib ipSet) rule.sourceIPCIDR }

def setIPSet (recover : Bool) (ipSet : IPSet) (written : Bool)
    (rule : DefaultHeadlessRule lib) : DefaultHeadlessRule lib :=
  { rule with
    ipSet := pick written (some ipSet) rule.ipSet
    ipCIDR := pick (written && recover) (recoveredCIDR lib ipSet) rule.ipCIDR }

def storedPrefixes (value : List Prefixable) : List Prefixable :=
  value.map fun p => some (p.build .none)

def storedEntries (entries : List (UInt8 × Listable Prefixable)) : List (UInt8 × Listable Prefixable) :=
  entries.map fun entry => (entry.1, .ofList (storedPrefixes entry.2.items))

def storedMap (entries : List (UInt8 × Listable Prefixable)) : TypedMap UInt8 (Listable Prefixable) :=
  (storedEntries entries).foldl (fun map entry => map.put entry.1 entry.2) .empty

/-- Reading `network_interface_address`. -/
def setInterfaceAddress (entries : List (UInt8 × Listable Prefixable)) (written : Bool)
    (rule : DefaultHeadlessRule lib) : DefaultHeadlessRule lib :=
  { rule with
    networkInterfaceAddress :=
      pick written (some (storedMap entries)) rule.networkInterfaceAddress }

/-- Reading `default_interface_address`. -/
def setDefaultInterfaceAddress (value : List Prefixable) (written : Bool)
    (rule : DefaultHeadlessRule lib) : DefaultHeadlessRule lib :=
  { rule with
    defaultInterfaceAddress :=
      pick written (.ofList (storedPrefixes value)) rule.defaultInterfaceAddress }

/-- Reading `network_type`. -/
def setNetworkType (value : List UInt8) (written : Bool) (rule : DefaultHeadlessRule lib) : DefaultHeadlessRule lib :=
  { rule with networkType := pick written (.ofList value) rule.networkType }

theorem chain_interface (entries : List (UInt8 × Listable Prefixable)) :
    Chain lib recover (networkInterfaceAddress.toByte :: writeSlice writeInterfaceEntry entries)
      (∀ entry ∈ entries, ∀ p ∈ entry.2.items, addressed p) (setInterfaceAddress entries true) := by
  have slice := Decodes.slice entries fun entry _ => decodes_entry lawful entry
  exact .item (show networkInterfaceAddress ≠ .final by decide) (fun read rule => { rule with
    networkInterfaceAddress := some (read.foldl (fun map entry => map.put entry.1 entry.2) .empty) }) slice fun _ => rfl

theorem chain_defaultInterface (value : List Prefixable) :
    Chain lib recover (defaultInterfaceAddress.toByte :: writePrefixes value)
      (∀ p ∈ value, addressed p) (setDefaultInterfaceAddress value true) :=
  .item (by decide) (fun value rule => { rule with defaultInterfaceAddress := .ofList value })
    (decodes_prefixes lawful value) fun _ => rfl

def hasDomain (rule : DefaultHeadlessRule lib) : Bool :=
  rule.domain.items.length > 0 || rule.domainSuffix.items.length > 0

noncomputable def ruleMatcher (lawful : lib.Lawful) (rule : DefaultHeadlessRule lib) (version : UInt8) : lib.Matcher :=
  storedMatcher lawful rule.domain.items rule.domainSuffix.items (decide (version = ruleSetVersion1))

noncomputable def ruleSteps (lawful : lib.Lawful) (recover : Bool)
    (rule : DefaultHeadlessRule lib) (version : UInt8) : List (Step lib) :=
  [ .uint16s .queryType rule.queryType.items some (·.queryType) fun read value => { read with queryType := value },
    .strings .network rule.network.items (·.network) fun read value => { read with network := value },
    .when (hasDomain rule)
      (.ok (ItemType.domain.toByte :: lib.writeMatcher (lib.newMatcher rule.domain.items
        rule.domainSuffix.items (decide (version = ruleSetVersion1))))) True
      (setDomainMatcher recover (ruleMatcher lawful rule version)),
    .strings .domainKeyword rule.domainKeyword.items (·.domainKeyword)
      fun read value => { read with domainKeyword := value },
    .strings .domainRegex rule.domainRegex.items (·.domainRegex) fun read value => { read with domainRegex := value },
    .cidr .sourceIPCIDR "source_ip_cidr" rule.sourceIPCIDR.items (setSourceIPSet recover),
    .cidr .ipCIDR "ipcidr" rule.ipCIDR.items (setIPSet recover),
    .uint16s .sourcePort rule.sourcePort.items .ofList (·.sourcePort)
      fun read value => { read with sourcePort := value },
    .strings .sourcePortRange rule.sourcePortRange.items (·.sourcePortRange)
      fun read value => { read with sourcePortRange := value },
    .uint16s .port rule.port.items .ofList (·.port) fun read value => { read with port := value },
    .strings .portRange rule.portRange.items (·.portRange) fun read value => { read with portRange := value },
    .strings .processName rule.processName.items (·.processName) fun read value => { read with processName := value },
    .strings .processPath rule.processPath.items (·.processPath) fun read value => { read with processPath := value },
    .strings .processPathRegex rule.processPathRegex.items (·.processPathRegex)
      fun read value => { read with processPathRegex := value },
    .strings .packageName rule.packageName.items (·.packageName) fun read value => { read with packageName := value },
    .when (rule.networkType.items.length > 0)
      (writeSince ruleSetVersion3 version
        "`network_type` rule item is only supported in version 3 or later"
        (writeRuleItemUint8 .networkType rule.networkType.items)) True
      (setNetworkType rule.networkType.items),
    .when rule.networkIsExpensive
      (writeSince ruleSetVersion3 version
        "`network_is_expensive` rule item is only supported in version 3 or later"
        (.ok [ItemType.networkIsExpensive.toByte])) True
      fun written read => { read with
        networkIsExpensive := pick written true read.networkIsExpensive },
    .when rule.networkIsConstrained
      (writeSince ruleSetVersion3 version
        "`network_is_constrained` rule item is only supported in version 3 or later"
        (.ok [ItemType.networkIsConstrained.toByte])) True
      fun written read => { read with
        networkIsConstrained := pick written true read.networkIsConstrained },
    .when (rule.interfaceEntries.length > 0)
      (writeSince ruleSetVersion4 version
        "`network_interface_address` rule item is only supported in version 4 or later"
        (.ok (ItemType.networkInterfaceAddress.toByte :: writeSlice writeInterfaceEntry rule.interfaceEntries)))
      (∀ entry ∈ rule.interfaceEntries, ∀ p ∈ entry.2.items, addressed p)
      (setInterfaceAddress rule.interfaceEntries),
    .when (rule.defaultInterfaceAddress.items.length > 0)
      (writeSince ruleSetVersion4 version
        "`default_interface_address` rule item is only supported in version 4 or later"
        (.ok (ItemType.defaultInterfaceAddress.toByte :: writePrefixes rule.defaultInterfaceAddress.items)))
      (∀ p ∈ rule.defaultInterfaceAddress.items, addressed p)
      (setDefaultInterfaceAddress rule.defaultInterfaceAddress.items),
    .strings .wifiSSID rule.wifiSSID.items (·.wifiSSID) fun read value => { read with wifiSSID := value },
    .strings .wifiBSSID rule.wifiBSSID.items (·.wifiBSSID) fun read value => { read with wifiBSSID := value },
    .when (rule.adGuardDomain.items.length > 0)
      (writeSince ruleSetVersion2 version
        "AdGuard rule items is only supported in version 2 or later"
        (.ok (ItemType.adGuardDomain.toByte ::
          lib.writeAdGuardMatcher (lib.newAdGuardMatcher rule.adGuardDomain.items)))) True
      (setAdGuardMatcher recover (storedAdGuardMatcher lawful rule.adGuardDomain.items)) ]

section

variable (rule : DefaultHeadlessRule lib)

include rule

theorem sound_ruleSteps (version : UInt8) : ∀ step ∈ ruleSteps lawful recover rule version, step.Sound recover := by
  simp only [ruleSteps, forall_mem_cons, not_mem_nil, false_imp_iff, implies_true, and_true]
  refine ⟨?_, ?_, ?_, ?_, ?_, ?_, ?_, ?_, ?_, ?_, ?_, ?_, ?_, ?_, ?_, ?_, ?_, ?_, ?_, ?_, ?_, ?_, ?_⟩
  all_goals first
    | exact sound_strings (by decide) (fun _ => rfl) fun _ => rfl
    | exact sound_uint16s (by decide) (fun _ => rfl) fun _ => rfl
    | exact sound_cidr lawful (by decide) (fun _ => rfl) fun _ => by cases recover <;> rfl
    | exact sound_when rfl (chain_ok (.item (by decide) (setDomainMatcher recover · true)
        (.of_accepts (Classical.choose_spec (lawful.readMatcher_write ..)).1) fun _ => by cases recover <;> rfl))
    | exact sound_when rfl (chain_since (chain_ok (chain_flag (by decide) fun _ => rfl)))
    | exact sound_when rfl (chain_since (chain_ok (.item (by decide) (setNetworkType · true) (decodes_string _) fun _ => rfl)))
    | exact sound_when rfl (chain_since (chain_ok (chain_interface lawful _)))
    | exact sound_when rfl (chain_since (chain_ok (chain_defaultInterface lawful _)))
    | exact sound_when rfl (chain_since (chain_ok (.item (by decide) (setAdGuardMatcher recover · true)
        (.of_accepts (Classical.choose_spec (lawful.readAdGuardMatcher_write _)).1) fun _ => by cases recover <;> rfl)))

noncomputable def storedDefault (lawful : lib.Lawful) (recover : Bool) (version : UInt8)
    (rule : DefaultHeadlessRule lib) : DefaultHeadlessRule lib where
  queryType := pick (rule.queryType.items.length > 0) (some rule.queryType.items) none
  network := pick (rule.network.items.length > 0) (.ofList rule.network.items) none
  domainKeyword := pick (rule.domainKeyword.items.length > 0) (.ofList rule.domainKeyword.items) none
  domainRegex := pick (rule.domainRegex.items.length > 0) (.ofList rule.domainRegex.items) none
  sourcePort := pick (rule.sourcePort.items.length > 0) (.ofList rule.sourcePort.items) none
  sourcePortRange := pick (rule.sourcePortRange.items.length > 0) (.ofList rule.sourcePortRange.items) none
  port := pick (rule.port.items.length > 0) (.ofList rule.port.items) none
  portRange := pick (rule.portRange.items.length > 0) (.ofList rule.portRange.items) none
  processName := pick (rule.processName.items.length > 0) (.ofList rule.processName.items) none
  processPath := pick (rule.processPath.items.length > 0) (.ofList rule.processPath.items) none
  processPathRegex := pick (rule.processPathRegex.items.length > 0) (.ofList rule.processPathRegex.items) none
  packageName := pick (rule.packageName.items.length > 0) (.ofList rule.packageName.items) none
  networkType := pick (rule.networkType.items.length > 0) (.ofList rule.networkType.items) none
  wifiSSID := pick (rule.wifiSSID.items.length > 0) (.ofList rule.wifiSSID.items) none
  wifiBSSID := pick (rule.wifiBSSID.items.length > 0) (.ofList rule.wifiBSSID.items) none
  domainMatcher := pick (hasDomain rule) (some (ruleMatcher lawful rule version)) none
  domain := pick (hasDomain rule && recover) (.ofList (lib.dumpMatcher (ruleMatcher lawful rule version)).1) none
  domainSuffix := pick (hasDomain rule && recover) (.ofList (lib.dumpMatcher (ruleMatcher lawful rule version)).2) none
  sourceIPSet := pick (rule.sourceIPCIDR.items.length > 0) (some (ipSetOf lib rule.sourceIPCIDR.items)) none
  sourceIPCIDR := pick (decide (rule.sourceIPCIDR.items.length > 0) && recover)
    (recoveredCIDR lib (ipSetOf lib rule.sourceIPCIDR.items)) none
  ipSet := pick (rule.ipCIDR.items.length > 0) (some (ipSetOf lib rule.ipCIDR.items)) none
  ipCIDR := pick (decide (rule.ipCIDR.items.length > 0) && recover)
    (recoveredCIDR lib (ipSetOf lib rule.ipCIDR.items)) none
  networkIsExpensive := pick rule.networkIsExpensive true false
  networkIsConstrained := pick rule.networkIsConstrained true false
  networkInterfaceAddress := pick (rule.interfaceEntries.length > 0) (some (storedMap rule.interfaceEntries)) none
  defaultInterfaceAddress := pick (rule.defaultInterfaceAddress.items.length > 0)
    (.ofList (storedPrefixes rule.defaultInterfaceAddress.items)) none
  adGuardDomainMatcher := pick (rule.adGuardDomain.items.length > 0)
    (some (storedAdGuardMatcher lawful rule.adGuardDomain.items)) none
  adGuardDomain := pick (decide (rule.adGuardDomain.items.length > 0) && recover)
    (.ofList (lib.dumpAdGuardMatcher (storedAdGuardMatcher lawful rule.adGuardDomain.items))) none
  invert := rule.invert

def nullAddress (rule : DefaultHeadlessRule lib) : Bool :=
  (rule.interfaceEntries.any fun entry =>
      entry.2.items.any fun p => !(p.build .none).addr.isValid) ||
    rule.defaultInterfaceAddress.items.any fun p => !(p.build .none).addr.isValid

omit lawful in
theorem nullAddress_eq_false_iff : nullAddress rule = false ↔
      (∀ entry ∈ rule.interfaceEntries, ∀ p ∈ entry.2.items, addressed p) ∧
        ∀ p ∈ rule.defaultInterfaceAddress.items, addressed p := by
  unfold nullAddress addressed
  simp

theorem good_ruleSteps (version : UInt8) :
    (∀ step ∈ ruleSteps lawful recover rule version, step.good) ↔ nullAddress rule = false := by
  have nonempty : ∀ {α : Type} (values : List α) (P : α → Prop),
      (decide (values.length > 0) = true → ∀ value ∈ values, P value) ↔ ∀ value ∈ values, P value := by
    intro α values P
    refine ⟨fun all value member => all ?_ value member, fun all _ => all⟩
    exact decide_eq_true (length_pos_of_mem member)
  rw [nullAddress_eq_false_iff]
  simp only [ruleSteps, strings, uint16s, cidr, when, forall_mem_cons,
    not_mem_nil, false_imp_iff, implies_true, and_true, true_and, nonempty]

end

theorem decodes_defaultRule (recover : Bool) {rule : DefaultHeadlessRule lib}
    {version : UInt8} {items : List Bytes} (written : (itemWriters lib rule version).mapM id = .ok items) :
    Decodes (readDefaultRule lib recover) (items.flatten ++ [final.toByte, writeBool rule.invert])
      (nullAddress rule = false) (storedDefault lawful recover version rule) := by
  have chain := chain_steps (ruleSteps lawful recover rule version) (sound_ruleSteps lawful rule version) written
  have loop := chain 1 _ True (fun read => { read with invert := rule.invert })
    fun rounds enough last read => decodes_final rule.invert enough last read
  have enough : ∀ rest : Bytes, 1 + items.flatten.length ≤
      (items.flatten ++ [final.toByte, writeBool rule.invert] ++ rest).length + 1 := by
    simp only [length_append]
    omega
  have good : ((∀ step ∈ ruleSteps lawful recover rule version, step.good) ∧ True) ↔ nullAddress rule = false := by
    rw [and_iff_left trivial]
    exact good_ruleSteps lawful rule version
  refine ⟨fun holds rest => ?_, fun bad rest => ?_⟩
  · exact (loop _ (enough rest) 0 {}).accepts (good.mpr holds) rest
  · exact (loop _ (enough rest) 0 {}).rejects (fun holds => bad (good.mp holds)) rest

end RoundTrip

end SingBox.Srs
