/-
**DNS messages** (`github.com/miekg/dns`, and the parts of `dns/client.go` and
`dns/extension_edns0_subnet.go` that only look at a message).

A record keeps the type in its header and its concrete data apart: the client tests now the one,
now the other. Of the data, only what the client looks into is spelled out: addresses, HTTPS hints,
the minimum of an SOA record, CNAME targets and EDNS0 options.

`DnsLibrary` collects what the client calls in other packages. Nothing is assumed about it here.
-/

import SingBox.Adapter.Metadata

namespace SingBox.Dns

open SingBox.Lib

/-! ### Records -/

def typeNone : UInt16 := 0
def typeA : UInt16 := 1
def typeCNAME : UInt16 := 5
def typeAAAA : UInt16 := 28
def typeOPT : UInt16 := 41
def typeHTTPS : UInt16 := 65
def classINET : UInt16 := 1

/-- `dns.Rcode…`. -/
def rcodeSuccess : Int := 0
def rcodeFormatError : Int := 1
def rcodeNameError : Int := 3
def rcodeRefused : Int := 5

structure Question where
  name : Bytes
  (qtype qclass : UInt16)
  deriving DecidableEq, Repr

/-- `dns.EDNS0_SUBNET`. -/
structure EDNS0Subnet where
  family : UInt16
  sourceNetmask : UInt8
  sourceScope : UInt8
  address : Bytes
  deriving DecidableEq, Repr

/-- `dns.EDNS0`: an option of an OPT record. -/
inductive EDNS0 where
  | subnet (option : EDNS0Subnet)
  | ede (infoCode : UInt16)
  | padding (data : Bytes)
  | other (code : UInt16) (data : Bytes)
  deriving DecidableEq, Repr

/-- `EDNS0.Option`. -/
def EDNS0.code : EDNS0 → UInt16
  | subnet _ => 8
  | padding _ => 12
  | ede _ => 15
  | other code _ => code

/-- `dns.SVCBKeyValue`, by its key and its textual value. -/
structure SVCBKeyValue where
  key : UInt16
  text : Bytes
  deriving DecidableEq, Repr

def svcbIPv4Hint : UInt16 := 4
def svcbIPv6Hint : UInt16 := 6

/-- The concrete type of a record, with what the client looks into. -/
inductive RData where
  | a (ip : Bytes)
  | aaaa (ip : Bytes)
  | https (values : List SVCBKeyValue)
  | soa (minttl : UInt32)
  | cname (target : Bytes)
  | opt (options : List EDNS0)
  | other (data : Bytes)
  deriving DecidableEq, Repr

/-- `dns.RR_Header`. An OPT record keeps its size in the class and its flags in the TTL. -/
structure Header where
  name : Bytes
  (rrtype rrclass : UInt16)
  ttl : UInt32
  deriving DecidableEq, Repr

structure RR where
  header : Header
  data : RData
  deriving DecidableEq, Repr

namespace RR

def isOPT (record : RR) : Bool := record.header.rrtype == typeOPT

def setTTL (record : RR) (ttl : UInt32) : RR := { record with header.ttl := ttl }

end RR

/-! ### Messages -/

structure MsgHdr where
  id : UInt16 := 0
  response : Bool := false
  opcode : Int := 0
  (authoritative truncated recursionDesired recursionAvailable zero authenticatedData : Bool := false)
  checkingDisabled : Bool := false
  rcode : Int := 0
  deriving DecidableEq, Repr

structure Msg extends MsgHdr where
  compress : Bool := false
  question : List Question := []
  (answer ns extra : List RR := [])
  deriving DecidableEq, Repr

namespace Msg

/-- The three record lists that the client loops over, one after another. -/
def records (message : Msg) : List RR := message.answer ++ message.ns ++ message.extra

def mapRecords (f : RR → RR) (message : Msg) : Msg :=
  { message with
    answer := message.answer.map f
    ns := message.ns.map f
    extra := message.extra.map f }

/-- The loops that change the TTL of every record but the OPT records. -/
def mapTTL (f : UInt32 → UInt32) : Msg → Msg :=
  mapRecords fun record => if record.isOPT then record else record.setTTL (f record.header.ttl)

@[simp] theorem records_mapRecords (f : RR → RR) (message : Msg) :
    (message.mapRecords f).records = message.records.map f := by
  simp only [records, mapRecords, List.map_append]

theorem mem_mapTTL {f : UInt32 → UInt32} {message : Msg} {record : RR}
    (member : record ∈ (message.mapTTL f).records) (counted : record.isOPT = false) :
    ∃ original ∈ message.records, original.isOPT = false ∧ record = original.setTTL (f original.header.ttl) := by
  unfold mapTTL at member
  rw [records_mapRecords, List.mem_map] at member
  obtain ⟨original, inside, changed⟩ := member
  cases opt : original.isOPT with
  | true =>
    rw [if_pos opt] at changed
    rw [← changed, opt] at counted
    exact absurd counted (by decide)
  | false =>
    rw [if_neg (by rw [opt]; decide)] at changed
    exact ⟨original, inside, opt, changed.symm⟩

theorem setTTL_mem_mapTTL {f : UInt32 → UInt32} {message : Msg} {record : RR}
    (member : record ∈ message.records) (counted : record.isOPT = false) :
    record.setTTL (f record.header.ttl) ∈ (message.mapTTL f).records := by
  unfold mapTTL
  rw [records_mapRecords, List.mem_map]
  refine ⟨record, member, ?_⟩
  rw [if_neg (by rw [counted]; decide)]

@[simp] theorem rcode_mapRecords (f : RR → RR) (message : Msg) : (message.mapRecords f).rcode = message.rcode := rfl

end Msg

structure DnsLibrary where
  /-- `M.AddrFromIP` and `M.ParseAddr`. -/
  addrFromIP : Bytes → Addr
  parseAddr : Bytes → Addr
  /-- `dns.Fqdn` and `dns.IsFqdn`. -/
  fqdn : Bytes → Bytes
  isFqdn : Bytes → Bool
  /-- `Msg.IsEdns0`, by the place of the OPT record in the additional section. -/
  isEdns0 : Msg → Option Nat
  /-- `OPT.Version`, `OPT.UDPSize`, `OPT.Do`, and the record that `Msg.SetEdns0` appends. -/
  optVersion : RR → UInt8
  optUDPSize : RR → UInt16
  optDo : RR → Bool
  edns0Record : UInt16 → Bool → RR
  /-- The end of the lifetime of a `freelru` entry that is added at a time. -/
  lifetimeEnd : Nat → Nat → Nat

section Functions

variable (lib : DnsLibrary)

/-! ### Reading a message -/

def recordAddresses (record : RR) : List Addr :=
  match record.data with
  | .a ip | .aaaa ip => [lib.addrFromIP ip]
  | .https values => values.flatMap fun value =>
      if value.key == svcbIPv4Hint || value.key == svcbIPv6Hint then
        (value.text.splitOn 44).map lib.parseAddr
      else []
  | _ => []

def messageToAddresses (response : Msg) : List Addr :=
  if response.rcode ≠ rcodeSuccess then []
  else response.answer.flatMap (recordAddresses lib)

def fixedResponseStatus (message : Msg) (rcode : Int) : Msg :=
  { id := message.id
    response := true
    authoritative := true
    recursionDesired := true
    recursionAvailable := true
    rcode := rcode
    question := message.question }

/-- `extractNegativeTTL`: of the first SOA record. -/
def extractNegativeTTL (response : Msg) : Option UInt32 :=
  response.ns.findSome? fun record =>
    match record.data with
    | .soa minttl => some (if record.header.ttl < minttl then record.header.ttl else minttl)
    | _ => none

def stripDNSPadding (response : Msg) : Msg :=
  { response with
    extra := response.extra.map fun record =>
      match record.data with
      | .opt options => { record with data := .opt (options.filter fun it => it.code != 12) }
      | _ => record }

/-! ### The client subnet of a message -/

def to4 (ip : Bytes) : Option Bytes :=
  if ip.length = 4 then some ip
  else if ip.length = 16 ∧ ip.take 12 = List.replicate 10 0 ++ [0xFF, 0xFF] then some (ip.drop 12)
  else none

def clientSubnetFromOption (option : EDNS0Subnet) : Option Prefix :=
  if option.sourceScope ≠ 0 then none
  else if option.family = 1 then
    if option.sourceNetmask > 32 then none
    else match to4 option.address with
      | none => none
      | some addressBytes =>
        some (Prefix.prefixFrom (Addr.fromSlice addressBytes) option.sourceNetmask.toNat).masked
  else if option.family = 2 then
    if option.sourceNetmask > 128 then none
    else
      let address := Addr.fromSlice option.address
      if !address.isValid || address.is4 then none
      else some (Prefix.prefixFrom address option.sourceNetmask.toNat).masked
  else none

def subnetOption? (record : RR) : Option EDNS0Subnet :=
  match record.data with
  | .opt options => options.findSome? fun option =>
      match option with
      | .subnet subnet => some subnet
      | _ => none
  | _ => none

/-- `extractClientSubnet`: the first subnet option decides. -/
def extractClientSubnet (message : Msg) : Option Prefix :=
  match message.extra.findSome? subnetOption? with
  | none => none
  | some option => clientSubnetFromOption option

def setSubnetOption (clientSubnet : Prefix) : List EDNS0 → List EDNS0
  | [] => [.subnet (subnetOf ⟨0, 0, 0, []⟩)]
  | .subnet option :: rest => .subnet (subnetOf option) :: rest
  | option :: rest => option :: setSubnetOption clientSubnet rest
where
  subnetOf (option : EDNS0Subnet) : EDNS0Subnet :=
    { option with
      family := if clientSubnet.addr.is4 then 1 else 2
      sourceNetmask := UInt8.ofInt clientSubnet.bits
      address := clientSubnet.addr.asSlice }

def setRecordSubnet (clientSubnet : Prefix) (record : RR) : RR :=
  match record.data with
  | .opt options => { record with data := .opt (setSubnetOption clientSubnet options) }
  | _ => record

def newOPT (rrclass : UInt16) (options : List EDNS0) : RR :=
  { header := { name := [46], rrtype := typeOPT, rrclass := rrclass, ttl := 0 }
    data := .opt options }

/-- `SetClientSubnet`, on a copy of the message: in the first OPT record with a subnet option, or
else in the last record if that is an OPT record, or else in a new one. -/
def setClientSubnet (message : Msg) (clientSubnet : Prefix) : Msg :=
  match message.extra.findIdx? fun record => (subnetOption? record).isSome with
  | some i => { message with extra := message.extra.modify i (setRecordSubnet clientSubnet) }
  | none =>
    match message.extra.getLast?.map RR.data with
    | some (.opt _) =>
      { message with
        extra := message.extra.modify (message.extra.length - 1) (setRecordSubnet clientSubnet) }
    | _ => { message with extra := message.extra ++ [newOPT 0 (setSubnetOption clientSubnet [])] }

def prepareExchangeMessage (message : Msg) (clientSubnet : Prefix) : Msg :=
  if clientSubnet.isValid then setClientSubnet message clientSubnet else message

def isSimpleDNSRequest (message : Msg) (clientSubnet : Prefix) : Bool :=
  if message.question.length ≠ 1 ∨ message.ns.length ≠ 0 then false
  else
    match message.extra with
    | [] => !clientSubnet.isValid
    | [record] =>
      match record.data with
      | .opt options =>
        if record.header.ttl ≠ 0 then false
        else if !clientSubnet.isValid then record.header.rrclass > 0 && options.isEmpty
        else
          match options with
          | [.subnet option] => decide (clientSubnetFromOption option = some clientSubnet)
          | _ => false
      | _ => false
    | _ => false

/-! ### Round robin -/

def reverseRotateSlice {α : Type} (slice : List α) (steps : Nat) : List α :=
  if slice.length ≤ 1 then slice
  else
    let steps := steps % slice.length
    slice.drop (slice.length - steps) ++ slice.take (slice.length - steps)

def removeAnswersOfType (answers : List RR) (rrType : UInt16) : List RR :=
  answers.filter fun record => record.header.rrtype != rrType

def RR.isA (record : RR) : Bool :=
  match record.data with
  | .a _ => true
  | _ => false

def RR.isAAAA (record : RR) : Bool :=
  match record.data with
  | .aaaa _ => true
  | _ => false

/-- One half of `RoundRobin`: the answers and the new index. -/
def rotateAnswers (rrType : UInt16) (kind : List RR) (index : Nat) (answers : List RR) : List RR × Nat :=
  if kind.length > 1 then
    let newIndex := (index + 1) % kind.length
    (removeAnswersOfType answers rrType ++ reverseRotateSlice kind newIndex, newIndex)
  else (answers, index)

end Functions

/-- The libraries on plain names and on messages without address hints. -/
def plainLibrary : DnsLibrary where
  addrFromIP := Addr.fromSlice
  parseAddr _ := .invalid
  fqdn name := if name.getLast? = some 46 then name else name ++ [46]
  isFqdn name := name.getLast? = some 46
  isEdns0 message :=
    (message.extra.reverse.findIdx? RR.isOPT).map fun i => message.extra.length - 1 - i
  optVersion record := ((record.header.ttl >>> 16) &&& 0xFF).toUInt8
  optUDPSize record := record.header.rrclass
  optDo record := record.header.ttl &&& 0x8000 != 0
  edns0Record size dnssec :=
    { header :=
        { name := [46], rrtype := typeOPT, rrclass := size, ttl := if dnssec then 0x8000 else 0 }
      data := .opt [] }
  lifetimeEnd now lifetime := (now + lifetime) / 1000000 * 1000000

def sampleQuestion : Question := ⟨[97, 46], typeA, classINET⟩

/-- A response with one address and a time-to-live of a minute. -/
def sampleResponse : Msg :=
  { response := true
    question := [sampleQuestion]
    answer := [⟨⟨[97, 46], typeA, classINET, 60⟩, .a [10, 0, 0, 1]⟩] }

theorem mem_reverseRotateSlice {α : Type} {slice : List α} {steps : Nat} {x : α} :
    x ∈ reverseRotateSlice slice steps ↔ x ∈ slice := by
  unfold reverseRotateSlice
  split
  · exact .rfl
  · rw [List.mem_append, or_comm, ← List.mem_append, List.take_append_drop]

theorem mem_rotateAnswers {rrType : UInt16} {kind answers : List RR} {index : Nat} {record : RR} :
    record ∈ (rotateAnswers rrType kind index answers).1 ↔ if kind.length > 1 then
        (record ∈ answers ∧ record.header.rrtype ≠ rrType) ∨ record ∈ kind else record ∈ answers := by
  unfold rotateAnswers
  split
  · simp only [List.mem_append, mem_reverseRotateSlice, removeAnswersOfType, List.mem_filter, bne_iff_ne]
  · exact .rfl

end SingBox.Dns
