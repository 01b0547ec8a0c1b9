/-
**Addresses and connection metadata** (`net/netip`, `adapter/inbound.go`).

The `InboundContext` carries the values that rules look at. Part of it is a *rule cache*: flags that the matcher
itself writes, and flags that a rule-set reference sets for the rules below it. `resetRuleMatchCache` and
`resetRuleCache` clear them, and `itemView` is what is left for a rule item to look at.
-/

import SingBox.Lib.Codec

namespace SingBox

open SingBox.Lib

/-- A Go `string` or `[]byte`: any sequence of bytes. -/
abbrev Bytes := List UInt8

/-- `strings.Cut`: what is before and after the first occurrence of a separator. -/
def cut (sep : Bytes) : Bytes → Option (Bytes × Bytes)
  | [] => if sep = [] then some ([], []) else none
  | byte :: s =>
    if sep.isPrefixOf (byte :: s) then some ([], (byte :: s).drop sep.length)
    else (cut sep s).map fun parts => (byte :: parts.1, parts.2)

instance bytesLawfulBEq : LawfulBEq Bytes := inferInstance

/-! ### Addresses -/

/-- `netip.Addr`. The zero value is no address at all; an IPv6 address may carry a zone. -/
inductive Addr where
  | invalid
  | v4 (bits : BitVec 32)
  | v6 (bits : BitVec 128) (zone : Bytes)
  deriving DecidableEq, Repr

namespace Addr

def isValid : Addr → Bool
  | invalid => false
  | _ => true

def bitLen : Addr → Nat
  | invalid => 0
  | v4 _ => 32
  | v6 _ _ => 128

/-- `Addr.WithZone("")`. -/
def withoutZone : Addr → Addr
  | v6 bits _ => v6 bits []
  | other => other

@[simp] theorem withoutZone_withoutZone (addr : Addr) : addr.withoutZone.withoutZone = addr.withoutZone := by
  cases addr <;> rfl

@[simp] theorem bitLen_withoutZone (addr : Addr) : addr.withoutZone.bitLen = addr.bitLen := by
  cases addr <;> rfl

def is4 : Addr → Bool
  | v4 _ => true
  | _ => false

def asSlice : Addr → Bytes
  | invalid => []
  | v4 bits => bigEndian 4 bits.toNat
  | v6 bits _ => bigEndian 16 bits.toNat

/-- `netip.AddrFromSlice`, with the zero value for a slice of another length. -/
def fromSlice (bytes : Bytes) : Addr :=
  if bytes.length = 4 then .v4 (BitVec.ofNat 32 (ofBigEndian bytes))
  else if bytes.length = 16 then .v6 (BitVec.ofNat 128 (ofBigEndian bytes)) []
  else .invalid

theorem fromSlice_asSlice {addr : Addr} (valid : addr.isValid = true)
    (zoneless : addr.withoutZone = addr) : fromSlice addr.asSlice = addr := by
  cases addr with
  | invalid => cases valid
  | v4 bits =>
    have number : ofBigEndian (bigEndian 4 bits.toNat) = bits.toNat := by
      rw [ofBigEndian_bigEndian, show 256 ^ 4 = 2 ^ 32 by decide, Nat.mod_eq_of_lt bits.isLt]
    show fromSlice (bigEndian 4 bits.toNat) = .v4 bits
    rw [fromSlice, length_bigEndian, if_pos rfl, number, BitVec.ofNat_toNat, BitVec.setWidth_eq]
  | v6 bits zone =>
    have number : ofBigEndian (bigEndian 16 bits.toNat) = bits.toNat := by
      rw [ofBigEndian_bigEndian, show 256 ^ 16 = 2 ^ 128 by decide, Nat.mod_eq_of_lt bits.isLt]
    have same : v6 bits [] = .v6 bits zone := zoneless
    show fromSlice (bigEndian 16 bits.toNat) = .v6 bits zone
    rw [fromSlice, length_bigEndian, if_neg (by decide), if_pos rfl, number, BitVec.ofNat_toNat,
      BitVec.setWidth_eq, same]

/-- The address with all but its first `n` bits cleared. -/
def mask (n : Nat) : Addr → Addr
  | invalid => invalid
  | v4 bits => v4 ((bits >>> (32 - n)) <<< (32 - n))
  | v6 bits _ => v6 ((bits >>> (128 - n)) <<< (128 - n)) []

@[simp] theorem bitLen_mask (addr : Addr) (n : Nat) : (addr.mask n).bitLen = addr.bitLen := by
  cases addr <;> rfl

theorem bitLen_le (addr : Addr) : addr.bitLen ≤ 128 := by
  cases addr <;> simp [bitLen]

end Addr

/-- `netip.Prefix`: an address without zone and a bit length, kept as `bits + 1` with `0` for
"invalid", as the library keeps it. The address is not masked. -/
structure Prefix where
  addr : Addr
  bitsPlusOne : Nat
  zoneless : addr.withoutZone = addr
  bound : bitsPlusOne ≤ addr.bitLen + 1
  zero : addr = .invalid → bitsPlusOne = 0
  deriving DecidableEq

namespace Prefix

/-- `netip.PrefixFrom`: a bit length out of range gives an invalid prefix on the same address. -/
def prefixFrom (ip : Addr) (bits : Int) : Prefix :=
  if inRange : ip ≠ .invalid ∧ 0 ≤ bits ∧ bits ≤ ip.bitLen then
    { addr := ip.withoutZone
      bitsPlusOne := bits.toNat + 1
      zoneless := Addr.withoutZone_withoutZone ip
      bound := by rw [Addr.bitLen_withoutZone]; omega
      zero := fun none => absurd (by cases ip <;> simp_all [Addr.withoutZone]) inRange.1 }
  else
    { addr := ip.withoutZone
      bitsPlusOne := 0
      zoneless := Addr.withoutZone_withoutZone ip
      bound := Nat.zero_le _
      zero := fun _ => rfl }

/-- The zero value `netip.Prefix{}`. -/
def none : Prefix := ⟨.invalid, 0, rfl, Nat.zero_le _, fun _ => rfl⟩

/-- `Prefix.Bits`: `-1` for an invalid prefix. -/
def bits (p : Prefix) : Int := (p.bitsPlusOne : Int) - 1

def isValid (p : Prefix) : Bool := 0 < p.bitsPlusOne

def masked (p : Prefix) : Prefix :=
  if p.isValid then prefixFrom (p.addr.mask (p.bitsPlusOne - 1)) p.bits else none

theorem isValid_masked {p : Prefix} (valid : p.isValid = true) : p.masked.isValid = true := by
  have positive : 0 < p.bitsPlusOne := of_decide_eq_true valid
  have present : p.addr.mask (p.bitsPlusOne - 1) ≠ .invalid := by
    intro none
    have zero : p.addr = .invalid := by
      cases same : p.addr with
      | invalid => rfl
      | v4 bits | v6 bits zone => simp [same, Addr.mask] at none
    exact absurd (p.zero zero) (ne_of_gt positive)
  have bound := p.bound
  have inRange : p.addr.mask (p.bitsPlusOne - 1) ≠ .invalid ∧ 0 ≤ p.bits ∧
      p.bits ≤ (p.addr.mask (p.bitsPlusOne - 1)).bitLen := by
    refine ⟨present, ?_, ?_⟩
    · unfold bits
      omega
    · rw [Addr.bitLen_mask]
      unfold bits
      omega
  rw [masked, if_pos valid, prefixFrom, dif_pos inRange]
  exact decide_eq_true (Nat.succ_pos _)

theorem eq_of_fields {p q : Prefix} (addr : p.addr = q.addr) (bits : p.bitsPlusOne = q.bitsPlusOne) : p = q := by
  cases p
  cases q
  simp_all

/-- `PrefixFrom` rebuilds a prefix from its two parts. -/
theorem prefixFrom_addr_bits (p : Prefix) : prefixFrom p.addr p.bits = p := by
  have value : p.bits = (p.bitsPlusOne : Int) - 1 := rfl
  unfold prefixFrom
  split
  case isTrue inRange =>
    have shifted : p.bits.toNat + 1 = p.bitsPlusOne := by omega
    exact eq_of_fields p.zoneless shifted
  case isFalse outOfRange =>
    have zero : 0 = p.bitsPlusOne := by
      by_contra nonzero
      have valid : p.addr ≠ .invalid := fun invalid => nonzero (p.zero invalid).symm
      have bound := p.bound
      exact outOfRange ⟨valid, by omega, by omega⟩
    exact eq_of_fields p.zoneless zero

end Prefix

/-- `M.Socksaddr`: an address and port, or a domain name and port. -/
structure Socksaddr where
  addr : Addr := .invalid
  port : UInt16 := 0
  fqdn : Bytes := []
  deriving DecidableEq

/-! ### The inbound context -/

/-- `adapter.ConnectionOwner`, as far as rule items read it. -/
structure ConnectionOwner where
  userId : Int := 0
  (userName processPath : Bytes := [])
  androidPackageNames : List Bytes := []
  deriving DecidableEq

/-- `adapter.InboundContext`: the fields that rule items and the matcher read. -/
structure InboundContext where
  inbound : Bytes := []
  ipVersion : UInt8 := 0
  network : Bytes := []
  (source destination : Socksaddr := {})
  (user outbound protocol sniffHost client : Bytes := [])
  cacheIPs : List Addr := []
  domain : Bytes := []
  destinationAddresses : List Addr := []
  processInfo : Option ConnectionOwner := .none
  queryType : UInt16 := 0
  -- rule cache
  (ipCIDRMatchSource ipCIDRAcceptEmpty sourceAddressMatch sourcePortMatch destinationAddressMatch : Bool := false)
  (destinationPortMatch didMatch ignoreDestinationIPCIDRMatch : Bool := false)
  deriving DecidableEq

namespace InboundContext

def resetRuleMatchCache (c : InboundContext) : InboundContext :=
  { c with
    sourceAddressMatch := false
    sourcePortMatch := false
    destinationAddressMatch := false
    destinationPortMatch := false
    didMatch := false }

def resetRuleCache (c : InboundContext) : InboundContext :=
  resetRuleMatchCache { c with ipCIDRMatchSource := false, ipCIDRAcceptEmpty := false }

/-- What a rule item may depend on: everything but the flags only the matcher reads. -/
def itemView (c : InboundContext) : InboundContext :=
  { c.resetRuleMatchCache with ignoreDestinationIPCIDRMatch := false }

end InboundContext

end SingBox
