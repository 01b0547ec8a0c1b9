/-
**The cursor of a fake-IP range** (`dns/transport/fakeip/store.go`).

A range hands out its addresses one after another, except for the first two and the last one. The addresses of a
masked range are `offset range.addr n` for `n < size`, and everything that the store asks of `netip` can be said in
terms of `n` (`Spans`).
-/

import SingBox.Route.Item

namespace SingBox

open Addr Prefix

/-! ### `netip` -/

namespace Addr

/-- `Addr.Next`: the zero value after the last address. (Of the zero value, the library makes another
value that is not valid. No cursor gets there.) -/
def next : Addr → Addr
  | invalid => invalid
  | v4 bits => if bits + 1 = 0 then invalid else v4 (bits + 1)
  | v6 bits zone => if bits + 1 = 0 then invalid else v6 (bits + 1) zone

def toNat : Addr → Nat
  | invalid => 0
  | v4 bits | v6 bits _ => bits.toNat

/-- The address that is `n` further. -/
def offset (addr : Addr) (n : Nat) : Addr :=
  match addr with
  | invalid => invalid
  | v4 bits => v4 (bits + BitVec.ofNat 32 n)
  | v6 bits zone => v6 (bits + BitVec.ofNat 128 n) zone

theorem is4_eq (addr : Addr) : addr.is4 = decide (addr.bitLen = 32) := by
  cases addr <;> rfl

@[simp] theorem bitLen_offset (addr : Addr) (n : Nat) : (addr.offset n).bitLen = addr.bitLen := by
  cases addr <;> rfl

@[simp] theorem isValid_offset (addr : Addr) (n : Nat) : (addr.offset n).isValid = addr.isValid := by
  cases addr <;> rfl

variable {addr : Addr}

theorem withoutZone_offset (zoneless : addr.withoutZone = addr) (n : Nat) :
    (addr.offset n).withoutZone = addr.offset n := by
  cases addr with
  | invalid | v4 bits => rfl
  | v6 bits zone =>
    have empty : [] = zone := (v6.inj zoneless).2
    rw [← empty]
    rfl

theorem toNat_lt (addr : Addr) : addr.toNat < 2 ^ addr.bitLen := by
  cases addr with
  | invalid => exact one_pos
  | v4 bits | v6 bits zone => exact bits.isLt

theorem toNat_offset {n : Nat} (inside : addr.toNat + n < 2 ^ addr.bitLen) :
    (addr.offset n).toNat = addr.toNat + n := by
  cases addr with
  | invalid =>
    have small : 0 + n < 1 := inside
    show 0 = 0 + n
    omega
  | v4 bits | v6 bits zone =>
    refine (BitVec.toNat_add ..).trans ?_
    rw [BitVec.toNat_ofNat, Nat.add_mod_mod]
    exact Nat.mod_eq_of_lt inside

theorem offset_inj {n m : Nat} (insideN : addr.toNat + n < 2 ^ addr.bitLen)
    (insideM : addr.toNat + m < 2 ^ addr.bitLen) (same : addr.offset n = addr.offset m) : n = m := by
  have numbers := congrArg toNat same
  rw [toNat_offset insideN, toNat_offset insideM] at numbers
  omega

theorem offset_offset (addr : Addr) (n m : Nat) : (addr.offset n).offset m = addr.offset (n + m) := by
  cases addr with
  | invalid => rfl
  | v4 bits | v6 bits zone => simp only [offset, BitVec.ofNat_add, BitVec.add_assoc]

/-- Also the step to the next address is an offset, up to the last one. -/
theorem next_eq (addr : Addr) : addr.next = if addr.toNat + 1 < 2 ^ addr.bitLen then addr.offset 1 else invalid := by
  cases addr with
  | invalid => rfl
  | v4 bits =>
    have last : bits + 1 = 0 ↔ ¬ bits.toNat + 1 < 2 ^ 32 := by bv_omega
    simp only [next, last, ite_not]
    rfl
  | v6 bits zone =>
    have last : bits + 1 = 0 ↔ ¬ bits.toNat + 1 < 2 ^ 128 := by bv_omega
    simp only [next, last, ite_not]
    rfl

theorem next_offset {n : Nat} (inside : addr.toNat + (n + 1) < 2 ^ addr.bitLen) :
    (addr.offset n).next = addr.offset (n + 1) := by
  rw [next_eq, bitLen_offset, toNat_offset (Nat.lt_of_succ_lt inside), if_pos (by omega), offset_offset]

theorem eq_invalid (gone : addr.isValid ≠ true) : addr = .invalid := by
  cases addr with
  | invalid => rfl
  | v4 bits | v6 bits zone => exact absurd rfl gone

theorem withoutZone_next (zoneless : addr.withoutZone = addr) : addr.next.withoutZone = addr.next := by
  rw [next_eq]
  split_ifs
  · exact withoutZone_offset zoneless 1
  · rfl

theorem not_is4_next (notIPv4 : addr.is4 = false) : addr.next.is4 = false := by
  rw [next_eq]
  split_ifs
  · rwa [is4_eq, bitLen_offset, ← is4_eq]
  · rfl

variable (valid : addr.isValid = true)

include valid

theorem isValid_next_iff : addr.next.isValid = true ↔ addr.toNat + 1 < 2 ^ addr.bitLen := by
  rw [next_eq]
  split_ifs with inside
  · rw [isValid_offset]
    exact iff_of_true valid inside
  · exact iff_of_false Bool.false_ne_true inside

theorem next_eq_offset (second : addr.next.isValid = true) : addr.next = addr.offset 1 := by
  rw [next_eq, if_pos ((isValid_next_iff valid).mp second)]

theorem is4_next (second : addr.next.isValid = true) : addr.next.is4 = addr.is4 := by
  rw [next_eq_offset valid second, is4_eq, is4_eq, bitLen_offset]

end Addr

namespace Prefix

def contains (p : Prefix) (ip : Addr) : Bool :=
  if !p.isValid || decide (ip.withoutZone ≠ ip) then false
  else if p.addr.bitLen = 0 ∨ ip.bitLen = 0 ∨ p.addr.bitLen ≠ ip.bitLen then false
  else leadingBits ip (p.bitsPlusOne - 1) == leadingBits p.addr (p.bitsPlusOne - 1)

def size (p : Prefix) : Nat := 2 ^ (p.addr.bitLen + 1 - p.bitsPlusOne)

theorem leadingBits_eq (addr : Addr) (n : Nat) : leadingBits addr n = addr.toNat / 2 ^ (addr.bitLen - n) := by
  cases addr with
  | invalid => exact (Nat.zero_div _).symm
  | v4 bits | v6 bits zone => exact Nat.shiftRight_eq_div_pow _ _

/-- How far the address of a prefix is from the first one of the range. -/
def hostPart (p : Prefix) : Nat := p.addr.toNat % p.size

variable {p : Prefix}

theorem addr_isValid (valid : p.isValid = true) : p.addr.isValid = true := by
  have positive : 1 ≤ p.bitsPlusOne := of_decide_eq_true valid
  cases addr : p.addr with
  | invalid => exact absurd (p.zero addr) (ne_of_gt positive)
  | v4 bits | v6 bits zone => rfl

theorem hostPart_lt (p : Prefix) : p.hostPart < p.size := Nat.mod_lt _ (Nat.two_pow_pos _)

theorem room (valid : p.isValid = true) : p.addr.toNat + (p.size - p.hostPart) ≤ 2 ^ p.addr.bitLen := by
  have positive : 1 ≤ p.bitsPlusOne := of_decide_eq_true valid
  obtain ⟨count, all⟩ : p.size ∣ 2 ^ p.addr.bitLen := pow_dvd_pow 2 (by omega)
  have below := p.addr.toNat_lt
  have number := Nat.div_add_mod p.addr.toNat p.size
  rw [all] at below ⊢
  have fewer : p.addr.toNat / p.size < count := Nat.div_lt_of_lt_mul below
  have rest := p.hostPart_lt
  have whole : p.size * (p.addr.toNat / p.size + 1) ≤ p.size * count := Nat.mul_le_mul_left _ fewer
  rw [Nat.mul_succ] at whole
  unfold hostPart at rest ⊢
  omega

theorem contains_offset_iff (valid : p.isValid = true) {n : Nat} (inside : p.addr.toNat + n < 2 ^ p.addr.bitLen) :
    p.contains (p.addr.offset n) = true ↔ p.hostPart + n < p.size := by
  have positive : 1 ≤ p.bitsPlusOne := of_decide_eq_true valid
  have zoneless := withoutZone_offset p.zoneless n
  have present := addr_isValid valid
  have nonzero : p.addr.bitLen ≠ 0 := by
    cases addr : p.addr with
    | invalid => rw [addr] at present; cases present
    | v4 bits | v6 bits zone => exact Nat.succ_ne_zero _
  have hosts : p.addr.bitLen - (p.bitsPlusOne - 1) = p.addr.bitLen + 1 - p.bitsPlusOne := by omega
  have some : 0 < p.size := Nat.two_pow_pos _
  unfold contains
  rw [valid, zoneless, bitLen_offset]
  simp only [Bool.not_true, ne_eq, not_true_eq_false, decide_false, Bool.or_false,
    Bool.false_eq_true, if_false, nonzero, or_self]
  rw [leadingBits_eq, leadingBits_eq, bitLen_offset, toNat_offset inside, hosts, beq_iff_eq, ← size, hostPart]
  have number := Nat.div_add_mod p.addr.toNat p.size
  constructor
  · intro same
    have after := Nat.div_add_mod (p.addr.toNat + n) p.size
    have rest := Nat.mod_lt (p.addr.toNat + n) some
    rw [same] at after
    omega
  · intro bound
    rw [← number, add_assoc, Nat.mul_add_div some, Nat.div_eq_of_lt bound, Nat.mul_add_div some, Nat.mod_div_self]

end Prefix

namespace FakeIP

/-- The loop of `broadcastAddress`: the bits of a 16 byte address from `i` on are set, the first bit
being the highest. -/
def setBitsFrom (i : Nat) (raw : BitVec 128) : BitVec 128 :=
  (List.range' i (128 - i)).foldl (fun raw i => raw ||| BitVec.twoPow 128 (127 - i)) raw

/-- `broadcastAddress`, of a valid prefix. -/
def broadcastAddress (p : Prefix) : Addr :=
  let bits := p.bitsPlusOne - 1
  match p.addr with
  | .invalid => .invalid
  | .v4 addr =>
    -- `As16` is the mapped address, and `AddrFrom4` takes its last four bytes
    .v4 ((setBitsFrom (bits + 96) ((0xFFFF#128 <<< 32) ||| addr.zeroExtend 128)).truncate 32)
  | .v6 addr _ => .v6 (setBitsFrom bits addr) []

/-! ### The bits of a range -/

/-- The loop sets the last `128 - i` bits. -/
theorem getLsbD_setBits (count : Nat) : ∀ {i : Nat} (raw : BitVec 128), i + count ≤ 128 →
    ∀ j, ((List.range' i count).foldl (fun raw i => raw ||| BitVec.twoPow 128 (127 - i)) raw).getLsbD j
      = (raw.getLsbD j || decide (128 - (i + count) ≤ j ∧ j < 128 - i)) := by
  induction count with
  | zero =>
    intro i raw bound j
    have none : ¬ (128 - (i + 0) ≤ j ∧ j < 128 - i) := by omega
    rw [decide_eq_false none, Bool.or_false]
    rfl
  | succ count ih =>
    intro i raw bound j
    rw [List.range'_succ, List.foldl_cons, ih _ (by omega), BitVec.getLsbD_or,
      BitVec.getLsbD_twoPow, Bool.or_assoc, ← Bool.decide_and, ← Bool.decide_or]
    congr 1
    refine decide_eq_decide.mpr ?_
    omega

theorem getLsbD_setBitsFrom {i : Nat} (bound : i ≤ 128) (raw : BitVec 128) (j : Nat) :
    (setBitsFrom i raw).getLsbD j = (raw.getLsbD j || decide (j < 128 - i)) := by
  unfold setBitsFrom
  rw [getLsbD_setBits _ raw (by omega)]
  congr 1
  refine decide_eq_decide.mpr ?_
  omega

theorem add_ofNat_eq_or {width hosts : Nat} (bound : hosts ≤ width) (bits : BitVec width) :
    bits + BitVec.ofNat width (2 ^ hosts - 1 - bits.toNat % 2 ^ hosts) =
      bits ||| BitVec.ofNat width (2 ^ hosts - 1) := by
  have fits : 2 ^ hosts ≤ 2 ^ width := Nat.pow_le_pow_right two_pos bound
  have number := Nat.div_add_mod bits.toNat (2 ^ hosts)
  have full : bits.toNat ||| (2 ^ hosts - 1) = 2 ^ hosts * (bits.toNat / 2 ^ hosts) + (2 ^ hosts - 1) := by
    rw [Nat.two_pow_add_eq_or_of_lt (by omega)]
    apply Nat.eq_of_testBit_eq
    intro j
    rw [Nat.testBit_or, Nat.testBit_or, Nat.testBit_two_pow_mul, Nat.testBit_div_two_pow]
    by_cases host : j < hosts
    · simp [host]
    · simp [not_lt.mp host]
  apply BitVec.eq_of_toNat_eq
  rw [BitVec.toNat_add, BitVec.toNat_or, BitVec.toNat_ofNat, BitVec.toNat_ofNat,
    Nat.mod_eq_of_lt (by omega : 2 ^ hosts - 1 - bits.toNat % 2 ^ hosts < 2 ^ width),
    Nat.mod_eq_of_lt (by omega : 2 ^ hosts - 1 < 2 ^ width)]
  have below : bits.toNat ||| (2 ^ hosts - 1) < 2 ^ width :=
    Nat.or_lt_two_pow bits.isLt (by omega)
  rw [Nat.mod_eq_of_lt (by omega)]
  omega

theorem getLsbD_ofNat_mask {width hosts j : Nat} (inside : j < width) :
    (BitVec.ofNat width (2 ^ hosts - 1)).getLsbD j = decide (j < hosts) := by
  rw [BitVec.getLsbD_ofNat, Nat.testBit_two_pow_sub_one, decide_eq_true inside, Bool.true_and]

theorem broadcastAddress_eq {range : Prefix} (valid : range.isValid = true) :
    broadcastAddress range = range.addr.offset (range.size - 1 - range.hostPart) := by
  have positive : 1 ≤ range.bitsPlusOne := of_decide_eq_true valid
  have bound := range.bound
  unfold hostPart size broadcastAddress
  cases addr : range.addr with
  | invalid => rfl
  | v4 bits =>
    rw [addr] at bound
    have bound' : range.bitsPlusOne ≤ 33 := bound
    show v4 _ = v4 (bits + .ofNat 32 (2 ^ (33 - range.bitsPlusOne) - 1 - bits.toNat % 2 ^ (33 - range.bitsPlusOne)))
    rw [add_ofNat_eq_or (by omega)]
    congr 1
    ext j small
    simp only [← BitVec.getLsbD_eq_getElem]
    rw [BitVec.getLsbD_setWidth, getLsbD_setBitsFrom (by omega), BitVec.getLsbD_or,
      BitVec.getLsbD_or, getLsbD_ofNat_mask small, BitVec.getLsbD_shiftLeft,
      BitVec.getLsbD_setWidth]
    have late : decide (j < 128 - (range.bitsPlusOne - 1 + 96)) =
        decide (j < 33 - range.bitsPlusOne) := decide_eq_decide.mpr (by omega)
    have low : decide (j < 128) = true := decide_eq_true (by omega)
    simp only [late, low, small, decide_true, Bool.true_and, Bool.not_true, Bool.false_and, Bool.false_or]
  | v6 bits zone =>
    rw [addr] at bound
    have bound' : range.bitsPlusOne ≤ 129 := bound
    have zoneless : [] = zone := (v6.inj (addr ▸ range.zoneless)).2
    show v6 _ [] = v6 (bits + .ofNat 128 (2 ^ (129 - range.bitsPlusOne) - 1 -
      bits.toNat % 2 ^ (129 - range.bitsPlusOne))) zone
    rw [add_ofNat_eq_or (by omega)]
    congr 1
    ext j small
    simp only [← BitVec.getLsbD_eq_getElem]
    rw [getLsbD_setBitsFrom (by omega), BitVec.getLsbD_or, getLsbD_ofNat_mask small]
    congr 1
    exact decide_eq_decide.mpr (by omega)

/-- **A range that starts at its first address.** -/
structure Spans (range : Prefix) : Prop where
  valid : range.isValid = true
  aligned : range.size ∣ range.addr.toNat

namespace Spans

variable {range : Prefix}

theorem hostPart_eq (spans : Spans range) : range.hostPart = 0 :=
  Nat.mod_eq_zero_of_dvd spans.aligned

theorem inside (spans : Spans range) {n : Nat} (bound : n < range.size) :
    range.addr.toNat + n < 2 ^ range.addr.bitLen := by
  have room := room spans.valid
  rw [spans.hostPart_eq] at room
  omega

theorem contains_offset (spans : Spans range) {n : Nat} (bound : n < range.size) :
    range.contains (range.addr.offset n) = true := by
  rw [contains_offset_iff spans.valid (spans.inside bound), spans.hostPart_eq]
  omega

end Spans

variable {range : Prefix}

theorem spans_of_masked (valid : range.isValid = true) (masked : range.masked = range) : Spans range := by
  have positive : 1 ≤ range.bitsPlusOne := of_decide_eq_true valid
  have same : (range.addr.mask (range.bitsPlusOne - 1)).withoutZone = range.addr := by
    have addrs := congrArg addr masked
    rw [Prefix.masked, if_pos valid, prefixFrom] at addrs
    split at addrs <;> exact addrs
  have clear {width : Nat} {bits : BitVec width} {hosts : Nat}
      (fixed : (bits >>> hosts) <<< hosts = bits) (bound : hosts ≤ width) :
      2 ^ hosts ∣ bits.toNat := by
    have number := congrArg BitVec.toNat fixed
    rw [BitVec.toNat_shiftLeft, Nat.shiftLeft_eq] at number
    have whole : 2 ^ hosts ∣ 2 ^ width := pow_dvd_pow 2 bound
    rw [← number]
    exact (Nat.dvd_mod_iff whole).mpr (dvd_mul_left _ _)
  have hosts : range.addr.bitLen + 1 - range.bitsPlusOne = range.addr.bitLen - (range.bitsPlusOne - 1) := by omega
  refine ⟨valid, ?_⟩
  rw [size, hosts]
  cases addr : range.addr with
  | invalid => exact dvd_zero _
  | v4 bits =>
    rw [addr] at same
    exact clear (v4.inj same) (Nat.sub_le _ _)
  | v6 bits zone =>
    rw [addr] at same
    exact clear (v6.inj same).1 (Nat.sub_le _ _)

/-! ### The cursor -/

/-- The next address that is handed out (a branch of `Create`). -/
def advance (range : Prefix) (last current : Addr) : Addr :=
  let nextAddress := current.next
  if nextAddress = last || !range.contains nextAddress then range.addr.next.next else nextAddress

/-- The cursor after some steps; it starts at the second address. -/
def cursor (range : Prefix) : Nat → Addr
  | 0 => range.addr.next
  | steps + 1 => advance range (broadcastAddress range) (cursor range steps)

/-- The addresses that are handed out: all but the first two and the last. -/
def usable (range : Prefix) : Nat := range.size - 3

section Cycle

variable {range : Prefix} (spans : Spans range)

include spans

variable (enough : 1 ≤ usable range)

include enough

theorem next_addr : range.addr.next = range.addr.offset 1 := by
  unfold usable at enough
  rw [next_eq, if_pos (spans.inside (by omega))]

theorem advance_offset {n : Nat} (bound : n + 1 < range.size) :
    advance range (broadcastAddress range) (range.addr.offset n) =
      range.addr.offset (if n + 2 = range.size then 2 else n + 1) := by
  unfold usable at enough
  have inside := spans.inside bound
  have wrapped : range.addr.next.next = range.addr.offset 2 := by
    rw [next_addr spans (by unfold usable; omega)]
    exact next_offset (spans.inside (by omega))
  have last : range.addr.offset (n + 1) = broadcastAddress range ↔ n + 2 = range.size := by
    rw [broadcastAddress_eq spans.valid, spans.hostPart_eq]
    constructor
    · intro same
      have number := offset_inj inside (spans.inside (by omega)) same
      omega
    · intro end_
      rw [← end_]
      rfl
  unfold advance
  dsimp only
  rw [next_offset inside, spans.contains_offset bound, wrapped]
  by_cases end_ : n + 2 = range.size
  · rw [if_pos end_, decide_eq_true (last.mpr end_)]
    rfl
  · rw [if_neg end_, decide_eq_false fun same => end_ (last.mp same)]
    rfl

omit spans in
theorem size_eq : range.size = usable range + 3 := by
  unfold usable at enough ⊢
  omega

theorem cursor_eq (n : Nat) : cursor range (n + 1) = range.addr.offset (2 + n % usable range) := by
  have size := size_eq enough
  induction n with
  | zero =>
    show advance range (broadcastAddress range) range.addr.next = _
    rw [next_addr spans enough, advance_offset spans enough (by omega), if_neg (by omega), Nat.zero_mod]
  | succ n ih =>
    have small : n % usable range < usable range := Nat.mod_lt _ enough
    show advance range (broadcastAddress range) (cursor range (n + 1)) = _
    rw [ih, advance_offset spans enough (by omega)]
    congr 1
    rw [← Nat.mod_add_mod n]
    by_cases wraps : n % usable range + 1 = usable range
    · rw [if_pos (by omega), wraps, Nat.mod_self]
    have next : (n % usable range + 1) % usable range = n % usable range + 1 :=
      Nat.mod_eq_of_lt (by omega)
    rw [if_neg (by omega)]
    omega

/-- **It does not come back before all of them have been handed out.** -/
theorem cursor_ne {n more : Nat} (some : 1 ≤ more) (few : more < usable range) :
    cursor range (n + 1 + more) ≠ cursor range (n + 1) := by
  have size := size_eq enough
  have bound k : 2 + k % usable range < range.size := by
    have small := Nat.mod_lt k enough
    omega
  intro same
  rw [show n + 1 + more = n + more + 1 by omega, cursor_eq spans enough, cursor_eq spans enough] at same
  have number := offset_inj (spans.inside (bound _)) (spans.inside (bound _)) same
  have modulo : (n + more) % usable range = (n + 0) % usable range := by
    rw [add_zero]
    omega
  have zero := Nat.ModEq.add_left_cancel' n modulo
  rw [Nat.ModEq, Nat.mod_eq_of_lt few, Nat.zero_mod] at zero
  omega

end Cycle

/-! ### Ranges that begin anywhere -/

theorem contains_invalid (range : Prefix) : range.contains .invalid = false := by
  unfold contains
  split
  · rfl
  · have zero : invalid.bitLen = 0 := rfl
    rw [if_pos (.inr (.inl zero))]

theorem third_iff (valid : range.isValid = true) (second : range.addr.next.isValid = true) :
    range.contains range.addr.next.next = true ∧ range.addr.next.next ≠ broadcastAddress range ↔
      range.hostPart + 4 ≤ range.size := by
  have present := addr_isValid valid
  have bound := (isValid_next_iff present).mp second
  have room := room valid
  have next := next_eq_offset present second
  by_cases inside : range.addr.toNat + 2 < 2 ^ range.addr.bitLen
  · have third : range.addr.next.next = range.addr.offset 2 := by rw [next, next_offset inside]
    have last : range.addr.offset 2 = broadcastAddress range ↔ 2 = range.size - 1 - range.hostPart := by
      rw [broadcastAddress_eq valid]
      exact ⟨offset_inj inside (by omega), congrArg _⟩
    rw [third, contains_offset_iff valid inside, ne_eq, last]
    omega
  · have third : range.addr.next.next = .invalid := by
      refine eq_invalid fun is => inside ?_
      have more := (isValid_next_iff second).mp is
      rwa [next, bitLen_offset, toNat_offset bound] at more
    rw [third, contains_invalid]
    exact iff_of_false (fun it => Bool.false_ne_true it.1) (by omega)

theorem advance_eq_or (range : Prefix) (last current : Addr) : advance range last current = range.addr.next.next ∨
      range.contains (advance range last current) = true ∧ advance range last current ≠ last := by
  unfold advance
  dsimp only
  split_ifs with ends
  · exact .inl rfl
  · refine .inr ?_
    simpa [and_comm] using ends

theorem contains_advance (third : range.contains range.addr.next.next = true)
    (notLast : range.addr.next.next ≠ broadcastAddress range) (current : Addr) :
    range.contains (advance range (broadcastAddress range) current) = true ∧
      advance range (broadcastAddress range) current ≠ broadcastAddress range := by
  rcases advance_eq_or range (broadcastAddress range) current with wrapped | inside
  · rw [wrapped]
    exact ⟨third, notLast⟩
  · exact inside

/-! ### The family of an address -/

theorem isValid_of_contains {addr : Addr} (inside : range.contains addr = true) : range.isValid = true := by
  by_contra invalid
  rw [contains, Bool.eq_false_iff.mpr invalid] at inside
  exact Bool.false_ne_true inside

theorem is4_of_contains {addr : Addr} (inside : range.contains addr = true) : addr.is4 = range.addr.is4 := by
  unfold contains at inside
  split at inside
  · cases inside
  split at inside
  · cases inside
  rename_i kinds
  have same : addr.bitLen = range.addr.bitLen := by
    by_contra differ
    exact kinds (.inr (.inr fun same => differ same.symm))
  rw [addr.is4_eq, range.addr.is4_eq, same]

theorem cursor_eq_invalid (second : range.addr.next = .invalid) (steps : Nat) : cursor range steps = .invalid := by
  induction steps with
  | zero => exact second
  | succ steps ih =>
    have outside : range.contains invalid.next = false := contains_invalid range
    rw [cursor, ih, advance, outside, Bool.not_false, Bool.or_true, second]
    rfl

/-- An IPv4 range hands out IPv4 addresses, if there are two addresses after its first one. -/
theorem is4_advance {bits : BitVec 32} (addr : range.addr = .v4 bits)
    (notLast : bits ≠ 0xFFFFFFFF#32) (notSecondLast : bits ≠ 0xFFFFFFFE#32) (last current : Addr) :
    (advance range last current).is4 = true := by
  have wrapped : range.addr.next.next.is4 = true := by
    have one : bits + 1 ≠ 0 := by
      intro zero
      exact notLast (by bv_omega)
    have two : bits + 1 + 1 ≠ 0 := by
      intro zero
      exact notSecondLast (by bv_omega)
    rw [addr, next, if_neg one, next, if_neg two]
    rfl
  rcases advance_eq_or range last current with eq | ⟨inside, -⟩
  · rw [eq, wrapped]
  · rw [is4_of_contains inside, addr]
    rfl

theorem withoutZone_cursor (range : Prefix) (steps : Nat) : (cursor range steps).withoutZone = cursor range steps := by
  induction steps with
  | zero => exact withoutZone_next range.zoneless
  | succ steps ih =>
    show (advance _ _ _).withoutZone = advance _ _ _
    unfold advance
    dsimp only
    split
    · exact withoutZone_next (withoutZone_next range.zoneless)
    · exact withoutZone_next ih

theorem not_is4_advance (notIPv4 : range.addr.is4 = false) (last current : Addr) :
    (advance range last current).is4 = false := by
  rcases advance_eq_or range last current with eq | ⟨inside, -⟩
  · rw [eq]
    exact not_is4_next (not_is4_next notIPv4)
  · rw [is4_of_contains inside, notIPv4]

end FakeIP

end SingBox
