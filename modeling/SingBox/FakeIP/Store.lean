/-
**The fake-IP store** (`dns/transport/fakeip/store.go`, `dns/transport/fakeip/memory.go`).

A domain that is asked for gets an address of its own from a range, and the address leads back to the domain when a
connection to it arrives. The store takes addresses from the cursors of its two ranges, and keeps the pairs in a
storage, here in memory; `FakeIP/CacheFile` has the storage on disk.

What the store is for is said by `Mapping`: a one-to-one map for each family, to which a new domain adds a pair with
the next address of the cursor. The storage in memory refines it (`refines_run`), and by the law of the cursor a pair
stays until as many new domains have come as there are usable addresses (`aged_run`). An IPv4 range that begins two
addresses before the end of all of them hands out the zero address, which the storage files under IPv6.
-/

import SingBox.FakeIP.Cursor
import SingBox.Lib.Assign
import SingBox.Lib.Machine

namespace SingBox.FakeIP

open SingBox.Lib Function Option

/-! ### The store -/

structure FakeIPMetadata where
  (inet4Range inet6Range : Prefix)
  inet4Current : Addr
  inet6Current : Addr
  deriving DecidableEq

/-- `adapter.FakeIPStorage`, with a state of type `σ`. -/
structure FakeIPStorage (σ : Type) where
  fakeIPMetadata : σ → Option FakeIPMetadata × σ
  fakeIPSaveMetadataAsync : FakeIPMetadata → σ → σ
  fakeIPStore : Addr → Bytes → σ → Except Error Unit × σ
  fakeIPLoad : Addr → σ → Option Bytes
  fakeIPLoadDomain : Bytes → Bool → σ → Option Addr
  fakeIPReset : σ → Except Error Unit × σ

/-- The fields of `Store` that come once for each family. -/
structure Family where
  range : Prefix
  (last current : Addr := .invalid)

/-- `Store`, without the storage. -/
structure Store where
  (inet4 inet6 : Family)

namespace Store

def family (store : Store) (isIPv6 : Bool) : Family := if isIPv6 then store.inet6 else store.inet4

def setCurrent (store : Store) (isIPv6 : Bool) (address : Addr) : Store :=
  if isIPv6 then { store with inet6.current := address } else { store with inet4.current := address }

def metadata (store : Store) : FakeIPMetadata :=
  { inet4Range := store.inet4.range
    inet6Range := store.inet6.range
    inet4Current := store.inet4.current
    inet6Current := store.inet6.current }

theorem family_setCurrent (store : Store) (isIPv6 other : Bool) (address : Addr) :
    (store.setCurrent isIPv6 address).family other = { store.family other with
      current := if other = isIPv6 then address else (store.family other).current } := by
  cases isIPv6 <;> cases other <;> rfl

end Store

def newFamily (range : Prefix) : Family :=
  { range := range, last := if range.isValid then broadcastAddress range else .invalid }

def newStore (inet4Range inet6Range : Prefix) : Store :=
  { inet4 := newFamily inet4Range, inet6 := newFamily inet6Range }

structure State (σ : Type) where
  store : Store
  storage : σ

section Operations

variable {σ : Type} (ops : FakeIPStorage σ)

def Family.restart (family : Family) : Family :=
  if family.range.isValid then { family with current := family.range.addr.next } else family

/-- `Start`, with the storage that it has found. An error of the reset is ignored. -/
def start (store : Store) (storage : σ) : State σ :=
  let (saved, storage) := ops.fakeIPMetadata storage
  let restarted := (⟨{ inet4 := store.inet4.restart, inet6 := store.inet6.restart },
    (ops.fakeIPReset storage).2⟩ : State σ)
  match saved with
  | some metadata =>
    if metadata.inet4Range = store.inet4.range ∧ metadata.inet6Range = store.inet6.range then
      ⟨(store.setCurrent false metadata.inet4Current).setCurrent true metadata.inet6Current, storage⟩
    else restarted
  | none => restarted

def missingRange (isIPv6 : Bool) : Error :=
  if isIPv6 then .new "missing IPv6 fakeip address range"
  else .new "missing IPv4 fakeip address range"

/-- `Create`. Under the lock the domain is looked up once more, with the same result if no other call
is made in between. An error of the storage is logged. -/
def create (domain : Bytes) (isIPv6 : Bool) (state : State σ) : Except Error Addr × State σ :=
  match ops.fakeIPLoadDomain domain isIPv6 state.storage with
  | some address => (.ok address, state)
  | none =>
    let family := state.store.family isIPv6
    if !family.current.isValid then (.error (missingRange isIPv6), state)
    else
      let address := advance family.range family.last family.current
      let store := state.store.setCurrent isIPv6 address
      let storage := (ops.fakeIPStore address domain state.storage).2
      (.ok address, ⟨store, ops.fakeIPSaveMetadataAsync store.metadata storage⟩)

def lookup (address : Addr) (state : State σ) : Option Bytes :=
  ops.fakeIPLoad address state.storage

/-- `Reset`: the cursors stay where they are. -/
def reset (state : State σ) : Except Error Unit × State σ :=
  let (result, storage) := ops.fakeIPReset state.storage
  (result, { state with storage := storage })

inductive Op where
  | create (domain : Bytes) (isIPv6 : Bool)
  | lookup (address : Addr)
  | reset

inductive Result where
  | created (result : Except Error Addr)
  | found (domain : Option Bytes)
  | reset (result : Except Error Unit)

/-- **The store, under any sequence of calls.** -/
def calls : Machine (State σ) Op Result where
  step state op :=
    match op with
    | .create domain isIPv6 =>
      let (result, state) := create ops domain isIPv6 state
      (state, some (.created result))
    | .lookup address => (state, some (.found (lookup ops address state)))
    | .reset =>
      let (result, state) := reset ops state
      (state, some (.reset result))

def opensDomain (isIPv6 : Bool) (state : State σ) : Op → Bool
  | .create domain family => family == isIPv6 &&
      (ops.fakeIPLoadDomain domain family state.storage).isNone &&
      (state.store.family family).current.isValid
  | _ => false

/-- How many new domains of a family a sequence of calls takes in. -/
def newDomains (isIPv6 : Bool) : State σ → List Op → Nat
  | _, [] => 0
  | state, op :: rest => (if opensDomain ops isIPv6 state op then 1 else 0) +
      newDomains isIPv6 ((calls ops).step state op).1 rest

end Operations

/-! ### The storage in memory -/

structure MemoryStorage where
  addressCache : Addr → Option Bytes := fun _ => none
  (domainCache4 domainCache6 : Bytes → Option Addr := fun _ => none)

namespace MemoryStorage

def domainCache (storage : MemoryStorage) (isIPv6 : Bool) : Bytes → Option Addr :=
  if isIPv6 then storage.domainCache6 else storage.domainCache4

def setDomainCache (storage : MemoryStorage) (isIPv6 : Bool) (cache : Bytes → Option Addr) : MemoryStorage :=
  if isIPv6 then { storage with domainCache6 := cache } else { storage with domainCache4 := cache }

/-- The old domain of an address is removed (the first part of `FakeIPStore`). -/
def dropOldDomain (address : Addr) (storage : MemoryStorage) : MemoryStorage :=
  match storage.addressCache address with
  | some oldDomain => storage.setDomainCache (!address.is4)
      (Function.update (storage.domainCache (!address.is4)) oldDomain none)
  | none => storage

def fakeIPStore (address : Addr) (domain : Bytes) (storage : MemoryStorage) : MemoryStorage :=
  let storage := storage.dropOldDomain address
  let storage :=
    { storage with addressCache := Function.update storage.addressCache address (some domain) }
  storage.setDomainCache (!address.is4)
    (Function.update (storage.domainCache (!address.is4)) domain (some address))

variable (storage : MemoryStorage)

include storage

section

variable (cache : Bytes → Option Addr)

include cache

@[simp] theorem addressCache_setDomainCache (isIPv6 : Bool) :
    (storage.setDomainCache isIPv6 cache).addressCache = storage.addressCache := by
  cases isIPv6 <;> rfl

@[simp] theorem domainCache_setDomainCache (isIPv6 : Bool) :
    (storage.setDomainCache isIPv6 cache).domainCache isIPv6 = cache := by
  cases isIPv6 <;> rfl

theorem domainCache_setDomainCache_of_ne {isIPv6 other : Bool} (differ : other ≠ isIPv6) :
    (storage.setDomainCache isIPv6 cache).domainCache other = storage.domainCache other := by
  cases isIPv6 <;> cases other <;> first | rfl | exact absurd rfl differ

end

theorem addressCache_dropOldDomain (address : Addr) :
    (storage.dropOldDomain address).addressCache = storage.addressCache := by
  unfold dropOldDomain
  split
  · rw [addressCache_setDomainCache]
  · rfl

theorem domainCache_dropOldDomain_of_ne {address : Addr} {isIPv6 : Bool} (differ : isIPv6 ≠ !address.is4) :
    (storage.dropOldDomain address).domainCache isIPv6 = storage.domainCache isIPv6 := by
  unfold dropOldDomain
  split
  · exact storage.domainCache_setDomainCache_of_ne _ differ
  · rfl

theorem domainCache_fakeIPStore (address : Addr) (domain : Bytes) :
    (storage.fakeIPStore address domain).domainCache (!address.is4) =
      update ((storage.dropOldDomain address).domainCache (!address.is4)) domain (some address) := by
  unfold fakeIPStore
  cases address.is4 <;> rfl

theorem domainCache_fakeIPStore_of_ne {address : Addr} (domain : Bytes) {isIPv6 : Bool}
    (differ : isIPv6 ≠ !address.is4) :
    (storage.fakeIPStore address domain).domainCache isIPv6 = storage.domainCache isIPv6 := by
  rw [← storage.domainCache_dropOldDomain_of_ne differ]
  unfold fakeIPStore
  rw [domainCache_setDomainCache_of_ne _ _ differ]
  cases isIPv6 <;> rfl

end MemoryStorage

/-- `MemoryStorage`, as a storage. -/
def memory : FakeIPStorage MemoryStorage where
  fakeIPMetadata storage := (none, storage)
  fakeIPSaveMetadataAsync _ storage := storage
  fakeIPStore address domain storage := (.ok (), storage.fakeIPStore address domain)
  fakeIPLoad address storage := storage.addressCache address
  fakeIPLoadDomain domain isIPv6 storage := storage.domainCache isIPv6 domain
  fakeIPReset _ := (.ok (), {})

def started (inet4Range inet6Range : Prefix) : State MemoryStorage :=
  start memory (newStore inet4Range inet6Range) {}

/-! ### What the store is for -/

/-- **The mapping**: the pairs of each family, and how far its cursor is. -/
structure Mapping where
  pairs : Bool → (Addr ≃. Bytes) := fun _ => ⊥
  steps : Bool → Nat := fun _ => 0

namespace Mapping

def take (range : Prefix) (domain : Bytes) (isIPv6 : Bool) (mapping : Mapping) : Mapping where
  pairs := Function.update mapping.pairs isIPv6
    (assign (mapping.pairs isIPv6) (cursor range (mapping.steps isIPv6 + 1)) domain)
  steps := Function.update mapping.steps isIPv6 (mapping.steps isIPv6 + 1)

def available (range : Prefix) (steps : Nat) : Bool :=
  range.isValid && (cursor range steps).isValid

def step (ranges : Bool → Prefix) (mapping : Mapping) : Op → Mapping
  | .create domain isIPv6 =>
    if (mapping.pairs isIPv6).symm domain = none ∧
        available (ranges isIPv6) (mapping.steps isIPv6) = true then
      mapping.take (ranges isIPv6) domain isIPv6
    else mapping
  | .lookup _ => mapping
  | .reset => { mapping with pairs := fun _ => ⊥ }

end Mapping

/-- The two directions of the storage are those of a one-to-one map. -/
structure Represents (storage : MemoryStorage) (pairs : Bool → (Addr ≃. Bytes)) : Prop where
  address : ∀ addr, storage.addressCache addr = pairs (!addr.is4) addr
  domain : ∀ isIPv6 name, storage.domainCache isIPv6 name = (pairs isIPv6).symm name
  family : ∀ isIPv6 addr name, pairs isIPv6 addr = some name → (!addr.is4) = isIPv6

theorem represents_empty : Represents {} fun _ => ⊥ where
  address _ := rfl
  domain isIPv6 name := by cases isIPv6 <;> rfl
  family isIPv6 addr name pair := absurd pair (some_ne_none name).symm

section

variable {storage : MemoryStorage} {pairs : Bool → (Addr ≃. Bytes)} (represents : Represents storage pairs)

include represents

theorem Represents.dropOldDomain (addr : Addr) (name : Bytes) :
    (storage.dropOldDomain addr).domainCache (!addr.is4) name =
      if (pairs (!addr.is4)).symm name = some addr then none else (pairs (!addr.is4)).symm name := by
  have paired : (pairs (!addr.is4)).symm name = some addr ↔ pairs (!addr.is4) addr = some name :=
    (pairs (!addr.is4)).inv addr name
  unfold MemoryStorage.dropOldDomain
  split
  · rename_i old held
    rw [represents.address] at held
    rw [held] at paired
    rw [MemoryStorage.domainCache_setDomainCache]
    by_cases same : name = old
    · rw [if_pos (paired.mpr (congrArg some same.symm)), same, update_self]
    · rw [if_neg fun it => same (some.inj (paired.mp it)).symm, update_of_ne same]
      exact represents.domain _ name
  · rename_i empty
    rw [represents.address] at empty
    rw [empty] at paired
    rw [if_neg fun it => some_ne_none name (paired.mp it).symm]
    exact represents.domain _ name

/-- **`FakeIPStore` adds a pair**, for a domain that has no address in that family yet. -/
theorem Represents.fakeIPStore {addr : Addr} {name : Bytes} (fresh : (pairs (!addr.is4)).symm name = none) :
    Represents (storage.fakeIPStore addr name)
      (update pairs (!addr.is4) (assign (pairs (!addr.is4)) addr name)) where
  address other := by
    rw [MemoryStorage.fakeIPStore, MemoryStorage.addressCache_setDomainCache,
      MemoryStorage.addressCache_dropOldDomain]
    dsimp only
    by_cases same : other = addr
    · rw [same, update_self, update_self, assign_self]
    rw [update_of_ne same, represents.address]
    by_cases sameFamily : (!other.is4) = !addr.is4
    · rw [sameFamily, update_self, assign_apply_of_fresh fresh same]
    · rw [update_of_ne sameFamily]
  domain isIPv6 other := by
    by_cases own : isIPv6 = !addr.is4
    · rw [own, storage.domainCache_fakeIPStore, update_self, symm_assign_apply]
      by_cases sameName : other = name
      · rw [if_pos sameName, sameName, update_self]
      · rw [if_neg sameName, update_of_ne sameName, represents.dropOldDomain]
    · rw [storage.domainCache_fakeIPStore_of_ne name own, update_of_ne own, represents.domain]
  family isIPv6 other key pair := by
    by_cases own : isIPv6 = !addr.is4
    · rw [own, update_self] at pair
      rcases assign_eq_some_iff.mp pair with ⟨same, -⟩ | ⟨-, -, old⟩
      · rw [same, own]
      · rw [own]
        exact represents.family _ other key old
    · rw [update_of_ne own] at pair
      exact represents.family isIPv6 other key pair

end

/-! ### The store in memory keeps the mapping -/

def rangeOf (inet4Range inet6Range : Prefix) (isIPv6 : Bool) : Prefix :=
  if isIPv6 then inet6Range else inet4Range

structure OwnFamilies (inet4Range inet6Range : Prefix) : Prop where
  inet4 : inet4Range.isValid = true → ∃ bits, inet4Range.addr = .v4 bits ∧ bits ≠ 0xFFFFFFFE#32
  inet6 : inet6Range.isValid = true → inet6Range.addr.is4 = false

/-- The storage and the cursors are those of the mapping. -/
structure Refines (ranges : Bool → Prefix) (state : State MemoryStorage) (mapping : Mapping) :
    Prop where
  range : ∀ isIPv6, (state.store.family isIPv6).range = ranges isIPv6
  last : ∀ isIPv6, (ranges isIPv6).isValid = true →
    (state.store.family isIPv6).last = broadcastAddress (ranges isIPv6)
  current : ∀ isIPv6, (state.store.family isIPv6).current =
    if (ranges isIPv6).isValid then cursor (ranges isIPv6) (mapping.steps isIPv6) else .invalid
  storage : Represents state.storage mapping.pairs

section Memory

variable {inet4Range inet6Range : Prefix}

theorem restart_newFamily (range : Prefix) : (newFamily range).restart =
    { range := range
      last := if range.isValid then broadcastAddress range else .invalid
      current := if range.isValid then cursor range 0 else .invalid } := by
  unfold Family.restart newFamily
  split <;> rfl

theorem family_started (isIPv6 : Bool) : (started inet4Range inet6Range).store.family isIPv6 =
    (newFamily (rangeOf inet4Range inet6Range isIPv6)).restart := by
  cases isIPv6 <;> rfl

theorem refines_started : Refines (rangeOf inet4Range inet6Range) (started inet4Range inet6Range) {} where
  range isIPv6 := by rw [family_started, restart_newFamily]
  last isIPv6 valid := by rw [family_started, restart_newFamily, valid]; rfl
  current isIPv6 := by rw [family_started, restart_newFamily]
  storage := represents_empty

variable {isIPv6 : Bool} {mapping : Mapping} {ranges : Bool → Prefix} {state : State MemoryStorage}
  {domain : Bytes}

variable (own : OwnFamilies (ranges false) (ranges true))

include own

open Mapping

theorem family_advance {steps : Nat} (available : available (ranges isIPv6) steps = true) :
    (!(cursor (ranges isIPv6) (steps + 1)).is4) = isIPv6 := by
  obtain ⟨valid, present⟩ := Bool.and_eq_true_iff.mp available
  cases isIPv6 with
  | true =>
    show (!(advance (ranges true) _ _).is4) = true
    rw [not_is4_advance (own.inet6 valid)]
    rfl
  | false =>
    obtain ⟨bits, addr, notSecondLast⟩ := own.inet4 valid
    have notLast : bits ≠ 0xFFFFFFFF#32 := by
      intro last
      have second : (ranges false).addr.next = .invalid := by
        rw [addr, last]
        rfl
      rw [cursor_eq_invalid second] at present
      cases present
    show (!(advance (ranges false) _ _).is4) = false
    rw [is4_advance addr notLast notSecondLast]
    rfl

section

variable (refines : Refines ranges state mapping)

include refines

omit own in
theorem Refines.isValid_current (isIPv6 : Bool) :
    (state.store.family isIPv6).current.isValid = available (ranges isIPv6) (mapping.steps isIPv6) := by
  rw [refines.current, available]
  split
  · rename_i valid
    rw [valid, Bool.true_and]
  · rename_i invalid
    rw [Bool.eq_false_iff.mpr invalid]
    rfl

omit own in
theorem Refines.loadDomain (isIPv6 : Bool) (domain : Bytes) :
    memory.fakeIPLoadDomain domain isIPv6 state.storage = (mapping.pairs isIPv6).symm domain :=
  refines.storage.domain isIPv6 domain

omit own in
/-- What `Create` does, in terms of the mapping. -/
theorem Refines.create_cases (domain : Bytes) (isIPv6 : Bool) :
    (∃ addr, (mapping.pairs isIPv6).symm domain = some addr ∧
        create memory domain isIPv6 state = (.ok addr, state)) ∨ ((mapping.pairs isIPv6).symm domain = none ∧
        available (ranges isIPv6) (mapping.steps isIPv6) = false ∧
        create memory domain isIPv6 state = (.error (missingRange isIPv6), state)) ∨
      ((mapping.pairs isIPv6).symm domain = none ∧ available (ranges isIPv6) (mapping.steps isIPv6) = true ∧
        create memory domain isIPv6 state = (.ok (cursor (ranges isIPv6) (mapping.steps isIPv6 + 1)),
            ⟨state.store.setCurrent isIPv6 (cursor (ranges isIPv6) (mapping.steps isIPv6 + 1)),
              state.storage.fakeIPStore (cursor (ranges isIPv6) (mapping.steps isIPv6 + 1)) domain⟩)) := by
  have current := refines.isValid_current isIPv6
  unfold create
  rw [refines.loadDomain]
  cases held : (mapping.pairs isIPv6).symm domain with
  | some addr => exact .inl ⟨addr, rfl, rfl⟩
  | none =>
    right
    dsimp only
    rw [current]
    cases available : available (ranges isIPv6) (mapping.steps isIPv6) with
    | false => exact .inl ⟨rfl, rfl, rfl⟩
    | true =>
      have valid := (Bool.and_eq_true_iff.mp available).1
      have next : advance (state.store.family isIPv6).range (state.store.family isIPv6).last
          (state.store.family isIPv6).current =
          cursor (ranges isIPv6) (mapping.steps isIPv6 + 1) := by
        rw [refines.range, refines.last _ valid, refines.current, if_pos valid]
        rfl
      rw [next]
      exact .inr ⟨rfl, rfl, rfl⟩

end

variable (refines : Refines ranges state mapping)

include refines

/-- **One call.** -/
theorem refines_step (op : Op) : Refines ranges ((calls memory).step state op).1
      (mapping.step ranges op) := by
  cases op with
  | lookup address => exact refines
  | reset =>
    exact ⟨refines.range, refines.last, refines.current, represents_empty⟩
  | create domain isIPv6 =>
    show Refines _ (create memory domain isIPv6 state).2 _
    rw [Mapping.step]
    rcases refines.create_cases domain isIPv6 with ⟨addr, held, created⟩ |
      ⟨fresh, unavailable, created⟩ | ⟨fresh, available, created⟩
    · rw [created, if_neg fun it => some_ne_none addr (held.symm.trans it.1)]
      exact refines
    · rw [created, if_neg fun it => Bool.false_ne_true (unavailable.symm.trans it.2)]
      exact refines
    rw [created, if_pos ⟨fresh, available⟩]
    have valid := (Bool.and_eq_true_iff.mp available).1
    have family := family_advance own available
    have stored := refines.storage.fakeIPStore (family.symm ▸ fresh)
    rw [family] at stored
    refine ⟨fun other => ?_, fun other => ?_, fun other => ?_, stored⟩
    · rw [Store.family_setCurrent]
      exact refines.range other
    · rw [Store.family_setCurrent]
      exact refines.last other
    rw [Store.family_setCurrent, refines.current]
    show _ = if _ then cursor _ (update mapping.steps isIPv6 _ other) else _
    by_cases same : other = isIPv6
    · rw [same, update_self, if_pos rfl, if_pos valid]
    · rw [update_of_ne same, if_neg same]

def mappingAfter (ranges : Bool → Prefix) (mapping : Mapping) (ops : List Op) : Mapping :=
  ops.foldl (Mapping.step ranges) mapping

theorem refines_run (ops : List Op) : Refines ranges ((calls memory).run state ops)
      (mappingAfter ranges mapping ops) := by
  induction ops generalizing state mapping with
  | nil => exact refines
  | cons op rest ih => exact ih (refines_step own refines op)

/-! ### How long a pair stays -/

omit refines own in
theorem Refines.opensDomain_create (refines : Refines ranges state mapping) (family : Bool)
    (domain : Bytes) (isIPv6 : Bool) : opensDomain memory family state (.create domain isIPv6) = true ↔
      isIPv6 = family ∧ (mapping.pairs isIPv6).symm domain = none ∧
        available (ranges isIPv6) (mapping.steps isIPv6) = true := by
  show (isIPv6 == family && (memory.fakeIPLoadDomain domain isIPv6 state.storage).isNone &&
    (state.store.family isIPv6).current.isValid) = true ↔ _
  rw [refines.loadDomain, refines.isValid_current, Bool.and_eq_true_iff, Bool.and_eq_true_iff, beq_iff_eq,
    isNone_iff_eq_none, and_assoc]

/-- A pair, and the number of steps that the cursor has made since. -/
structure Aged (range : Prefix) (isIPv6 : Bool) (mapping : Mapping) (domain : Bytes) (made age : Nat) :
    Prop where
  pair : mapping.pairs isIPv6 (cursor range (made + 1)) = some domain
  steps : mapping.steps isIPv6 = made + 1 + age

omit refines own in
/-- **One call.** A new domain of the family makes the pair one step older. -/
theorem Aged.step {made age : Nat} (spans : Spans (ranges isIPv6))
    (enough : 1 ≤ usable (ranges isIPv6)) (refines : Refines ranges state mapping)
    (aged : Aged (ranges isIPv6) isIPv6 mapping domain made age) {op : Op} (kept : op ≠ .reset)
    (young : age + (if opensDomain memory isIPv6 state op then 1 else 0) < usable (ranges isIPv6)) :
    Aged (ranges isIPv6) isIPv6 (mapping.step ranges op) domain made
      (age + (if opensDomain memory isIPv6 state op then 1 else 0)) := by
  cases op with
  | lookup address => exact aged
  | reset => exact absurd rfl kept
  | create other family =>
    have opens := refines.opensDomain_create isIPv6 other family
    rw [Mapping.step]
    by_cases fresh : (mapping.pairs family).symm other = none ∧
        available (ranges family) (mapping.steps family) = true
    · rw [if_pos fresh]
      by_cases same : family = isIPv6
      · subst same
        rw [if_pos (opens.mpr ⟨rfl, fresh⟩)] at young ⊢
        have elsewhere : cursor (ranges family) (made + 1) ≠
            cursor (ranges family) (mapping.steps family + 1) := by
          rw [aged.steps]
          exact (cursor_ne spans enough (Nat.succ_pos age) young).symm
        have another : domain ≠ other := by
          intro equal
          have back : (mapping.pairs family).symm domain = some _ :=
            (mapping.pairs family).eq_some_iff.mpr aged.pair
          rw [equal, fresh.1] at back
          exact some_ne_none _ back.symm
        refine ⟨?_, ?_⟩
        · show update mapping.pairs family _ family _ = _
          rw [update_self]
          exact assign_eq_some_iff.mpr (.inr ⟨elsewhere, another, aged.pair⟩)
        · show update mapping.steps family _ family = _
          rw [update_self, aged.steps]
          rfl
      · rw [if_neg fun it => same (opens.mp it).1]
        refine ⟨?_, ?_⟩
        · show update mapping.pairs family _ isIPv6 _ = _
          rw [update_of_ne fun it => same it.symm]
          exact aged.pair
        · show update mapping.steps family _ isIPv6 = _
          rw [update_of_ne fun it => same it.symm]
          exact aged.steps
    · rw [if_neg fresh, if_neg fun it => fresh (opens.mp it).2]
      exact aged

omit refines in
/-- **Any sequence of calls without a reset.** -/
theorem aged_run (spans : Spans (ranges isIPv6))
    (enough : 1 ≤ usable (ranges isIPv6)) {made : Nat} (ops : List Op) :
    ∀ {state : State MemoryStorage} {mapping : Mapping} {age : Nat},
      Refines ranges state mapping →
      Aged (ranges isIPv6) isIPv6 mapping domain made age → (∀ op ∈ ops, op ≠ .reset) →
      age + newDomains memory isIPv6 state ops < usable (ranges isIPv6) →
      Aged (ranges isIPv6) isIPv6
        (mappingAfter ranges mapping ops) domain made
        (age + newDomains memory isIPv6 state ops) := by
  induction ops with
  | nil => exact fun _ aged _ _ => aged
  | cons op rest ih =>
    intro state mapping age refines aged kept young
    obtain ⟨keptHead, keptRest⟩ := List.forall_mem_cons.mp kept
    rw [newDomains, ← add_assoc] at young ⊢
    have older := aged.step spans enough refines keptHead (by omega)
    exact ih (refines_step own refines op) older keptRest young

/-! ### What the callers see -/

omit refines own in
theorem Refines.paired (refines : Refines ranges state mapping) (isIPv6 : Bool) (addr : Addr)
    (domain : Bytes) : memory.fakeIPLoadDomain domain isIPv6 state.storage = some addr ↔
      (!addr.is4) = isIPv6 ∧ lookup memory addr state = some domain := by
  have found : lookup memory addr state = mapping.pairs (!addr.is4) addr :=
    refines.storage.address addr
  have inverse : (mapping.pairs isIPv6).symm domain = some addr ↔
      mapping.pairs isIPv6 addr = some domain := (mapping.pairs isIPv6).inv addr domain
  rw [refines.loadDomain, found, inverse]
  constructor
  · intro pair
    have family := refines.storage.family isIPv6 addr domain pair
    exact ⟨family, family ▸ pair⟩
  · rintro ⟨rfl, pair⟩
    exact pair

/-- The domain leads to the address that `Create` returns. -/
theorem fakeIPLoadDomain_create {addr : Addr} (created : (create memory domain isIPv6 state).1 = .ok addr) :
    memory.fakeIPLoadDomain domain isIPv6 (create memory domain isIPv6 state).2.storage = some addr := by
  rcases refines.create_cases domain isIPv6 with ⟨held, pair, result⟩ |
    ⟨fresh, unavailable, result⟩ | ⟨fresh, available, result⟩
  · rw [result] at created ⊢
    rw [← Except.ok.inj created, ← pair]
    exact refines.loadDomain isIPv6 domain
  · rw [result] at created
    cases created
  · have after := refines_step own refines (.create domain isIPv6)
    have pair := after.loadDomain isIPv6 domain
    rw [Mapping.step, if_pos ⟨fresh, available⟩] at pair
    have taken : ((mapping.take (ranges isIPv6) domain isIPv6).pairs
        isIPv6).symm domain = some (cursor (ranges isIPv6)
          (mapping.steps isIPv6 + 1)) := by
      show (update mapping.pairs isIPv6 _ isIPv6).symm domain = _
      rw [update_self, symm_assign_apply, if_pos rfl]
    rw [result] at created
    rw [← Except.ok.inj created, ← taken]
    exact pair

omit refines own in
theorem available_of_spans {range : Prefix} (spans : Spans range) (enough : 1 ≤ usable range)
    (steps : Nat) : available range steps = true := by
  rw [available, spans.valid]
  cases steps with
  | zero =>
    show range.addr.next.isValid = true
    rw [next_addr spans enough, Addr.isValid_offset]
    exact Prefix.addr_isValid spans.valid
  | succ n =>
    rw [cursor_eq spans enough, Addr.isValid_offset]
    exact Prefix.addr_isValid spans.valid

omit refines own in
theorem aged_create (fresh : (mapping.pairs isIPv6).symm domain = none)
    (available : available (ranges isIPv6) (mapping.steps isIPv6) = true) :
    Aged (ranges isIPv6) isIPv6 (mapping.step ranges (.create domain isIPv6)) domain
      (mapping.steps isIPv6) 0 := by
  rw [Mapping.step, if_pos ⟨fresh, available⟩]
  refine ⟨?_, ?_⟩
  · show update mapping.pairs isIPv6 _ isIPv6 _ = _
    rw [update_self, assign_self]
  · show update mapping.steps isIPv6 _ isIPv6 = _
    rw [update_self]

/-- **A range with a usable address gives every domain one, for so many new domains.** -/
theorem survives (spans : Spans (ranges isIPv6))
    (enough : 1 ≤ usable (ranges isIPv6))
    (fresh : memory.fakeIPLoadDomain domain isIPv6 state.storage = none) :
    ∃ addr, (create memory domain isIPv6 state).1 = .ok addr ∧ ∀ future, (∀ op ∈ future, op ≠ .reset) →
        newDomains memory isIPv6 (create memory domain isIPv6 state).2 future <
          usable (ranges isIPv6) → memory.fakeIPLoadDomain domain isIPv6
          ((calls memory).run (create memory domain isIPv6 state).2 future).storage = some addr := by
  have available := available_of_spans spans enough (mapping.steps isIPv6)
  have unpaired : (mapping.pairs isIPv6).symm domain = none :=
    (refines.loadDomain isIPv6 domain).symm.trans fresh
  have next := refines_step own refines (.create domain isIPv6)
  have made : (create memory domain isIPv6 state).1 =
      .ok (cursor (ranges isIPv6) (mapping.steps isIPv6 + 1)) := by
    rcases refines.create_cases domain isIPv6 with ⟨held, pair, -⟩ | ⟨-, unavailable, -⟩ | ⟨-, -, result⟩
    · exact absurd (unpaired.symm.trans pair).symm (some_ne_none held)
    · exact absurd (unavailable.symm.trans available) Bool.false_ne_true
    · rw [result]
  refine ⟨_, made, fun future kept few => ?_⟩
  have aged := aged_run own spans enough future next (aged_create unpaired available) kept
    (by rw [zero_add]; exact few)
  have after := refines_run own next future
  calc memory.fakeIPLoadDomain domain isIPv6
        ((calls memory).run (create memory domain isIPv6 state).2 future).storage
      = _ := after.loadDomain isIPv6 domain
    _ = some _ := (PEquiv.inv _ _ _).mpr aged.pair

end Memory

/-- **The fake-IP mapping is one-to-one, and a pair stays** until as many new domains have come as the range has
usable addresses, in every state of a store in memory whose ranges are of their own families, without a `Reset`. -/
theorem fakeIPMapping_kept (inet4Range inet6Range : Prefix) (past : List Op)
    (own : OwnFamilies inet4Range inet6Range) :
    let state := (calls memory).run (started inet4Range inet6Range) past
    (∀ isIPv6 addr domain, memory.fakeIPLoadDomain domain isIPv6 state.storage = some addr ↔
      (!addr.is4) = isIPv6 ∧ lookup memory addr state = some domain) ∧
    (∀ domain isIPv6 addr, (create memory domain isIPv6 state).1 = .ok addr →
      lookup memory addr (create memory domain isIPv6 state).2 = some domain) ∧
    ∀ domain isIPv6, (rangeOf inet4Range inet6Range isIPv6).isValid = true →
      (rangeOf inet4Range inet6Range isIPv6).masked = rangeOf inet4Range inet6Range isIPv6 →
      1 ≤ usable (rangeOf inet4Range inet6Range isIPv6) →
      memory.fakeIPLoadDomain domain isIPv6 state.storage = none →
      ∃ addr, (create memory domain isIPv6 state).1 = .ok addr ∧
        ∀ future, (∀ op ∈ future, op ≠ .reset) →
          newDomains memory isIPv6 (create memory domain isIPv6 state).2 future <
            usable (rangeOf inet4Range inet6Range isIPv6) →
          memory.fakeIPLoadDomain domain isIPv6
            ((calls memory).run (create memory domain isIPv6 state).2 future).storage = some addr := by
  have refines := refines_run own refines_started past
  refine ⟨refines.paired, ?_, ?_⟩
  · intro domain isIPv6 addr created
    have loaded := fakeIPLoadDomain_create own refines created
    exact (((refines_step own refines (.create domain isIPv6)).paired isIPv6 addr domain).mp loaded).2
  · intro domain isIPv6 valid masked enough fresh
    exact survives own refines (spans_of_masked valid masked) enough fresh

def exampleRange4 : Prefix := Prefix.prefixFrom (.v4 0xC6120000#32) 15

def exampleRange6 : Prefix := Prefix.prefixFrom (.v6 (0xFC00#16 ++ 0#112) []) 18

/-- The ranges of the documentation. -/
theorem fakeIPMapping_kept_example :
    ∃ addr, (create memory [98] false ((calls memory).run (started exampleRange4 exampleRange6)
        [.create [97] false])).1 = .ok addr ∧ ∀ future, (∀ op ∈ future, op ≠ .reset) →
        newDomains memory false (create memory [98] false ((calls memory).run
          (started exampleRange4 exampleRange6) [.create [97] false])).2 future < 131069 →
        memory.fakeIPLoadDomain [98] false ((calls memory).run (create memory [98] false
          ((calls memory).run (started exampleRange4 exampleRange6)
            [.create [97] false])).2 future).storage = some addr := by
  have own : OwnFamilies exampleRange4 exampleRange6 :=
    ⟨fun _ => ⟨0xC6120000#32, rfl, by decide⟩, fun _ => rfl⟩
  exact (fakeIPMapping_kept exampleRange4 exampleRange6 [.create [97] false] own).2.2 [98] false
    (by decide) (by decide +kernel) (by decide +kernel) (by decide +kernel)

/-- The range `255.255.255.254/31`. -/
def edgeRange4 : Prefix := Prefix.prefixFrom (.v4 0xFFFFFFFE#32) 31

/-- **The mapping breaks** for a range that begins with the last but one IPv4 address: `Create` returns the zero
address, which is filed under IPv6, so that the domain's IPv6 address leads to the domain, but the domain to the zero
address. -/
theorem fakeIPMapping_broken :
    let state := (calls memory).run (started edgeRange4 exampleRange6) [.create [97] true, .create [97] false]
    ¬ ∀ isIPv6 addr domain, memory.fakeIPLoadDomain domain isIPv6 state.storage = some addr ↔
      (!addr.is4) = isIPv6 ∧ lookup memory addr state = some domain := by
  intro state agree
  have found : lookup memory (.v6 (0xFC00#16 ++ 2#112) []) state = some [97] := by decide +kernel
  have loaded : memory.fakeIPLoadDomain [97] true state.storage = some .invalid := by
    decide +kernel
  have same := (agree true (.v6 (0xFC00#16 ++ 2#112) []) [97]).mpr ⟨rfl, found⟩
  rw [loaded] at same
  cases same

/-! ### Addresses outside of their range -/

/-- `Contains`. -/
def Store.contains (store : Store) (address : Addr) : Bool :=
  store.inet4.range.contains address || store.inet6.range.contains address

/-- **A storage finds what it has been given.** -/
structure FindsStored {σ : Type} (ops : FakeIPStorage σ) : Prop where
  store : ∀ address domain storage name isIPv6 addr, address.withoutZone = address →
    ops.fakeIPLoadDomain name isIPv6 (ops.fakeIPStore address domain storage).2 = some addr →
    ops.fakeIPLoadDomain name isIPv6 storage = some addr ∨ addr = address
  save : ∀ metadata storage name isIPv6,
    ops.fakeIPLoadDomain name isIPv6 (ops.fakeIPSaveMetadataAsync metadata storage) =
      ops.fakeIPLoadDomain name isIPv6 storage

/-- Nothing has been stored, and no metadata saved. -/
structure IsEmpty {σ : Type} (ops : FakeIPStorage σ) (storage : σ) : Prop where
  metadata : (ops.fakeIPMetadata storage).1 = none
  reset : ∀ domain isIPv6, ops.fakeIPLoadDomain domain isIPv6
    (ops.fakeIPReset (ops.fakeIPMetadata storage).2).2 = none

theorem findsStored_memory : FindsStored memory where
  store address domain storage name isIPv6 addr _ loaded := by
    have loaded : (storage.fakeIPStore address domain).domainCache isIPv6 name = some addr := loaded
    by_cases own : isIPv6 = !address.is4
    · rw [own, storage.domainCache_fakeIPStore] at loaded
      by_cases same : name = domain
      · rw [same, update_self] at loaded
        exact .inr (some.inj loaded).symm
      rw [update_of_ne same, MemoryStorage.dropOldDomain] at loaded
      split at loaded
      · rw [MemoryStorage.domainCache_setDomainCache] at loaded
        rw [own]
        rw [update_apply] at loaded
        split_ifs at loaded
        exact .inl loaded
      · exact .inl (own ▸ loaded)
    · rw [storage.domainCache_fakeIPStore_of_ne domain own] at loaded
      exact .inl loaded
  save _ _ _ _ := rfl

def familyAt (range : Prefix) (steps : Nat) : Family where
  range := range
  last := if range.isValid then broadcastAddress range else .invalid
  current := if range.isValid then cursor range steps else .invalid

/-- Calls of `Create`, one after another. -/
def creates {σ : Type} (ops : FakeIPStorage σ) (state : State σ) (queries : List (Bytes × Bool)) : State σ :=
  queries.foldl (fun state query => (create ops query.1 query.2 state).2) state

structure Yields {σ : Type} (ops : FakeIPStorage σ) (ranges : Bool → Prefix) (fine : Addr → Prop)
    (state : State σ) : Prop where
  family : ∀ isIPv6, ∃ steps, state.store.family isIPv6 = familyAt (ranges isIPv6) steps
  found : ∀ domain isIPv6 addr, ops.fakeIPLoadDomain domain isIPv6 state.storage = some addr → fine addr

section Ranges

variable {σ : Type} {ops : FakeIPStorage σ} {ranges : Bool → Prefix} {fine : Addr → Prop} {state : State σ}

section

variable (finds : FindsStored ops)
  (next : ∀ isIPv6 steps, (ranges isIPv6).isValid = true → (cursor (ranges isIPv6) steps).isValid = true →
    fine (cursor (ranges isIPv6) (steps + 1)))
  (yields : Yields ops ranges fine state)

include finds next yields

/-- **`Create`** returns what is fine if the addresses of the cursors are. -/
theorem Yields.create (domain : Bytes) (isIPv6 : Bool) :
    (∀ addr, (create ops domain isIPv6 state).1 = .ok addr → fine addr) ∧
      Yields ops ranges fine (create ops domain isIPv6 state).2 := by
  unfold FakeIP.create
  cases loaded : ops.fakeIPLoadDomain domain isIPv6 state.storage with
  | some held =>
    refine ⟨fun addr created => ?_, yields⟩
    cases created
    exact yields.found domain isIPv6 _ loaded
  | none =>
    obtain ⟨steps, family⟩ := yields.family isIPv6
    rw [family, familyAt]
    dsimp only
    split_ifs with valid missing missing
    · exact ⟨fun addr created => (by cases created), yields⟩
    · have good := next isIPv6 steps valid (by simpa using missing)
      refine ⟨fun addr created => ?_, fun other => ?_, fun name other addr found => ?_⟩
      · cases created
        exact good
      · rw [Store.family_setCurrent]
        by_cases same : other = isIPv6
        · refine ⟨steps + 1, ?_⟩
          rw [same, family, familyAt, familyAt, if_pos valid, if_pos valid, if_pos valid, if_pos rfl]
          rfl
        · rw [if_neg same]
          exact yields.family other
      · rw [finds.save] at found
        rcases finds.store _ _ _ _ _ _ (withoutZone_cursor _ (steps + 1)) found with old | rfl
        · exact yields.found name other addr old
        · exact good
    · exact ⟨fun addr created => (by cases created), yields⟩
    · exact absurd rfl missing

theorem yields_creates (queries : List (Bytes × Bool)) : Yields ops ranges fine (creates ops state queries) := by
  induction queries generalizing state with
  | nil => exact yields
  | cons query rest ih => exact ih (yields.create finds next query.1 query.2).2

end

variable {inet4Range inet6Range : Prefix} {storage : σ}

theorem start_of_isEmpty (empty : IsEmpty ops storage) : start ops (newStore inet4Range inet6Range) storage =
      ⟨(started inet4Range inet6Range).store, (ops.fakeIPReset (ops.fakeIPMetadata storage).2).2⟩ := by
  have saved := empty.metadata
  unfold start
  generalize ops.fakeIPMetadata storage = pair at saved
  obtain ⟨saved, storage⟩ := pair
  subst saved
  rfl

theorem yields_start (empty : IsEmpty ops storage) : Yields ops (rangeOf inet4Range inet6Range) fine
      (start ops (newStore inet4Range inet6Range) storage) := by
  rw [start_of_isEmpty empty]
  refine ⟨fun isIPv6 => ⟨0, ?_⟩, fun domain isIPv6 addr loaded => ?_⟩
  · rw [family_started, restart_newFamily]
    rfl
  · exact absurd (loaded.symm.trans (empty.reset domain isIPv6)) (some_ne_none addr)

end Ranges

/-- The address is within a range, and not the last one of it. -/
def Recognised (ranges : Bool → Prefix) (addr : Addr) : Prop :=
  ∃ isIPv6, (ranges isIPv6).contains addr = true ∧ addr ≠ broadcastAddress (ranges isIPv6)

/-- A range that has an address to give has its third address within it, before the last. -/
def Roomy (ranges : Bool → Prefix) : Prop :=
  ∀ isIPv6, (ranges isIPv6).isValid = true → (ranges isIPv6).addr.next.isValid = true →
    (ranges isIPv6).hostPart + 4 ≤ (ranges isIPv6).size

theorem Roomy.recognised {ranges : Bool → Prefix} (roomy : Roomy ranges) (isIPv6 : Bool) (steps : Nat)
    (valid : (ranges isIPv6).isValid = true) (present : (cursor (ranges isIPv6) steps).isValid = true) :
    Recognised ranges (cursor (ranges isIPv6) (steps + 1)) := by
  have second : (ranges isIPv6).addr.next.isValid = true := by
    by_contra gone
    rw [cursor_eq_invalid (Addr.eq_invalid gone)] at present
    exact Bool.false_ne_true present
  obtain ⟨third, notLast⟩ := (third_iff valid second).mpr (roomy isIPv6 valid second)
  exact ⟨isIPv6, contains_advance third notLast _⟩

/-- **Every fake address is recognised** exactly if each range has room behind its address: from an empty storage on,
`Create` returns addresses within their range, and not the last one. -/
theorem fakeIP_recognised_iff {σ : Type} (ops : FakeIPStorage σ) (storage : σ)
    (inet4Range inet6Range : Prefix) (finds : FindsStored ops) (empty : IsEmpty ops storage)
    (families : ∀ isIPv6, (rangeOf inet4Range inet6Range isIPv6).isValid = true →
      (rangeOf inet4Range inet6Range isIPv6).addr.is4 = !isIPv6) : (∀ queries domain isIPv6 addr,
      (create ops domain isIPv6 (creates ops (start ops (newStore inet4Range inet6Range) storage)
        queries)).1 = .ok addr → (newStore inet4Range inet6Range).contains addr = true ∧
        Recognised (rangeOf inet4Range inet6Range) addr) ↔ Roomy (rangeOf inet4Range inet6Range) := by
  constructor
  · intro all isIPv6 valid second
    have first : (create ops [] isIPv6 (start ops (newStore inet4Range inet6Range) storage)).1 =
        .ok (rangeOf inet4Range inet6Range isIPv6).addr.next.next := by
      rw [start_of_isEmpty empty, create, empty.reset]
      rw [family_started, restart_newFamily, if_pos valid, if_pos valid]
      show (if !(rangeOf inet4Range inet6Range isIPv6).addr.next.isValid then _ else _ :
        Except Error Addr × State σ).1 = _
      rw [second]
      exact congrArg Except.ok (ite_self _)
    obtain ⟨own, inside, other⟩ := (all [] [] isIPv6 _ first).2
    have third : (rangeOf inet4Range inet6Range isIPv6).addr.next.next.isValid = true := by
      by_contra gone
      rw [Addr.eq_invalid gone, contains_invalid] at inside
      exact Bool.false_ne_true inside
    have kinds := is4_of_contains inside
    rw [Addr.is4_next second third, Addr.is4_next (Prefix.addr_isValid valid) second, families _ valid,
      families _ (isValid_of_contains inside)] at kinds
    rw [← Bool.not_inj kinds] at inside other
    exact (third_iff valid second).mp ⟨inside, other⟩
  · intro roomy queries domain isIPv6 addr created
    have yields := yields_creates finds roomy.recognised (yields_start empty) queries
    have recognised := (yields.create finds roomy.recognised domain isIPv6).1 addr created
    refine ⟨?_, recognised⟩
    obtain ⟨own, inside, -⟩ := recognised
    cases own with
    | false => exact Bool.or_eq_true_iff.mpr (.inl inside)
    | true => exact Bool.or_eq_true_iff.mpr (.inr inside)

/-- The addresses that these ranges hand out. -/
theorem fakeIP_recognised_example : Roomy (rangeOf exampleRange4 exampleRange6) ∧
    ∀ queries domain isIPv6 addr, (create memory domain isIPv6
      (creates memory (start memory (newStore exampleRange4 exampleRange6) {}) queries)).1 = .ok addr →
    (newStore exampleRange4 exampleRange6).contains addr = true ∧
      Recognised (rangeOf exampleRange4 exampleRange6) addr := by
  have roomy : Roomy (rangeOf exampleRange4 exampleRange6) := by
    intro isIPv6
    cases isIPv6 <;> decide +kernel
  refine ⟨roomy, (fakeIP_recognised_iff memory {} exampleRange4 exampleRange6 findsStored_memory
    ⟨rfl, fun domain isIPv6 => ?_⟩ fun isIPv6 => ?_).mpr roomy⟩
  · cases isIPv6 <;> rfl
  · cases isIPv6 <;> decide +kernel

/-- The range `198.18.0.0/31`. -/
def smallRange4 : Prefix := Prefix.prefixFrom (.v4 0xC6120000#32) 31

/-- **The first address of a range of two is outside of it**: `198.18.0.2`. -/
theorem fakeIP_outside : (create memory [97] false (start memory (newStore smallRange4 Prefix.none) {})).1 =
      .ok (.v4 0xC6120002#32) ∧ (newStore smallRange4 Prefix.none).contains (.v4 0xC6120002#32) = false :=
  ⟨rfl, by decide +kernel⟩

end SingBox.FakeIP
