/-
**The fake-IP mappings on disk** (`experimental/cachefile/fakeip.go`, `experimental/cachefile/cache.go`,
`adapter/fakeip_metadata.go`).

The cache file keeps the mappings in three buckets of a database, and the cursors of the last run as one more entry of
the first. `batch` runs a function as a transaction: an error takes back everything it has done, and a panic makes the
cache file throw the whole database away. A store that starts with other ranges than the saved ones deletes the three
buckets in one transaction, and a bucket that does not exist is an error: with only one family in use there is always
such a bucket.
-/

import SingBox.FakeIP.Store

namespace SingBox.FakeIP

open SingBox.Lib Option Function FakeIPMetadata

/-! ### The database -/

/-- The buckets `fakeip_address`, `fakeip_domain4` and `fakeip_domain6`. -/
inductive BucketName where
  | address
  | domain4
  | domain6
  deriving DecidableEq

abbrev Bucket := Bytes → Option Bytes

/-- The content of the database: the buckets that exist. -/
abbrev Db := BucketName → Option Bucket

inductive Failure where
  | error (error : Error)
  | panic

abbrev Tx (α : Type) := StateT Db (Except Failure) α

/-- `CacheFile.batch`: an error leaves the database as it was, and after a panic `resetDB` starts a
new one. -/
def batch {α : Type} (fn : Tx α) (db : Db) : Except Error α × Db :=
  match fn db with
  | .ok (value, after) => (.ok value, after)
  | .error (.error error) => (.error error, db)
  | .error .panic => (.error (.new "database corrupted: "), fun _ => none)

def maxKeySize : Nat := 32768
def maxValueSize : Nat := 2 ^ 31 - 2

namespace Tx

def fail {α : Type} (failure : Failure) : Tx α := fun _ => .error failure

variable (name : BucketName)

def bucket : Tx (Option Bucket) := fun db => .ok (db name, db)

def createBucketIfNotExists : Tx Bucket := fun db =>
  let bucket := (db name).getD fun _ => none
  .ok (bucket, Function.update db name (some bucket))

def deleteBucket : Tx Unit := fun db =>
  if (db name).isNone then .error (.error (.new "bucket not found"))
  else .ok ((), Function.update db name none)

/-- `Bucket.Put`, in a bucket that has been opened. -/
def put (key value : Bytes) : Tx Unit := fun db =>
  if key = [] then .error (.error (.new "key required"))
  else if maxKeySize < key.length then .error (.error (.new "key too large"))
  else if maxValueSize < value.length then .error (.error (.new "value too large"))
  else .ok ((), Function.update db name ((db name).map fun bucket => Function.update bucket key (some value)))

/-- `Bucket.Delete`, in a bucket that has been opened. -/
def delete (key : Bytes) : Tx Unit := fun db =>
  .ok ((), Function.update db name ((db name).map fun bucket => Function.update bucket key none))

end Tx

/-! ### The metadata entry -/

/-- `Addr.UnmarshalBinary`. -/
def addrUnmarshalBinary (data : Bytes) : Except Failure Addr :=
  if data.length = 0 then .ok .invalid
  else if data.length = 4 then .ok (.v4 (BitVec.ofNat 32 (ofBigEndian data)))
  else if 16 ≤ data.length then
    .ok (.v6 (BitVec.ofNat 128 (ofBigEndian (data.take 16))) (data.drop 16))
  else .error (.error (.new "unexpected slice size"))

/-- `Prefix.UnmarshalBinary`. -/
def prefixUnmarshalBinary (data : Bytes) : Except Failure Prefix := do
  match data.getLast? with
  | none => throw (.error (.new "unexpected slice size"))
  | some bits =>
    let addr ← addrUnmarshalBinary data.dropLast
    return Prefix.prefixFrom addr bits.toNat

/-- An element and the rest. A length field that is not complete is a panic (`common.Must`). -/
def readElement (data : Bytes) : Except Failure (Bytes × Bytes) :=
  if data.length < 2 then .error .panic
  else
    let length := ofBigEndian (data.take 2)
    if (data.drop 2).length < length then .error (.error .eof)
    else .ok ((data.drop 2).take length, (data.drop 2).drop length)

namespace FakeIPMetadata

def unmarshalBinary (data : Bytes) : Except Failure FakeIPMetadata := do
  let (element, data) ← readElement data
  let inet4Range ← prefixUnmarshalBinary element
  let (element, data) ← readElement data
  let inet6Range ← prefixUnmarshalBinary element
  let (element, data) ← readElement data
  let inet4Current ← addrUnmarshalBinary element
  let (element, _) ← readElement data
  let inet6Current ← addrUnmarshalBinary element
  return ⟨inet4Range, inet6Range, inet4Current, inet6Current⟩

end FakeIPMetadata

/-- `Addr.MarshalBinary`. -/
def addrMarshalBinary : Addr → Bytes
  | .v6 bits zone => bigEndian 16 bits.toNat ++ zone
  | addr => addr.asSlice

/-- `Prefix.MarshalBinary`. -/
def prefixMarshalBinary (p : Prefix) : Bytes :=
  addrMarshalBinary p.addr.withoutZone ++ [UInt8.ofInt p.bits]

def FakeIPMetadata.marshalBinary (metadata : FakeIPMetadata) : Bytes :=
  [prefixMarshalBinary metadata.inet4Range, prefixMarshalBinary metadata.inet6Range,
    addrMarshalBinary metadata.inet4Current, addrMarshalBinary metadata.inet6Current].flatMap
      fun data => bigEndian 2 data.length ++ data

/-! ### The cache file -/

/-- The part of `CacheFile` that keeps fake-IP mappings. -/
structure CacheFile where
  db : Db := fun _ => none
  saveMetadata : Option FakeIPMetadata := none

/-- The key `fakeip_metadata`. -/
def keyMetadata : Bytes :=
  [0x66, 0x61, 0x6B, 0x65, 0x69, 0x70, 0x5F, 0x6D, 0x65, 0x74, 0x61, 0x64, 0x61, 0x74, 0x61]

def domainBucket (isIPv6 : Bool) : BucketName := if isIPv6 then .domain6 else .domain4

namespace CacheFile

variable (addrFromIP : Bytes → Addr)

/-- The transaction of `FakeIPMetadata`. -/
def takeMetadata : Tx FakeIPMetadata := do
  match ← Tx.bucket .address with
  | none => Tx.fail (.error (.new "file does not exist"))
  | some bucket =>
    let metadataBinary := (bucket keyMetadata).getD []
    if metadataBinary.length = 0 then Tx.fail (.error .invalid)
    else
      Tx.delete .address keyMetadata
      unmarshalBinary metadataBinary

def fakeIPMetadata (file : CacheFile) : Option FakeIPMetadata × CacheFile :=
  let (result, db) := batch takeMetadata file.db
  (result.toOption, { file with db := db })

def fakeIPSaveMetadata (metadata : FakeIPMetadata) (file : CacheFile) : Except Error Unit × CacheFile :=
  let (result, db) := batch (do
    let _ ← Tx.createBucketIfNotExists .address
    Tx.put .address keyMetadata metadata.marshalBinary) file.db
  (result, { file with db := db })

/-- `FakeIPSaveMetadataAsync`: the metadata wait for a timer. -/
def fakeIPSaveMetadataAsync (metadata : FakeIPMetadata) (file : CacheFile) : CacheFile :=
  { file with saveMetadata := some metadata }

/-- The timer of `FakeIPSaveMetadataAsync`. -/
def saveTimer (file : CacheFile) : CacheFile :=
  match file.saveMetadata with
  | some metadata => (fakeIPSaveMetadata metadata file).2
  | none => file

/-- The transaction of `FakeIPStore`. -/
def storePair (address : Addr) (domain : Bytes) : Tx Unit := do
  let bucket ← Tx.createBucketIfNotExists .address
  let oldDomain := bucket address.asSlice
  Tx.put .address address.asSlice domain
  let _ ← Tx.createBucketIfNotExists (domainBucket !address.is4)
  match oldDomain with
  | some oldDomain => Tx.delete (domainBucket !address.is4) oldDomain
  | none => pure ()
  Tx.put (domainBucket !address.is4) domain address.asSlice

def fakeIPStore (address : Addr) (domain : Bytes) (file : CacheFile) : Except Error Unit × CacheFile :=
  let (result, db) := batch (storePair address domain) file.db
  (result, { file with db := db })

def fakeIPLoad (address : Addr) (file : CacheFile) : Option Bytes :=
  match file.db .address with
  | none => none
  | some bucket =>
    let domain := (bucket address.asSlice).getD []
    if domain = [] then none else some domain

def fakeIPLoadDomain (domain : Bytes) (isIPv6 : Bool) (file : CacheFile) : Option Addr :=
  match file.db (domainBucket isIPv6) with
  | none => none
  | some bucket =>
    let address := addrFromIP ((bucket domain).getD [])
    if address.isValid then some address else none

def fakeIPReset (file : CacheFile) : Except Error Unit × CacheFile :=
  let (result, db) := batch (do
    Tx.deleteBucket .address
    Tx.deleteBucket .domain4
    Tx.deleteBucket .domain6) file.db
  (result, { file with db := db })

end CacheFile

/-- `CacheFile`, as a storage. -/
def cacheFile (addrFromIP : Bytes → Addr) : FakeIPStorage CacheFile where
  fakeIPMetadata := CacheFile.fakeIPMetadata
  fakeIPSaveMetadataAsync := CacheFile.fakeIPSaveMetadataAsync
  fakeIPStore := CacheFile.fakeIPStore
  fakeIPLoad := CacheFile.fakeIPLoad
  fakeIPLoadDomain := CacheFile.fakeIPLoadDomain addrFromIP
  fakeIPReset := CacheFile.fakeIPReset

/-! ### What the transactions do -/

namespace CacheFile

/-- The metadata entry ends inside a length field. -/
def BreaksOff (db : Db) : Prop :=
  ∃ bucket data, db .address = some bucket ∧ bucket keyMetadata = some data ∧ data ≠ [] ∧
    unmarshalBinary data = .error .panic

theorem asSlice_ne_keyMetadata (address : Addr) : address.asSlice ≠ keyMetadata := by
  intro equal
  have lengths := congrArg List.length equal
  cases address with
  | invalid => exact absurd lengths (by decide)
  | v4 bits => exact absurd ((length_bigEndian 4 _).symm.trans lengths) (by decide)
  | v6 bits zone => exact absurd ((length_bigEndian 16 _).symm.trans lengths) (by decide)

theorem takeMetadata_of_none {db : Db} (absent : db .address = none) :
    takeMetadata db = .error (.error (.new "file does not exist")) := by
  simp only [takeMetadata, Tx.bucket, bind, StateT.bind, absent]
  rfl

theorem takeMetadata_of_some {db : Db} {bucket : Bucket} (present : db .address = some bucket) :
    takeMetadata db = if ((bucket keyMetadata).getD []).length = 0 then .error (.error .invalid)
      else (unmarshalBinary ((bucket keyMetadata).getD [])).map fun metadata =>
        (metadata, update db .address (some (update bucket keyMetadata none))) := by
  have deleted : Tx.delete .address keyMetadata db =
      .ok ((), update db .address (some (update bucket keyMetadata none))) := by
    unfold Tx.delete
    rw [present]
    rfl
  simp only [takeMetadata, Tx.bucket, bind, StateT.bind, Except.bind, present]
  split
  · rfl
  · show (Tx.delete .address keyMetadata db >>= _) = _
    rw [deleted]
    cases unmarshalBinary ((bucket keyMetadata).getD []) <;> rfl

/-- **`FakeIPMetadata` takes its entry out**, or panics, or leaves the database alone. -/
theorem takeMetadata_cases (db : Db) : (BreaksOff db ∧ takeMetadata db = .error .panic) ∨
      (¬ BreaksOff db ∧ ∃ error, takeMetadata db = .error (.error error)) ∨
      (¬ BreaksOff db ∧ ∃ bucket metadata, db .address = some bucket ∧
        takeMetadata db = .ok (metadata, update db .address (some (update bucket keyMetadata none)))) := by
  cases present : db .address with
  | none =>
    refine .inr (.inl ⟨?_, _, takeMetadata_of_none present⟩)
    rintro ⟨bucket, -, held, -⟩
    exact absurd (present.symm.trans held) (some_ne_none bucket).symm
  | some bucket =>
    have entry : BreaksOff db ↔ ((bucket keyMetadata).getD []).length ≠ 0 ∧
        unmarshalBinary ((bucket keyMetadata).getD []) = .error .panic := by
      constructor
      · rintro ⟨other, data, held, stored, nonempty, panics⟩
        cases present.symm.trans held
        rw [stored]
        exact ⟨fun empty => nonempty (List.length_eq_zero_iff.mp empty), panics⟩
      · rintro ⟨nonempty, panics⟩
        cases stored : bucket keyMetadata with
        | none => rw [stored] at nonempty; exact absurd rfl nonempty
        | some data =>
          rw [stored] at nonempty panics
          exact ⟨bucket, data, present, stored, fun empty => nonempty (by rw [empty]; rfl), panics⟩
    rw [takeMetadata_of_some present, entry]
    split_ifs with empty
    · exact .inr (.inl ⟨fun it => it.1 empty, _, rfl⟩)
    cases decoded : unmarshalBinary ((bucket keyMetadata).getD []) with
    | ok metadata =>
      exact .inr (.inr ⟨fun it => (by cases it.2), bucket, metadata, rfl, rfl⟩)
    | error failure =>
      cases failure with
      | panic => exact .inl ⟨⟨empty, rfl⟩, rfl⟩
      | error error => exact .inr (.inl ⟨fun it => (by cases it.2), error, rfl⟩)

structure SameMappings (addrFromIP : Bytes → Addr) (file after : CacheFile) : Prop where
  buckets : ∀ name, (after.db name).isSome = (file.db name).isSome
  load : ∀ address, after.fakeIPLoad address = file.fakeIPLoad address
  loadDomain : ∀ domain isIPv6, after.fakeIPLoadDomain addrFromIP domain isIPv6 =
    file.fakeIPLoadDomain addrFromIP domain isIPv6

/-- Unless the entry breaks off, `FakeIPMetadata` leaves the mappings alone. -/
theorem sameMappings_fakeIPMetadata (addrFromIP : Bytes → Addr) {file : CacheFile}
    (whole : ¬ BreaksOff file.db) : SameMappings addrFromIP file file.fakeIPMetadata.2 := by
  rcases takeMetadata_cases file.db with ⟨broken, -⟩ | ⟨-, error, failed⟩ | ⟨-, bucket, metadata, present, taken⟩
  · exact absurd broken whole
  · have same : file.fakeIPMetadata.2 = file := by
      unfold fakeIPMetadata batch
      rw [failed]
    rw [same]
    exact ⟨fun _ => rfl, fun _ => rfl, fun _ _ => rfl⟩
  · have after : file.fakeIPMetadata.2.db = update file.db .address (some (update bucket keyMetadata none)) := by
      unfold fakeIPMetadata batch
      rw [taken]
    refine ⟨fun name => ?_, fun address => ?_, fun domain isIPv6 => ?_⟩
    · rw [after]
      by_cases same : name = .address
      · rw [same, present]
        rfl
      · rw [update_of_ne same]
    · unfold fakeIPLoad
      rw [after, update_self, present]
      dsimp only
      rw [update_of_ne (asSlice_ne_keyMetadata address)]
    · have other : domainBucket isIPv6 ≠ .address := by cases isIPv6 <;> decide
      unfold fakeIPLoadDomain
      rw [after, update_of_ne other]

theorem fakeIPMetadata_of_breaksOff {file : CacheFile} (broken : BreaksOff file.db) :
    file.fakeIPMetadata.2.db = fun _ => none := by
  rcases takeMetadata_cases file.db with ⟨-, panics⟩ | ⟨whole, -⟩ | ⟨whole, -⟩
  · unfold fakeIPMetadata batch
    rw [panics]
  · exact absurd broken whole
  · exact absurd broken whole

section

variable {name : BucketName}

theorem deleteBucket_of_isSome {db : Db} (present : (db name).isSome = true) :
    Tx.deleteBucket name db = .ok ((), update db name none) := by
  rw [Tx.deleteBucket, if_neg]
  rw [isNone_iff_eq_none]
  intro absent
  rw [absent] at present
  exact Bool.false_ne_true present

theorem deleteBucket_of_none {db : Db} (absent : db name = none) :
    Tx.deleteBucket name db = .error (.error (.new "bucket not found")) := by
  rw [Tx.deleteBucket, absent]
  rfl

/-- With all three buckets, `FakeIPReset` deletes them. -/
theorem fakeIPReset_of_all {file : CacheFile} (all : ∀ name, (file.db name).isSome = true) :
    file.fakeIPReset.2.db = fun _ => none := by
  have second : (update file.db .address none .domain4).isSome = true := all .domain4
  have third : (update (update file.db .address none) .domain4 none .domain6).isSome = true := all .domain6
  unfold fakeIPReset batch
  simp only [bind, StateT.bind, Except.bind, deleteBucket_of_isSome (all .address),
    deleteBucket_of_isSome second, deleteBucket_of_isSome third]
  funext name
  cases name <;> rfl

/-- **With a bucket missing, `FakeIPReset` fails**, and nothing is deleted. -/
theorem fakeIPReset_of_missing {file : CacheFile} (missing : file.db name = none) : file.fakeIPReset.2 = file := by
  unfold fakeIPReset batch
  -- The first bucket that is missing ends the transaction.
  by_cases first : (file.db .address).isSome = true
  · by_cases second : (update file.db .address none .domain4).isSome = true
    · have third : update (update file.db .address none) .domain4 none .domain6 = none := by
        cases name with
        | address => rw [missing] at first; cases first
        | domain4 =>
          have present : (file.db .domain4).isSome = true := second
          rw [missing] at present
          cases present
        | domain6 => exact missing
      simp only [bind, StateT.bind, Except.bind, deleteBucket_of_isSome first,
        deleteBucket_of_isSome second, deleteBucket_of_none third]
    · simp only [bind, StateT.bind, Except.bind, deleteBucket_of_isSome first,
        deleteBucket_of_none (not_isSome_iff_eq_none.mp second)]
  · simp only [bind, StateT.bind, Except.bind, deleteBucket_of_none (not_isSome_iff_eq_none.mp first)]

/-! ### What the domain buckets gain -/

def entry (db : Db) (name : BucketName) (key : Bytes) : Option Bytes := (db name).bind fun b => b key

/-- A domain bucket has no new entry but for `value`. -/
def Adds (value : Bytes) (db after : Db) : Prop :=
  ∀ isIPv6 key stored, entry after (domainBucket isIPv6) key = some stored →
    entry db (domainBucket isIPv6) key = some stored ∨ stored = value

theorem Adds.refl (value : Bytes) (db : Db) : Adds value db db := fun _ _ _ held => Or.inl held

theorem Adds.trans {value : Bytes} {db middle after : Db} (first : Adds value db middle)
    (second : Adds value middle after) : Adds value db after := by
  intro isIPv6 key stored held
  rcases second isIPv6 key stored held with before | same
  · exact first isIPv6 key stored before
  · exact .inr same

theorem adds_empty (value : Bytes) (db : Db) : Adds value db fun _ => none :=
  fun _ _ stored held => absurd held (some_ne_none stored).symm

/-- One bucket changes, and what it gains is `value`. -/
theorem adds_update {value : Bytes} {db : Db} {bucket : Option Bucket}
    (gain : ∀ isIPv6 key stored, name = domainBucket isIPv6 →
      (bucket.bind fun b => b key) = some stored → entry db name key = some stored ∨ stored = value) :
    Adds value db (update db name bucket) := by
  intro isIPv6 key stored held
  by_cases same : domainBucket isIPv6 = name
  · unfold entry at held
    rw [same, update_self] at held
    rw [same]
    exact gain isIPv6 key stored same.symm held
  · unfold entry at held
    rw [update_of_ne same] at held
    exact .inl held

/-- One key of a bucket changes, to `value` if it is set. -/
theorem adds_set {value key : Bytes} {db : Db} {data : Option Bytes}
    (gain : ∀ isIPv6 stored, name = domainBucket isIPv6 → data = some stored → stored = value) :
    Adds value db (update db name ((db name).map fun bucket => update bucket key data)) := by
  refine adds_update fun isIPv6 other stored isDomain held => ?_
  unfold entry
  cases present : db name with
  | none => rw [present] at held; exact absurd held (some_ne_none stored).symm
  | some bucket =>
    rw [present] at held
    have kept : update bucket key data other = some stored := held
    by_cases same : other = key
    · rw [same, update_self] at kept
      exact .inr (gain isIPv6 stored isDomain kept)
    · rw [update_of_ne same] at kept
      exact .inl kept

end

/-- A transaction's function that gains nothing but `value`. -/
def TxAdds {α : Type} (value : Bytes) (fn : Tx α) : Prop :=
  ∀ db result after, fn db = .ok (result, after) → Adds value db after

namespace TxAdds

variable {α β : Type} {value : Bytes}

theorem pure (result : α) : TxAdds value (Pure.pure result) := by
  intro db other after done
  cases done
  exact .refl value db

theorem bind {fn : Tx α} {next : α → Tx β} (first : TxAdds value fn)
    (second : ∀ result, TxAdds value (next result)) : TxAdds value (fn >>= next) := by
  intro db result after done
  have steps : (fn db >>= fun pair => next pair.1 pair.2) = .ok (result, after) := done
  obtain ⟨pair, start, rest⟩ := bind_eq_ok_iff.mp steps
  exact (first db pair.1 pair.2 start).trans (second pair.1 pair.2 result after rest)

theorem createBucketIfNotExists (name : BucketName) : TxAdds value (Tx.createBucketIfNotExists name) := by
  intro db result after done
  cases done
  refine adds_update fun isIPv6 key stored _ held => .inl ?_
  unfold entry
  cases present : db name with
  | none =>
    rw [present] at held
    exact absurd held (some_ne_none stored).symm
  | some bucket => rw [present] at held; exact held

theorem delete (name : BucketName) (key : Bytes) : TxAdds value (Tx.delete name key) := by
  intro db result after done
  cases done
  exact adds_set fun _ _ _ impossible => by cases impossible

/-- A `Put` into the bucket of the addresses, or of `value`. -/
theorem put {name : BucketName} {key data : Bytes} (own : name = .address ∨ data = value) :
    TxAdds value (Tx.put name key data) := by
  intro db result after done
  revert done
  fun_cases Tx.put name key data db with
  | case1 | case2 | case3 => exact nofun
  | case4 =>
    rintro ⟨⟩
    refine adds_set fun isIPv6 stored isDomain is => ?_
    rcases own with isAddress | isValue
    · rw [isAddress] at isDomain
      cases isIPv6 <;> cases isDomain
    · exact (some.inj is).symm.trans isValue

theorem batch {fn : Tx α} (adds : TxAdds value fn) (db : Db) : Adds value db (FakeIP.batch fn db).2 := by
  unfold FakeIP.batch
  cases done : fn db with
  | ok pair => exact adds db pair.1 pair.2 done
  | error failure =>
    cases failure with
    | error error => exact .refl value db
    | panic => exact adds_empty value db

end TxAdds

open TxAdds

theorem adds_fakeIPStore (address : Addr) (domain : Bytes) (file : CacheFile) :
    Adds address.asSlice file.db (file.fakeIPStore address domain).2.db := by
  refine TxAdds.batch ?_ file.db
  refine .bind (createBucketIfNotExists _) fun bucket => ?_
  refine bind (put (.inl rfl)) fun _ => ?_
  refine bind (createBucketIfNotExists _) fun _ => ?_
  cases bucket address.asSlice with
  | none => exact bind (pure _) fun _ => put (.inr rfl)
  | some oldDomain =>
    exact bind (delete _ oldDomain) fun _ => put (.inr rfl)

theorem adds_fakeIPReset (value : Bytes) (file : CacheFile) : Adds value file.db file.fakeIPReset.2.db := by
  by_cases all : ∀ name, (file.db name).isSome = true
  · rw [fakeIPReset_of_all all]
    exact adds_empty value file.db
  · obtain ⟨name, absent⟩ := not_forall.mp all
    rw [fakeIPReset_of_missing (not_isSome_iff_eq_none.mp absent)]
    exact .refl value file.db

theorem adds_saveTimer (value : Bytes) (file : CacheFile) : Adds value file.db file.saveTimer.db := by
  unfold saveTimer
  cases file.saveMetadata with
  | none => exact .refl value file.db
  | some metadata =>
    exact TxAdds.batch (bind (createBucketIfNotExists _) fun _ =>
      .put (.inl rfl)) file.db

end CacheFile

/-! ### A store on the cache file -/

/-- What is documented about `M.AddrFromIP`. -/
structure InvertsAsSlice (addrFromIP : Bytes → Addr) : Prop where
  nil : addrFromIP [] = .invalid
  asSlice : ∀ addr : Addr, addr.isValid = true → addr.withoutZone = addr → addrFromIP addr.asSlice = addr

inductive Event where
  | call (op : Op)
  | saveTimer

open CacheFile

section Run

variable (addrFromIP : Bytes → Addr) {inet4Range inet6Range : Prefix}

def cacheCalls : Machine (State CacheFile) Event Result where
  step state event :=
    match event with
    | .call op => (calls (cacheFile addrFromIP)).step state op
    | .saveTimer => ({ state with storage := state.storage.saveTimer }, none)

/-- The address is one that a range has handed out. -/
def Allocated (inet4Range inet6Range : Prefix) (addr : Addr) : Prop :=
  ∃ isIPv6 steps, addr = cursor (rangeOf inet4Range inet6Range isIPv6) (steps + 1)

variable {addrFromIP} (inverts : InvertsAsSlice addrFromIP)

include inverts

section

variable {isIPv6 : Bool}

theorem entry_of_fakeIPLoadDomain {file : CacheFile} {domain : Bytes} {addr : Addr}
    (loaded : file.fakeIPLoadDomain addrFromIP domain isIPv6 = some addr) : addr.isValid = true ∧ ∃ stored,
      entry file.db (domainBucket isIPv6) domain = some stored ∧ addrFromIP stored = addr := by
  revert loaded
  fun_cases fakeIPLoadDomain addrFromIP domain isIPv6 file with
  | case1 | case3 => exact nofun
  | case2 bucket present address valid =>
    intro loaded
    rw [← some.inj loaded, entry, present]
    refine ⟨valid, ?_⟩
    unfold address at valid ⊢
    cases stored : bucket domain with
    | none =>
      rw [stored] at valid
      cases (congrArg Addr.isValid inverts.nil).symm.trans valid
    | some data => exact ⟨data, stored, rfl⟩

omit inverts in
theorem fakeIPLoadDomain_of_entry {file : CacheFile} {domain stored : Bytes}
    (held : entry file.db (domainBucket isIPv6) domain = some stored) (valid : (addrFromIP stored).isValid = true) :
    file.fakeIPLoadDomain addrFromIP domain isIPv6 = some (addrFromIP stored) := by
  unfold entry at held
  unfold fakeIPLoadDomain
  cases present : file.db (domainBucket isIPv6) with
  | none => rw [present] at held; cases held
  | some bucket =>
    rw [present] at held
    have same : bucket domain = some stored := held
    dsimp only
    rw [same]
    exact if_pos valid

theorem loaded_of_adds {file after : CacheFile} {value : Bytes} (adds : CacheFile.Adds value file.db after.db)
    {domain : Bytes} {addr : Addr} (loaded : after.fakeIPLoadDomain addrFromIP domain isIPv6 = some addr) :
    file.fakeIPLoadDomain addrFromIP domain isIPv6 = some addr ∨ addrFromIP value = addr ∧ addr.isValid = true := by
  obtain ⟨valid, stored, held, rfl⟩ := entry_of_fakeIPLoadDomain inverts loaded
  rcases adds isIPv6 domain stored held with old | rfl
  · exact .inl (fakeIPLoadDomain_of_entry old valid)
  · exact .inr ⟨rfl, valid⟩

theorem loaded_of_adds_nil {file after : CacheFile} (adds : CacheFile.Adds [] file.db after.db) {domain : Bytes}
    {addr : Addr} (loaded : after.fakeIPLoadDomain addrFromIP domain isIPv6 = some addr) :
    file.fakeIPLoadDomain addrFromIP domain isIPv6 = some addr := by
  rcases loaded_of_adds inverts adds loaded with old | ⟨rfl, valid⟩
  · exact old
  · rw [inverts.nil] at valid
    cases valid

end

theorem findsStored_cacheFile : FindsStored (cacheFile addrFromIP) where
  store address domain file name isIPv6 addr zoneless loaded := by
    rcases loaded_of_adds inverts (adds_fakeIPStore address domain file) loaded with
      old | ⟨rfl, valid⟩
    · exact .inl old
    by_cases present : address.isValid = true
    · exact .inr (inverts.asSlice address present zoneless)
    have read : addrFromIP address.asSlice = .invalid := by
      rw [Addr.eq_invalid present]
      exact inverts.nil
    rw [read] at valid
    cases valid
  save _ _ _ _ := rfl

/-- The store finds and returns allocated addresses only. -/
abbrev OnlyAllocated (addrFromIP : Bytes → Addr) (inet4Range inet6Range : Prefix) : State CacheFile → Prop :=
  Yields (cacheFile addrFromIP) (rangeOf inet4Range inet6Range) (Allocated inet4Range inet6Range)

variable {state : State CacheFile} (only : OnlyAllocated addrFromIP inet4Range inet6Range state)

include only

theorem OnlyAllocated.create (domain : Bytes) (isIPv6 : Bool) :
    (∀ addr, (create (cacheFile addrFromIP) domain isIPv6 state).1 = .ok addr →
      Allocated inet4Range inet6Range addr) ∧ OnlyAllocated addrFromIP inet4Range inet6Range
      (create (cacheFile addrFromIP) domain isIPv6 state).2 :=
  Yields.create (findsStored_cacheFile inverts) (fun isIPv6 steps _ _ => ⟨isIPv6, steps, rfl⟩) only domain isIPv6

theorem onlyAllocated_step (event : Event) : OnlyAllocated addrFromIP inet4Range inet6Range
      ((cacheCalls addrFromIP).step state event).1 := by
  cases event with
  | saveTimer =>
    exact ⟨only.family, fun domain isIPv6 addr loaded => only.found domain isIPv6 addr
      (loaded_of_adds_nil inverts (adds_saveTimer [] state.storage) loaded)⟩
  | call op =>
    cases op with
    | create domain isIPv6 => exact (OnlyAllocated.create inverts only domain isIPv6).2
    | lookup address => exact only
    | reset =>
      exact ⟨only.family, fun domain isIPv6 addr loaded => only.found domain isIPv6 addr
        (loaded_of_adds_nil inverts (adds_fakeIPReset [] state.storage) loaded)⟩

theorem onlyAllocated_run (events : List Event) : OnlyAllocated addrFromIP inet4Range inet6Range
      ((cacheCalls addrFromIP).run state events) :=
  (cacheCalls addrFromIP).run_invariant
    (fun _ state => OnlyAllocated addrFromIP inet4Range inet6Range state) only
    (fun _ _ event held => onlyAllocated_step inverts held event) events

end Run

/-! ### Other ranges than the saved ones -/

def Changed (inet4Range inet6Range : Prefix) (file : CacheFile) : Prop :=
  ∀ metadata, file.fakeIPMetadata.1 = some metadata →
    ¬ (metadata.inet4Range = inet4Range ∧ metadata.inet6Range = inet6Range)

structure FindsNothing (addrFromIP : Bytes → Addr) (file : CacheFile) : Prop where
  load : ∀ address, file.fakeIPLoad address = none
  loadDomain : ∀ domain isIPv6, file.fakeIPLoadDomain addrFromIP domain isIPv6 = none

/-- **When a reset at the start drops the mappings**: every bucket exists, or the metadata entry breaks
off and the whole database is thrown away, or there was no mapping. -/
def Droppable (addrFromIP : Bytes → Addr) (file : CacheFile) : Prop :=
  (∀ name, (file.db name).isSome = true) ∨ CacheFile.BreaksOff file.db ∨ FindsNothing addrFromIP file

section Change

variable {addrFromIP : Bytes → Addr} {inet4Range inet6Range : Prefix} {file : CacheFile}

theorem start_of_changed (changed : Changed inet4Range inet6Range file) :
    start (cacheFile addrFromIP) (newStore inet4Range inet6Range) file =
      ⟨{ inet4 := (newFamily inet4Range).restart, inet6 := (newFamily inet6Range).restart },
        file.fakeIPMetadata.2.fakeIPReset.2⟩ := by
  have taken : (cacheFile addrFromIP).fakeIPMetadata file = file.fakeIPMetadata := rfl
  unfold start
  rw [taken]
  unfold Changed at changed
  generalize file.fakeIPMetadata = pair at changed
  obtain ⟨saved, storage⟩ := pair
  cases saved with
  | none => rfl
  | some metadata =>
    exact if_neg (changed metadata rfl)

theorem findsNothing_of_empty {after : CacheFile} (empty : after.db = fun _ => none) :
    FindsNothing addrFromIP after := by
  refine ⟨fun address => ?_, fun domain isIPv6 => ?_⟩
  · unfold fakeIPLoad
    rw [empty]
  · unfold fakeIPLoadDomain
    rw [empty]

theorem findsNothing_iff {after : CacheFile} (same : CacheFile.SameMappings addrFromIP file after) :
    FindsNothing addrFromIP after ↔ FindsNothing addrFromIP file := by
  constructor
  · intro nothing
    refine ⟨fun address => ?_, fun domain isIPv6 => ?_⟩
    · rw [← same.load]
      exact nothing.load address
    · rw [← same.loadDomain]
      exact nothing.loadDomain domain isIPv6
  · intro nothing
    refine ⟨fun address => ?_, fun domain isIPv6 => ?_⟩
    · rw [same.load]
      exact nothing.load address
    · rw [same.loadDomain]
      exact nothing.loadDomain domain isIPv6

theorem findsNothing_reset_iff :
    FindsNothing addrFromIP file.fakeIPMetadata.2.fakeIPReset.2 ↔ Droppable addrFromIP file := by
  by_cases broken : CacheFile.BreaksOff file.db
  · have empty := fakeIPMetadata_of_breaksOff broken
    have missing : file.fakeIPMetadata.2.db .address = none := by rw [empty]
    rw [fakeIPReset_of_missing missing]
    exact iff_of_true (findsNothing_of_empty empty) (.inr (.inl broken))
  · have same := sameMappings_fakeIPMetadata addrFromIP broken
    by_cases all : ∀ name, (file.db name).isSome = true
    · have empty := fakeIPReset_of_all (fun name => (same.buckets name).trans (all name))
      exact iff_of_true (findsNothing_of_empty empty) (.inl all)
    obtain ⟨name, absent⟩ := not_forall.mp all
    have missing : file.fakeIPMetadata.2.db name = none := by
      rw [← not_isSome_iff_eq_none, same.buckets name]
      exact absent
    rw [fakeIPReset_of_missing missing, findsNothing_iff same]
    constructor
    · exact fun nothing => .inr (.inr nothing)
    rintro (present | panics | nothing)
    · exact absurd present all
    · exact absurd panics broken
    · exact nothing

theorem onlyAllocated_start (changed : Changed inet4Range inet6Range file)
    (nothing : FindsNothing addrFromIP file.fakeIPMetadata.2.fakeIPReset.2) :
    OnlyAllocated addrFromIP inet4Range inet6Range
      (start (cacheFile addrFromIP) (newStore inet4Range inet6Range) file) := by
  rw [start_of_changed changed]
  refine ⟨fun isIPv6 => ⟨0, ?_⟩, fun domain isIPv6 addr loaded => ?_⟩
  · cases isIPv6 <;> exact restart_newFamily _
  · exact absurd (loaded.symm.trans (nothing.loadDomain domain isIPv6)) (some_ne_none addr)

end Change

/-- **A change of the ranges drops the old mappings exactly if the reset can be made**, or there is nothing to drop:
then a started store finds none of them, and returns only addresses of the new ranges. -/
theorem rangeChange_drops_iff (addrFromIP : Bytes → Addr) (inverts : InvertsAsSlice addrFromIP)
    (inet4Range inet6Range : Prefix) (file : CacheFile)
    (changed : Changed inet4Range inet6Range file) :
    (let state := start (cacheFile addrFromIP) (newStore inet4Range inet6Range) file
     (∀ address, lookup (cacheFile addrFromIP) address state = none) ∧
     (∀ domain isIPv6, (cacheFile addrFromIP).fakeIPLoadDomain domain isIPv6 state.storage = none) ∧
     ∀ events domain isIPv6 addr,
       (create (cacheFile addrFromIP) domain isIPv6 ((cacheCalls addrFromIP).run state events)).1 = .ok addr →
       Allocated inet4Range inet6Range addr) ↔
      Droppable addrFromIP file := by
  rw [← findsNothing_reset_iff]
  constructor
  · rintro ⟨load, loadDomain, -⟩
    rw [start_of_changed changed] at load loadDomain
    exact ⟨load, loadDomain⟩
  · intro nothing
    have only := onlyAllocated_start changed nothing
    refine ⟨?_, ?_, ?_⟩
    · rw [start_of_changed changed]
      exact nothing.load
    · rw [start_of_changed changed]
      exact nothing.loadDomain
    · intro events domain isIPv6 addr created
      exact (OnlyAllocated.create inverts (onlyAllocated_run inverts only events) domain isIPv6).1 addr created

/-- The range `10.0.0.0/8`. -/
def otherRange4 : Prefix := Prefix.prefixFrom (.v4 0x0A000000#32) 8

/-- The file that a store leaves after the events. -/
def usedFile (inet6Range : Prefix) (events : List Event) : CacheFile :=
  ((cacheCalls Addr.fromSlice).run
    (start (cacheFile Addr.fromSlice) (newStore exampleRange4 inet6Range) {}) events).storage

def bothFile : CacheFile :=
  usedFile exampleRange6 [.call (.create [97] false), .call (.create [98] true), .saveTimer]

def inet4File : CacheFile := usedFile Prefix.none [.call (.create [97] false), .saveTimer]

/-- With both families in use every bucket exists, and the mappings of both go with the range. -/
theorem rangeChange_drops_both :
    (bothFile.fakeIPMetadata.1.map FakeIPMetadata.inet4Range = some exampleRange4 ∧ exampleRange4 ≠ otherRange4) ∧
    (bothFile.fakeIPLoad (.v4 0xC6120002#32) = some [97] ∧
      (bothFile.fakeIPLoadDomain Addr.fromSlice [98] true).isSome = true) ∧
    let state := start (cacheFile Addr.fromSlice) (newStore otherRange4 exampleRange6) bothFile
    (∀ address, lookup (cacheFile Addr.fromSlice) address state = none) ∧
      ∀ domain isIPv6, (cacheFile Addr.fromSlice).fakeIPLoadDomain domain isIPv6 state.storage = none := by
  have saved : bothFile.fakeIPMetadata.1.map FakeIPMetadata.inet4Range = some exampleRange4 := by decide +kernel
  have other : exampleRange4 ≠ otherRange4 := by decide +kernel
  have changed : Changed otherRange4 exampleRange6 bothFile := by
    intro metadata taken same
    rw [taken] at saved
    exact other (some.inj saved ▸ same.1)
  have dropped := (rangeChange_drops_iff Addr.fromSlice ⟨rfl, fun _ => Addr.fromSlice_asSlice⟩ otherRange4 exampleRange6
    _ changed).mpr (.inl fun name => by cases name <;> decide +kernel)
  exact ⟨⟨saved, other⟩, by decide +kernel, dropped.1, dropped.2.1⟩

/-- **An old mapping survives the change.** With IPv4 only there is no bucket of IPv6 domains: the
reset fails, and a domain keeps its address `198.18.0.2` although the range is `10.0.0.0/8` now. -/
theorem rangeChange_kept :
    (inet4File.fakeIPMetadata.1.map FakeIPMetadata.inet4Range = some exampleRange4 ∧ exampleRange4 ≠ otherRange4) ∧
    let state := start (cacheFile Addr.fromSlice) (newStore otherRange4 Prefix.none) inet4File
    lookup (cacheFile Addr.fromSlice) (.v4 0xC6120002#32) state = some [97] ∧
      (create (cacheFile Addr.fromSlice) [97] false state).1.toOption = some (.v4 0xC6120002#32) ∧
      otherRange4.contains (.v4 0xC6120002#32) = false := by
  decide +kernel

end SingBox.FakeIP
