/-
**Geosite files** (`common/geosite/writer.go`, `common/geosite/reader.go`).

A file has a table with the codes, where the items of each begin in the content that follows, and how many there
are. It is read through a buffer that reads ahead (`Buffer`): the length of the table is what has been read less
what is still in the buffer. Each `Read` seeks and drops the buffer, so it does not matter what was read before
(`geosite_roundTrip`). `writeString` and `readString` are the same as for rule-sets.
-/

import SingBox.Srs.DefaultRule

namespace SingBox.Geosite

open SingBox.Lib SingBox.Srs List Function

structure Item where
  type : UInt8
  value : Bytes

/-- The map that is written: its keys, in some order, and the items of each. -/
structure Domains where
  keys : List Bytes
  distinct : keys.Nodup
  items : Bytes → List Item

def writeItem (item : Item) : Bytes := item.type :: writeString item.value

/-- The content, and where the items of a code begin in it. -/
def writeContent (domains : Domains) (keys : List Bytes) : Bytes × (Bytes → Nat) :=
  keys.foldl (fun written code =>
    (written.1 ++ (domains.items code).flatMap writeItem, update written.2 code written.1.length)) ([], fun _ => 0)

def write (domains : Domains) : Bytes :=
  let keys := domains.keys.mergeSort
  let written := writeContent domains keys
  0 :: (writeSlice (fun code => writeString code ++ (uvarint (written.2 code) ++
    uvarint (domains.items code).length)) keys ++ written.1)

/-! ### Reading -/

/-- How far the buffer has been read, and how far the file behind it. -/
structure Buffer where
  (taken position : Nat := 0)

/-- Reads through the buffer, which is filled when it is empty, and then gets `ahead` bytes too many. -/
def Buffer.read {α : Type} (ahead : Nat → Nat) (file : Bytes) (s : Buffer) (reader : Reader α) :
    Except Error (α × Buffer) :=
  match reader (file.drop s.taken) with
  | .error error => .error error
  | .ok (value, rest) =>
    let taken := file.length - rest.length
    .ok (value, ⟨taken, if taken ≤ s.position then s.position else taken + ahead taken⟩)

def maxInt32 : Nat := 2 ^ 31 - 1

def readEntry : Reader (Bytes × Nat × Nat) := do
  let code ← readString
  let codeIndex ← readUvarint
  let codeLength ← readUvarint
  if codeIndex > maxInt32 ∨ codeLength > maxInt32 then throw (.extend (.new "invalid metadata entry") code)
  else return (code, codeIndex, codeLength)

def readMetadata : Reader (List (Bytes × Nat × Nat)) := do
  let version ← readByte
  if version ≠ 0 then throw (.new "unknown version") else readSlice readEntry

def readItem : Reader Item := do
  let typeByte ← readByte
  let value ← readString
  return ⟨typeByte, value⟩

/-- `Reader`, apart from its buffer. `domain` is `domainIndex` and `domainLength`. -/
structure GeositeReader where
  file : Bytes
  metadataIndex : Nat
  domain : Bytes → Option (Nat × Nat)

/-- `NewReader`, with the codes. The last entry of a code counts. -/
def newReader (ahead : Nat → Nat) (file : Bytes) : Except Error ((GeositeReader × Buffer) × List Bytes) :=
  match Buffer.read ahead file {} readMetadata with
  | .error error => .error error
  | .ok (entries, buffer) =>
    let buffered := buffer.position - buffer.taken
    .ok ((⟨file, buffer.position - buffered, fun code => entries.reverse.lookup code⟩, buffer),
      (entries.map Prod.fst).dedup)

/-- The errors of `Read`: `code … not exists!`, and those of the file. -/
inductive ReadError where
  | notExists (code : Bytes)
  | file (error : Error)

def GeositeReader.read (ahead : Nat → Nat) (r : GeositeReader) (buffer : Buffer) (code : Bytes) :
    Except ReadError (List Item) × Buffer :=
  match r.domain code with
  | none => (.error (.notExists code), buffer)
  | some (index, length) =>
    -- `Seek`, and `Reset` of the buffer
    let buffer : Buffer := ⟨r.metadataIndex + index, r.metadataIndex + index⟩
    match buffer.read ahead r.file (readMany (fun _ => readItem) 0 length) with
    | .error error => (.error (.file error), buffer)
    | .ok (itemList, buffer) => (.ok itemList, buffer)

def GeositeReader.reads (ahead : Nat → Nat) (r : GeositeReader) :
    Buffer → List Bytes → List (Except ReadError (List Item))
  | _, [] => []
  | buffer, code :: codes => (r.read ahead buffer code).1 :: r.reads ahead (r.read ahead buffer code).2 codes

/-! ### Reading back -/

theorem decodes_item (item : Item) : Decodes readItem (writeItem item) True item := by
  refine (Decodes.byte item.type).andThen ?_
  exact (decodes_string item.value).map (Item.mk item.type)

theorem decodes_entry (code : Bytes) (index length : Nat) :
    Decodes readEntry (writeString code ++ (uvarint index ++ uvarint length))
      (index ≤ maxInt32 ∧ length ≤ maxInt32) (code, index, length) := by
  rw [← append_nil (uvarint length)]
  refine (decodes_string code).andThen ((Decodes.uvarint index).andThen ((Decodes.uvarint length).andThen ?_))
  split_ifs with large
  · exact (Decodes.fail _ _ _).of_iff (iff_of_false id (by omega))
  · exact (Decodes.pure _).of_iff (iff_of_true trivial (by omega))

theorem length_le_flatMap (items : List Item) : items.length ≤ (items.flatMap writeItem).length := by
  induction items with
  | nil => exact le_refl 0
  | cons item items ih =>
    rw [flatMap_cons, length_append, writeItem, length_cons, length_cons]
    omega

/-- **Where the items of a code are in the content.** -/
theorem writeContent_drop (domains : Domains) {keys : List Bytes} (distinct : keys.Nodup) {code : Bytes}
    (member : code ∈ keys) : (writeContent domains keys).2 code ≤ (writeContent domains keys).1.length ∧
      ∃ rest, (writeContent domains keys).1.drop ((writeContent domains keys).2 code) =
        (domains.items code).flatMap writeItem ++ rest := by
  induction keys using reverseRecOn with
  | nil => cases member
  | append_singleton keys last ih =>
    obtain ⟨before, -, -⟩ := nodup_append.mp distinct
    simp only [writeContent, foldl_append, foldl_cons, foldl_nil] at ih ⊢
    by_cases same : code = last
    · rw [same, update_self, drop_left, length_append]
      exact ⟨Nat.le_add_right _ _, [], (append_nil _).symm⟩
    · obtain ⟨inside, rest, found⟩ := ih before ((mem_append.mp member).resolve_right (by simp [same]))
      rw [update_of_ne same, drop_append_of_le_length inside, found, length_append]
      exact ⟨le_trans inside (Nat.le_add_right _ _), _, append_assoc _ _ _⟩

theorem lookup_map {β : Type} (value : Bytes → β) (keys : List Bytes) (code : Bytes) :
    (keys.map fun code => (code, value code)).lookup code = if code ∈ keys then some (value code) else none := by
  induction keys with
  | nil => rfl
  | cons key keys ih =>
    by_cases same : code = key
    · simp [same]
    · simp [lookup_cons, beq_false_of_ne same, same, ih]

theorem read_of_decodes {α : Type} {reader : Reader α} {bytes rest file : Bytes} {good : Prop} {value : α}
    (decodes : Decodes reader bytes good value) (holds : good) {s : Buffer} (at_ : file.drop s.taken = bytes ++ rest)
    (ahead : Nat → Nat) : ∃ position, file.length - rest.length ≤ position ∧
      s.read ahead file reader = .ok (value, ⟨file.length - rest.length, position⟩) := by
  rw [Buffer.read, at_, decodes.accepts holds]
  refine ⟨_, ?_, rfl⟩
  split_ifs with buffered
  · exact buffered
  · exact Nat.le_add_right _ _

theorem reads_eq {ahead : Nat → Nat} {r : GeositeReader} {answer : Bytes → Except ReadError (List Item)}
    (answers : ∀ buffer code, (r.read ahead buffer code).1 = answer code) (buffer : Buffer) (requests : List Bytes) :
    r.reads ahead buffer requests = requests.map answer := by
  induction requests generalizing buffer with
  | nil => rfl
  | cons code codes ih => rw [GeositeReader.reads, map_cons, answers, ih]

/-- **What is written is read back**, by reads in any order. -/
theorem geosite_roundTrip (ahead : Nat → Nat) (domains : Domains) (small : (write domains).length < 2 ^ 31) :
    ∃ reader codes, newReader ahead (write domains) = .ok (reader, codes) ∧ codes.Perm domains.keys ∧
      ∀ requests, reader.1.reads ahead reader.2 requests = requests.map fun code =>
        if code ∈ domains.keys then .ok (domains.items code) else .error (.notExists code) := by
  have perm : domains.keys.mergeSort.Perm domains.keys := mergeSort_perm _ _
  have distinct := perm.nodup_iff.mpr domains.distinct
  have found {code : Bytes} := @writeContent_drop domains _ distinct code
  unfold write at small ⊢
  generalize domains.keys.mergeSort = keys at perm distinct found small ⊢
  dsimp only at small ⊢
  generalize writeContent domains keys = written at found small ⊢
  have fits {code : Bytes} (member : code ∈ keys) :
      written.2 code ≤ maxInt32 ∧ (domains.items code).length ≤ maxInt32 := by
    obtain ⟨inside, rest, at_⟩ := found member
    have length := congrArg length at_
    have items := length_le_flatMap (domains.items code)
    simp only [length_cons, length_append, length_drop] at small length
    unfold maxInt32
    omega
  have table := Decodes.slice keys fun code _ => decodes_entry code (written.2 code) (domains.items code).length
  have metadata : Decodes readMetadata _ _ _ := (Decodes.byte 0).andThen table
  generalize writeSlice _ keys = slice at metadata small ⊢
  obtain ⟨position, beyond, read⟩ := read_of_decodes metadata (fun _ => fits) (s := {})
    (show drop 0 (0 :: (slice ++ written.1)) = [0] ++ slice ++ written.1 from rfl) ahead
  have index : position - (position - ((0 :: (slice ++ written.1)).length - written.1.length)) = slice.length + 1 := by
    rw [Nat.sub_sub_self beyond, length_cons, length_append]
    omega
  refine ⟨(⟨_, _, _⟩, _), _, by rw [newReader, read], ?_, reads_eq (fun buffer code => ?_) _⟩
  · rw [map_map]
    show ((keys.map id).dedup).Perm domains.keys
    rw [map_id, dedup_eq_self.mpr distinct]
    exact perm
  simp only [GeositeReader.read, ← map_reverse, lookup_map, mem_reverse, index, perm.mem_iff]
  split_ifs with member
  · obtain ⟨-, rest, at_⟩ := found (perm.mem_iff.mpr member)
    have items := Decodes.many (domains.items code) 0 fun _ item _ => decodes_item item
    have behind : drop (slice.length + 1 + written.2 code) (0 :: (slice ++ written.1)) =
        (domains.items code).flatMap writeItem ++ rest := by
      rw [add_right_comm, drop_succ_cons, drop_length_add_append, at_]
    obtain ⟨position', -, back⟩ := read_of_decodes items (fun _ _ => trivial)
      (s := ⟨_, slice.length + 1 + written.2 code⟩) behind ahead
    simp only [back, map_id']
  · rfl

/-- `b` has a domain and an empty suffix, `a` nothing, and `c` a keyword. -/
def sampleDomains : Domains where
  keys       := [[0x62], [0x61], [0x63]]
  distinct   := by decide
  items code := if code = [0x62] then [⟨0, [0x78]⟩, ⟨1, []⟩] else if code = [0x63] then [⟨2, [0x79, 0x7A]⟩] else []

/-- Three codes, read in another order, one of them twice, and a code that is not there. -/
theorem geosite_roundTrip_sample : ∃ reader codes, newReader (fun _ => 2) (write sampleDomains) = .ok (reader, codes) ∧
    reader.1.reads (fun _ => 2) reader.2 [[0x63], [0x61], [], [0x62], [0x63]] =
      [.ok [⟨2, [0x79, 0x7A]⟩], .ok [], .error (.notExists []), .ok [⟨0, [0x78]⟩, ⟨1, []⟩],
        .ok [⟨2, [0x79, 0x7A]⟩]] := by
  have sorted : sampleDomains.keys.mergeSort = [[0x61], [0x62], [0x63]] := by
    have order : ¬ ([0x62] : Bytes) ≤ [0x61] ∧ ([0x61] : Bytes) ≤ [0x63] ∧ ([0x62] : Bytes) ≤ [0x63] := by decide
    simp [sampleDomains, mergeSort, MergeSort.Internal.splitInTwo, order]
  have small : (write sampleDomains).length < 2 ^ 31 := by
    rw [write, sorted]
    decide
  obtain ⟨reader, codes, made, -, reads⟩ := geosite_roundTrip (fun _ => 2) sampleDomains small
  exact ⟨reader, codes, made, reads _⟩

end SingBox.Geosite
