/-
**Readers and what they read back.**

A `Reader` takes a value off the front of a byte stream or fails. `Decodes reader bytes good value` says everything
about reading `bytes` in front of an arbitrary rest: if `good` holds then the reader returns `value` and leaves
exactly the rest, and if not then it fails. Both halves are kept so that a format whose writer accepts more than its
reader can be described exactly.
-/

import SingBox.Lib.Checked

namespace SingBox.Lib

open List

inductive Error where
  | eof
  | invalid
  | new (text : String)
  | extend (error : Error) (detail : List UInt8)
  | cause (error message : Error)
  deriving DecidableEq, Repr

/-- A reader of values of type `α` from a stream of bytes. -/
abbrev Reader (α : Type) := StateT (List UInt8) (Except Error) α

/-! ### Primitives -/

def readByte : Reader UInt8
  | [] => .error .eof
  | byte :: rest => .ok (byte, rest)

/-- Exactly `n` bytes. -/
def readFull (n : Nat) : Reader (List UInt8) := fun input =>
  if input.length < n then .error .eof else .ok (input.take n, input.drop n)

/-- Base 128, least significant group first; the high bit of a byte says that more follow. Numbers have no bound here:
`binary.ReadUvarint` has an error for those of more than 64 bits, which no writer makes of the length of a list. -/
def readUvarint : Reader Nat
  | [] => .error .eof
  | byte :: rest =>
    if byte.toNat < 128 then .ok (byte.toNat, rest)
    else match readUvarint rest with
      | .ok (high, rest) => .ok (byte.toNat - 128 + 128 * high, rest)
      | .error error => .error error

/-- The groups of `n`; `fuel` bounds their number. -/
def uvarintGroups : Nat → Nat → List UInt8
  | 0, n => [UInt8.ofNat n]
  | fuel + 1, n =>
    if n < 128 then [UInt8.ofNat n]
    else UInt8.ofNat (n % 128 + 128) :: uvarintGroups fuel (n / 128)

/-- The bytes of `n` in base 128. -/
def uvarint (n : Nat) : List UInt8 := uvarintGroups n n

/-- The last `width` bytes of `n`, most significant first. -/
def bigEndian : Nat → Nat → List UInt8
  | 0, _ => []
  | width + 1, n => UInt8.ofNat (n / 256 ^ width) :: bigEndian width n

def ofBigEndian (bytes : List UInt8) : Nat :=
  bytes.foldl (fun high byte => high * 256 + byte.toNat) 0

/-- A number of `width` bytes. -/
def readUint (width : Nat) : Reader Nat := do
  let bytes ← readFull width
  return ofBigEndian bytes

/-- `count` values; the reader is told their index. -/
def readMany {α : Type} (reader : Nat → Reader α) : Nat → Nat → Reader (List α)
  | _, 0 => pure []
  | index, count + 1 => do
    let value ← reader index
    let values ← readMany reader (index + 1) count
    return value :: values

def readSlice {α : Type} (reader : Reader α) : Reader (List α) := do
  let length ← readUvarint
  readMany (fun _ => reader) 0 length

/-- The bytes that `readSlice` expects. -/
def writeSlice {α : Type} (encode : α → List UInt8) (values : List α) : List UInt8 :=
  uvarint values.length ++ values.flatMap encode

def wrapError {α : Type} (text : String) (result : Except Error α) : Except Error α :=
  match result with
  | .ok value => .ok value
  | .error error => .error (.cause error (.new text))

def withCause {α : Type} (text : String) (reader : Reader α) : Reader α := fun input =>
  wrapError text (reader input)

/-- A step for each element, which may use its position for its error only, succeeds if all of them
do. -/
theorem mapM_zipIdx_eq_ok_iff {ε α β : Type} {step : α × Nat → Except ε β} {R : α → β → Prop}
    (right : ∀ a i b, step (a, i) = .ok b ↔ R a b) {items : List α} (start : Nat) {results : List β} :
    (items.zipIdx start).mapM step = .ok results ↔ List.Forall₂ R items results := by
  induction items generalizing start results with
  | nil => simp [pure, Except.pure]
  | cons item items ih =>
    rw [zipIdx_cons, mapM_cons, bind_eq_ok_iff, forall₂_cons_left_iff]
    constructor
    · rintro ⟨result, done, rest⟩
      obtain ⟨results, later, same⟩ := bind_eq_ok_iff.mp rest
      cases same
      exact ⟨result, results, (right _ _ _).mp done, (ih _).mp later, rfl⟩
    · rintro ⟨result, results, done, later, rfl⟩
      exact ⟨result, (right _ _ _).mpr done, bind_eq_ok_iff.mpr ⟨results, (ih _).mpr later, rfl⟩⟩

theorem mapM_id_cons_eq_ok_iff {α : Type} {head : Except Error α} {tail : List (Except Error α)}
    {values : List α} : (head :: tail).mapM id = .ok values ↔
      ∃ first rest, head = .ok first ∧ tail.mapM id = .ok rest ∧ values = first :: rest := by
  rw [mapM_cons, bind_eq_ok_iff]
  constructor
  · rintro ⟨first, headOk, rests⟩
    obtain ⟨rest, tailOk, joined⟩ := bind_eq_ok_iff.mp rests
    exact ⟨first, rest, headOk, tailOk, (Except.ok.inj joined).symm⟩
  · rintro ⟨first, rest, headOk, tailOk, rfl⟩
    exact ⟨first, headOk, bind_eq_ok_iff.mpr ⟨rest, tailOk, rfl⟩⟩

theorem wrapError_eq_ok_iff {α : Type} {text : String} {result : Except Error α} {value : α} :
    wrapError text result = .ok value ↔ result = .ok value := by
  cases result with
  | ok found => exact .rfl
  | error error =>
    refine ⟨fun impossible => ?_, fun impossible => ?_⟩ <;> exact nomatch impossible

/-! ### Reading back -/

/-- In front of any rest, `reader` returns `value` after exactly `bytes` if `good` holds, and fails
if it does not. -/
structure Decodes {α : Type} (reader : Reader α) (bytes : List UInt8) (good : Prop) (value : α) :
    Prop where
  accepts : good → ∀ rest, reader (bytes ++ rest) = .ok (value, rest)
  rejects : ¬ good → ∀ rest, ∃ error, reader (bytes ++ rest) = .error error

namespace Decodes

variable {α β : Type} {bytes : List UInt8} {reader : Reader α}

section

variable {value : α}

theorem of_accepts (accepts : ∀ rest, reader (bytes ++ rest) = .ok (value, rest)) : Decodes reader bytes True value :=
  ⟨fun _ => accepts, fun bad => absurd trivial bad⟩

theorem of_iff {good good' : Prop} (decodes : Decodes reader bytes good value) (same : good ↔ good') :
    Decodes reader bytes good' value :=
  ⟨fun holds => decodes.accepts (same.mpr holds), fun bad => decodes.rejects fun holds =>
    bad (same.mp holds)⟩

theorem pure (value : α) : Decodes (Pure.pure value) [] True value :=
  of_accepts fun _ => rfl

theorem fail (error : Error) (bytes : List UInt8) (value : α) : Decodes (throw error) bytes False value :=
  ⟨fun impossible => impossible.elim, fun _ _ => ⟨error, rfl⟩⟩

/-- **Sequencing**: the bytes are appended, the conditions are joined. -/
theorem bind {k : α → Reader β} {bytes' : List UInt8} {good good' : Prop} {value' : β}
    (first : Decodes reader bytes good value) (second : Decodes (k value) bytes' good' value') :
    Decodes (reader >>= k) (bytes ++ bytes') (good ∧ good') value' := by
  have unfoldBind : ∀ input, (reader >>= k) input =
      match reader input with
      | .ok (value, rest) => k value rest
      | .error error => .error error := by
    intro input
    show (reader input >>= fun result => k result.1 result.2) = _
    cases reader input <;> rfl
  refine ⟨fun holds rest => ?_, fun bad rest => ?_⟩
  · rw [unfoldBind, append_assoc, first.accepts holds.1]
    exact second.accepts holds.2 rest
  rw [unfoldBind, append_assoc]
  by_cases holds : good
  · rw [first.accepts holds]
    exact second.rejects (fun holds' => bad ⟨holds, holds'⟩) rest
  · obtain ⟨error, failed⟩ := first.rejects holds (bytes' ++ rest)
    rw [failed]
    exact ⟨error, rfl⟩

/-- A part that is always read back, in front of another. -/
theorem andThen {k : α → Reader β} {bytes' : List UInt8} {good : Prop} {value' : β}
    (first : Decodes reader bytes True value) (second : Decodes (k value) bytes' good value') :
    Decodes (reader >>= k) (bytes ++ bytes') good value' :=
  (first.bind second).of_iff (and_iff_right trivial)

theorem map {good : Prop} (decodes : Decodes reader bytes good value) (f : α → β) :
    Decodes (reader >>= fun value => Pure.pure (f value)) bytes good (f value) := by
  have joined := decodes.bind (k := fun value => .pure (f value)) (pure (f value))
  rw [append_nil] at joined
  exact joined.of_iff (and_iff_left trivial)

theorem withCause {good : Prop} (decodes : Decodes reader bytes good value) (text : String) :
    Decodes (withCause text reader) bytes good value := by
  refine ⟨fun holds rest => ?_, fun bad rest => ?_⟩
  · unfold Lib.withCause
    rw [decodes.accepts holds]
    rfl
  · obtain ⟨error, failed⟩ := decodes.rejects bad rest
    unfold Lib.withCause
    rw [failed]
    exact ⟨_, rfl⟩

end

theorem byte (value : UInt8) : Decodes readByte [value] True value :=
  of_accepts fun _ => rfl

theorem full (bytes : List UInt8) : Decodes (readFull bytes.length) bytes True bytes := by
  refine of_accepts fun rest => ?_
  unfold readFull
  rw [if_neg (by simp), take_left, drop_left]

theorem uvarintGroups {fuel n : Nat} (enough : n ≤ fuel) : Decodes readUvarint (uvarintGroups fuel n) True n := by
  refine of_accepts fun rest => ?_
  induction fuel generalizing n with
  | zero =>
    obtain rfl : n = 0 := Nat.le_zero.mp enough
    rfl
  | succ fuel ih =>
    unfold Lib.uvarintGroups
    split
    · rename_i small
      have byte : (UInt8.ofNat n).toNat = n :=
        UInt8.toNat_ofNat_of_lt' (show n < 256 by omega)
      show (if (UInt8.ofNat n).toNat < 128 then Except.ok ((UInt8.ofNat n).toNat, rest) else _) = _
      rw [byte, if_pos small]
    · rename_i large
      have byte : (UInt8.ofNat (n % 128 + 128)).toNat = n % 128 + 128 :=
        UInt8.toNat_ofNat_of_lt' (show n % 128 + 128 < 256 by omega)
      have high : readUvarint (Lib.uvarintGroups fuel (n / 128) ++ rest) = .ok (n / 128, rest) :=
        ih (by omega)
      show (if (UInt8.ofNat (n % 128 + 128)).toNat < 128 then _
        else match readUvarint (Lib.uvarintGroups fuel (n / 128) ++ rest) with
          | .ok (high, rest) =>
            Except.ok ((UInt8.ofNat (n % 128 + 128)).toNat - 128 + 128 * high, rest)
          | .error error => .error error) = _
      rw [byte, if_neg (by omega), high]
      have whole : n % 128 + 128 - 128 + 128 * (n / 128) = n := by omega
      simp only [whole]

theorem uvarint (n : Nat) : Decodes readUvarint (Lib.uvarint n) True n :=
  uvarintGroups (Nat.le_refl n)

end Decodes

theorem length_bigEndian (width n : Nat) : (bigEndian width n).length = width := by
  induction width with
  | zero => rfl
  | succ width ih => rw [bigEndian, length_cons, ih]

theorem foldl_bigEndian (width n high : Nat) :
    (bigEndian width n).foldl (fun high byte => high * 256 + byte.toNat) high =
      high * 256 ^ width + n % 256 ^ width := by
  induction width generalizing high with
  | zero => simp [bigEndian, Nat.mod_one]
  | succ width ih =>
    have byte : (UInt8.ofNat (n / 256 ^ width)).toNat = n / 256 ^ width % 256 :=
      UInt8.toNat_ofNat'
    rw [bigEndian, foldl_cons, ih, byte, Nat.mod_pow_succ]
    ring

theorem ofBigEndian_bigEndian (width n : Nat) : ofBigEndian (bigEndian width n) = n % 256 ^ width := by
  unfold ofBigEndian
  rw [foldl_bigEndian, zero_mul, zero_add]

namespace Decodes

variable {α β : Type}

theorem uint {width n : Nat} (bound : n < 256 ^ width) : Decodes (readUint width) (bigEndian width n) True n := by
  have bytes := full (bigEndian width n)
  rw [length_bigEndian] at bytes
  have number := bytes.map ofBigEndian
  rw [ofBigEndian_bigEndian, Nat.mod_eq_of_lt bound] at number
  exact number

variable {encode : α → List UInt8} {value : α → β}

/-- **Counted repetition**: by induction over the values that were written. -/
theorem many {reader : Nat → Reader β} {good : α → Prop} (items : List α) (start : Nat)
    (each : ∀ index, ∀ item ∈ items, Decodes (reader index) (encode item) (good item) (value item)) :
    Decodes (readMany reader start items.length) (items.flatMap encode)
      (∀ item ∈ items, good item) (items.map value) := by
  induction items generalizing start with
  | nil => exact (pure []).of_iff (by simp)
  | cons item rest ih =>
    have head := each start item mem_cons_self
    have tail := ih (start + 1) fun index item member =>
      each index item (mem_cons_of_mem _ member)
    refine (head.bind ?_).of_iff forall_mem_cons.symm
    exact tail.map (value item :: ·)

theorem slice {reader : Reader β} {good : α → Prop} (items : List α)
    (each : ∀ item ∈ items, Decodes reader (encode item) (good item) (value item)) :
    Decodes (readSlice reader) (writeSlice encode items) (∀ item ∈ items, good item) (items.map value) := by
  exact (uvarint items.length).andThen (many items 0 fun _ => each)

theorem slice_all {reader : Reader β} (items : List α)
    (each : ∀ item ∈ items, Decodes reader (encode item) True (value item)) :
    Decodes (readSlice reader) (writeSlice encode items) True (items.map value) :=
  (slice items each).of_iff (by simp)

end Decodes

end SingBox.Lib
