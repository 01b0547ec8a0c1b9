/-
**Texts and numbers in subscriptions** (`provider/parser/raw.go`, and what `strconv` and `strings` do in
`provider/parser`).
-/

import SingBox.Adapter.Metadata
import SingBox.Lib.Names

namespace SingBox.Subscription

def text (s : String) : Bytes := s.toList.map fun char => char.toNat.toUInt8

def lookup {α : Type} (table : List (String × α)) (key : Bytes) : Option α :=
  table.findSome? fun entry => if text entry.1 = key then some entry.2 else none

theorem mem_of_lookup {α : Type} {table : List (String × α)} {key : Bytes} {value : α}
    (found : lookup table key = some value) : ∃ name, (name, value) ∈ table ∧ text name = key := by
  obtain ⟨entry, member, here⟩ := List.exists_of_findSome?_eq_some found
  split_ifs at here with same
  exact ⟨entry.1, Option.some.inj here ▸ member, same⟩

theorem lookup_eq_some_iff {α : Type} {table : List (String × α)} {name : String} {value : α}
    (found : lookup table (text name) = some value) (only : ∀ entry ∈ table, entry.2 = value → entry.1 = name)
    {key : Bytes} : lookup table key = some value ↔ key = text name := by
  constructor
  · intro here
    obtain ⟨other, member, rfl⟩ := mem_of_lookup here
    exact congrArg text (only _ member rfl)
  · rintro rfl
    exact found

def newline : UInt8 := 0x0A

/-- `\s`. -/
def isSpace (byte : UInt8) : Bool := [0x09, 0x0A, 0x0C, 0x0D, 0x20].contains byte

/-- `[ \t]`. -/
def isBlank (byte : UInt8) : Bool := [0x09, 0x20].contains byte

/-- `\d`. -/
def isDigit (byte : UInt8) : Bool := 0x30 ≤ byte && byte ≤ 0x39

def dropText (text s : Bytes) : Option Bytes :=
  if text.isPrefixOf s then some (s.drop text.length) else none

/-- `strings.Replace(s, old, new, 1)`. -/
def replaceFirst (old new : UInt8) : Bytes → Bytes
  | [] => []
  | byte :: s => if byte = old then new :: s else byte :: replaceFirst old new s

/-- `m[key] = value`, in a map that is a list of entries. -/
def put {α : Type} (m : List (Bytes × α)) (key : Bytes) (value : α) : List (Bytes × α) :=
  m.filter (fun entry => entry.1 ≠ key) ++ [(key, value)]

/-- `value, exists := m[key]`. -/
def get {α : Type} (m : List (Bytes × α)) (key : Bytes) : Option α :=
  m.findSome? fun entry => if entry.1 = key then some entry.2 else none

structure RangeOrder where
  arrange : {α : Type} → List (Bytes × α) → List (Bytes × α)
  perm : ∀ {α : Type} (m : List (Bytes × α)), (arrange m).Perm m

def digitsValue (digits : Bytes) : Nat :=
  Nat.ofDigits 10 (digits.reverse.map fun byte => (byte - 0x30).toNat)

theorem notMem_decimal {byte : UInt8} (other : isDigit byte = false) (n : Nat) : byte ∉ Lib.decimal n := by
  rw [Lib.decimal]
  split_ifs with zero
  · rintro ⟨⟩ <;> contradiction
  rw [List.mem_reverse, List.mem_map]
  rintro ⟨digit, member, rfl⟩
  have small : digit < 10 := Nat.digits_lt_base (by decide) member
  interval_cases digit <;> exact absurd other (by decide)

/-- Whether `strconv` can read the digits. -/
def isNumber (digits : Bytes) : Bool := !digits.isEmpty && digits.all isDigit

/-- `strconv.ParseUint(s, 10, 64)`, whose error is not looked at. -/
def parseUint (s : Bytes) : Nat := if isNumber s then min (digitsValue s) (2 ^ 64 - 1) else 0

/-- `strconv.ParseInt(s, 10, 64)` and `strconv.Atoi`: the value, and whether there is no error. -/
def parseInt (s : Bytes) : Int × Bool :=
  let negative := s.head? = some 0x2D
  let digits := if negative ∨ s.head? = some 0x2B then s.drop 1 else s
  let n := digitsValue digits
  if !isNumber digits then (0, false)
  else if negative then
    if n ≤ 2 ^ 63 then (-n, true) else (-2 ^ 63, false)
  else if n < 2 ^ 63 then (n, true)
  else (2 ^ 63 - 1, false)

def intText (n : Int) : Bytes := if n < 0 then 0x2D :: Lib.decimal n.natAbs else Lib.decimal n.natAbs

/-- `uint16(n)` and other conversions to an unsigned integer of `bits` bits. -/
def toUint (bits : Nat) (n : Int) : Nat := (n % 2 ^ bits).toNat

/-- `DecodeBase64URLSafe`. Its error is always nil. -/
def decodeBase64URLSafe (rawURLDecode : Bytes → Option Bytes) (content : Bytes) : Bytes :=
  let s := content.map fun byte =>
    if byte = 0x20 then 0x2D else if byte = 0x2F then 0x5F else if byte = 0x2B then 0x2D else byte
  (rawURLDecode (s.filter (· ≠ 0x3D))).getD content

end SingBox.Subscription
