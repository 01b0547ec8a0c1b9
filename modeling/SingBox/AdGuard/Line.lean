/-
**The lines of an AdGuard filter list** (`common/convertor/adguard/convertor.go`, the first half of
`ToOptions`).

A line is skipped (comments, host entries of other addresses, everything that cannot be expressed), or
becomes an `AgdguardRuleLine`: a pattern with its anchors, and whether it is a plain domain, a regular
expression, an exception, or important.

A line that is only a slash, after its marks have been taken off, is a panic: the slash is both the
beginning and the end of a regular expression.
-/

import SingBox.Adapter.Metadata

namespace SingBox.AdGuard

open SingBox.Lib SingBox.Lib.Checked

def hasPrefix (s front : Bytes) : Bool := front.isPrefixOf s

def hasSuffix (s back : Bytes) : Bool := back.isSuffixOf s

def trimSuffix (s back : Bytes) : Bytes := if hasSuffix s back then s.take (s.length - back.length) else s

def contains (s sub : Bytes) : Bool := (cut sub s).isSome

/-- `common.SubstringAfter`: all of the string without the separator. -/
def substringAfter (s sep : Bytes) : Bytes := ((cut sep s).map Prod.snd).getD s

def substringBefore (s sep : Bytes) : Bytes := ((cut sep s).map Prod.fst).getD s

/-- `strconv.ParseUint(s, 10, 8)` succeeds. -/
def isUint8 (s : Bytes) : Bool :=
  !s.isEmpty && s.all (fun digit => 0x30 ≤ digit && digit ≤ 0x39) &&
    decide (s.foldl (fun number digit => number * 10 + (digit.toNat - 0x30)) 0 < 256)

/-! ### Lines -/

structure AgdguardRuleLine where
  ruleLine : Bytes
  (isRawDomain isExclude isSuffix hasStart hasEnd isRegexp isImportant : Bool := false)
  deriving DecidableEq

/-- The letters, the digits, and `-`, `.` and `_`. -/
def isDomainByte (byte : UInt8) : Bool :=
  0x41 ≤ byte && byte ≤ 0x5A || 0x61 ≤ byte && byte ≤ 0x7A || 0x30 ≤ byte && byte ≤ 0x39 || [0x2D, 0x2E, 0x5F].contains byte

/-- What the parser calls: `M.IsDomainName`, `netip.ParseAddr` and `M.ParseAddr`. -/
structure LineLibrary where
  isDomainName : Bytes → Bool
  parseAddr : Bytes → Option Addr
  mParseAddr : Bytes → Addr
  /-- The empty string is not a domain name. -/
  isDomainName_nil : isDomainName [] = false
  isDomainName_bytes : ∀ name, isDomainName name = true → ∀ byte ∈ name, isDomainByte byte = true

def isUnspecified (address : Addr) : Bool := address = .v4 0 || address = .v6 0 []

def ignoreIPCIDRRegexp (ruleLine : Bytes) : Bool :=
  let ruleLine :=
    -- `(http?:\/\/)`
    if hasPrefix ruleLine [0x28, 0x68, 0x74, 0x74, 0x70, 0x3F, 0x3A, 0x5C, 0x2F, 0x5C, 0x2F, 0x29] then
      ruleLine.drop 12
    -- `(https?:\/\/)`
    else if hasPrefix ruleLine [0x28, 0x68, 0x74, 0x74, 0x70, 0x73, 0x3F, 0x3A, 0x5C, 0x2F, 0x5C, 0x2F, 0x29] then
      ruleLine.drop 13
    else if hasPrefix ruleLine [0x5E] then ruleLine.drop 1
    else ruleLine
  isUint8 (substringBefore ruleLine [0x5C, 0x2E]) || isUint8 (substringBefore ruleLine [0x2E])

/-- A rule without its marks `@@`, `||` or `|`, and `^`, and which of them it had. -/
structure Marks where
  text : Bytes
  (isExclude isSuffix hasStart hasEnd : Bool)

/-- The marks of a rule. A `|` at the end has no meaning for a domain and is dropped. -/
def takeMarks (ruleLine : Bytes) : Marks :=
  let isExclude := hasPrefix ruleLine [0x40, 0x40]
  let ruleLine := if isExclude then ruleLine.drop 2 else ruleLine
  let ruleLine := trimSuffix ruleLine [0x7C]
  let isSuffix := hasPrefix ruleLine [0x7C, 0x7C]
  let hasStart := !isSuffix && hasPrefix ruleLine [0x7C]
  let ruleLine := if isSuffix then ruleLine.drop 2 else if hasStart then ruleLine.drop 1 else ruleLine
  let hasEnd := hasSuffix ruleLine [0x5E]
  ⟨if hasEnd then ruleLine.dropLast else ruleLine, isExclude, isSuffix, hasStart, hasEnd⟩

def Marks.line (marks : Marks) (ruleLine : Bytes) (hasScheme isRegexp isImportant : Bool) : AgdguardRuleLine where
  ruleLine    := ruleLine
  isExclude   := marks.isExclude
  isSuffix    := marks.isSuffix || hasScheme
  hasStart    := marks.hasStart
  hasEnd      := marks.hasEnd
  isRegexp    := isRegexp
  isImportant := isImportant

section Parse

variable (lib : LineLibrary)

/-- `parseAdGuardHostLine`: `none` for an error, an empty name for an address that is not
unspecified. -/
def parseAdGuardHostLine (ruleLine : Bytes) : Option Bytes := do
  let (before, after) ← cut [0x20] ruleLine
  let address ← lib.parseAddr before
  if !isUnspecified address then some []
  else if !lib.isDomainName after then none
  else some after

/-- The loop over the modifiers: whether one of them is `important`, or `none` if one is not
supported. -/
def parseParams : List Bytes → Bool → Option Bool
  | [], isImportant => some isImportant
  | param :: params, isImportant =>
    match param.splitOn 0x3D with
    -- `important`
    | [[0x69, 0x6D, 0x70, 0x6F, 0x72, 0x74, 0x61, 0x6E, 0x74]]
    | [[0x69, 0x6D, 0x70, 0x6F, 0x72, 0x74, 0x61, 0x6E, 0x74], _] => parseParams params true
    -- `dnsrewrite`
    | [[0x64, 0x6E, 0x73, 0x72, 0x65, 0x77, 0x72, 0x69, 0x74, 0x65], address] =>
      if isUnspecified (lib.mParseAddr address) then parseParams params isImportant else none
    | _ => none

def parseModifiers (ruleLine : Bytes) : Option (Bytes × Bool) :=
  if !hasPrefix ruleLine [0x2F] && contains ruleLine [0x24] then
    (parseParams lib ((substringAfter ruleLine [0x24]).splitOn 0x2C) false).map
      fun isImportant => (substringBefore ruleLine [0x24], isImportant)
  else some (ruleLine, false)

/-- The characters of paths, queries, cosmetic filters and other modifiers: `/ ? & [ ] ( ) ! # ~`. -/
def unsupportedBytes : List UInt8 :=
  [0x2F, 0x3F, 0x26, 0x5B, 0x5D, 0x28, 0x29, 0x21, 0x23, 0x7E]

/-- The last part of the loop, for a rule that is no regular expression: the domain, and whether it was
found behind a scheme (`://`). -/
def parseDomain (ruleLine : Bytes) : Option (Bytes × Bool) :=
  let hasScheme := contains ruleLine [0x3A, 0x2F, 0x2F]
  let ruleLine := if hasScheme then substringAfter ruleLine [0x3A, 0x2F, 0x2F] else ruleLine
  if ruleLine.any unsupportedBytes.contains then none
  else if ruleLine = [] then none
  else
    let domainCheck := if hasPrefix ruleLine [0x2E] || hasPrefix ruleLine [0x2D] then
      0x72 :: ruleLine else ruleLine
    let domainCheck := domainCheck.map fun byte => if byte = 0x2A then 0x78 else byte
    if lib.isDomainName domainCheck then some (ruleLine, hasScheme) else none

/-- The last part of the loop: what is between the marks. -/
def parsePattern (ruleLine : Bytes) (isImportant : Bool) : Checked Error (Option AgdguardRuleLine) :=
  let marks := takeMarks ruleLine
  if hasPrefix marks.text [0x2F] && hasSuffix marks.text [0x2F] then do
    let regexp ← slice marks.text 1 (marks.text.length - 1)
    if ignoreIPCIDRRegexp regexp then return none
    else return some (marks.line regexp false true isImportant)
  else
    .ok ((parseDomain lib marks.text).map fun domain =>
      marks.line domain.1 domain.2 false isImportant)

def parseLine (ruleLine : Bytes) : Checked Error (Option AgdguardRuleLine) :=
  if ruleLine = [] || hasPrefix ruleLine [0x21] || hasPrefix ruleLine [0x23] then .ok none
  else if lib.isDomainName ruleLine then .ok (some { ruleLine, isRawDomain := true })
  else
    match parseAdGuardHostLine lib ruleLine with
    | some [] => .ok none
    | some hostLine =>
      .ok (some { ruleLine := hostLine, isRawDomain := true, hasStart := true, hasEnd := true })
    | none =>
      match parseModifiers lib (trimSuffix ruleLine [0x7C]) with
      | none => .ok none
      | some (ruleLine, isImportant) => parsePattern lib ruleLine isImportant

def parseLines : List Bytes → Checked Error (List AgdguardRuleLine)
  | [] => .ok []
  | line :: lines => do
    let first ← parseLine lib line
    let rest ← parseLines lines
    return first.toList ++ rest

end Parse

/-! ### Slices

The same parser, with the slices of the source. Only that of a regular expression can be out of bounds. -/

section Slices

/-- `s[len(front):]`, if the mark was found. -/
def strip (front s : Bytes) : Checked Error Bytes := if hasPrefix s front then sliceFrom s front.length else .ok s

/-- `s[:len(s)-1]`, if the mark was found. -/
def stripLast (back : UInt8) (s : Bytes) : Checked Error Bytes :=
  if hasSuffix s [back] then slice s 0 (s.length - 1) else .ok s

def sliceMarks (ruleLine : Bytes) : Checked Error Marks := do
  let isExclude := hasPrefix ruleLine [0x40, 0x40]
  let ruleLine ← strip [0x40, 0x40] ruleLine
  let ruleLine := trimSuffix ruleLine [0x7C]
  let isSuffix := hasPrefix ruleLine [0x7C, 0x7C]
  let hasStart := !isSuffix && hasPrefix ruleLine [0x7C]
  let ruleLine ← if isSuffix then strip [0x7C, 0x7C] ruleLine else strip [0x7C] ruleLine
  let text ← stripLast 0x5E ruleLine
  return ⟨text, isExclude, isSuffix, hasStart, hasSuffix ruleLine [0x5E]⟩

def sliceIPCIDRRegexp (ruleLine : Bytes) : Checked Error Bool := do
  let http := [0x28, 0x68, 0x74, 0x74, 0x70, 0x3F, 0x3A, 0x5C, 0x2F, 0x5C, 0x2F, 0x29]
  let https := [0x28, 0x68, 0x74, 0x74, 0x70, 0x73, 0x3F, 0x3A, 0x5C, 0x2F, 0x5C, 0x2F, 0x29]
  let ruleLine ← if hasPrefix ruleLine http then strip http ruleLine
    else if hasPrefix ruleLine https then strip https ruleLine
    else strip [0x5E] ruleLine
  return isUint8 (substringBefore ruleLine [0x5C, 0x2E]) || isUint8 (substringBefore ruleLine [0x2E])

/-- `parseADGuardIPCIDRLine`, with the parts of the address. What it returns is only logged. -/
def parseADGuardIPCIDRLine (ruleLine : Bytes) : Checked Error (List Bytes) := do
  let rest ← stripLast 0x2E ruleLine
  let parts := rest.splitOn 0x2E
  ensure (parts.length ≤ 4 ∧ (4 ≤ parts.length ∨ hasSuffix ruleLine [0x2E] = true) ∧ parts.all isUint8 = true) .invalid
  slice (parts ++ List.replicate (4 - parts.length) [0x30]) 0 4

def slicePattern (lib : LineLibrary) (ruleLine : Bytes) (isImportant : Bool) :
    Checked Error (Option AgdguardRuleLine) := do
  let marks ← sliceMarks ruleLine
  if hasPrefix marks.text [0x2F] && hasSuffix marks.text [0x2F] then
    let regexp ← slice marks.text 1 (marks.text.length - 1)
    let ignored ← sliceIPCIDRRegexp regexp
    return if ignored then none else some (marks.line regexp false true isImportant)
  else
    let _ ← (attempt (parseADGuardIPCIDRLine (substringAfter marks.text [0x3A, 0x2F, 0x2F])) :
      Checked Error (Except Error (List Bytes)))
    return (parseDomain lib marks.text).map fun domain => marks.line domain.1 domain.2 false isImportant

theorem strip_eq (front s : Bytes) : strip front s = .ok (if hasPrefix s front then s.drop front.length else s) := by
  unfold strip
  split
  · rename_i found
    exact sliceFrom_eq_ok (List.isPrefixOf_iff_prefix.mp found).length_le
  · rfl

theorem stripLast_eq (back : UInt8) (s : Bytes) :
    stripLast back s = .ok (if hasSuffix s [back] then s.dropLast else s) := by
  unfold stripLast
  split
  · rw [slice, if_pos ⟨Nat.zero_le _, Nat.sub_le _ _⟩, List.drop_zero, List.dropLast_eq_take]
  · rfl

theorem sliceMarks_eq (ruleLine : Bytes) : sliceMarks ruleLine = .ok (takeMarks ruleLine) := by
  simp only [sliceMarks, strip_eq, stripLast_eq, bind, Except.bind, takeMarks]
  split <;> split <;> simp_all [pure, Except.pure]

theorem sliceIPCIDRRegexp_eq (ruleLine : Bytes) : sliceIPCIDRRegexp ruleLine = .ok (ignoreIPCIDRRegexp ruleLine) := by
  simp only [sliceIPCIDRRegexp, strip_eq, bind, Except.bind, ignoreIPCIDRRegexp]
  split
  · simp [pure, Except.pure]
  · split <;> simp [pure, Except.pure]

theorem returns_parseADGuardIPCIDRLine (ruleLine : Bytes) : Returns (parseADGuardIPCIDRLine ruleLine) := by
  unfold parseADGuardIPCIDRLine
  rw [stripLast_eq]
  refine .ensure fun valid => meets_slice_iff.mpr ⟨⟨by decide, ?_⟩, trivial⟩
  rw [List.length_append, List.length_replicate]
  omega

theorem slicePattern_eq (lib : LineLibrary) (ruleLine : Bytes) (isImportant : Bool) :
    slicePattern lib ruleLine isImportant = parsePattern lib ruleLine isImportant := by
  unfold slicePattern parsePattern
  rw [sliceMarks_eq]
  simp only [bind, Except.bind]
  split
  · cases slice (takeMarks ruleLine).text 1 ((takeMarks ruleLine).text.length - 1) with
    | error fault => rfl
    | ok regexp =>
      simp only [sliceIPCIDRRegexp_eq]
      split <;> simp_all
  · rcases (returns_parseADGuardIPCIDRLine
      (substringAfter (takeMarks ruleLine).text [0x3A, 0x2F, 0x2F])).fails_or_ok with
      ⟨error, failed⟩ | ⟨value, done, -⟩
    · rw [failed]
      rfl
    · rw [done]
      rfl

end Slices

/-! ### Lines that are only a slash -/

section Slash

variable {lib : LineLibrary}

/-- **Only a slash is left of the line** when its modifiers and its marks have been taken off. -/
def SlashOnly (lib : LineLibrary) (ruleLine : Bytes) : Prop :=
  ¬ (ruleLine = [] || hasPrefix ruleLine [0x21] || hasPrefix ruleLine [0x23]) = true ∧
    lib.isDomainName ruleLine = false ∧ parseAdGuardHostLine lib ruleLine = none ∧
    ∃ rest, parseModifiers lib (trimSuffix ruleLine [0x7C]) = some rest ∧ (takeMarks rest.1).text = [0x2F]

theorem parsePattern_panicsUnless (ruleLine : Bytes) (isImportant : Bool) :
    PanicsUnless ((takeMarks ruleLine).text ≠ [0x2F]) (parsePattern lib ruleLine isImportant) := by
  unfold parsePattern
  dsimp only
  split
  · rename_i slashes
    -- The slash in front is also the one at the end if there is no more.
    obtain ⟨rest, text⟩ := List.isPrefixOf_iff_prefix.mp (Bool.and_eq_true_iff.mp slashes).1
    rw [← text]
    cases rest with
    | nil => exact ⟨fun differs => absurd rfl differs, fun _ => rfl⟩
    | cons byte rest =>
      have inside : 1 ≤ ([0x2F] ++ byte :: rest).length - 1 ∧
          ([0x2F] ++ byte :: rest).length - 1 ≤ ([0x2F] ++ byte :: rest).length := by simp
      rw [slice, if_pos inside]
      refine ⟨fun _ => ?_, fun same => absurd (by simp) same⟩
      simp only [bind, Except.bind]
      split <;> exact ⟨_, rfl⟩
  · rename_i other
    refine .of_ok fun slash => other ?_
    rw [slash]
    rfl

theorem parseLine_panicsUnless (ruleLine : Bytes) :
    PanicsUnless (¬ SlashOnly lib ruleLine) (parseLine lib ruleLine) := by
  fun_cases parseLine lib ruleLine with
  | case1 skipped => exact .of_ok fun slash => slash.1 skipped
  | case2 _ domain => exact .of_ok fun slash => Bool.false_ne_true (slash.2.1.symm.trans domain)
  | case3 _ _ host => exact .of_ok fun slash => by cases host.symm.trans slash.2.2.1
  | case4 _ _ _ _ host => exact .of_ok fun slash => by cases host.symm.trans slash.2.2.1
  | case5 _ _ _ modifiers =>
    refine .of_ok ?_
    rintro ⟨-, -, -, rest, found, -⟩
    cases modifiers.symm.trans found
  | case6 kept notDomain host rest important modifiers =>
    refine (parsePattern_panicsUnless rest important).congr (not_congr ?_)
    refine ⟨fun slash => ⟨kept, Bool.eq_false_of_not_eq_true notDomain, host, (rest, important), modifiers, slash⟩, ?_⟩
    rintro ⟨-, -, -, again, found, slash⟩
    cases modifiers.symm.trans found
    exact slash

theorem parseLines_panicsUnless (lines : List Bytes) :
    PanicsUnless (∀ line ∈ lines, ¬ SlashOnly lib line) (parseLines lib lines) := by
  induction lines with
  | nil => exact .of_ok (List.forall_mem_nil _)
  | cons line lines ih =>
    exact ((parseLine_panicsUnless line).bind fun first => ih.map).congr (by rw [List.forall_mem_cons])

end Slash

/-! ### Plain domains -/

def AgdguardRuleLine.Plain (line : AgdguardRuleLine) : Prop :=
  line.isRawDomain = true → line.isExclude = false ∧ line.isImportant = false ∧
    line.isRegexp = false ∧ line.ruleLine ≠ []

section Plain

variable {lib : LineLibrary}

theorem bytes_of_parseDomain {text : Bytes} {domain : Bytes × Bool} (found : parseDomain lib text = some domain) :
    ∀ byte ∈ domain.1, isDomainByte byte = true ∨ byte = 0x2A := by
  unfold parseDomain at found
  dsimp only at found
  generalize (if contains text [0x3A, 0x2F, 0x2F] then substringAfter text [0x3A, 0x2F, 0x2F] else text) = name at found
  by_cases unsupported : name.any unsupportedBytes.contains = true
  · rw [if_pos unsupported] at found
    cases found
  rw [if_neg unsupported] at found
  by_cases empty : name = []
  · rw [if_pos empty] at found
    cases found
  obtain ⟨checked, same⟩ := Option.ite_none_right_eq_some.mp ((if_neg empty).symm.trans found)
  cases same
  intro byte inside
  -- the name that is checked has every byte of the domain, with an `x` for a star
  have known := lib.isDomainName_bytes _ checked (if byte = 0x2A then 0x78 else byte)
    (List.mem_map.mpr ⟨byte, by split <;> simp [inside], rfl⟩)
  by_cases star : byte = 0x2A
  · exact .inr star
  · exact .inl (by simpa [star] using known)

/-- A pattern is no plain domain, and outside of regular expressions it has the bytes of a domain and stars. -/
theorem bytes_of_parsePattern {ruleLine : Bytes} {isImportant : Bool} {line : AgdguardRuleLine}
    (parsed : parsePattern lib ruleLine isImportant = .ok (some line)) : line.isRawDomain = false ∧
      (line.isRegexp = false → ∀ byte ∈ line.ruleLine, isDomainByte byte = true ∨ byte = 0x2A) := by
  unfold parsePattern at parsed
  dsimp only at parsed
  split at parsed
  · obtain ⟨regexp, -, rest⟩ := bind_eq_ok_iff.mp parsed
    split at rest
    · cases rest
    · cases rest
      exact ⟨rfl, fun impossible => by cases impossible⟩
  · obtain ⟨name, found, rfl⟩ := Option.map_eq_some_iff.mp (Except.ok.inj parsed)
    exact ⟨rfl, fun _ => bytes_of_parseDomain found⟩

/-- A plain domain as the parser makes it, of a line of its own or of a hosts line. -/
def RawLine (lib : LineLibrary) (line : AgdguardRuleLine) : Prop :=
  lib.isDomainName line.ruleLine = true ∧ ∃ anchored, line =
    { ruleLine := line.ruleLine, isRawDomain := true, hasStart := anchored, hasEnd := anchored }

theorem isDomainName_of_parseAdGuardHostLine {ruleLine hostLine : Bytes} (some : hostLine ≠ [])
    (host : parseAdGuardHostLine lib ruleLine = .some hostLine) : lib.isDomainName hostLine = true := by
  obtain ⟨parts, -, host⟩ := Option.bind_eq_some_iff.mp host
  obtain ⟨address, -, host⟩ := Option.bind_eq_some_iff.mp host
  split at host
  · cases host
    exact absurd rfl some
  split at host
  · cases host
  · rename_i valid
    cases host
    simpa using valid

theorem rawLine_of_parseLine {ruleLine : Bytes} {line : AgdguardRuleLine}
    (parsed : parseLine lib ruleLine = .ok (some line)) (raw : line.isRawDomain = true) : RawLine lib line := by
  revert parsed
  fun_cases parseLine lib ruleLine with
  | case2 _ valid =>
    rintro ⟨⟩
    exact ⟨valid, false, rfl⟩
  | case4 _ _ hostLine differs host =>
    rintro ⟨⟩
    exact ⟨isDomainName_of_parseAdGuardHostLine differs host, true, rfl⟩
  | case6 =>
    intro parsed
    rw [(bytes_of_parsePattern parsed).1] at raw
    cases raw
  | _ => rintro ⟨⟩

variable {lines : List Bytes} {ruleLines : List AgdguardRuleLine} (parsed : parseLines lib lines = .ok ruleLines)

include parsed

theorem mem_parseLines : ∀ line ∈ ruleLines, ∃ text ∈ lines, parseLine lib text = .ok (some line) := by
  induction lines generalizing ruleLines with
  | nil =>
    cases parsed
    simp
  | cons text lines ih =>
    obtain ⟨first, head, later⟩ := bind_eq_ok_iff.mp parsed
    obtain ⟨rest, tail, same⟩ := bind_eq_ok_iff.mp later
    cases same
    intro line member
    rcases List.mem_append.mp member with here | there
    · rw [Option.mem_toList] at here
      cases here
      exact ⟨text, List.mem_cons_self, head⟩
    · obtain ⟨other, inside, found⟩ := ih tail line there
      exact ⟨other, List.mem_cons_of_mem _ inside, found⟩

theorem rawLine_of_parseLines : ∀ line ∈ ruleLines, line.isRawDomain = true → RawLine lib line := by
  intro line member raw
  obtain ⟨text, -, found⟩ := mem_parseLines parsed line member
  exact rawLine_of_parseLine found raw

/-- What is no regular expression has the bytes of a domain name, and stars. -/
theorem bytes_of_parseLines : ∀ line ∈ ruleLines, line.isRegexp = false → ∀ byte ∈ line.ruleLine,
    isDomainByte byte = true ∨ byte = 0x2A := by
  intro line member domain
  obtain ⟨text, -, found⟩ := mem_parseLines parsed line member
  cases raw : line.isRawDomain with
  | true => exact fun byte inside => .inl (lib.isDomainName_bytes _ (rawLine_of_parseLine found raw).1 byte inside)
  | false =>
    revert found
    fun_cases parseLine lib text with
    | case2 | case4 =>
      rintro ⟨⟩
      cases raw
    | case6 _ _ _ rest isImportant =>
      exact fun found => (bytes_of_parsePattern found).2 domain
    | _ => rintro ⟨⟩

theorem plain_of_parseLines : ∀ line ∈ ruleLines, line.Plain := by
  intro line member raw
  obtain ⟨valid, anchored, same⟩ := rawLine_of_parseLines parsed line member raw
  rw [same]
  refine ⟨rfl, rfl, rfl, fun empty => ?_⟩
  rw [empty, lib.isDomainName_nil] at valid
  cases valid

end Plain

end SingBox.AdGuard
