/-
**The fingerprint of a ClientHello** (`common/ja3/parser.go`).

`compute` parses a TLS record with a ClientHello. Each field is read after a check that the bytes for it are there,
with two exceptions: the lists of the extensions `supported_versions` and `signature_algorithms` are read as far as
their own length says.
-/

import SingBox.Adapter.Metadata

namespace SingBox.Sniff

open SingBox.Lib SingBox.Lib.Checked

/-- `ParseError`: the type, and the number of the check. -/
inductive ParseError where
  | length (check : Nat)
  | contentType
  | version (check : Nat)
  | handshakeType
  | sniType
  deriving DecidableEq

/-- `ClientHello`; a `uint16` is a number. -/
structure ClientHello where
  version : Nat := 0
  (cipherSuites extensions ellipticCurves : List Nat := [])
  ellipticCurvePF : Bytes := []
  (versions signatureAlgorithms : List Nat := [])
  serverName : Bytes := []
  deriving DecidableEq

def uint16 (high low : UInt8) : Nat := high.toNat * 256 + low.toNat

theorem uint16_lt (high low : UInt8) : uint16 high low < 65536 := by
  have highBound := high.toNat_lt
  have lowBound := low.toNat_lt
  unfold uint16
  omega

def uint16s (xs : Bytes) : (offset count : Nat) → Checked ParseError (List Nat)
  | _, 0 => pure []
  | offset, count + 1 => do
    let high ← elem xs offset
    let low ← elem xs (offset + 1)
    let rest ← uint16s xs (offset + 2) count
    return uint16 high low :: rest

theorem returns_uint16s_iff {xs : Bytes} {offset count : Nat} :
    Returns (uint16s xs offset count) ↔ count = 0 ∨ offset + 2 * count ≤ xs.length := by
  induction count generalizing offset with
  | zero => exact iff_of_true trivial (.inl rfl)
  | succ count ih =>
    unfold uint16s
    simp only [meets_bind_iff, meets_elem_iff]
    constructor
    · rintro ⟨first, second, rest⟩
      rcases ih.mp rest with zero | more <;> omega
    · intro more
      refine ⟨by omega, by omega, ih.mpr ?_⟩
      omega

/-! ### The record and the handshake -/

def supportedVersion (version : Nat) : Bool := version &&& 0xFFFC == 0x0300 || version == 0x0304

/-- The handshake message of a record (`parseSegment`, up to the call). -/
def recordBody (segment : Bytes) : Checked ParseError Bytes := do
  ensure (5 ≤ segment.length) (.length 1)
  let contType ← elem segment 0
  ensure (contType = 22) .contentType
  let high ← elem segment 1
  let low ← elem segment 2
  ensure (supportedVersion (uint16 high low)) (.version 1)
  let high ← elem segment 3
  let low ← elem segment 4
  let rest ← sliceFrom segment 5
  ensure (uint16 high low ≤ rest.length) (.length 2)
  slice segment 5 (5 + uint16 high low)

/-- The handshake up to its extensions (`parseHandshake`, up to the call). -/
def handshakeBody (hs : Bytes) : Checked ParseError (ClientHello × Bytes) := do
  ensure (39 ≤ hs.length) (.length 3)
  let handshType ← elem hs 0
  ensure (handshType = 1) .handshakeType
  let first ← elem hs 1
  let second ← elem hs 2
  let third ← elem hs 3
  let body ← sliceFrom hs 4
  ensure (body.length = first.toNat * 65536 + uint16 second third) (.length 4)
  let high ← elem hs 4
  let low ← elem hs 5
  ensure (supportedVersion (uint16 high low)) (.version 2)
  let sessionIDLen ← elem hs 38
  ensure (39 + sessionIDLen.toNat ≤ hs.length) (.length 5)
  let cs ← sliceFrom hs (39 + sessionIDLen.toNat)
  ensure (2 ≤ cs.length) (.length 6)
  let csHigh ← elem cs 0
  let csLow ← elem cs 1
  ensure (2 + uint16 csHigh csLow + 1 ≤ cs.length) (.length 7)
  let cipherSuites ← uint16s cs 2 (uint16 csHigh csLow / 2)
  let compressMethodLen ← elem cs (2 + uint16 csHigh csLow)
  ensure (2 + uint16 csHigh csLow + 1 + compressMethodLen.toNat ≤ cs.length) (.length 8)
  let exs ← sliceFrom cs (2 + uint16 csHigh csLow + 1 + compressMethodLen.toNat)
  return ({ version := uint16 high low, cipherSuites := cipherSuites }, exs)

theorem meets_recordBody (segment : Bytes) : Meets (fun hs => hs.length < 65536) (recordBody segment) := by
  refine .ensure fun long => ?_
  refine .elem (by omega) ?_
  refine .ensure fun _ => ?_
  refine .elem (by omega) ?_
  refine .elem (by omega) ?_
  refine .ensure fun _ => ?_
  refine .elem (by omega) ?_
  refine .elem (by omega) ?_
  refine .sliceFrom long ?_
  refine .ensure fun whole => ?_
  rw [List.length_drop] at whole
  refine meets_slice_iff.mpr ⟨⟨by omega, by omega⟩, ?_⟩
  have small := uint16_lt segment[3] segment[4]
  rw [List.length_drop, List.length_take]
  omega

theorem meets_handshakeBody (hs : Bytes) : Meets (fun pair => pair.2.length ≤ hs.length) (handshakeBody hs) := by
  refine .ensure fun long => ?_
  refine .elem (by omega) ?_
  refine .ensure fun _ => ?_
  refine .elem (by omega) ?_
  refine .elem (by omega) ?_
  refine .elem (by omega) ?_
  refine .sliceFrom (by omega) ?_
  refine .ensure fun _ => ?_
  refine .elem (by omega) ?_
  refine .elem (by omega) ?_
  refine .ensure fun _ => ?_
  refine .elem (by omega) ?_
  refine .ensure fun session => ?_
  refine .sliceFrom session ?_
  refine .ensure fun suites => ?_
  refine .elem (by omega) ?_
  refine .elem (by omega) ?_
  refine .ensure fun compress => ?_
  refine meets_bind_iff.mpr ?_
  refine (returns_uint16s_iff.mpr (.inr (by omega))).weaken fun cipherSuites _ => ?_
  refine .elem (by omega) ?_
  refine .ensure fun fits => ?_
  refine .sliceFrom fits ?_
  have shorter (n : Nat) (xs : Bytes) : (xs.drop n).length ≤ xs.length := by
    rw [List.length_drop]
    exact Nat.sub_le _ _
  exact le_trans (shorter _ _) (shorter _ _)

/-! ### The extensions -/

/-- One extension (the `switch` of `parseExtensions`). The lists of `supported_versions` (43) and
`signature_algorithms` (13) are read two bytes at a time while the index is below the stated length. -/
def parseExtension (exType : Nat) (sex : Bytes) (hello : ClientHello) : Checked ParseError ClientHello :=
  if exType = 0 then do
    ensure (5 ≤ sex.length) (.length 13)
    let sniType ← elem sex 2
    let high ← elem sex 3
    let low ← elem sex 4
    let name ← sliceFrom sex 5
    ensure (name.length = uint16 high low) (.length 14)
    ensure (sniType = 0) .sniType
    return { hello with serverName := name }
  else if exType = 10 then do
    ensure (2 ≤ sex.length) (.length 15)
    let high ← elem sex 0
    let low ← elem sex 1
    let curves ← sliceFrom sex 2
    ensure (curves.length = uint16 high low) (.length 16)
    let ellipticCurves ← uint16s curves 0 (uint16 high low / 2)
    return { hello with ellipticCurves := ellipticCurves }
  else if exType = 11 then do
    ensure (1 ≤ sex.length) (.length 17)
    let numPF ← elem sex 0
    let formats ← sliceFrom sex 1
    ensure (formats.length = numPF.toNat) (.length 18)
    return { hello with ellipticCurvePF := formats }
  else if exType = 43 then do
    ensure (1 ≤ sex.length) (.length 19)
    let versionsLen ← elem sex 0
    let versions ← uint16s sex 1 ((versionsLen.toNat + 1) / 2)
    return { hello with versions := hello.versions ++ versions }
  else if exType = 13 then do
    ensure (2 ≤ sex.length) (.length 20)
    let high ← elem sex 0
    let low ← elem sex 1
    let algorithms ← uint16s sex 2 ((uint16 high low + 1) / 2)
    return { hello with signatureAlgorithms := hello.signatureAlgorithms ++ algorithms }
  else return hello

/-- The loop of `parseExtensions`; the next extension is found with 16-bit arithmetic. -/
def parseExtensionsLoop : (fuel : Nat) → Bytes → ClientHello → Checked ParseError ClientHello
  | 0, exs, hello => if exs.length = 0 then .ok hello else .error .loops
  | fuel + 1, exs, hello =>
    if exs.length = 0 then .ok hello
    else do
      ensure (4 ≤ exs.length) (.length 11)
      let typeHigh ← elem exs 0
      let typeLow ← elem exs 1
      let high ← elem exs 2
      let low ← elem exs 3
      ensure (4 + uint16 high low ≤ exs.length) (.length 12)
      let sex ← slice exs 4 (4 + uint16 high low)
      let hello ← parseExtension (uint16 typeHigh typeLow) sex
        { hello with extensions := hello.extensions ++ [uint16 typeHigh typeLow] }
      let exs ← sliceFrom exs ((4 + uint16 high low) % 65536)
      parseExtensionsLoop fuel exs hello

/-- `parseExtensions`. An error leaves the fields of the fingerprint unset. -/
def parseExtensions (exs : Bytes) (hello : ClientHello) : Checked ParseError ClientHello :=
  if exs.length = 0 then .ok hello
  else do
    ensure (2 ≤ exs.length) (.length 9)
    let high ← elem exs 0
    let low ← elem exs 1
    let exs ← sliceFrom exs 2
    ensure (uint16 high low ≤ exs.length) (.length 10)
    parseExtensionsLoop exs.length exs hello

def compute (payload : Bytes) : Checked ParseError ClientHello := do
  let hs ← recordBody payload
  let (hello, exs) ← handshakeBody hs
  parseExtensions exs hello

/-! ### When the parser returns -/

def ListFits (exType : Nat) (sex : Bytes) : Prop :=
  (exType = 43 → ∀ present : 1 ≤ sex.length, 1 + 2 * ((sex[0].toNat + 1) / 2) ≤ sex.length) ∧
  (exType = 13 → ∀ present : 2 ≤ sex.length, 2 + 2 * ((uint16 sex[0] sex[1] + 1) / 2) ≤ sex.length)

theorem listFits_of_ne {exType : Nat} (notVersions : exType ≠ 43) (notAlgorithms : exType ≠ 13)
    (sex : Bytes) : ListFits exType sex :=
  ⟨fun it => absurd it notVersions, fun it => absurd it notAlgorithms⟩

theorem returns_parseExtension_iff {exType : Nat} {sex : Bytes} {hello : ClientHello} :
    Returns (parseExtension exType sex hello) ↔ ListFits exType sex := by
  unfold parseExtension
  split
  · refine iff_of_true (.ensure fun long => ?_) (listFits_of_ne (by omega) (by omega) sex)
    refine .elem (by omega) (.elem (by omega) (.elem (by omega) (.sliceFrom long ?_)))
    exact .ensure fun _ => .ensure fun _ => trivial
  split
  · refine iff_of_true (.ensure fun long => ?_) (listFits_of_ne (by omega) (by omega) sex)
    refine .elem (by omega) (.elem (by omega) (.sliceFrom long (.ensure fun whole => ?_)))
    refine meets_bind_iff.mpr (returns_uint16s_iff.mpr (.inr ?_))
    omega
  split
  · refine iff_of_true (.ensure fun long => ?_) (listFits_of_ne (by omega) (by omega) sex)
    exact .elem (by omega) (.sliceFrom long (.ensure fun _ => trivial))
  split
  · rename_i versions
    simp only [meets_bind_iff, meets_ensure_iff, meets_elem_iff, meets_pure, returns_uint16s_iff]
    constructor
    · intro fits
      refine ⟨fun _ present => ?_, fun other => by omega⟩
      obtain ⟨bound, - | room⟩ := fits present
      · omega
      · exact room
    · rintro ⟨fits, -⟩ present
      exact ⟨present, .inr (fits versions present)⟩
  split
  · rename_i algorithms
    simp only [meets_bind_iff, meets_ensure_iff, meets_elem_iff, meets_pure, returns_uint16s_iff]
    constructor
    · intro fits
      refine ⟨fun other => by omega, fun _ present => ?_⟩
      obtain ⟨first, second, - | room⟩ := fits present
      · omega
      · exact room
    · rintro ⟨-, fits⟩ present
      exact ⟨by omega, present, .inr (fits algorithms present)⟩
  · rename_i notVersions notAlgorithms
    exact iff_of_true trivial (listFits_of_ne notVersions notAlgorithms sex)

/-- **A turn of the loop.** Below 64 KiB the 16-bit arithmetic is exact. -/
theorem parseExtensionsLoop_cons {fuel : Nat} {typeHigh typeLow high low : UInt8} {rest : Bytes}
    {hello : ClientHello} (small : rest.length + 4 < 65536) :
    parseExtensionsLoop (fuel + 1) (typeHigh :: typeLow :: high :: low :: rest) hello =
      if uint16 high low ≤ rest.length then
        parseExtension (uint16 typeHigh typeLow) (rest.take (uint16 high low))
          { hello with extensions := hello.extensions ++ [uint16 typeHigh typeLow] } >>=
            parseExtensionsLoop fuel (rest.drop (uint16 high low))
      else fail (.length 12) := by
  generalize size : uint16 high low = n
  by_cases fits : n ≤ rest.length
  · have exactly : (n + 4) % 65536 = n + 4 := Nat.mod_eq_of_lt (by omega)
    simp [parseExtensionsLoop, ensure, elem, slice, sliceFrom, bind, Except.bind, size, fits, exactly, add_comm 4]
  · simp [parseExtensionsLoop, ensure, elem, bind, Except.bind, size, fits, fail, add_comm 4]

/-- The extensions that the loop comes to: those before the first that it finds something wrong with,
and that one. -/
def extensionsReached : (fuel : Nat) → Bytes → ClientHello → List (Nat × Bytes)
  | fuel + 1, typeHigh :: typeLow :: high :: low :: rest, hello =>
    if uint16 high low ≤ rest.length then
      let exType := uint16 typeHigh typeLow
      let sex := rest.take (uint16 high low)
      (exType, sex) ::
        match parseExtension exType sex { hello with extensions := hello.extensions ++ [exType] } with
        | .ok hello => extensionsReached fuel (rest.drop (uint16 high low)) hello
        | .error _ => []
    else []
  | _, _, _ => []

section

variable {exs : Bytes}

theorem extensionsReached_of_short (short : exs.length < 4) (fuel : Nat) (hello : ClientHello) :
    extensionsReached fuel exs hello = [] := by
  rcases exs with _ | ⟨a, _ | ⟨b, _ | ⟨c, _ | ⟨d, rest⟩⟩⟩⟩
  · cases fuel <;> rfl
  · cases fuel <;> rfl
  · cases fuel <;> rfl
  · cases fuel <;> rfl
  · simp only [List.length_cons] at short
    omega

theorem length_lt_or_cons (exs : Bytes) :
    exs.length < 4 ∨ ∃ typeHigh typeLow high low rest, exs = typeHigh :: typeLow :: high :: low :: rest := by
  rcases exs with _ | ⟨a, _ | ⟨b, _ | ⟨c, _ | ⟨d, rest⟩⟩⟩⟩
  · exact .inl (by decide)
  · exact .inl (Nat.lt_of_sub_eq_succ rfl)
  · exact .inl (Nat.lt_of_sub_eq_succ rfl)
  · exact .inl (Nat.lt_of_sub_eq_succ rfl)
  · exact .inr ⟨a, b, c, d, rest, rfl⟩

variable {hello : ClientHello}

theorem returns_parseExtensionsLoop_iff {fuel : Nat} (enough : exs.length ≤ fuel)
    (small : exs.length < 65536) : Returns (parseExtensionsLoop fuel exs hello) ↔
      ∀ extension ∈ extensionsReached fuel exs hello, ListFits extension.1 extension.2 := by
  induction fuel generalizing exs hello with
  | zero =>
    obtain rfl := List.length_eq_zero_iff.mp (Nat.le_zero.mp enough)
    exact iff_of_true trivial (List.forall_mem_nil _)
  | succ fuel ih =>
    rcases length_lt_or_cons exs with short | ⟨typeHigh, typeLow, high, low, rest, rfl⟩
    · rw [extensionsReached_of_short short]
      refine iff_of_true ?_ (List.forall_mem_nil _)
      unfold parseExtensionsLoop
      split
      · trivial
      · exact .ensure fun long => by omega
    · simp only [List.length_cons] at enough small
      rw [parseExtensionsLoop_cons small, extensionsReached]
      by_cases fits : uint16 high low ≤ rest.length
      · rw [if_pos fits, if_pos fits, List.forall_mem_cons,
          ← @returns_parseExtension_iff _ _ { hello with extensions := hello.extensions ++ [uint16 typeHigh typeLow] }]
        cases parsed : parseExtension (uint16 typeHigh typeLow) (rest.take (uint16 high low))
            { hello with extensions := hello.extensions ++ [uint16 typeHigh typeLow] } with
        | ok after =>
          have shorter : (rest.drop (uint16 high low)).length ≤ rest.length := by
            rw [List.length_drop]
            exact Nat.sub_le _ _
          exact (ih (by omega) (by omega)).trans (and_iff_right trivial).symm
        | error fault =>
          cases fault with
          | error error => exact iff_of_true trivial ⟨trivial, List.forall_mem_nil _⟩
          | panic => exact iff_of_false not_meets_panic fun it => not_meets_panic it.1
          | loops => exact iff_of_false not_meets_loops fun it => not_meets_loops it.1
      · rw [if_neg fits, if_neg fits]
        exact iff_of_true trivial (List.forall_mem_nil _)

/-- The extensions that `parseExtensions` comes to. -/
def extensionsOf (exs : Bytes) (hello : ClientHello) : List (Nat × Bytes) :=
  match exs with
  | high :: low :: exs =>
    if uint16 high low ≤ exs.length then extensionsReached exs.length exs hello else []
  | _ => []

theorem returns_parseExtensions_iff (small : exs.length < 65536) : Returns (parseExtensions exs hello) ↔
      ∀ extension ∈ extensionsOf exs hello, ListFits extension.1 extension.2 := by
  unfold parseExtensions
  rcases exs with _ | ⟨high, _ | ⟨low, exs⟩⟩
  · exact iff_of_true trivial (List.forall_mem_nil _)
  · exact iff_of_true trivial (List.forall_mem_nil _)
  have length : (high :: low :: exs).length = exs.length + 2 := rfl
  unfold extensionsOf
  rw [if_neg (by rw [length]; omega)]
  simp only [meets_bind_iff, meets_ensure_iff, meets_elem_iff, meets_sliceFrom_iff,
    List.getElem_cons_zero, List.getElem_cons_succ]
  split_ifs with fits
  · rw [← returns_parseExtensionsLoop_iff (le_refl _) (by omega)]
    constructor
    · intro returns
      obtain ⟨-, -, -, go⟩ := returns (by omega)
      exact go fits
    · intro returns _
      exact ⟨by omega, by omega, by omega, fun _ => returns⟩
  · refine iff_of_true ?_ (List.forall_mem_nil _)
    intro _
    exact ⟨by omega, by omega, by omega, fun more => absurd more fits⟩

def recordExtensions (payload : Bytes) : List (Nat × Bytes) :=
  match recordBody payload with
  | .ok hs =>
    match handshakeBody hs with
    | .ok (hello, exs) => extensionsOf exs hello
    | .error _ => []
  | .error _ => []

theorem compute_returns_iff {payload : Bytes} : Returns (compute payload) ↔
      ∀ extension ∈ recordExtensions payload, ListFits extension.1 extension.2 := by
  unfold compute recordExtensions
  rcases (meets_recordBody payload).fails_or_ok with ⟨error, failed⟩ | ⟨hs, body, short⟩
  · rw [failed]
    exact iff_of_true trivial (List.forall_mem_nil _)
  rw [body]
  show Returns (handshakeBody hs >>= fun pair => parseExtensions pair.2 pair.1) ↔ _
  rcases (meets_handshakeBody hs).fails_or_ok with ⟨error, failed⟩ | ⟨pair, handshake, shorter⟩
  · simp only [failed]
    exact iff_of_true trivial (List.forall_mem_nil _)
  · simp only [handshake]
    exact returns_parseExtensions_iff (lt_of_le_of_lt shorter short)

/-! ### The loop over the extensions ends -/

@[simp] theorem uint16s_ne_loops (xs : Bytes) (offset count : Nat) : uint16s xs offset count ≠ .error .loops := by
  induction count generalizing offset with
  | zero => simp [uint16s, pure, Except.pure]
  | succ count ih => simp [uint16s, bind_eq_loops_iff, ih, pure, Except.pure]

@[simp] theorem parseExtension_ne_loops (exType : Nat) (sex : Bytes) (hello : ClientHello) :
    parseExtension exType sex hello ≠ .error .loops := by
  unfold parseExtension
  split_ifs <;> simp [bind_eq_loops_iff, sliceFrom, pure, Except.pure]

theorem parseExtensionsLoop_ends {fuel : Nat} (small : exs.length < 65536)
    (enough : exs.length ≤ 4 * fuel) : parseExtensionsLoop fuel exs hello ≠ .error .loops := by
  induction fuel generalizing exs hello with
  | zero =>
    obtain rfl := List.length_eq_zero_iff.mp (Nat.le_zero.mp enough)
    exact fun same => nomatch same
  | succ fuel ih =>
    rcases length_lt_or_cons exs with short | ⟨typeHigh, typeLow, high, low, rest, rfl⟩
    · unfold parseExtensionsLoop
      split_ifs
      · simp
      · simp [ensure, not_le.mpr short, fail, bind, Except.bind]
    · simp only [List.length_cons] at enough small
      rw [parseExtensionsLoop_cons small]
      split_ifs
      · simp only [ne_eq, bind_eq_loops_iff, parseExtension_ne_loops, false_or, not_exists, not_and]
        intro after _
        exact ih (by rw [List.length_drop]; omega) (by rw [List.length_drop]; omega)
      · exact fun same => by cases same

theorem parseExtensions_ends (small : exs.length < 65536) : parseExtensions exs hello ≠ .error .loops := by
  unfold parseExtensions
  split_ifs
  · simp
  simp only [ne_eq, bind_eq_loops_iff, ensure_ne_loops, elem_ne_loops, slice_ne_loops, sliceFrom,
    false_or, not_exists, not_and]
  intro _ long high _ low _ rest sliced _ _
  rw [← sliceFrom, sliceFrom_eq_ok (ensure_eq_ok_iff.mp long)] at sliced
  have shorter : rest.length = exs.length - 2 := by
    rw [← Except.ok.inj sliced, List.length_drop]
  exact parseExtensionsLoop_ends (by omega) (by omega)

end

/-- **The parser stays within its input** exactly if the lists of the extensions fit; and its loop ends
on every input, after a turn for every four bytes at most. -/
theorem ja3_inBounds_iff (payload : Bytes) : (Returns (compute payload) ↔
      ∀ extension ∈ recordExtensions payload, ListFits extension.1 extension.2) ∧
    compute payload ≠ .error .loops ∧ ∀ fuel exs hello, exs.length < 65536 → exs.length ≤ 4 * fuel →
      parseExtensionsLoop fuel exs hello ≠ .error .loops := by
  refine ⟨compute_returns_iff, ?_, fun _ _ _ => parseExtensionsLoop_ends⟩
  have outer := meets_recordBody payload
  unfold compute
  rcases outer.fails_or_ok with ⟨error, failed⟩ | ⟨hs, body, short⟩
  · rw [failed]
    exact fun same => nomatch same
  rw [body]
  rcases (meets_handshakeBody hs).fails_or_ok with ⟨error, failed⟩ | ⟨pair, handshake, shorter⟩
  · simp only [bind, Except.bind, failed]
    exact fun same => nomatch same
  · simp only [bind, Except.bind, handshake]
    exact parseExtensions_ends (lt_of_le_of_lt shorter short)

/-- A ClientHello with the extension `supported_versions`, of one byte: a list of two bytes follows. -/
def cutVersions : Bytes :=
  [22, 3, 1, 0, 49, 1, 0, 0, 45, 3, 3] ++ List.replicate 32 0 ++ [0, 0, 0, 0, 0, 5, 0, 43, 0, 1, 2]

/-- **The list of versions is read past the end of its extension.** -/
theorem ja3_outOfBounds : compute cutVersions = .error .panic := by
  decide +kernel

end SingBox.Sniff
