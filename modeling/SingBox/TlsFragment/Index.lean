/-
**The server name of a ClientHello** (`common/tlsfragment/index.go`).

`indexTLSServerName` looks for the server name in the first bytes that a connection writes, and says where in them it
stands. One number is too small: `4+exLen`, by which the search goes on to the next extension, is a `uint16`. An
extension of 65532 bytes is therefore found again and again (`Endless`), and after a longer one the search goes on
inside of it, with a position that is 65536 too high. This takes more than one record of data, but the handshake is
looked for in all of the data.
-/

import SingBox.Sniff.Ja3

namespace SingBox.TlsFragment

open SingBox.Lib SingBox.Lib.Checked List
open SingBox.Sniff (uint16 uint16_lt supportedVersion)

structure MyServerName where
  index : Nat
  length : Nat
  serverName : Bytes
  deriving DecidableEq

/-! ### The extensions -/

/-- The type and the data of the extension at the front. The error of these functions is `nil`. -/
def readExtension (exs : Bytes) : Checked Unit (Nat × Bytes) := do
  ensure (4 ≤ exs.length) ()
  let typeHigh ← elem exs 0
  let typeLow ← elem exs 1
  let lenHigh ← elem exs 2
  let lenLow ← elem exs 3
  ensure (4 + uint16 lenHigh lenLow ≤ exs.length) ()
  let sex ← slice exs 4 (4 + uint16 lenHigh lenLow)
  return (uint16 typeHigh typeLow, sex)

def readServerName (sex : Bytes) (currentIndex : Nat) : Checked Unit MyServerName := do
  ensure (5 ≤ sex.length) ()
  let sniType ← elem sex 2
  ensure (sniType = 0) ()
  let lenHigh ← elem sex 3
  let lenLow ← elem sex 4
  let name ← sliceFrom sex 5
  return ⟨currentIndex + 4 + 5, uint16 lenHigh lenLow, name⟩

def extensionLoop : (fuel : Nat) → (exs : Bytes) → (currentIndex : Nat) → Checked Unit MyServerName
  | _, [], _ => fail ()
  | 0, _ :: _, _ => .error .loops
  | fuel + 1, byte :: more, currentIndex => do
    let extension ← readExtension (byte :: more)
    if extension.1 = 0 then readServerName extension.2 currentIndex
    else do
      -- `4+exLen` is a `uint16`; the position is not.
      let exs ← sliceFrom (byte :: more) ((4 + extension.2.length) % 65536)
      extensionLoop fuel exs (currentIndex + 4 + extension.2.length)

def extensionList (exs : Bytes) : Checked Unit Bytes := do
  ensure (exs ≠ []) ()
  ensure (2 ≤ exs.length) ()
  let high ← elem exs 0
  let low ← elem exs 1
  let rest ← sliceFrom exs 2
  ensure (uint16 high low ≤ rest.length) ()
  return rest

/-- `indexTLSServerNameFromExtensions`. A turn of the loop that does not stand still takes a byte at
least, so that this is enough fuel (`meets_extensionLoop`). -/
def indexTLSServerNameFromExtensions (exs : Bytes) : Checked Unit MyServerName := do
  let exs ← extensionList exs
  extensionLoop exs.length exs 2

/-! ### The handshake -/

def extensionsIndex (handshake : Bytes) : Checked Unit Nat := do
  ensure (39 ≤ handshake.length) ()
  let handshType ← elem handshake 0
  ensure (handshType = 1) ()
  let first ← elem handshake 1
  let second ← elem handshake 2
  let third ← elem handshake 3
  let body ← sliceFrom handshake 4
  ensure (body.length = first.toNat * 65536 + uint16 second third) ()
  let high ← elem handshake 4
  let low ← elem handshake 5
  ensure (supportedVersion (uint16 high low)) ()
  let sessionIDLen ← elem handshake 38
  ensure (39 + sessionIDLen.toNat ≤ handshake.length) ()
  let cipherSuites ← sliceFrom handshake (39 + sessionIDLen.toNat)
  ensure (2 ≤ cipherSuites.length) ()
  let csHigh ← elem cipherSuites 0
  let csLow ← elem cipherSuites 1
  ensure (2 + uint16 csHigh csLow + 1 ≤ cipherSuites.length) ()
  let compressMethodLen ← elem cipherSuites (2 + uint16 csHigh csLow)
  let currentIndex := 39 + sessionIDLen.toNat + 2 + uint16 csHigh csLow + 1 + compressMethodLen.toNat
  ensure (currentIndex ≤ handshake.length) ()
  return currentIndex

def indexTLSServerNameFromHandshake (handshake : Bytes) : Checked Unit MyServerName := do
  let currentIndex ← extensionsIndex handshake
  let exs ← sliceFrom handshake currentIndex
  let serverName ← indexTLSServerNameFromExtensions exs
  return { serverName with index := serverName.index + currentIndex }

/-- The first record: what its header says that it holds, if it is all there. -/
def segmentLen (payload : Bytes) : Checked Unit Nat := do
  ensure (5 ≤ payload.length) ()
  let contType ← elem payload 0
  ensure (contType = 22) ()
  let high ← elem payload 3
  let low ← elem payload 4
  ensure (5 + uint16 high low ≤ payload.length) ()
  return uint16 high low

/-- `IndexTLSServerName`. The handshake is looked for in all that follows the header, which may be more
than the record. -/
def indexTLSServerName (payload : Bytes) : Checked Unit MyServerName := do
  let _ ← segmentLen payload
  let handshake ← sliceFrom payload 5
  let serverName ← indexTLSServerNameFromHandshake handshake
  return { serverName with index := serverName.index + 5 }

/-! ### The search for the extension -/

theorem meets_readExtension (exs : Bytes) :
    Meets (fun extension => (extension.2.length < 65536 ∧ 4 + extension.2.length ≤ exs.length) ∧
      extension.2 <+: exs.drop 4) (readExtension exs) := by
  unfold readExtension
  simp only [meets_bind_iff, meets_ensure_iff, meets_elem_iff, meets_slice_iff]
  intro header
  refine ⟨by omega, by omega, by omega, by omega, fun whole => ⟨⟨by omega, whole⟩, ?_, ( take_prefix _ _).drop 4⟩⟩
  have small := uint16_lt exs[2] exs[3]
  rw [length_drop, length_take]
  omega

theorem meets_readServerName (sex : Bytes) (currentIndex : Nat) :
    Meets (fun name => name.index = currentIndex + 9 ∧ name.serverName.length + 5 = sex.length ∧
      name.serverName = sex.drop 5) (readServerName sex currentIndex) := by
  unfold readServerName
  simp only [meets_bind_iff, meets_ensure_iff, meets_elem_iff, meets_sliceFrom_iff, meets_pure]
  intro header
  refine ⟨by omega, fun _ => ⟨by omega, by omega, header, trivial, ?_, trivial⟩⟩
  rw [length_drop]
  omega

/-- The search passes other extensions, of `i` bytes in all, and comes to `rest`. -/
inductive Passes : Bytes → Nat → Bytes → Prop
  | refl (exs : Bytes) : Passes exs 0 exs
  | head {exs rest : Bytes} {i : Nat} {extension : Nat × Bytes} (read : readExtension exs = .ok extension)
      (other : extension.1 ≠ 0) (later : Passes (exs.drop ((4 + extension.2.length) % 65536)) i rest) :
      Passes exs (4 + extension.2.length + i) rest

/-- **The search never ends**: it comes to an extension of 65532 bytes. -/
def Endless (exs : Bytes) : Prop :=
  ∃ i rest extension, Passes exs i rest ∧ readExtension rest = .ok extension ∧
    extension.1 ≠ 0 ∧ extension.2.length = 65532

/-- The data of a server name extension have a name of the type `host_name`. -/
def HasHostName (sex : Bytes) : Prop := ∃ first second high low name, sex = first :: second :: 0 :: high :: low :: name

/-- **What the search finds**: the name in the first server name extension that it comes to. -/
def Found (exs : Bytes) (currentIndex : Nat) (name : MyServerName) : Prop :=
  ∃ i rest extension, Passes exs i rest ∧ readExtension rest = .ok extension ∧ extension.1 = 0 ∧
    readServerName extension.2 (currentIndex + i) = .ok name

variable {exs rest sex : Bytes} {extension : Nat × Bytes} {i currentIndex : Nat} {name : MyServerName}

theorem readServerName_isOk_iff : (∃ name, readServerName sex currentIndex = .ok name) ↔ HasHostName sex := by
  constructor
  · rintro ⟨name, done⟩
    obtain ⟨_, long, done⟩ := bind_eq_ok_iff.mp done
    rw [ensure_eq_ok_iff] at long
    rcases sex with _ | ⟨first, _ | ⟨second, _ | ⟨type, _ | ⟨high, _ | ⟨low, rest⟩⟩⟩⟩⟩
    iterate 5 simp at long
    obtain ⟨_, here, done⟩ := bind_eq_ok_iff.mp done
    obtain ⟨_, zero, -⟩ := bind_eq_ok_iff.mp done
    rw [ensure_eq_ok_iff] at zero
    rw [Checked.elem, dif_pos (by simp)] at here
    obtain rfl : type = 0 := by simpa [zero] using here
    exact ⟨first, second, high, low, rest, rfl⟩
  · rintro ⟨first, second, high, low, name, rfl⟩
    exact ⟨⟨currentIndex + 4 + 5, uint16 high low, name⟩, by
      simp [readServerName, ensure, Checked.elem, sliceFrom, slice, bind, Except.bind, pure, Except.pure]⟩

theorem readExtension_bounds (read : readExtension exs = .ok extension) :
    extension.2.length < 65536 ∧ 4 + extension.2.length ≤ exs.length :=
  ((meets_readExtension exs).of_ok read).1

theorem extensionLoop_zero (more : exs ≠ []) (currentIndex : Nat) :
    extensionLoop 0 exs currentIndex = .error .loops := by
  cases exs with
  | nil => exact absurd rfl more
  | cons byte exs => rfl

section

variable (read : readExtension exs = .ok extension)

include read

theorem extensionLoop_pass (other : extension.1 ≠ 0) (fuel currentIndex : Nat) :
    extensionLoop (fuel + 1) exs currentIndex =
      extensionLoop fuel (exs.drop ((4 + extension.2.length) % 65536)) (currentIndex + 4 + extension.2.length) := by
  have bounds := readExtension_bounds read
  cases exs with
  | nil => exact absurd bounds.2 (by simp)
  | cons byte more =>
    have inside : (4 + extension.2.length) % 65536 ≤ (byte :: more).length :=
      le_trans (Nat.mod_le _ _) bounds.2
    simp only [extensionLoop, read, bind, Except.bind, other, if_false, sliceFrom_eq_ok inside]

theorem ne_nil_of_read : exs ≠ [] := by
  rintro rfl
  exact absurd (readExtension_bounds read).2 (by simp)

theorem extensionLoop_of_stuck (other : extension.1 ≠ 0) (size : extension.2.length = 65532) (fuel currentIndex : Nat) :
    extensionLoop fuel exs currentIndex = .error .loops := by
  induction fuel generalizing currentIndex with
  | zero => exact extensionLoop_zero (ne_nil_of_read read) currentIndex
  | succ fuel ih =>
    rw [extensionLoop_pass read other, size]
    exact ih _

end

theorem extensionLoop_of_endless (endless : Endless exs) (fuel currentIndex : Nat) :
    extensionLoop fuel exs currentIndex = .error .loops := by
  obtain ⟨i, rest, extension, passes, read, other, size⟩ := endless
  induction passes generalizing fuel currentIndex with
  | refl => exact extensionLoop_of_stuck read other size fuel currentIndex
  | head found differs _ ih =>
    cases fuel with
    | zero => exact extensionLoop_zero (ne_nil_of_read found) currentIndex
    | succ fuel =>
      rw [extensionLoop_pass found differs]
      exact ih fuel _ read

theorem not_endless_rest (free : ¬ Endless exs) (read : readExtension exs = .ok extension)
    (other : extension.1 ≠ 0) : ¬ Endless (exs.drop ((4 + extension.2.length) % 65536)) ∧
      (exs.drop ((4 + extension.2.length) % 65536)).length < exs.length := by
  have bounds := readExtension_bounds read
  have differs : extension.2.length ≠ 65532 := fun size =>
    free ⟨0, exs, extension, .refl exs, read, other, size⟩
  constructor
  · rintro ⟨i, rest, last, passes, reads⟩
    exact free ⟨_, rest, last, .head read other passes, reads⟩
  · rw [length_drop]
    omega

/-- **The loop ends** with what the search finds, if that ends. -/
theorem meets_extensionLoop {fuel : Nat} (enough : exs.length ≤ fuel) (free : ¬ Endless exs)
    (currentIndex : Nat) : Meets (Found exs currentIndex) (extensionLoop fuel exs currentIndex) := by
  induction fuel generalizing exs currentIndex with
  | zero =>
    rw [length_eq_zero_iff.mp (Nat.le_zero.mp enough)]
    exact meets_fail ()
  | succ fuel ih =>
    cases exs with
    | nil =>
      exact meets_fail ()
    | cons byte more =>
      cases read : readExtension (byte :: more) with
      | error fault =>
        have returns := meets_readExtension (byte :: more)
        rw [extensionLoop]
        rw [read] at returns ⊢
        cases fault <;> exact returns
      | ok extension =>
        by_cases other : extension.1 = 0
        · rw [extensionLoop, meets_bind_iff, read, meets_ok, if_pos other]
          have returns := meets_readServerName extension.2 currentIndex
          refine (Meets.iff_forall_ok (returns.weaken fun _ _ => trivial)).mpr fun name found => ?_
          exact ⟨0, _, extension, .refl _, read, other, found⟩
        obtain ⟨later, shorter⟩ := not_endless_rest free read other
        rw [extensionLoop_pass read other]
        refine (ih (by omega) later _).weaken ?_
        rintro name ⟨i, rest, last, passes, there, isName, found⟩
        refine ⟨_, rest, last, .head read other passes, there, isName, ?_⟩
        rw [← found]
        congr 1
        omega

/-- A name that the search comes to is what the loop returns. -/
theorem extensionLoop_of_passes (free : ¬ Endless exs) (passes : Passes exs i rest)
    (read : readExtension rest = .ok extension) (isName : extension.1 = 0) {fuel : Nat} (enough : exs.length ≤ fuel) :
    extensionLoop fuel exs currentIndex = readServerName extension.2 (currentIndex + i) := by
  induction passes generalizing fuel currentIndex with
  | refl exs =>
    have inside := (readExtension_bounds read).2
    rcases exs with _ | ⟨byte, more⟩
    · simp at inside
    obtain ⟨fuel, rfl⟩ := Nat.exists_eq_add_of_le' (show 1 ≤ fuel from le_trans (Nat.succ_pos _) enough)
    simp [extensionLoop, read, isName, bind, Except.bind]
  | head found differs _ ih =>
    obtain ⟨later, shorter⟩ := not_endless_rest free found differs
    obtain ⟨fuel, rfl⟩ := Nat.exists_eq_add_of_le' (show 1 ≤ fuel by omega)
    rw [extensionLoop_pass found differs, ih later read (by omega)]
    congr 1
    omega

/-- Below 65536 bytes the position and the rest go on by the same number. -/
theorem Passes.eq_drop (passes : Passes exs i rest) (short : exs.length < 65536 ∨ i < 65536) :
    i ≤ exs.length ∧ rest = exs.drop i := by
  induction passes with
  | refl exs => exact ⟨Nat.zero_le _, rfl⟩
  | head read other _ ih =>
    have bounds := readExtension_bounds read
    rw [Nat.mod_eq_of_lt (by omega), length_drop, drop_drop] at ih
    obtain ⟨inside, rfl⟩ := ih (by omega)
    exact ⟨by omega, rfl⟩

/-- Where a name is found, and what stands there if the extensions before it are short. -/
theorem Found.located (found : Found exs currentIndex name) : currentIndex ≤ name.index ∧
    (exs.length < 65536 ∨ name.index < currentIndex + 65536 →
      name.index + name.serverName.length ≤ currentIndex + exs.length ∧
        name.serverName <+: exs.drop (name.index - currentIndex)) := by
  obtain ⟨i, rest, extension, passes, read, -, found⟩ := found
  obtain ⟨index, size, all⟩ := (meets_readServerName _ _).of_ok found
  obtain ⟨bounds, here⟩ := (meets_readExtension _).of_ok read
  refine ⟨by omega, fun short => ?_⟩
  obtain ⟨inside, rfl⟩ := passes.eq_drop (by omega)
  rw [length_drop] at bounds
  refine ⟨by omega, ?_⟩
  have inside := here.drop 5
  rwa [← all, drop_drop, drop_drop, show i + (4 + 5) = name.index - currentIndex by omega] at inside

/-! ### The whole search -/

theorem meets_extensionList (exs : Bytes) :
    Meets (fun rest => rest.length + 2 = exs.length ∧ rest = exs.drop 2) (extensionList exs) := by
  unfold extensionList
  simp only [meets_bind_iff, meets_ensure_iff, meets_elem_iff, meets_sliceFrom_iff, meets_pure]
  intro _ header
  refine ⟨by omega, by omega, header, fun _ => ⟨?_, trivial⟩⟩
  rw [length_drop]
  omega

theorem meets_extensionsIndex (handshake : Bytes) :
    Meets (fun currentIndex => currentIndex ≤ handshake.length) (extensionsIndex handshake) := by
  unfold extensionsIndex
  simp only [meets_bind_iff, meets_ensure_iff, meets_elem_iff, meets_sliceFrom_iff]
  intro long
  refine ⟨by omega, fun _ => ⟨by omega, by omega, by omega, by omega, fun _ => ?_⟩⟩
  refine ⟨by omega, by omega, fun _ => ⟨by omega, fun session => ⟨session, fun suites => ?_⟩⟩⟩
  exact ⟨by omega, by omega, fun compress => ⟨by omega, fun fits => fits⟩⟩

theorem meets_segmentLen (payload : Bytes) :
    Meets (fun size => size < 65536 ∧ 5 + size ≤ payload.length) (segmentLen payload) := by
  unfold segmentLen
  simp only [meets_bind_iff, meets_ensure_iff, meets_elem_iff]
  intro long
  exact ⟨by omega, fun _ => ⟨by omega, by omega, fun whole => ⟨uint16_lt _ _, whole⟩⟩⟩

def extensionsOf (payload : Bytes) : Checked Unit Bytes := do
  let _ ← segmentLen payload
  let handshake ← sliceFrom payload 5
  let currentIndex ← extensionsIndex handshake
  let exs ← sliceFrom handshake currentIndex
  extensionList exs

/-- **The search for the server name ends.** -/
def Searchable (payload : Bytes) : Prop := ∀ exs, extensionsOf payload = .ok exs → ¬ Endless exs

theorem indexTLSServerName_cases (payload : Bytes) :
    (∃ error, extensionsOf payload = fail error ∧ indexTLSServerName payload = fail error) ∨
    ∃ exs start, extensionsOf payload = .ok exs ∧ (start + 2 + exs.length = payload.length ∧
      exs = payload.drop (start + 2)) ∧ 5 ≤ start ∧ indexTLSServerName payload = (do
        let name ← extensionLoop exs.length exs 2
        return { name with index := name.index + start }) := by
  unfold extensionsOf indexTLSServerName indexTLSServerNameFromHandshake indexTLSServerNameFromExtensions
  rcases (meets_segmentLen payload).fails_or_ok with ⟨error, failed⟩ | ⟨size, record, -, whole⟩
  · exact .inl ⟨error, by rw [failed]; rfl, by rw [failed]; rfl⟩
  rw [record]
  simp only [bind, Except.bind, sliceFrom_eq_ok (show 5 ≤ payload.length by omega)]
  rcases (meets_extensionsIndex (payload.drop 5)).fails_or_ok with
    ⟨error, failed⟩ | ⟨index, found, inside⟩
  · exact .inl ⟨error, by rw [failed]; rfl, by rw [failed]; rfl⟩
  rw [found]
  simp only [sliceFrom_eq_ok inside]
  rcases (meets_extensionList ((payload.drop 5).drop index)).fails_or_ok with
    ⟨error, failed⟩ | ⟨exs, list, size, all⟩
  · exact .inl ⟨error, failed, by rw [failed]; rfl⟩
  rw [list]
  refine .inr ⟨exs, index + 5, rfl, ⟨?_, ?_⟩, Nat.le_add_left _ _, ?_⟩
  · rw [length_drop] at inside
    rw [length_drop, length_drop] at size
    omega
  · rw [all, drop_drop, drop_drop, Nat.add_left_comm]
  · dsimp only
    cases extensionLoop exs.length exs 2 with
    | error fault => rfl
    | ok name =>
      show Except.ok _ = .ok _
      rw [add_assoc]

/-- **Nothing is read out of bounds, and the name stands within the data**, if these are no more than one
record. -/
theorem meets_indexTLSServerName {payload : Bytes} (ends : Searchable payload) :
    Meets (fun name => 5 ≤ name.index ∧ 5 ≤ payload.length ∧
      (payload.length ≤ 65540 → name.index + name.serverName.length ≤ payload.length))
      (indexTLSServerName payload) := by
  rcases indexTLSServerName_cases payload with ⟨error, -, failed⟩ | ⟨exs, start, list, ⟨size, -⟩, far, same⟩
  · rw [failed]
    exact meets_fail error
  rw [same, meets_bind_iff]
  refine (meets_extensionLoop (le_refl _) (ends exs list) 2).weaken fun name found => ?_
  refine meets_pure.mpr ⟨le_trans far (Nat.le_add_left _ _), by omega, fun short => ?_⟩
  have within := (found.located.2 (by omega)).1
  dsimp only
  omega

theorem indexTLSServerName_of_endless {payload : Bytes} (endless : ¬ Searchable payload) :
    indexTLSServerName payload = .error .loops := by
  simp only [Searchable, not_forall, not_not] at endless
  obtain ⟨exs, list, never⟩ := endless
  rcases indexTLSServerName_cases payload with ⟨error, failed, -⟩ | ⟨found, start, again, -, -, same⟩
  · cases failed.symm.trans list
  · cases again.symm.trans list
    rw [same, extensionLoop_of_endless never]
    rfl

theorem searchable_of_short {payload : Bytes} (short : payload.length ≤ 65540) : Searchable payload := by
  rintro exs list ⟨i, rest, extension, passes, read, -, size⟩
  have inside := (readExtension_bounds read).2
  rcases indexTLSServerName_cases payload with ⟨error, failed, -⟩ | ⟨found, start, again, ⟨sum, -⟩, far, -⟩
  · cases failed.symm.trans list
  · cases again.symm.trans list
    obtain ⟨-, rfl⟩ := passes.eq_drop (by omega)
    rw [length_drop] at inside
    omega

/-- **The data are searched soundly**: the search comes to no extension of 65532 bytes, and if it comes to a server name
extension with a host name, then this ends within the first record. The extensions are the end of the data, and positions
in them are exact sums of the lengths. -/
def Sound (payload : Bytes) : Prop :=
  ∀ exs size, extensionsOf payload = .ok exs → segmentLen payload = .ok size →
    ∀ i rest extension, Passes exs i rest → readExtension rest = .ok extension →
      if extension.1 = 0 then
        HasHostName extension.2 → payload.length - exs.length + i + 4 + extension.2.length ≤ 5 + size
      else extension.2.length ≠ 65532

theorem Sound.searchable {payload : Bytes} (sound : Sound payload) : Searchable payload := by
  rintro exs list ⟨i, rest, extension, passes, read, other, size⟩
  obtain ⟨record, found, -⟩ := bind_eq_ok_iff.mp list
  have differs := sound exs record list found i rest extension passes read
  rw [if_neg other] at differs
  exact differs size

/-- **The server name is found where it stands, within the first record**, and the search ends, exactly if the data are
searched soundly. Nothing is read out of bounds in any case. -/
theorem indexTLSServerName_sound_iff (payload : Bytes) : indexTLSServerName payload ≠ .error .panic ∧
    (Meets (fun name => (payload.drop name.index).take name.serverName.length = name.serverName ∧
        ∀ size, segmentLen payload = .ok size →
          5 ≤ name.index ∧ name.index + name.serverName.length ≤ 5 + size) (indexTLSServerName payload) ↔
      Sound payload) := by
  constructor
  · intro panics
    by_cases ends : Searchable payload
    · have meets := meets_indexTLSServerName ends
      rw [panics] at meets
      exact meets
    · cases panics.symm.trans (indexTLSServerName_of_endless ends)
  rcases indexTLSServerName_cases payload with ⟨error, none, failed⟩ | ⟨exs, start, list, ⟨sum, all⟩, far, same⟩
  · rw [failed]
    refine iff_of_true (meets_fail error) fun exs _ list => ?_
    cases none.symm.trans list
  obtain ⟨record, header, -⟩ := bind_eq_ok_iff.mp list
  have small := (meets_segmentLen payload).of_ok header
  constructor
  · intro meets other size again head i rest extension passes read
    cases again.symm.trans list
    cases head.symm.trans header
    have free : ¬ Endless exs := by
      intro endless
      rw [same, extensionLoop_of_endless endless] at meets
      exact meets
    split_ifs with isName
    · intro host
      obtain ⟨name, found⟩ := readServerName_isOk_iff.mpr host
      rw [same, extensionLoop_of_passes free passes read isName le_rfl, found] at meets
      obtain ⟨index, length, -⟩ := (meets_readServerName _ _).of_ok found
      have within := (meets.2 record header).2
      dsimp only at within
      omega
    · exact fun stuck => free ⟨i, rest, extension, passes, read, isName, stuck⟩
  · intro sound
    rw [same, meets_bind_iff]
    have meets := meets_extensionLoop le_rfl (sound.searchable exs list) 2
    refine meets.weaken fun name found => meets_pure.mpr ?_
    have located := found.located
    obtain ⟨i, rest, extension, passes, read, isName, found⟩ := found
    obtain ⟨index, length, -⟩ := (meets_readServerName _ _).of_ok found
    have within := sound exs record list header i rest extension passes read
    rw [if_pos isName] at within
    have within := within (readServerName_isOk_iff.mp ⟨name, found⟩)
    obtain ⟨-, here⟩ := located.2 (by omega)
    refine ⟨?_, fun size again => ?_⟩
    · rw [all, drop_drop] at here
      dsimp only
      rw [show name.index + start = start + 2 + (name.index - 2) by omega]
      exact (prefix_iff_eq_take.mp here).symm
    · cases header.symm.trans again
      dsimp only
      omega

/-- A ClientHello of 54 bytes behind the header of a record. -/
def helloRecord (size : UInt8) : Bytes :=
  [22, 3, 1, 0, size] ++ [1, 0, 0, 50, 3, 3] ++ List.replicate 36 0 ++ [0, 10, 0, 0, 0, 6, 0, 4, 0, 0, 1, 0x61]

set_option maxRecDepth 1000 in
/-- The record is empty; the name is found behind it. -/
theorem indexTLSServerName_behind : segmentLen (helloRecord 0) = .ok 0 ∧
    indexTLSServerName (helloRecord 0) = .ok ⟨58, 1, [0x61]⟩ :=
  ⟨rfl, rfl⟩

end SingBox.TlsFragment
