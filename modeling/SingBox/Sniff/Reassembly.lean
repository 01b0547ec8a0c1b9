/-
**The reassembly of a ClientHello** (`common/sniff/quic.go`).

A ClientHello comes in CRYPTO fragments, over several packets. The code makes a TLS record of those that it has: the
length in its header is the sum of the lengths of all of them, and its content is a chain of adjacent fragments from
offset 0, each the first that it has at its offset.
-/

import SingBox.Sniff.Quic

namespace SingBox.Sniff

open SingBox.Lib SingBox.Lib.Checked List

def parseMessage (message : Bytes) : Checked ParseError ClientHello :=
  handshakeBody message >>= fun pair => parseExtensions pair.2 pair.1

structure QCryptoFragment.Of (message : Bytes) (fragment : QCryptoFragment) : Prop where
  some : fragment.length ≠ 0
  within : fragment.stop ≤ message.length
  payload : fragment.payload = (message.drop fragment.offset.toNat).take fragment.length.toNat

def total (fragments : List QCryptoFragment) : Nat :=
  (fragments.map fun fragment => fragment.length.toNat).sum

/-- A chain of adjacent fragments leads from offset 0 to this one. -/
inductive Leads (fragments : List QCryptoFragment) : Nat → Prop
  | start : Leads fragments 0
  | next {fragment : QCryptoFragment} (member : fragment ∈ fragments) (before : Leads fragments fragment.offset.toNat) :
      Leads fragments fragment.stop

/-- **The fragments cover the message**: a chain of adjacent ones leads to its end. -/
def Covers (message : Bytes) (fragments : List QCryptoFragment) : Prop := Leads fragments message.length

/-- The chain of the first fragments at each offset leads to the end of the message. -/
def FirstCover (message : Bytes) (fragments : List QCryptoFragment) : Prop :=
  ∃ fuel found, chain fragments fuel 0 = some found ∧ total found = message.length

/-- **The code finds the message**: the first fragments cover it, and the lengths of all add up to its length. -/
def Complete (message : Bytes) (fragments : List QCryptoFragment) : Prop :=
  FirstCover message fragments ∧ total fragments % 65536 = message.length

def fragmentsOf (keys : InitialKeys) (packet : Bytes) : List QCryptoFragment :=
  match decode keys packet with
  | .ok frames => frames.2
  | .error _ => []

def seen (keys : InitialKeys) (packets : List Bytes) : List QCryptoFragment :=
  packets.foldl (fun old packet => fragmentsOf keys packet ++ old) []

structure Delivers (keys : InitialKeys) (fuel : Nat) (message : Bytes) (packets : List Bytes) : Prop where
  decoded : ∀ packet ∈ packets, ∃ frames, decode keys packet = .ok frames
  of : ∀ fragment ∈ seen keys packets, fragment.Of message
  room : total (seen keys packets) + 5 < 2 ^ 63
  enough : (seen keys packets).length < fuel

variable {message body last : Bytes} {packets : List Bytes} {fragments found : List QCryptoFragment} {fuel index n : Nat}
  {frameTypeList : List UInt8} {hello : ClientHello} {keys : InitialKeys} {metadata : QUICMetadata}

/-! ### The chain is the beginning of the message -/

theorem seen_concat (keys : InitialKeys) (packets : List Bytes) (last : Bytes) :
    seen keys (packets ++ [last]) = fragmentsOf keys last ++ seen keys packets := by
  rw [seen, foldl_append]
  rfl

theorem Delivers.init (delivers : Delivers keys fuel message (packets ++ [last])) :
    Delivers keys fuel message packets := by
  obtain ⟨decoded, of, room, enough⟩ := delivers
  rw [seen_concat] at of room enough
  rw [total, map_append, sum_append] at room
  rw [length_append] at enough
  exact ⟨fun packet member => decoded packet (mem_append_left _ member),
    fun fragment member => of fragment (mem_append_right _ member),
    lt_of_le_of_lt (Nat.add_le_add_right (Nat.le_add_left _ _) 5) room,
    lt_of_le_of_lt (Nat.le_add_left _ _) enough⟩

section

variable (of : ∀ fragment ∈ fragments, fragment.Of message)

include of

theorem chain_take (done : chain fragments fuel index = some found) (inside : index ≤ message.length) :
    (found.map QCryptoFragment.payload).flatten = (message.drop index).take (total found) ∧
      index + total found ≤ message.length := by
  fun_induction chain fragments fuel index generalizing found with
  | case1 => cases done
  | case2 => cases done; exact ⟨take_zero.symm, inside⟩
  | case3 fuel index fragment first ih =>
    obtain ⟨rest, ends, rfl⟩ := Option.map_eq_some_iff.mp done
    have part := of fragment (mem_of_find?_eq_some first)
    have start := offset_of_findFragment first
    obtain ⟨content, fits⟩ := ih ends part.within
    have stop : fragment.stop = index + fragment.length.toNat := by
      rw [QCryptoFragment.stop, start]
    have more : total (fragment :: rest) = fragment.length.toNat + total rest := sum_cons
    rw [stop] at content fits
    refine ⟨?_, by omega⟩
    rw [map_cons, flatten_cons, content, part.payload, start, more, take_add, drop_drop]

theorem chain_of (enough : fragments.length < fuel) : ∃ found, chain fragments fuel 0 = some found := by
  refine chain_of_not_stuck ?_ .start (lt_of_le_of_lt countP_le_length enough)
  rintro ⟨index, fragment, -, first, empty⟩
  exact (of fragment (mem_of_find?_eq_some first)).some empty

end

theorem Leads.chain (leads : Leads fragments index) (done : chain fragments fuel index = some found) :
    Leads fragments (index + total found) := by
  fun_induction Sniff.chain fragments fuel index generalizing found with
  | case1 => cases done
  | case2 => cases done; exact leads
  | case3 fuel index fragment first ih =>
    obtain ⟨rest, ends, rfl⟩ := Option.map_eq_some_iff.mp done
    have start := offset_of_findFragment first
    have further := ih (.next (mem_of_find?_eq_some first) (start ▸ leads)) ends
    rwa [QCryptoFragment.stop, start, Nat.add_assoc] at further

theorem FirstCover.covers (first : FirstCover message fragments) : Covers message fragments := by
  obtain ⟨fuel, found, done, whole⟩ := first
  have leads := Leads.start.chain done
  rwa [Nat.zero_add, whole] at leads

theorem Leads.begins (leads : Leads fragments index) (far : index ≠ 0) :
    ∃ fragment ∈ fragments, fragment.offset.toNat = 0 := by
  induction leads with
  | start => exact absurd rfl far
  | @next fragment member _ ih =>
    by_cases first : fragment.offset.toNat = 0
    · exact ⟨fragment, member, first⟩
    · exact ih first

theorem firstCover_iff (done : chain fragments fuel 0 = some found) :
    FirstCover message fragments ↔ total found = message.length := by
  constructor
  · rintro ⟨more, other, ends, whole⟩
    have left := chain_mono (le_max_left fuel more) done
    have right := chain_mono (le_max_right fuel more) ends
    rw [← whole, Option.some.inj (left.symm.trans right)]
  · intro whole
    exact ⟨fuel, found, done, whole⟩

/-! ### Every byte once -/

/-- The lengths of the fragments that end at an offset or before. -/
def within (fragments : List QCryptoFragment) (n : Nat) : Nat := total (fragments.filter fun fragment => fragment.stop ≤ n)

theorem within_le (fragments : List QCryptoFragment) (n : Nat) : within fragments n ≤ total fragments :=
  (filter_sublist.map _).sum_le_sum fun _ _ => Nat.zero_le _

theorem within_add_le {fragment : QCryptoFragment} {a b : Nat} (member : fragment ∈ fragments) (after : a < fragment.stop)
    (before : fragment.stop ≤ b) : within fragments a + fragment.length.toNat ≤ within fragments b := by
  have grows : ∀ fragments, within fragments a ≤ within fragments b := by
    intro fragments
    refine ((monotone_filter_right fragments fun other ends => ?_).map _).sum_le_sum fun _ _ => Nat.zero_le _
    simp only [decide_eq_true_eq] at ends ⊢
    omega
  induction fragments with
  | nil => cases member
  | cons first fragments ih =>
    have more := grows fragments
    simp only [within, filter_cons] at ih more ⊢
    rcases mem_cons.mp member with rfl | member
    · rw [if_neg (by simpa using after), if_pos (by simpa using before)]
      simp only [total, map_cons, sum_cons] at more ⊢
      omega
    · have ih := ih member
      split_ifs <;> simp_all [total] <;> omega

section

variable (of : ∀ fragment ∈ fragments, fragment.Of message)

include of

theorem within_add_length_le {fragment : QCryptoFragment} (member : fragment ∈ fragments) :
    within fragments fragment.offset.toNat + fragment.length.toNat ≤ within fragments fragment.stop := by
  have some : 0 < fragment.length.toNat :=
    Nat.pos_of_ne_zero fun none => (of fragment member).some (BitVec.eq_of_toNat_eq none)
  exact within_add_le member (Nat.lt_add_of_pos_right some) le_rfl

theorem Leads.le_within (leads : Leads fragments n) : n ≤ within fragments n := by
  induction leads with
  | start => exact Nat.zero_le _
  | next member _ ih => exact (Nat.add_le_add_right ih _).trans (within_add_length_le of member)

/-- A chain over an offset at which no fragment begins has a byte too many. -/
theorem Leads.lt_within (leads : Leads fragments n) (none : ∀ fragment ∈ fragments, fragment.offset.toNat ≠ index)
    (further : index < n) : within fragments index + (n - index) < within fragments n := by
  induction leads with
  | start => exact absurd further (Nat.not_lt_zero _)
  | @next fragment member _ ih =>
    have stop : fragment.stop = fragment.offset.toNat + fragment.length.toNat := rfl
    rcases Nat.lt_or_gt_of_ne (none fragment member) with across | later
    · have more := within_add_le member further le_rfl
      omega
    · have more := within_add_length_le of member
      have before := ih later
      omega

omit of in
theorem findFragment_of_chain (done : chain fragments fuel index = some found) :
    findFragment fragments (index + total found) = none := by
  fun_induction chain fragments fuel index generalizing found with
  | case1 => cases done
  | case2 _ _ none => cases done; exact none
  | case3 fuel index fragment first ih =>
    obtain ⟨rest, ends, rfl⟩ := Option.map_eq_some_iff.mp done
    have further := ih ends
    rwa [QCryptoFragment.stop, offset_of_findFragment first, Nat.add_assoc] at further

/-- **If every byte came once** then the first fragments are the cover. -/
theorem Covers.firstCover (covers : Covers message fragments) (once : total fragments = message.length) :
    FirstCover message fragments := by
  obtain ⟨found, done⟩ := chain_of of (Nat.lt_succ_self _)
  obtain ⟨-, inside⟩ := chain_take of done (Nat.zero_le _)
  refine ⟨_, found, done, ?_⟩
  rw [Nat.zero_add] at inside
  by_contra short
  have none := findFragment_of_chain done
  rw [Nat.zero_add, findFragment, find?_eq_none] at none
  have too := covers.lt_within of (fun fragment member same => none fragment member (beq_iff_eq.mpr same))
    (Nat.lt_of_le_of_ne inside short)
  have under := (Leads.start.chain done).le_within of
  rw [Nat.zero_add] at under
  have all := within_le fragments message.length
  omega

end

/-! ### The record -/

theorem foldl_write {size : Nat} {datas : List Bytes} {buffer : Bytes} (fits : buffer.length ≤ size) :
    datas.foldl (write size) buffer = (buffer ++ datas.flatten).take size := by
  induction datas generalizing buffer with
  | nil => rw [foldl_nil, flatten_nil, append_nil, take_of_length_le fits]
  | cons data datas ih =>
    have written : write size buffer data = (buffer ++ data).take size := by
      rw [write, take_append, take_of_length_le fits]
    rw [foldl_cons, written, ih (length_take_le _ _), flatten_cons, ← append_assoc,
      take_append, take_take, min_self, length_take, @take_append _ (buffer ++ data)]
    congr 2
    omega

theorem recordOf_eq (room : total fragments + 5 < 2 ^ 63) : 0 ≤ bufferSize fragments ∧ recordOf fragments found =
      [0x16, 0x03, 0x03] ++ bigEndian 2 (total fragments) ++
        (found.map QCryptoFragment.payload).flatten.take (total fragments) := by
  have length : frameLen fragments = total fragments :=
    Nat.mod_eq_of_lt (lt_of_le_of_lt (Nat.le_add_right _ 5) (lt_trans room (by decide)))
  have size : bufferSize fragments = (total fragments + 5 : Nat) := by
    rw [bufferSize, length, BitVec.toInt_ofNat', Int.bmod_eq_of_le (by omega) (by omega), add_comm]
  refine ⟨size ▸ Int.natCast_nonneg _, ?_⟩
  rw [recordOf, size, Int.toNat_natCast, length]
  have header : write (total fragments + 5) [] ([0x16, 0x03, 0x03] ++ bigEndian 2 (total fragments)) =
      [0x16, 0x03, 0x03] ++ bigEndian 2 (total fragments) :=
    take_of_length_le (Nat.le_add_left 5 _)
  rw [header, foldl_write (Nat.le_add_left 5 _), take_append, take_of_length_le (Nat.le_add_left 5 _)]
  rfl

theorem compute_record : compute ([0x16, 0x03, 0x03] ++ bigEndian 2 n ++ body) =
      if n % 65536 ≤ body.length then parseMessage (body.take (n % 65536)) else fail (.length 2) := by
  have version : supportedVersion (uint16 3 3) := by decide
  have number : uint16 (.ofNat (n / 256)) (.ofNat n) = n % 65536 := by
    simp only [uint16, UInt8.toNat_ofNat']
    omega
  have record : recordBody (0x16 :: 3 :: 3 :: .ofNat (n / 256) :: .ofNat n :: body) =
      if n % 65536 ≤ body.length then .ok (body.take (n % 65536)) else fail (.length 2) := by
    by_cases fits : n % 65536 ≤ body.length
    · simp [recordBody, ensure, Checked.elem, slice, sliceFrom, version, number, bind, Except.bind, fits, add_comm 5]
    · simp [recordBody, ensure, Checked.elem, slice, sliceFrom, version, number, bind, Except.bind, fits, fail]
  simp only [bigEndian, pow_one, pow_zero, Nat.div_one, cons_append, nil_append]
  rw [compute, record]
  split <;> rfl

theorem length_of_handshakeBody {pair : ClientHello × Bytes} (done : handshakeBody message = .ok pair) :
    ∃ kind first second third rest, message = kind :: first :: second :: third :: rest ∧
      rest.length = first.toNat * 65536 + uint16 second third := by
  simp only [handshakeBody, bind_eq_ok_iff, ensure_eq_ok_iff] at done
  obtain ⟨_, long, _, -, _, -, _, first, _, second, _, third, body, sliced, _, stated, -⟩ := done
  rcases message with _ | ⟨a, _ | ⟨b, _ | ⟨c, _ | ⟨d, rest⟩⟩⟩⟩
  · cases third
  · cases third
  · cases third
  · cases third
  rw [sliceFrom_eq_ok (le_trans (by decide) long)] at sliced
  cases first
  cases second
  cases third
  cases sliced
  exact ⟨a, b, c, d, rest, rfl, stated⟩

section

variable (parsed : parseMessage message = .ok hello)

include parsed

theorem parseMessage_take (less : n < message.length) : ∃ error, parseMessage (message.take n) = fail error := by
  obtain ⟨pair, whole, -⟩ := bind_eq_ok_iff.mp parsed
  rcases (meets_handshakeBody (message.take n)).fails_or_ok with ⟨error, failed⟩ | ⟨other, part, -⟩
  · exact ⟨error, by rw [parseMessage, failed]; rfl⟩
  obtain ⟨kind, first, second, third, rest, rfl, stated⟩ := length_of_handshakeBody whole
  obtain ⟨_, _, _, _, less', same, again⟩ := length_of_handshakeBody part
  obtain ⟨n, rfl⟩ : ∃ more, n = more + 4 := by
    have size := congrArg length same
    simp only [length_take, length_cons] at size
    exact Nat.exists_eq_add_of_le' (by omega)
  obtain ⟨rfl, rfl, rfl, rfl, rfl⟩ := by simpa using same
  rw [length_take] at again
  simp only [length_cons] at less
  omega

/-! ### The calls -/

theorem compute_recordOf (of : ∀ fragment ∈ fragments, fragment.Of message) (room : total fragments + 5 < 2 ^ 63)
    (enough : fragments.length < fuel) : ∃ record, assemble fuel fragments = .ok record ∧
      (Complete message fragments ∧ compute record = .ok hello ∨
        ¬ Complete message fragments ∧ ∃ error, compute record = fail error) := by
  obtain ⟨found, done⟩ := chain_of of enough
  obtain ⟨content, inside⟩ := chain_take of done (Nat.zero_le _)
  obtain ⟨size, record⟩ := @recordOf_eq fragments found room
  refine ⟨_, assemble_eq_ok_iff.mpr ⟨size, found, done, record⟩, ?_⟩
  rw [Complete, firstCover_iff done, compute_record, content, drop_zero, take_take, take_take,
    length_take]
  by_cases whole : total found = message.length ∧ total fragments % 65536 = message.length
  · left
    rw [if_pos (by omega), take_of_length_le (by omega)]
    exact ⟨whole, parsed⟩
  · refine .inr ⟨whole, ?_⟩
    split
    · exact parseMessage_take parsed (by omega)
    · exact ⟨_, rfl⟩

/-- **One call** after others that kept all fragments. -/
theorem quicClientHello_step (delivers : Delivers keys fuel message (packets ++ [last]))
    (kept : metadata.sniffContext.getD [] = seen keys packets) (early : ¬ Covers message (seen keys packets)) :
    ∃ error after, quicClientHello keys fuel last metadata = .ok (error, after) ∧
      (Complete message (seen keys (packets ++ [last])) ∧ error = none ∧ after.sniffHost = hello.serverName ∨
      ¬ Complete message (seen keys (packets ++ [last])) ∧ (∃ cause, error = some (.needMoreData cause)) ∧
        after.sniffContext = some (seen keys (packets ++ [last]))) := by
  obtain ⟨frames, decoded⟩ := delivers.decoded last mem_concat_self
  have all : frames.2 ++ seen keys packets = seen keys (packets ++ [last]) := by
    rw [seen_concat, fragmentsOf, decoded]
  obtain ⟨record, done, result⟩ := compute_recordOf parsed delivers.of delivers.room delivers.enough
  have called : quicClientHello keys fuel last metadata =
      identify frames.1 (seen keys (packets ++ [last])) metadata record := by
    rw [quicClientHello, decoded]
    dsimp only
    rw [kept, all, done]
    rfl
  rw [called, identify]
  rcases result with ⟨complete, found⟩ | ⟨incomplete, error, failed⟩
  · have some : frames.1 ≠ [] := by
      intro none
      obtain ⟨types, new⟩ := frames
      subst none
      rw [decode_nil decoded, nil_append] at all
      exact early (all ▸ complete.1).covers
    rw [found]
    dsimp only
    split
    · obtain ⟨client, named⟩ := clientOf_eq_ok some hello
      rw [named]
      exact ⟨_, _, rfl, .inl ⟨complete, rfl, rfl⟩⟩
    · exact ⟨_, _, rfl, .inl ⟨complete, rfl, rfl⟩⟩
  · rw [failed]
    exact ⟨_, _, rfl, .inr ⟨incomplete, ⟨error, rfl⟩, rfl⟩⟩

end

theorem quicClientHellos_concat {results : List (Option QUICError)} {between : QUICMetadata}
    {result : Option QUICError × QUICMetadata}
    (before : quicClientHellos keys fuel packets metadata = .ok (results, between))
    (after : quicClientHello keys fuel last between = .ok result) :
    quicClientHellos keys fuel (packets ++ [last]) metadata = .ok (results ++ [result.1], result.2) := by
  induction packets generalizing metadata results with
  | nil =>
    cases before
    exact bind_eq_ok_iff.mpr ⟨result, after, rfl⟩
  | cons packet packets ih =>
    obtain ⟨first, head, tail⟩ := bind_eq_ok_iff.mp before
    obtain ⟨rest, done, same⟩ := bind_eq_ok_iff.mp tail
    cases same
    exact bind_eq_ok_iff.mpr ⟨first, head, bind_eq_ok_iff.mpr ⟨_, ih done, rfl⟩⟩

/-- **As long as the message is not covered**, every call says that it needs more data, and keeps all
fragments. -/
theorem quicClientHellos_incomplete (fresh : metadata.sniffContext = none)
    (parsed : parseMessage message = .ok hello) (delivers : Delivers keys fuel message packets)
    (early : ∀ n ≤ packets.length, ¬ Covers message (seen keys (packets.take n))) :
    ∃ (causes : List ParseError) (between : QUICMetadata), quicClientHellos keys fuel packets metadata =
        .ok (causes.map fun cause => some (.needMoreData cause), between) ∧
      between.sniffContext.getD [] = seen keys packets := by
  induction packets using reverseRecOn with
  | nil => exact ⟨[], metadata, rfl, by rw [fresh]; rfl⟩
  | append_singleton packets last ih =>
    have earlier (n : Nat) (inside : n ≤ packets.length) : ¬ Covers message (seen keys (packets.take n)) := by
      have none := early n (by rw [length_append]; exact Nat.le_add_right_of_le inside)
      rwa [take_append_of_le_length inside] at none
    obtain ⟨causes, between, before, kept⟩ := ih delivers.init earlier
    have old := earlier packets.length (le_refl _)
    have now := early (packets ++ [last]).length (le_refl _)
    rw [take_length] at old now
    obtain ⟨error, after, called, result⟩ := quicClientHello_step parsed delivers kept old
    rcases result with ⟨complete, -⟩ | ⟨-, ⟨cause, rfl⟩, context⟩
    · exact absurd complete.1.covers now
    · refine ⟨causes ++ [cause], after, ?_, by rw [context]; rfl⟩
      rw [quicClientHellos_concat before called, map_append]
      rfl

/-- **When the reassembly is insensitive to fragmentation**: if the parts come in any order and the last completes a
cover, its call finds the server name exactly if the lengths of all fragments, repeated ones too, add up to the length of
the message; or if they do so modulo 2^16 only, and the first fragments at each offset cover the message too. -/
theorem quicClientHello_reassembles_iff (keys : InitialKeys) (fuel : Nat) (message last : Bytes)
    (packets : List Bytes) (metadata : QUICMetadata) (hello : ClientHello)
    (fresh : metadata.sniffContext = none) (parsed : parseMessage message = .ok hello)
    (delivers : Delivers keys fuel message (packets ++ [last]))
    (early : ∀ n ≤ packets.length, ¬ Covers message (seen keys (packets.take n)))
    (covers : Covers message (seen keys (packets ++ [last]))) :
    ∃ (causes : List ParseError) (between : QUICMetadata), quicClientHellos keys fuel packets metadata =
        .ok (causes.map fun cause => some (.needMoreData cause), between) ∧
      ((∃ after, quicClientHello keys fuel last between = .ok (none, after) ∧ after.sniffHost = hello.serverName) ↔
        let all := seen keys (packets ++ [last])
        total all % 65536 = message.length ∧ (total all = message.length ∨ FirstCover message all)) := by
  obtain ⟨causes, between, before, kept⟩ := quicClientHellos_incomplete fresh parsed delivers.init early
  refine ⟨causes, between, before, ?_⟩
  have old := early packets.length (le_refl _)
  rw [take_length] at old
  obtain ⟨error, after, called, result⟩ := quicClientHello_step parsed delivers kept old
  rw [called]
  rcases result with ⟨complete, rfl, host⟩ | ⟨incomplete, ⟨cause, rfl⟩, -⟩
  · exact iff_of_true ⟨after, rfl, host⟩ ⟨complete.2, .inr complete.1⟩
  · refine iff_of_false (fun it => by cases it.choose_spec.1) ?_
    rintro ⟨sum, once | first⟩
    · exact incomplete ⟨covers.firstCover delivers.of once, sum⟩
    · exact incomplete ⟨first, sum⟩

/-- A ClientHello without extensions. -/
def bareHello : Bytes := [1, 0, 0, 38, 3, 3] ++ replicate 32 7 ++ [0, 0, 0, 0]

def bareFirst : Bytes := initialPacket ([0x06, 0, 30] ++ bareHello.take 30)
def bareSecond : Bytes := initialPacket ([0x06, 30, 12] ++ bareHello.drop 30)

/-- Two fragments in the other order. -/
theorem quicClientHello_reassembles_two : ∃ (causes : List ParseError) (between : QUICMetadata),
      quicClientHellos plainKeys 3 [bareSecond] {} = .ok (causes.map fun cause => some (.needMoreData cause), between) ∧
      ∃ after, quicClientHello plainKeys 3 bareFirst between = .ok (none, after) ∧ after.sniffHost = [] := by
  have first : decode plainKeys bareFirst = .ok ([0x06], [⟨0, 30, bareHello.take 30⟩]) := by
    decide +kernel
  have second : decode plainKeys bareSecond = .ok ([0x06], [⟨30, 12, bareHello.drop 30⟩]) := by
    decide +kernel
  have fragments : seen plainKeys [bareSecond, bareFirst] =
      [⟨0, 30, bareHello.take 30⟩, ⟨30, 12, bareHello.drop 30⟩] := by decide +kernel
  have found := quicClientHello_reassembles_iff plainKeys 3 bareHello bareFirst [bareSecond] {}
    { version := 771 } rfl (by decide +kernel) ⟨?_, ?_, ?_, ?_⟩ ?_ ?_
  · obtain ⟨causes, between, before, last⟩ := found
    refine ⟨causes, between, before, last.mpr ?_⟩
    rw [singleton_append, fragments]
    exact ⟨by decide, .inl (by decide)⟩
  · exact forall_mem_cons.mpr ⟨⟨_, second⟩, forall_mem_singleton.mpr ⟨_, first⟩⟩
  · rw [singleton_append, fragments]
    refine forall_mem_cons.mpr ⟨⟨?_, ?_, ?_⟩, forall_mem_singleton.mpr ⟨?_, ?_, ?_⟩⟩
    all_goals decide
  · rw [singleton_append, fragments]
    decide
  · rw [singleton_append, fragments]
    decide
  · intro n inside covers
    obtain ⟨fragment, member, first⟩ := covers.begins (by decide)
    have none : ∀ fragment ∈ seen plainKeys ([bareSecond].take n), fragment.offset.toNat ≠ 0 := by
      have inside : n ≤ 1 := inside
      interval_cases n <;> decide +kernel
    exact none fragment member first
  · rw [singleton_append, fragments]
    exact .next (mem_cons_of_mem _ (mem_singleton_self _)) (.next mem_cons_self .start)

/-- **A fragment that came again**: with the first packet twice, the same packets are not enough. -/
theorem quicClientHello_repeated : quicClientHellos plainKeys 4 [bareFirst, bareSecond] {} =
      .ok ([some (.needMoreData (.length 3)), none], { protocol := protocolQUIC, client := clientFirefox }) ∧
    ∃ after, quicClientHellos plainKeys 4 [bareFirst, bareFirst, bareSecond] {} =
      .ok ([some (.needMoreData (.length 3)), some (.needMoreData (.length 2)),
        some (.needMoreData (.length 2))], after) := by
  refine ⟨by decide +kernel, { protocol := protocolQUIC, sniffContext := some ?_ }, ?_⟩
  · exact [⟨30, 12, bareHello.drop 30⟩, ⟨0, 30, bareHello.take 30⟩, ⟨0, 30, bareHello.take 30⟩]
  · decide +kernel

end SingBox.Sniff
