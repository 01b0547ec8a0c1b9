/-
**The addresses of a response, on its way through the client.**

Between the checker and the caller the response has its padding removed, its TTLs set or counted down, its answers
rotated and its OPT record replaced. None of these changes the addresses, but for their order.
-/

import SingBox.Dns.Exchange

namespace SingBox.Dns

variable {lib : DnsLibrary} {client : Client}

/-! ### The addresses that are served -/

@[simp] theorem recordAddresses_setTTL (record : RR) (ttl : UInt32) :
    recordAddresses lib (record.setTTL ttl) = recordAddresses lib record := rfl

theorem messageToAddresses_congr {first second : Msg} (rcode : first.rcode = second.rcode)
    (answer : first.answer = second.answer) : messageToAddresses lib first = messageToAddresses lib second := by
  rw [messageToAddresses, messageToAddresses, rcode, answer]

theorem messageToAddresses_mapRecords {f : RR → RR}
    (keeps : ∀ record, recordAddresses lib (f record) = recordAddresses lib record) (message : Msg) :
    messageToAddresses lib (message.mapRecords f) = messageToAddresses lib message := by
  have same : (message.mapRecords f).answer.flatMap (recordAddresses lib) =
      message.answer.flatMap (recordAddresses lib) := by
    unfold Msg.mapRecords
    rw [List.flatMap_map]
    congr 1
    funext record
    exact keeps record
  unfold messageToAddresses
  rw [same, Msg.rcode_mapRecords]

theorem messageToAddresses_mapTTL (f : UInt32 → UInt32) (message : Msg) :
    messageToAddresses lib (message.mapTTL f) = messageToAddresses lib message := by
  apply messageToAddresses_mapRecords
  intro record
  by_cases opt : record.isOPT = true
  · rw [if_pos opt]
  · rw [if_neg opt, recordAddresses_setTTL]

theorem messageToAddresses_fixEDNS (request response : Msg) :
    messageToAddresses lib (fixEDNS lib request response) = messageToAddresses lib response := by
  unfold fixEDNS
  split
  · rfl
  dsimp only
  split
  · rfl
  · split <;> rfl

theorem messageToAddresses_markStale (response : Msg) :
    messageToAddresses lib (markStale lib response) = messageToAddresses lib response := by
  unfold markStale
  split <;> rfl

theorem messageToAddresses_serveEntry (entry : CacheEntry) (now : Nat) :
    messageToAddresses lib (serveEntry lib client entry now).1 =
      messageToAddresses lib (getRoundRobin client entry.value).1 := by
  unfold serveEntry
  split
  · rfl
  split
  · dsimp only
    rw [staleResponse, messageToAddresses_markStale]
    exact messageToAddresses_mapRecords (fun record => recordAddresses_setTTL record 5) _
  · dsimp only
    unfold countDown
    split <;> exact messageToAddresses_mapTTL _ _

/-! ### Round robin keeps the addresses -/

/-- The type in the header is that of the data, for the types that the rotation looks at. -/
structure RR.Typed (record : RR) : Prop where
  a : record.isA = true ↔ record.header.rrtype = typeA
  aaaa : record.isAAAA = true ↔ record.header.rrtype = typeAAAA

theorem perm_reverseRotateSlice {α : Type} (slice : List α) (steps : Nat) :
    (reverseRotateSlice slice steps).Perm slice := by
  unfold reverseRotateSlice
  split
  · exact .refl _
  · refine List.perm_append_comm.trans ?_
    rw [List.take_append_drop]

theorem perm_rotateAnswers {rrType : UInt16} {isKind : RR → Bool} {original answers : List RR}
    (index : Nat) (perm : answers.Perm original)
    (typed : ∀ record ∈ original, isKind record = true ↔ record.header.rrtype = rrType) :
    (rotateAnswers rrType (original.filter isKind) index answers).1.Perm original := by
  unfold rotateAnswers
  split
  · dsimp only
    have others : (removeAnswersOfType answers rrType).Perm (original.filter fun record => !isKind record) := by
      refine (perm.filter _).trans (.of_eq (List.filter_congr fun record member => ?_))
      have kind := typed record member
      by_cases same : record.header.rrtype = rrType
      · simp only [same, bne_self_eq_false, kind.mpr same, Bool.not_true]
      · have other : isKind record = false := Bool.eq_false_iff.mpr fun is => same (kind.mp is)
        simp only [bne_iff_ne.mpr same, other, Bool.not_false]
    refine (others.append (perm_reverseRotateSlice _ _)).trans ?_
    exact List.perm_append_comm.trans (List.filter_append_perm isKind original)
  · exact perm

theorem perm_getRoundRobin {dm : DnsMsg} (typed : ∀ record ∈ dm.msg.answer, record.Typed) :
    (getRoundRobin client dm).1.answer.Perm dm.msg.answer := by
  unfold getRoundRobin
  split
  · refine perm_rotateAnswers _ ?_ fun record member => (typed record member).aaaa
    exact perm_rotateAnswers _ (.refl _) fun record member => (typed record member).a
  · exact .refl _

theorem rcode_getRoundRobin (dm : DnsMsg) : (getRoundRobin client dm).1.rcode = dm.msg.rcode := by
  unfold getRoundRobin
  split <;> rfl

theorem perm_messageToAddresses {dm : DnsMsg} (typed : ∀ record ∈ dm.msg.answer, record.Typed) :
    (messageToAddresses lib (getRoundRobin client dm).1).Perm (messageToAddresses lib dm.msg) := by
  unfold messageToAddresses
  rw [rcode_getRoundRobin]
  split
  · exact .refl _
  · exact (perm_getRoundRobin typed).flatMap_right _

end SingBox.Dns
