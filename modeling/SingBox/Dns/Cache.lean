/-
**The response cache of the DNS client** (`dns/client.go`: `dnsMsg`, `storeCache`, `loadResponse`).

A client has one cache, with the transport in the key or without it. Times are in nanoseconds. An entry has two ends:
`expireTime`, when the time-to-live of the response has passed, and `expireAt`, when the entry leaves the cache. With
the lazy cache the second is later, and between the two the entry is served *stale*.
-/

import SingBox.Dns.Message

namespace SingBox.Dns

open SingBox.Lib Function

/-! ### Entries -/

/-- One second; times and durations are in nanoseconds. -/
def second : Nat := 1000000000

structure DnsMsg where
  (ipv4Index ipv6Index : Nat := 0)
  msg : Msg
  expireTime : Option Nat := none
  lazyCache : Bool := false

/-- `dnsMsg.RoundRobin`: the rotated message, and the entry with its new indices. -/
def DnsMsg.roundRobin (dm : DnsMsg) : Msg × DnsMsg :=
  let ipv4Answers := dm.msg.answer.filter RR.isA
  let ipv6Answers := dm.msg.answer.filter RR.isAAAA
  let first := rotateAnswers typeA ipv4Answers dm.ipv4Index dm.msg.answer
  let both := rotateAnswers typeAAAA ipv6Answers dm.ipv6Index first.1
  ({ dm.msg with answer := both.1 }, { dm with ipv4Index := first.2, ipv6Index := both.2 })

/-- A question with the subnet that the answer is for. -/
structure DnsCacheKey where
  question : Question
  clientSubnet : Prefix
  deriving DecidableEq

/-- The key of the one cache that a client has: `dnsCacheKey`, or `transportCacheKey` if the caches
are independent. -/
structure CacheSlot where
  key : DnsCacheKey
  transportTag : Option Bytes
  deriving DecidableEq

/-- An element of the LRU cache; `expireAt` is `0` for an element without a lifetime. -/
structure CacheEntry where
  value : DnsMsg
  expireAt : Nat

/-- `freelru.Cache`, by what it holds. -/
abbrev Cache := CacheSlot → Option CacheEntry

/-- `adapter.RDRCStore`, the store of rejected responses, and whether it is a `RDRCStoreWithKey` as
well. -/
inductive RDRCStore where
  | plain
  | withKey
  deriving DecidableEq

/-- `Client`, the part that is set once. A subnet that is not valid is the zero value, as `Build` of
the option leaves it. -/
structure Client where
  (disableCache disableExpire independentCache cacheClientSubnet roundRobinCache useLazyCache : Bool := false)
  (lazyCacheTTL minCacheTTL : UInt32 := 0)
  maxCacheTTL : UInt32 := 86400
  clientSubnet : Prefix := .none
  rdrc : Option RDRCStore := none
  subnet_ok : clientSubnet.isValid = true ∨ clientSubnet = .none := by exact Or.inr rfl

section Operations

variable (lib : DnsLibrary) (client : Client)

def Client.slot (key : DnsCacheKey) (transportTag : Bytes) : CacheSlot :=
  ⟨key, if client.independentCache then some transportTag else none⟩

def Client.lazyTTL (lazyCacheTTL : Option UInt32) : UInt32 :=
  match lazyCacheTTL with
  | some ttl => ttl
  | none => if client.useLazyCache then client.lazyCacheTTL else 0

def Client.isLazy (lazyCacheTTL : Option UInt32) : Bool :=
  match lazyCacheTTL with
  | some ttl => ttl > 0
  | none => client.useLazyCache

/-- The entry that `storeCache` adds. -/
def newEntry (message : Msg) (timeToLive : UInt32) (lazyCacheTTL : Option UInt32) (now : Nat) : CacheEntry :=
  if client.disableExpire then { value := { msg := message }, expireAt := 0 }
  else
    let lifetime := second * timeToLive.toNat
    { value :=
        { msg := message
          expireTime := some (now + lifetime)
          lazyCache := client.isLazy lazyCacheTTL }
      expireAt := lib.lifetimeEnd now (lifetime + second * (client.lazyTTL lazyCacheTTL).toNat) }

def storeCache (key : DnsCacheKey) (transportTag : Bytes) (message : Msg) (timeToLive : UInt32)
    (lazyCacheTTL : Option UInt32) (now : Nat) (cache : Cache) : Cache :=
  if timeToLive = 0 then cache
  else Function.update cache (client.slot key transportTag)
    (some (newEntry lib client message timeToLive lazyCacheTTL now))

def getRoundRobin (response : DnsMsg) : Msg × DnsMsg :=
  if client.roundRobinCache then response.roundRobin else (response.msg, response)

/-- One step of the loop for the lowest positive TTL. -/
def lowerTTL (ttl : Nat) (record : RR) : Nat :=
  if record.isOPT then ttl
  else if ttl = 0 ∨ 0 < record.header.ttl ∧ record.header.ttl.toNat < ttl then
    record.header.ttl.toNat
  else ttl

def originTTL (response : Msg) : Nat := response.records.foldl lowerTTL 0

/-- Whole seconds until `expireAt`. -/
def nowTTL (expireAt now : Nat) : Nat := (expireAt - now) / second

def DnsMsg.isStale (dm : DnsMsg) (now : Nat) : Bool :=
  match dm.expireTime with
  | none => false
  | some expireTime => dm.lazyCache && decide (now > expireTime)

/-- The option that marks a stale answer is appended to the OPT record, or to a new one. -/
def markStale (response : Msg) : Msg :=
  let stale : EDNS0 := .ede 3
  match lib.isEdns0 response with
  | none => { response with extra := response.extra ++ [newOPT 4096 [stale]] }
  | some i =>
    { response with
      extra := response.extra.modify i fun record =>
        match record.data with
        | .opt options => { record with data := .opt (options ++ [stale]) }
        | _ => record }

/-- A stale response: every record gets a TTL of five seconds. -/
def staleResponse (response : Msg) : Msg :=
  markStale lib (response.mapRecords fun record => record.setTTL 5)

def countDown (response : Msg) (nowTTL : Nat) : Msg :=
  if originTTL response > 0 then
    let duration := UInt32.ofInt (originTTL response - nowTTL)
    response.mapTTL fun ttl => ttl - duration
  else response.mapTTL fun _ => UInt32.ofNat nowTTL

/-- What `loadResponse` returns, for an entry that is there. -/
def serveEntry (entry : CacheEntry) (now : Nat) : Msg × Nat × Bool :=
  let response := (getRoundRobin client entry.value).1
  if client.disableExpire then (response, 0, false)
  else if entry.value.isStale now then (staleResponse lib response, 0, true)
  else
    (countDown response (nowTTL entry.expireAt now), nowTTL entry.expireAt now, false)

/-- `loadResponse`: the response, its TTL and whether it is stale, and the cache afterwards. An
entry that has expired is removed. -/
def loadResponse (key : DnsCacheKey) (transportTag : Bytes) (now : Nat) (cache : Cache) :
    Option (Msg × Nat × Bool) × Cache :=
  let slot := client.slot key transportTag
  match cache slot with
  | none => (none, cache)
  | some entry =>
    if client.disableExpire = false ∧ now > entry.expireAt then
      (none, Function.update cache slot none)
    else
      (some (serveEntry lib client entry now),
        Function.update cache slot (some { entry with value := (getRoundRobin client entry.value).2 }))

end Operations

section Laws

variable {lib : DnsLibrary} {client : Client}

/-! ### What a load keeps -/

structure SameResponse (first second : CacheEntry) : Prop where
  msg : first.value.msg = second.value.msg
  expireTime : first.value.expireTime = second.value.expireTime
  lazyCache : first.value.lazyCache = second.value.lazyCache
  expireAt : first.expireAt = second.expireAt

theorem SameResponse.refl (entry : CacheEntry) : SameResponse entry entry := ⟨rfl, rfl, rfl, rfl⟩

theorem SameResponse.trans {first middle last : CacheEntry} (one : SameResponse first middle)
    (two : SameResponse middle last) : SameResponse first last :=
  ⟨one.msg.trans two.msg, one.expireTime.trans two.expireTime, one.lazyCache.trans two.lazyCache,
    one.expireAt.trans two.expireAt⟩

variable {cache : Cache} {entry : CacheEntry} {key : DnsCacheKey} {transportTag : Bytes} {record : RR}
  {response : Msg} {lazyCacheTTL : Option UInt32} {timeToLive : UInt32}

theorem loadResponse_keeps {now : Nat} {slot : CacheSlot}
    (found : (loadResponse lib client key transportTag now cache).2 slot = some entry) :
    ∃ before, cache slot = some before ∧ SameResponse entry before := by
  revert found
  fun_cases loadResponse lib client key transportTag now cache with
  | case1 => exact fun found => ⟨entry, found, .refl entry⟩
  | case2 place old held =>
    by_cases same : slot = place
    · simp [same]
    · exact fun found => ⟨entry, by simpa [same] using found, .refl entry⟩
  | case3 place old held =>
    by_cases same : slot = place
    · subst same
      intro found
      obtain rfl : _ = entry := by simpa using found
      refine ⟨old, held, ?_⟩
      fun_cases getRoundRobin client old.value <;> exact ⟨rfl, rfl, rfl, rfl⟩
    · exact fun found => ⟨entry, by simpa [same] using found, .refl entry⟩

theorem loadResponse_eq_some {now : Nat} {result : Msg × Nat × Bool} :
    (loadResponse lib client key transportTag now cache).1 = some result ↔
      ∃ entry, cache (client.slot key transportTag) = some entry ∧
        (client.disableExpire = true ∨ now ≤ entry.expireAt) ∧ result = serveEntry lib client entry now := by
  unfold loadResponse
  cases held : cache (client.slot key transportTag) with
  | none => simp [held]
  | some entry =>
    have inTime : (client.disableExpire = true ∨ now ≤ entry.expireAt) ↔
        ¬ (client.disableExpire = false ∧ now > entry.expireAt) := by
      rw [not_and_or, Bool.not_eq_false, not_lt]
    simp only [held, Option.some.injEq, exists_eq_left', inTime]
    split
    · rename_i expired
      simp [expired]
    · rename_i alive
      rw [Option.some.injEq, eq_comm, and_iff_right alive]

/-! ### Counting down -/

/-- What is documented about the lifetime of a `freelru` entry: it ends in time, to the resolution
of the cache. -/
structure DnsLibrary.Clock (lib : DnsLibrary) : Prop where
  le : ∀ now lifetime, lib.lifetimeEnd now lifetime ≤ now + lifetime
  near : ∀ now lifetime, now + lifetime < lib.lifetimeEnd now lifetime + second / 2

theorem mem_getRoundRobin {dm : DnsMsg} (member : record ∈ (getRoundRobin client dm).1.records) :
    record ∈ dm.msg.records := by
  unfold getRoundRobin at member
  split at member
  · simp only [Msg.records, DnsMsg.roundRobin, List.mem_append] at member ⊢
    have kept {rrType : UInt16} {p : RR → Bool} {index : Nat} {answers : List RR}
        (old : record ∈ answers → record ∈ dm.msg.answer)
        (found : record ∈ (rotateAnswers rrType (dm.msg.answer.filter p) index answers).1) :
        record ∈ dm.msg.answer := by
      rw [mem_rotateAnswers] at found
      split at found
      · exact found.elim (fun left => old left.1) fun rotated => (List.mem_filter.mp rotated).1
      · exact old found
    exact member.imp_left (Or.imp_left (kept (kept id)))
  · exact member

theorem mem_getRoundRobin_congr {first second : DnsMsg} (same : first.msg = second.msg) :
    record ∈ (getRoundRobin client first).1.records ↔ record ∈ (getRoundRobin client second).1.records := by
  unfold getRoundRobin
  split
  · simp only [Msg.records, DnsMsg.roundRobin, List.mem_append, mem_rotateAnswers, same]
  · rw [same]

/-- All TTLs that count are the same. -/
def Carries (records : List RR) (ttl : UInt32) : Prop :=
  ∀ record ∈ records, record.isOPT = false → record.header.ttl = ttl

theorem carries_getRoundRobin {dm : DnsMsg} (carries : Carries dm.msg.records timeToLive) :
    Carries (getRoundRobin client dm).1.records timeToLive :=
  fun record member => carries record (mem_getRoundRobin member)

theorem foldl_lowerTTL {ttl : UInt32} (records : List RR) (start : Nat)
    (startOk : start = 0 ∨ start = ttl.toNat) (carries : Carries records ttl) :
    records.foldl lowerTTL start = if records.any fun record => !record.isOPT then ttl.toNat else start := by
  induction records generalizing start with
  | nil => rfl
  | cons record rest ih =>
    obtain ⟨head, tail⟩ := List.forall_mem_cons.mp carries
    rw [List.foldl_cons, List.any_cons]
    cases opt : record.isOPT with
    | true =>
      have skip : lowerTTL start record = start := by rw [lowerTTL, if_pos opt]
      rw [skip, ih start startOk tail]
      rfl
    | false =>
      have step : lowerTTL start record = ttl.toNat := by
        rw [lowerTTL, if_neg (by rw [opt]; decide), head opt]
        split
        · rfl
        rename_i unchanged
        rcases startOk with zero | same
        · exact absurd (.inl zero) unchanged
        · exact same
      rw [step, ih ttl.toNat (.inr rfl) tail]
      simp

theorem originTTL_eq_ite (carries : Carries response.records timeToLive) : originTTL response =
    if response.records.any fun record => !record.isOPT then timeToLive.toNat else 0 :=
  foldl_lowerTTL _ 0 (Or.inl rfl) carries

theorem originTTL_eq (carries : Carries response.records timeToLive) (member : record ∈ response.records)
    (counted : record.isOPT = false) : originTTL response = timeToLive.toNat := by
  rw [originTTL_eq_ite carries, if_pos]
  exact List.any_eq_true.mpr ⟨record, member, by rw [counted]; rfl⟩

theorem originTTL_eq_zero (none : ∀ record ∈ response.records, record.isOPT = true) : originTTL response = 0 := by
  have carries : Carries response.records 0 := fun record member counted =>
    absurd (none record member) (Bool.eq_false_iff.mp counted)
  exact (originTTL_eq_ite carries).trans (ite_self 0)

theorem sub_ofInt {ttl : UInt32} {left : Nat} (le : left ≤ ttl.toNat) :
    (ttl - UInt32.ofInt ((ttl.toNat : Int) - left)).toNat = left := by
  have bound : ttl.toNat < 2 ^ 32 := ttl.toNat_lt
  have difference : UInt32.ofInt ((ttl.toNat : Int) - left) = .ofNat (ttl.toNat - left) := by
    unfold UInt32.ofInt
    congr 1
    omega
  have value : (UInt32.ofNat (ttl.toNat - left)).toNat = ttl.toNat - left :=
    UInt32.toNat_ofNat_of_lt' (show ttl.toNat - left < 2 ^ 32 by omega)
  rw [difference, UInt32.toNat_sub_of_le _ _ (by rw [UInt32.le_iff_toNat_le]; omega)]
  omega

def loads (lib : DnsLibrary) (client : Client) (key : DnsCacheKey) (transportTag : Bytes)
    (times : List Nat) (cache : Cache) : Cache :=
  times.foldl (fun cache now => (loadResponse lib client key transportTag now cache).2) cache

theorem loads_storeCache {message : Msg} {now : Nat} (stored : timeToLive ≠ 0) (times : List Nat)
    (found : loads lib client key transportTag times
      (storeCache lib client key transportTag message timeToLive lazyCacheTTL now cache)
      (client.slot key transportTag) = some entry) :
    SameResponse entry (newEntry lib client message timeToLive lazyCacheTTL now) := by
  let inv (cache : Cache) : Prop := ∀ entry, cache (client.slot key transportTag) = some entry →
    SameResponse entry (newEntry lib client message timeToLive lazyCacheTTL now)
  have start : inv (storeCache lib client key transportTag message timeToLive lazyCacheTTL now cache) := by
    intro entry held
    rw [storeCache, if_neg stored, update_self] at held
    rw [← Option.some.inj held]
    exact ⟨rfl, rfl, rfl, rfl⟩
  refine List.foldlRecOn (motive := inv) times _ start (fun cache holds t _ entry held => ?_) entry found
  obtain ⟨before, heldBefore, same⟩ := loadResponse_keeps held
  exact same.trans (holds before heldBefore)

/-- One of the 32-bit subtractions of `countDown` goes below zero. -/
def Wraps (response : Msg) (nowTTL : Nat) : Prop :=
  originTTL response > 0 ∧ (originTTL response < nowTTL ∨
    ∃ record ∈ response.records, record.isOPT = false ∧ record.header.ttl.toNat < originTTL response - nowTTL)

/-- **Cached TTLs count down**: loaded at any later time before it is stale, a stored response has TTLs of at most its
time-to-live and of the whole seconds that are left of it, and no subtraction wraps. -/
def CountsDown (lib : DnsLibrary) (client : Client) (key : DnsCacheKey) (transportTag : Bytes)
    (message : Msg) (timeToLive : UInt32) (lazyCacheTTL : Option UInt32) (t0 : Nat)
    (cache : Cache) : Prop :=
  ∀ (earlier : List Nat) (t : Nat), t0 ≤ t → ∀ before, before = loads lib client key transportTag
      earlier (storeCache lib client key transportTag message timeToLive lazyCacheTTL t0 cache) →
    ∀ entry, before (client.slot key transportTag) = some entry →
    ∀ response ttl,
      (loadResponse lib client key transportTag t before).1 = some (response, ttl, false) →
      (∀ record ∈ response.records, record.isOPT = false →
        record.header.ttl.toNat ≤ timeToLive.toNat ∧
          record.header.ttl.toNat ≤ (t0 + second * timeToLive.toNat - t) / second) ∧
      ¬ Wraps (getRoundRobin client entry.value).1 (nowTTL entry.expireAt t)

theorem serveEntry_fresh {now : Nat} {ttl : Nat} (enabled : client.disableExpire = false)
    (served : (response, ttl, false) = serveEntry lib client entry now) :
    response = countDown (getRoundRobin client entry.value).1 (nowTTL entry.expireAt now) := by
  unfold serveEntry at served
  rw [if_neg (by rw [enabled]; decide)] at served
  split at served
  · exact absurd (congrArg (fun result => result.2.2) served) Bool.false_ne_true
  · exact congrArg (fun result => result.1) served

theorem toNat_pos {ttl : UInt32} (positive : ttl ≠ 0) : 0 < ttl.toNat :=
  Nat.pos_of_ne_zero fun zero => positive (UInt32.toNat_inj.mp zero)

theorem ttl_countDown (carries : Carries response.records timeToLive) {left : Nat} (positive : timeToLive ≠ 0)
    (le : left ≤ timeToLive.toNat) (member : record ∈ (countDown response left).records)
    (counted : record.isOPT = false) : record.header.ttl.toNat = left := by
  unfold countDown at member
  split at member
  · obtain ⟨original, inside, fresh, rfl⟩ := Msg.mem_mapTTL member counted
    rw [originTTL_eq carries inside fresh, carries original inside fresh]
    exact sub_ofInt le
  · rename_i nothing
    obtain ⟨original, inside, fresh, rfl⟩ := Msg.mem_mapTTL member counted
    rw [originTTL_eq carries inside fresh] at nothing
    exact absurd (toNat_pos positive) nothing

theorem nowTTL_le (clock : lib.Clock) {t0 t : Nat} (ttl : Nat) (later : t0 ≤ t) :
    nowTTL (lib.lifetimeEnd t0 (second * ttl)) t ≤ (t0 + second * ttl - t) / second ∧
      (t0 + second * ttl - t) / second ≤ ttl := by
  refine ⟨Nat.div_le_div_right (Nat.sub_le_sub_right (clock.le t0 (second * ttl)) t), ?_⟩
  unfold second
  omega

section

variable {message : Msg} {t0 : Nat} (enabled : client.disableExpire = false) (stored : timeToLive ≠ 0)

include enabled stored

theorem loadResponse_loads {earlier : List Nat} {t ttl : Nat} {before : Cache}
    (later : before = loads lib client key transportTag earlier
      (storeCache lib client key transportTag message timeToLive lazyCacheTTL t0 cache))
    (held : before (client.slot key transportTag) = some entry)
    (loaded : (loadResponse lib client key transportTag t before).1 = some (response, ttl, false)) :
    entry.value.msg = message ∧
      entry.expireAt = lib.lifetimeEnd t0
        (second * timeToLive.toNat + second * (client.lazyTTL lazyCacheTTL).toNat) ∧
      response = countDown (getRoundRobin client entry.value).1 (nowTTL entry.expireAt t) := by
  subst later
  have same := loads_storeCache stored earlier held
  rw [newEntry, if_neg (by rw [enabled]; decide)] at same
  obtain ⟨other, heldAgain, -, served⟩ := loadResponse_eq_some.mp loaded
  obtain rfl : entry = other := Option.some.inj (held.symm.trans heldAgain)
  exact ⟨same.msg, same.expireAt, serveEntry_fresh enabled served⟩

theorem countsDown_of_noLazy (clock : lib.Clock) (carries : Carries message.records timeToLive)
    (noLazy : client.lazyTTL lazyCacheTTL = 0) :
    CountsDown lib client key transportTag message timeToLive lazyCacheTTL t0 cache := by
  intro earlier t later before reached entry held response ttl loaded
  obtain ⟨rfl, ends, rfl⟩ := loadResponse_loads enabled stored reached held loaded
  have ends : entry.expireAt = lib.lifetimeEnd t0 (second * timeToLive.toNat) := by rw [ends, noLazy]; rfl
  have servedCarries : Carries (getRoundRobin client entry.value).1.records timeToLive :=
    carries_getRoundRobin carries
  obtain ⟨inTime, bounded⟩ := nowTTL_le clock timeToLive.toNat later
  rw [← ends] at inTime
  refine ⟨fun record member counted => ?_, ?_⟩
  · rw [ttl_countDown servedCarries stored (inTime.trans bounded) member counted]
    exact ⟨inTime.trans bounded, inTime⟩
  rintro ⟨positive, wrapped | ⟨record, member, counted, wrapped⟩⟩
  · rw [originTTL_eq_ite servedCarries] at positive wrapped
    split_ifs at positive wrapped <;> omega
  · rw [servedCarries record member counted, originTTL_eq servedCarries member counted] at wrapped
    omega

theorem countsDown_of_empty (empty : ∀ record ∈ (getRoundRobin client { msg := message }).1.records,
      record.isOPT = true) :
    CountsDown lib client key transportTag message timeToLive lazyCacheTTL t0 cache := by
  intro earlier t later before reached entry held response ttl loaded
  obtain ⟨msg, -, rfl⟩ := loadResponse_loads enabled stored reached held loaded
  have servedEmpty : ∀ record ∈ (getRoundRobin client entry.value).1.records, record.isOPT = true :=
    fun record member => empty record ((mem_getRoundRobin_congr (by exact msg)).mp member)
  refine ⟨fun record member counted => ?_, ?_⟩
  · unfold countDown at member
    split at member
    all_goals
      obtain ⟨original, inside, fresh, -⟩ := Msg.mem_mapTTL member counted
      rw [servedEmpty original inside] at fresh
      exact absurd fresh (by decide)
  · rintro ⟨positive, -⟩
    rw [originTTL_eq_zero servedEmpty] at positive
    exact absurd positive (lt_irrefl 0)

omit enabled stored in
theorem exists_mem_countDown (n : Nat) (member : record ∈ response.records) (counted : record.isOPT = false) :
    ∃ shown ∈ (countDown response n).records, shown.isOPT = false := by
  unfold countDown
  split <;> exact ⟨_, Msg.setTTL_mem_mapTTL member counted, counted⟩

theorem not_countsDown (clock : lib.Clock) (carries : Carries message.records timeToLive)
    (lazy : client.lazyTTL lazyCacheTTL ≠ 0)
    (member : record ∈ (getRoundRobin client { msg := message }).1.records) (counted : record.isOPT = false) :
    ¬ CountsDown lib client key transportTag message timeToLive lazyCacheTTL t0 cache := by
  intro countsDown
  have positive := toNat_pos stored
  have lazyPositive := toNat_pos lazy
  obtain ⟨entry, made⟩ : ∃ entry, entry = newEntry lib client message timeToLive lazyCacheTTL t0 :=
    ⟨_, rfl⟩
  have held : storeCache lib client key transportTag message timeToLive lazyCacheTTL t0 cache
      (client.slot key transportTag) = some entry := by
    rw [storeCache, if_neg stored, update_self, made]
  rw [newEntry, if_neg (by rw [enabled]; decide)] at made
  have value := congrArg CacheEntry.value made
  have ends := congrArg CacheEntry.expireAt made
  dsimp only at value ends
  have near := clock.near t0 (second * timeToLive.toNat + second * (client.lazyTTL lazyCacheTTL).toNat)
  rw [← ends] at near
  unfold second at near
  have alive : t0 + second / 2 ≤ entry.expireAt := by
    unfold second
    omega
  have fresh : entry.value.isStale (t0 + second / 2) = false := by
    rw [value]
    have early : ¬ t0 + second / 2 > t0 + second * timeToLive.toNat := by
      unfold second
      omega
    simp only [DnsMsg.isStale, decide_eq_false early, Bool.and_false]
  have servedMember : record ∈ (getRoundRobin client entry.value).1.records := by
    have msg : ({ msg := message } : DnsMsg).msg = entry.value.msg := by rw [value]
    exact (mem_getRoundRobin_congr msg).mp member
  have servedCarries : Carries (getRoundRobin client entry.value).1.records timeToLive :=
    carries_getRoundRobin (by rwa [value])
  have left : timeToLive.toNat ≤ nowTTL entry.expireAt (t0 + second / 2) := by
    unfold nowTTL second
    omega
  obtain ⟨bounds, noWrap⟩ := countsDown [] (t0 + second / 2) (Nat.le_add_right _ _)
    (storeCache lib client key transportTag message timeToLive lazyCacheTTL t0 cache)
    (by rw [loads, List.foldl_nil]) entry held _ _ (loadResponse_eq_some.mpr ⟨entry, held, .inr alive, by
      rw [serveEntry, if_neg (by rw [enabled]; decide), if_neg (by rw [fresh]; decide)]⟩)
  have origin := originTTL_eq servedCarries servedMember counted
  rcases lt_or_eq_of_le left with more | same
  · rw [Wraps, origin] at noWrap
    exact noWrap ⟨positive, .inl more⟩
  · obtain ⟨shown, inside, shownCounted⟩ := exists_mem_countDown
      (nowTTL entry.expireAt (t0 + second / 2)) servedMember counted
    have bound := (bounds shown inside shownCounted).2
    rw [ttl_countDown servedCarries stored (le_of_eq same.symm) inside shownCounted, ← same] at bound
    unfold second at bound
    omega

end

/-- **Cached TTLs count down exactly if there is no lazy period**, or nothing to count. -/
theorem countsDown_iff (clock : lib.Clock) (key : DnsCacheKey) (transportTag : Bytes)
    (message : Msg) (timeToLive : UInt32) (lazyCacheTTL : Option UInt32) (t0 : Nat)
    (cache : Cache) (enabled : client.disableExpire = false) (stored : timeToLive ≠ 0)
    (carries : ∀ record ∈ message.records, record.isOPT = false → record.header.ttl = timeToLive) :
    CountsDown lib client key transportTag message timeToLive lazyCacheTTL t0 cache ↔
      client.lazyTTL lazyCacheTTL = 0 ∨
        ∀ record ∈ (getRoundRobin client { msg := message }).1.records, record.isOPT = true := by
  refine ⟨fun countsDown => ?_, ?_⟩
  · by_contra bad
    obtain ⟨lazy, someRecord⟩ := not_or.mp bad
    push Not at someRecord
    obtain ⟨record, member, counted⟩ := someRecord
    exact not_countsDown enabled stored clock carries lazy member (Bool.eq_false_iff.mpr counted) countsDown
  · rintro (noLazy | empty)
    · exact countsDown_of_noLazy enabled stored clock carries noLazy
    · exact countsDown_of_empty enabled stored empty

end Laws

theorem plainLibrary_clock : plainLibrary.Clock := by
  refine ⟨fun now lifetime => ?_, fun now lifetime => ?_⟩
  · exact Nat.div_mul_le_self _ _
  · unfold plainLibrary second
    dsimp only
    omega

def sampleKey : DnsCacheKey := ⟨sampleQuestion, .none⟩

theorem sampleResponse_carries : ∀ record ∈ sampleResponse.records, record.isOPT = false →
    record.header.ttl = 60 := by
  intro record member _
  obtain rfl := List.mem_singleton.mp member
  rfl

/-- Without the lazy cache the minute counts down. -/
theorem countsDown_noLazy : CountsDown plainLibrary {} sampleKey [] sampleResponse 60 none 0 fun _ => none :=
  (countsDown_iff plainLibrary_clock sampleKey [] sampleResponse 60 none 0 (fun _ => none) rfl
    (by decide) sampleResponse_carries).mpr (Or.inl rfl)

/-- With an hour of lazy cache the record has 3659 seconds left, one second after it was stored with
60. -/
theorem countsUp_lazy :
    (loadResponse plainLibrary { useLazyCache := true, lazyCacheTTL := 3600 } sampleKey [] second
      (storeCache plainLibrary { useLazyCache := true, lazyCacheTTL := 3600 } sampleKey []
        sampleResponse 60 none 0 fun _ => none)).1 = some (sampleResponse.mapTTL fun _ => 3659, 3659, false) ∧
    ¬ CountsDown plainLibrary { useLazyCache := true, lazyCacheTTL := 3600 } sampleKey []
      sampleResponse 60 none 0 fun _ => none := by
  have inside : (⟨⟨[97, 46], typeA, classINET, 60⟩, .a [10, 0, 0, 1]⟩ : RR) ∈
      (getRoundRobin { useLazyCache := true, lazyCacheTTL := 3600 }
        { msg := sampleResponse }).1.records := List.mem_singleton.mpr rfl
  refine ⟨by decide +kernel, ?_⟩
  exact not_countsDown rfl (by decide) plainLibrary_clock sampleResponse_carries (by decide) inside rfl

end SingBox.Dns
