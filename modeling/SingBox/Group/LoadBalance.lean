/-
**The load-balance group** (`protocol/group/loadbalance.go`).

An outbound is alive if its last test succeeded. The round-robin strategy goes on from the entry behind the one that
it returned last. Consistent hashing tries five entries, and then the whole list. Sticky sessions try four entries,
and then return a fifth, alive or not. They begin with the index in the session cache, or with one from the clock if
there is none or the list has become shorter; the latter is stored only if there was none.
-/

import Mathlib.Data.List.Rotate
import SingBox.Group.UrlTest

namespace SingBox.Group

open SingBox.Lib Checked List

variable {Outbound : Type}

/-! ### The strategies -/

/-- `AliveForTestUrl`. -/
def View.alive (view : View Outbound) (proxy : Outbound) : Bool := (view.delay proxy).isSome

section Strategies

variable (outbounds : List Outbound) (view : View Outbound) (fallbackIdx : UInt32)

def nextFallback : Checked Error (Option Outbound × UInt32) :=
  if outbounds.length = 0 then .ok (none, fallbackIdx)
  else do
    let proxy ← elem outbounds ((fallbackIdx + 1).toNat % outbounds.length)
    return (some proxy, fallbackIdx + 1)

/-- The loop of the strategy, with the number of turns that are left: what it found, and `i`. -/
def roundRobinLoop (idx : Nat) : Nat → Nat → Checked Error (Option Outbound × Nat)
  | 0, i => .ok (none, i)
  | left + 1, i => do
    let proxy ← elem outbounds ((idx + i) % outbounds.length)
    if view.alive proxy then return (some proxy, i + 1) else roundRobinLoop idx left (i + 1)

/-- A call, with the new cursor. The deferred function divides by the length of the list. -/
def strategyRoundRobin (idx : Nat) (touch : Bool) : Checked Error (Option Outbound × Nat × UInt32) := do
  let (found, i) ← roundRobinLoop outbounds view idx outbounds.length 0
  let (proxy, fallbackIdx) ← if found.isSome then .ok (found, fallbackIdx) else nextFallback outbounds fallbackIdx
  if !touch then return (proxy, idx, fallbackIdx)
  else if outbounds.length = 0 then .error .panic
  else return (proxy, (idx + i) % outbounds.length, fallbackIdx)

variable (jumpHash : UInt64 → Nat → Nat) (key : UInt64)

def consistentHashingLoop : Nat → UInt64 → Checked Error (Option Outbound)
  | 0, _ => .ok none
  | left + 1, key => do
    let proxy ← elem outbounds (jumpHash key outbounds.length)
    if view.alive proxy then return some proxy else consistentHashingLoop left (key + 1)

/-- A call for metadata with this hash. -/
def strategyConsistentHashing : Checked Error (Option Outbound × UInt32) := do
  let found ← consistentHashingLoop outbounds view jumpHash 5 key
  match found <|> outbounds.find? view.alive with
  | some proxy => return (some proxy, fallbackIdx)
  | none => nextFallback outbounds fallbackIdx

variable (now : Nat → UInt64)

/-- The loop of the strategy: the outbound and its index. `now` are the times that the call reads. -/
def stickySessionsLoop : Nat → Nat → Nat → Checked Error (Option (Outbound × Nat))
  | 0, _, _ => .ok none
  | left + 1, tick, nowIdx => do
    let proxy ← elem outbounds nowIdx
    if view.alive proxy then return some (proxy, nowIdx)
    else stickySessionsLoop left (tick + 1) (jumpHash (key + now tick) outbounds.length)

/-- The index that a call begins with. -/
def sessionIdx (cached : Option Nat) : Nat :=
  match cached with
  | some idx => if idx ≥ outbounds.length then jumpHash (key + now 0) outbounds.length else idx
  | none => jumpHash (key + now 0) outbounds.length

/-- A call for metadata with this hash, with the new session cache. -/
def strategyStickySessions (lruCache : UInt64 → Option Nat) : Checked Error (Outbound × (UInt64 → Option Nat)) := do
  let idx := sessionIdx outbounds jumpHash key now (lruCache key)
  match ← stickySessionsLoop outbounds view jumpHash key now 4 1 idx with
  | some (proxy, nowIdx) =>
    return (proxy,
      if (lruCache key).isNone || nowIdx ≠ idx then Function.update lruCache key (some nowIdx) else lruCache)
  | none => do
    let fbIdx := jumpHash key outbounds.length
    let proxy ← elem outbounds fbIdx
    return (proxy, Function.update lruCache key (some fbIdx))

end Strategies

/-! ### Round robin -/

section RoundRobin

variable {outbounds : List Outbound} {view : View Outbound} {fallbackIdx : UInt32}

/-- The loop looks at the entries of the list that is turned to the cursor, up to the first alive one. -/
theorem roundRobinLoop_eq (idx left i : Nat) (whole : left + i = outbounds.length) :
    roundRobinLoop outbounds view idx left i =
      let rest := (outbounds.rotate idx).drop i
      .ok (rest.find? view.alive,
        i + (rest.takeWhile fun proxy => !view.alive proxy).length + (rest.find? view.alive).toList.length) := by
  induction left generalizing i with
  | zero =>
    rw [drop_of_length_le (by simp [← whole])]
    rfl
  | succ left ih =>
    have inside : i < (outbounds.rotate idx).length := by
      rw [length_rotate]
      omega
    have bound : (idx + i) % outbounds.length < outbounds.length := Nat.mod_lt _ (by omega)
    rw [drop_eq_getElem_cons inside, getElem_rotate]
    simp only [add_comm i idx, roundRobinLoop, Checked.elem, dif_pos bound, bind, Except.bind]
    by_cases alive : view.alive (outbounds[(idx + i) % outbounds.length]) = true
    · simp [alive, pure, Except.pure]
    · simp [alive, ih (i + 1) (by omega)]
      omega

theorem nextFallback_ok (some : outbounds ≠ []) (fallbackIdx : UInt32) :
    ∃ proxy next, nextFallback outbounds fallbackIdx = .ok (.some proxy, next) := by
  have positive := length_pos_iff.mpr some
  simp only [nextFallback, if_neg (ne_of_gt positive), Checked.elem, dif_pos (Nat.mod_lt _ positive)]
  exact ⟨_, _, rfl⟩

/-- **A call takes the first outbound of the queue**, and puts it back at the end if it is counted. -/
theorem strategyRoundRobin_spec {idx : Nat} {proxy : Outbound} {queue : List Outbound}
    (first : (outbounds.rotate idx).filter view.alive = proxy :: queue) (fallbackIdx : UInt32) (touch : Bool) :
    ∃ next, strategyRoundRobin outbounds view fallbackIdx idx touch = .ok (some proxy, next, fallbackIdx) ∧
      (outbounds.rotate next).filter view.alive = if touch then queue ++ [proxy] else proxy :: queue := by
  obtain ⟨dead, rest, split, gone, alive, later⟩ := filter_eq_cons_iff.mp first
  have loop := @roundRobinLoop_eq _ outbounds view idx outbounds.length 0 (by omega)
  have found : (dead ++ proxy :: rest).find? view.alive = some proxy :=
    find?_eq_some_iff_append.mpr ⟨alive, dead, rest, rfl, by simpa using gone⟩
  have passed : ((dead ++ proxy :: rest).takeWhile fun proxy => !view.alive proxy) = dead := by
    rw [takeWhile_append_of_pos (by simpa using gone)]
    simp [alive]
  have some : outbounds.length ≠ 0 := by
    rw [← length_rotate outbounds idx, split]
    simp
  simp only [drop_zero, split, found, passed] at loop
  cases touch with
  | false =>
    refine ⟨idx, ?_, by simpa using first⟩
    simp [strategyRoundRobin, loop, bind, Except.bind, pure, Except.pure]
  | true =>
    refine ⟨(idx + (dead ++ [proxy]).length) % outbounds.length, ?_, ?_⟩
    · simp [strategyRoundRobin, loop, some, bind, Except.bind, pure, Except.pure]
    have turned : (dead ++ [proxy] ++ rest).rotate (dead ++ [proxy]).length = rest ++ (dead ++ [proxy]) :=
      rotate_append_length_eq _ _
    rw [rotate_mod, ← rotate_rotate, split, append_cons, turned]
    simp [later, alive, filter_eq_nil_iff.mpr gone]

/-- The results of calls, with the cursor between them. -/
def roundRobins (outbounds : List Outbound) :
    Nat → UInt32 → List (Bool × View Outbound) → Checked Error (List (Bool × Option Outbound))
  | _, _, [] => .ok []
  | idx, fallbackIdx, call :: calls => do
    let (proxy, idx, fallbackIdx) ← strategyRoundRobin outbounds call.2 fallbackIdx idx call.1
    let rest ← roundRobins outbounds idx fallbackIdx calls
    return (call.1, proxy) :: rest

theorem roundRobins_eq {alive : Outbound → Bool} {calls : List (Bool × View Outbound)} {idx : Nat}
    {queue : List Outbound} (fixed : ∀ call ∈ calls, ∀ proxy ∈ outbounds, call.2.alive proxy = alive proxy)
    (is : (outbounds.rotate idx).filter alive = queue) (some : queue ≠ [])
    (few : (calls.filter Prod.fst).length ≤ queue.length) :
    ∃ results, roundRobins outbounds idx fallbackIdx calls = .ok results ∧
      (results.filter Prod.fst).map Prod.snd = (queue.take (calls.filter Prod.fst).length).map .some ∧
      ∀ result ∈ results, ∃ proxy, result.2 = .some proxy ∧ proxy ∈ outbounds.filter alive := by
  induction calls generalizing idx queue with
  | nil => exact ⟨[], rfl, by simp, by simp⟩
  | cons call calls ih =>
    obtain ⟨now, later⟩ := forall_mem_cons.mp fixed
    obtain ⟨proxy, rest, rfl⟩ := exists_cons_of_ne_nil some
    have congr idx : (outbounds.rotate idx).filter call.2.alive = (outbounds.rotate idx).filter alive :=
      filter_congr fun proxy member => now proxy (mem_rotate.mp member)
    obtain ⟨next, done, after⟩ := strategyRoundRobin_spec ((congr idx).trans is) fallbackIdx call.1
    rw [congr] at after
    have listed : proxy ∈ outbounds.filter alive := by
      have member : proxy ∈ (outbounds.rotate idx).filter alive := is ▸ mem_cons_self
      simpa using member
    have fewer : (calls.filter Prod.fst).length ≤ (if call.1 then rest ++ [proxy] else proxy :: rest).length := by
      cases counted : call.1 <;> simp [counted] at few ⊢ <;> omega
    obtain ⟨results, run, touched, all⟩ := ih later after (by split <;> simp) fewer
    refine ⟨(call.1, .some proxy) :: results, bind_eq_ok_iff.mpr ⟨_, done, bind_eq_ok_iff.mpr ⟨_, run, rfl⟩⟩, ?_,
      forall_mem_cons.mpr ⟨⟨proxy, rfl, listed⟩, all⟩⟩
    cases counted : call.1 with
    | true =>
      simp only [counted, if_true, filter_cons_of_pos, length_cons, add_le_add_iff_right] at few touched
      rw [take_append_of_le_length few] at touched
      simp [counted, touched]
    | false => simpa [counted] using touched

end RoundRobin

/-- **Round robin is fair.** As many calls as there are alive entries return each of them once, whatever
the cursor was, and however many calls there are in between that are not counted. -/
theorem roundRobins_fair (outbounds : List Outbound) (alive : Outbound → Bool) (idx : Nat) (fallbackIdx : UInt32)
    (calls : List (Bool × View Outbound)) (some : outbounds.filter alive ≠ [])
    (fixed : ∀ call ∈ calls, ∀ proxy ∈ outbounds, call.2.alive proxy = alive proxy)
    (count : (calls.filter Prod.fst).length = (outbounds.filter alive).length) :
    ∃ results, roundRobins outbounds idx fallbackIdx calls = .ok results ∧
      ((results.filter Prod.fst).map Prod.snd).Perm ((outbounds.filter alive).map .some) ∧
      ∀ result ∈ results, ∃ proxy, result.2 = .some proxy ∧ proxy ∈ outbounds.filter alive := by
  have perm : ((outbounds.rotate idx).filter alive).Perm (outbounds.filter alive) := (rotate_perm _ _).filter alive
  rw [← perm.length_eq] at count
  obtain ⟨results, run, touched, all⟩ := roundRobins_eq fixed rfl
    (fun none => some (perm_nil.mp (none ▸ perm.symm))) count.le
  rw [count, take_length] at touched
  exact ⟨results, run, touched ▸ perm.map _, all⟩

/-- Outbounds of which those in the list are alive. -/
def aliveView (alive : List Nat) : View Nat :=
  ⟨fun _ => [], fun proxy => [proxy.toUInt8],
    fun tag => if tag.all (alive.map Nat.toUInt8).contains then some 1 else none⟩

/-- Two alive outbounds of three, with a call in between that does not count. -/
theorem roundRobins_fair_pair :
    ∃ results, roundRobins [1, 2, 3] 7 0 ([true, false, true].map (·, aliveView [1, 3])) = .ok results ∧
      ((results.filter Prod.fst).map Prod.snd).Perm [some 1, some 3] := by
  obtain ⟨results, run, fair, -⟩ := roundRobins_fair [1, 2, 3] (· ≠ 2) 7 0
    ([true, false, true].map (·, aliveView [1, 3])) (by decide) (by decide) (by decide)
  exact ⟨results, run, fair⟩

/-- An outbound that is listed twice is returned twice, and the other one never: two alive outbounds, two calls. -/
theorem roundRobins_repeated : roundRobins [1, 1, 2] 0 0 [(true, aliveView [1, 2]), (true, aliveView [1, 2])] =
      .ok [(true, some 1), (true, some 1)] := by
  decide

/-! ### The returned outbound -/

/-- A call returns an outbound, which is alive if one is. -/
def PicksAlive {α : Type} (outbounds : List Outbound) (view : View Outbound)
    (call : Checked Error (Option Outbound × α)) : Prop :=
  ∃ proxy next, call = .ok (some proxy, next) ∧
    ((∃ other ∈ outbounds, view.alive other = true) → view.alive proxy = true)

section Returned

variable {outbounds : List Outbound} {view : View Outbound} {jumpHash : UInt64 → Nat → Nat}
  (inside : ∀ key buckets, 0 < buckets → jumpHash key buckets < buckets) (some : outbounds ≠ [])

include inside some

theorem jumpHash_lt (key : UInt64) : jumpHash key outbounds.length < outbounds.length :=
  inside key _ (length_pos_iff.mpr some)

theorem sessionIdx_lt (key : UInt64) (now : Nat → UInt64) (cached : Option Nat) :
    sessionIdx outbounds jumpHash key now cached < outbounds.length := by
  have jump := jumpHash_lt inside some (key + now 0)
  rw [sessionIdx.eq_def]
  split
  · split
    · exact jump
    · omega
  · exact jump

theorem consistentHashingLoop_ok (left : Nat) (key : UInt64) :
    ∃ found, consistentHashingLoop outbounds view jumpHash left key = .ok found ∧
      ∀ proxy, found = .some proxy → view.alive proxy = true := by
  induction left generalizing key with
  | zero => exact ⟨none, rfl, by simp⟩
  | succ left ih =>
    simp only [consistentHashingLoop, Checked.elem, dif_pos (jumpHash_lt inside some key), bind, Except.bind]
    split
    · rename_i alive
      exact ⟨_, rfl, fun proxy found => Option.some.inj found ▸ alive⟩
    · exact ih _

/-- The indices that the loop of the sticky strategy tries. -/
def stickyProbes (outbounds : List Outbound) (jumpHash : UInt64 → Nat → Nat) (key : UInt64) (now : Nat → UInt64) :
    Nat → Nat → Nat → List Nat
  | 0, _, _ => []
  | left + 1, tick, nowIdx =>
    nowIdx :: stickyProbes outbounds jumpHash key now left (tick + 1) (jumpHash (key + now tick) outbounds.length)

theorem stickySessionsLoop_ok (key : UInt64) (now : Nat → UInt64) (left tick : Nat) {nowIdx : Nat}
    (bound : nowIdx < outbounds.length) :
    ∃ found, stickySessionsLoop outbounds view jumpHash key now left tick nowIdx = .ok found ∧
      (∀ proxy idx, found = .some (proxy, idx) → view.alive proxy = true) ∧
      (found.isSome = true ↔ ∃ i ∈ stickyProbes outbounds jumpHash key now left tick nowIdx,
        outbounds[i]?.any view.alive = true) := by
  induction left generalizing tick nowIdx with
  | zero => exact ⟨none, rfl, by simp, by simp [stickyProbes]⟩
  | succ left ih =>
    simp only [stickySessionsLoop, Checked.elem, dif_pos bound, bind, Except.bind]
    split
    · rename_i alive
      exact ⟨_, rfl, by simp [alive], by simp [stickyProbes, bound, alive]⟩
    · rename_i dead
      obtain ⟨found, loop, lives, tried⟩ := ih (tick + 1) (jumpHash_lt inside some (key + now tick))
      exact ⟨found, loop, lives, by simp [tried, stickyProbes, bound, dead]⟩

omit inside in
theorem strategyRoundRobin_ok (fallbackIdx : UInt32) (idx : Nat) (touch : Bool) :
    PicksAlive outbounds view (strategyRoundRobin outbounds view fallbackIdx idx touch) := by
  cases queue : (outbounds.rotate idx).filter view.alive with
  | cons proxy queue' =>
    obtain ⟨next, done, -⟩ := strategyRoundRobin_spec queue fallbackIdx touch
    have member : proxy ∈ (outbounds.rotate idx).filter view.alive := queue ▸ mem_cons_self
    exact ⟨proxy, _, done, fun _ => (mem_filter.mp member).2⟩
  | nil =>
    have dead := filter_eq_nil_iff.mp queue
    have none : ¬ ∃ other ∈ outbounds, view.alive other = true := by
      rintro ⟨other, listed, lives⟩
      exact dead other (mem_rotate.mpr listed) lives
    obtain ⟨i, loop⟩ : ∃ i, roundRobinLoop outbounds view idx outbounds.length 0 = .ok (.none, i) := by
      have loop := @roundRobinLoop_eq _ outbounds view idx outbounds.length 0 (by omega)
      simp only [drop_zero, find?_eq_none.mpr dead] at loop
      exact ⟨_, loop⟩
    obtain ⟨proxy, next, fallback⟩ := nextFallback_ok some fallbackIdx
    cases touch with
    | false =>
      refine ⟨proxy, (idx, next), ?_, fun alive => absurd alive none⟩
      simp [strategyRoundRobin, loop, fallback, bind, Except.bind, pure, Except.pure]
    | true =>
      refine ⟨proxy, ((idx + i) % outbounds.length, next), ?_, fun alive => absurd alive none⟩
      simp [strategyRoundRobin, loop, fallback, some, bind, Except.bind, pure, Except.pure]

theorem strategyConsistentHashing_ok (fallbackIdx : UInt32) (key : UInt64) :
    PicksAlive outbounds view (strategyConsistentHashing outbounds view fallbackIdx jumpHash key) := by
  obtain ⟨found, loop, alive⟩ := @consistentHashingLoop_ok _ _ view _ inside some 5 key
  simp only [strategyConsistentHashing, loop]
  cases found with
  | some proxy => exact ⟨proxy, _, rfl, fun _ => alive proxy rfl⟩
  | none =>
    cases first : outbounds.find? view.alive with
    | some proxy => exact ⟨proxy, _, rfl, fun _ => find?_some first⟩
    | none =>
      obtain ⟨proxy, next, fallback⟩ := nextFallback_ok some fallbackIdx
      refine ⟨proxy, next, fallback, ?_⟩
      rintro ⟨other, listed, lives⟩
      exact absurd lives (find?_eq_none.mp first other listed)

theorem strategyStickySessions_ok (key : UInt64) (now : Nat → UInt64) (lruCache : UInt64 → Option Nat) :
    ∃ proxy next, strategyStickySessions outbounds view jumpHash key now lruCache = .ok (proxy, next) ∧
      (view.alive proxy = true ↔ ∃ i ∈ stickyProbes outbounds jumpHash key now 4 1
        (sessionIdx outbounds jumpHash key now (lruCache key)) ++ [jumpHash key outbounds.length],
        outbounds[i]?.any view.alive = true) := by
  obtain ⟨found, loop, lives, tried⟩ := @stickySessionsLoop_ok _ _ view _ inside some key now 4 1 _
    (sessionIdx_lt inside some key now (lruCache key))
  have last := jumpHash_lt inside some key
  simp only [strategyStickySessions, loop, mem_append, or_and_right, exists_or, ← tried]
  cases found with
  | some found => exact ⟨_, _, rfl, by simp [lives found.1 found.2 rfl]⟩
  | none =>
    simp only [Checked.elem, dif_pos last]
    exact ⟨_, _, rfl, by simp [last]⟩

end Returned

/-- **The returned outbound is alive if one is**, with round robin and consistent hashing; with sticky sessions
exactly if one of the five entries is that a call tries. -/
theorem strategies_alive_iff (outbounds : List Outbound) (view : View Outbound) (jumpHash : UInt64 → Nat → Nat)
    (inside : ∀ key buckets, 0 < buckets → jumpHash key buckets < buckets) (some : outbounds ≠ []) :
    (∀ fallbackIdx idx touch, PicksAlive outbounds view (strategyRoundRobin outbounds view fallbackIdx idx touch)) ∧
    (∀ fallbackIdx key, PicksAlive outbounds view (strategyConsistentHashing outbounds view fallbackIdx jumpHash key)) ∧
    ∀ key now lruCache, ∃ proxy next,
      strategyStickySessions outbounds view jumpHash key now lruCache = .ok (proxy, next) ∧
        (view.alive proxy = true ↔ ∃ i ∈ stickyProbes outbounds jumpHash key now 4 1
          (sessionIdx outbounds jumpHash key now (lruCache key)) ++ [jumpHash key outbounds.length],
          outbounds[i]?.any view.alive = true) :=
  ⟨strategyRoundRobin_ok some, strategyConsistentHashing_ok inside some, strategyStickySessions_ok inside some⟩

/-- The session cache leads to the alive one of two outbounds. -/
theorem strategies_alive_pair : ∃ proxy next,
    strategyStickySessions [1, 2] (aliveView [2]) (fun _ _ => 0) 0 (fun _ => 0) (fun _ => some 1) = .ok (proxy, next) ∧
      (aliveView [2]).alive proxy = true := by
  obtain ⟨-, -, sticky⟩ := strategies_alive_iff [1, 2] (aliveView [2]) (fun _ _ => 0) (fun _ _ some => some) (by decide)
  obtain ⟨proxy, next, done, alive⟩ := sticky 0 (fun _ => 0) (fun _ => some 1)
  exact ⟨proxy, next, done, alive.mpr (by decide)⟩

/-- The hash leads to the first entry, whatever the time is, and that one is dead. -/
theorem strategyStickySessions_dead :
    ∃ next, strategyStickySessions [1, 2] (aliveView [2]) (fun _ _ => 0) 0 (fun _ => 0) (fun _ => none) = .ok (1, next) ∧
      (aliveView [2]).alive 1 = false ∧ (aliveView [2]).alive 2 = true :=
  ⟨_, rfl, by decide, by decide⟩

/-! ### The hash -/

/-- The nearest number to a quotient, and of two the even one. -/
def roundDiv (n d : Nat) : Nat :=
  if 2 * (n % d) < d || 2 * (n % d) = d && n / d % 2 = 0 then n / d else n / d + 1

/-- `int64(float64(k) * (float64(int64(1)<<31) / float64(d)))`. The quotient and the product are rounded to 53 bits. -/
def floatStep (k d : Nat) : Nat :=
  let shift := 52 - Nat.log2 (2 ^ 31 / d)
  let quotient := roundDiv (2 ^ (31 + shift)) d
  let surplus := Nat.log2 (k * quotient) - 52
  roundDiv (k * quotient) (2 ^ surplus) * 2 ^ surplus / 2 ^ shift

def jumpHashLoop (buckets : Nat) : (fuel : Nat) → (key : UInt64) → (b j : Nat) → Nat
  | 0, _, b, _ => b
  | fuel + 1, key, b, j =>
    if j < buckets then
      let key := key * 2862933555777941757 + 1
      jumpHashLoop buckets fuel key j (floatStep (j + 1) ((key >>> 33).toNat + 1))
    else b

/-- Every turn makes `j` larger (`jumpHashLoop_enough`), so that there are no more turns than buckets. -/
def jumpHash (key : UInt64) (buckets : Nat) : Nat := jumpHashLoop buckets buckets key 0 0

theorem div_le_roundDiv (n d : Nat) : n / d ≤ roundDiv n d := by
  unfold roundDiv
  split <;> omega

theorem le_floatStep {k d : Nat} (some : 0 < d) (small : d ≤ 2 ^ 31) (exact : k ≤ 2 ^ 52) : k ≤ floatStep k d := by
  unfold floatStep
  dsimp only
  generalize 52 - Nat.log2 (2 ^ 31 / d) = shift
  have one : 2 ^ shift ≤ roundDiv (2 ^ (31 + shift)) d := by
    refine le_trans ((Nat.le_div_iff_mul_le some).mpr ?_) (div_le_roundDiv _ _)
    rw [Nat.pow_add, Nat.mul_comm]
    exact Nat.mul_le_mul_right _ small
  generalize roundDiv (2 ^ (31 + shift)) d = quotient at one ⊢
  have product := Nat.mul_le_mul_left k one
  rw [Nat.le_div_iff_mul_le (Nat.two_pow_pos _)]
  refine le_trans ?_ (Nat.mul_le_mul_right _ (div_le_roundDiv _ _))
  by_cases fits : Nat.log2 (k * quotient) - 52 ≤ shift
  · -- `k` itself is a multiple of what is rounded away
    obtain ⟨more, rfl⟩ := Nat.exists_eq_add_of_le fits
    generalize Nat.log2 (k * quotient) - 52 = surplus at product ⊢
    rw [Nat.pow_add, ← Nat.mul_assoc, Nat.mul_right_comm] at product ⊢
    exact Nat.mul_le_mul_right _ ((Nat.le_div_iff_mul_le (Nat.two_pow_pos _)).mpr product)
  · -- the product is beyond every `k`
    have large : 52 ≤ Nat.log2 (k * quotient) := by omega
    have product : 2 ^ Nat.log2 (k * quotient) ≤ k * quotient := Nat.log2_self_le (by
      intro none
      rw [none] at large
      cases large)
    generalize Nat.log2 (k * quotient) = digits at *
    obtain ⟨surplus, rfl⟩ := Nat.exists_eq_add_of_le large
    rw [Nat.pow_add, ← Nat.le_div_iff_mul_le (Nat.two_pow_pos _)] at product
    rw [Nat.add_sub_cancel_left] at fits ⊢
    exact Nat.mul_le_mul (le_trans exact product) (Nat.pow_le_pow_right (by decide) (by omega))

theorem toNat_shiftRight_lt (key : UInt64) : (key >>> 33).toNat < 2 ^ 31 := by
  have bound := key.toNat_lt
  rw [UInt64.toNat_shiftRight, Nat.shiftRight_eq_div_pow]
  exact Nat.div_lt_of_lt_mul bound

theorem jumpHashLoop_lt {buckets : Nat} (fuel : Nat) (key : UInt64) {b : Nat} (inside : b < buckets) (j : Nat) :
    jumpHashLoop buckets fuel key b j < buckets := by
  induction fuel generalizing key b j with
  | zero => exact inside
  | succ fuel ih =>
    unfold jumpHashLoop
    split
    · exact ih _ ‹_› _
    · exact inside

/-- More turns make no difference. -/
theorem jumpHashLoop_enough {buckets fuel : Nat} (small : buckets < 2 ^ 31) (key : UInt64) (b : Nat) {j : Nat}
    (enough : buckets ≤ fuel + j) (more : Nat) :
    jumpHashLoop buckets (fuel + more) key b j = jumpHashLoop buckets fuel key b j := by
  induction fuel generalizing key b j with
  | zero =>
    cases more with
    | zero => rfl
    | succ more => exact if_neg (by omega)
  | succ fuel ih =>
    rw [Nat.add_right_comm]
    unfold jumpHashLoop
    split
    · refine ih _ _ ?_
      have grows := @le_floatStep (j + 1) (((key * 2862933555777941757 + 1) >>> 33).toNat + 1) (Nat.succ_pos _)
        (toNat_shiftRight_lt _) (by omega)
      omega
    · rfl

theorem jumpHash_inside (key : UInt64) (buckets : Nat) (some : 0 < buckets) : jumpHash key buckets < buckets :=
  jumpHashLoop_lt _ _ some _

/-! ### Consecutive calls -/

/-- If every outbound is alive, a call returns the first one that it tries. -/
theorem strategyStickySessions_of_alive {outbounds : List Outbound} {view : View Outbound}
    {jumpHash : UInt64 → Nat → Nat} {key : UInt64} {now : Nat → UInt64} {lruCache : UInt64 → Option Nat}
    (alive : ∀ proxy ∈ outbounds, view.alive proxy = true) {idx : Nat}
    (is : sessionIdx outbounds jumpHash key now (lruCache key) = idx) (bound : idx < outbounds.length) :
    strategyStickySessions outbounds view jumpHash key now lruCache =
      .ok (outbounds[idx], if (lruCache key).isNone then Function.update lruCache key (some idx) else lruCache) := by
  have loop : stickySessionsLoop outbounds view jumpHash key now 4 1 idx = .ok (some (outbounds[idx], idx)) := by
    simp only [stickySessionsLoop, Checked.elem, dif_pos bound, bind, Except.bind, alive _ (getElem_mem bound), if_true,
      pure, Except.pure]
  simp only [strategyStickySessions, is, loop, bind, Except.bind, pure, Except.pure, ne_eq, not_true_eq_false,
    decide_false, Bool.or_false]

/-- **Sticky sessions stick**, as long as all outbounds are alive, exactly if the index in the session cache is
inside the list or there is none; otherwise only if the clock happens to lead to the same outbound. -/
theorem sticky_iff (outbounds : List Outbound) (key : UInt64)
    (lruCache : UInt64 → Option Nat) (now later : Nat → UInt64) (view next : View Outbound) (some : outbounds ≠ [])
    (alive : ∀ proxy ∈ outbounds, view.alive proxy = true ∧ next.alive proxy = true) :
    ∃ first cached second left, strategyStickySessions outbounds view jumpHash key now lruCache = .ok (first, cached) ∧
      strategyStickySessions outbounds next jumpHash key later cached = .ok (second, left) ∧
      (first = second ↔ (∀ idx, lruCache key = .some idx → idx < outbounds.length) ∨
        outbounds[jumpHash (key + now 0) outbounds.length]? =
          outbounds[jumpHash (key + later 0) outbounds.length]?) := by
  have bound := sessionIdx_lt jumpHash_inside some key now (lruCache key)
  refine ⟨_, _, _, _, strategyStickySessions_of_alive (fun proxy member => (alive proxy member).1) rfl bound,
    strategyStickySessions_of_alive (fun proxy member => (alive proxy member).2) rfl
      (sessionIdx_lt jumpHash_inside some key later _), ?_⟩
  rw [← Option.some_inj, ← getElem?_eq_getElem, ← getElem?_eq_getElem]
  cases cached : lruCache key with
  | none =>
    -- the first call stores its index, which is inside the list
    rw [cached] at bound
    have stored : sessionIdx outbounds jumpHash key later
        (.some (sessionIdx outbounds jumpHash key now none)) = sessionIdx outbounds jumpHash key now none :=
      if_neg (by omega)
    simp [stored]
  | some idx =>
    by_cases fits : idx < outbounds.length
    · simp [cached, sessionIdx, fits, Nat.not_le_of_lt fits]
    · simp [cached, sessionIdx, Nat.le_of_not_lt fits]

/-- The second call, at another time, finds the index in the cache. -/
theorem sticky_pair : ∃ first cached left,
    strategyStickySessions [1, 2] (aliveView [1, 2]) jumpHash 0 (fun _ => 0) (fun _ => none) = .ok (first, cached) ∧
      strategyStickySessions [1, 2] (aliveView [1, 2]) jumpHash 0 (fun _ => 4) cached = .ok (first, left) := by
  obtain ⟨first, cached, second, left, run, again, same⟩ := sticky_iff [1, 2] 0 (fun _ => none)
    (fun _ => 0) (fun _ => 4) (aliveView [1, 2]) (aliveView [1, 2]) (by decide) (by decide)
  obtain rfl := same.mpr (.inl (by simp))
  exact ⟨first, cached, left, run, again⟩

/-- The cache has an index from a list of six, and the list has two entries now. -/
theorem sticky_moves : ∃ cached left,
    strategyStickySessions [1, 2] (aliveView [1, 2]) jumpHash 0 (fun _ => 0) (fun _ => some 5) = .ok (1, cached) ∧
      strategyStickySessions [1, 2] (aliveView [1, 2]) jumpHash 0 (fun _ => 4) cached = .ok (2, left) :=
  ⟨_, _, rfl, rfl⟩

end SingBox.Group
