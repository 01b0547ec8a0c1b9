/-
**The traffic statistics of the V2Ray API** (`experimental/v2rayapi/stats.go`).

Connections add to their counters without the lock. `QueryStats` holds it, so that no counter is made meanwhile, and
reads or swaps a counter once for each pattern that its name matches. `stats_exact_iff`: what is counted is always
returned or still there, and a response has each counter that it is asked for once exactly if no name matches two
patterns.
-/

import SingBox.Lib.Codec
import SingBox.Lib.Machine
import SingBox.Subscription.Text

namespace SingBox.V2rayApi

open SingBox.Lib SingBox.Subscription List Function

structure StatsOptions where
  (inbounds outbounds users : List Bytes)

def counterName (kind : String) (tag : Bytes) (listed : List Bytes) (direction : String) : List Bytes :=
  if tag ≠ [] ∧ tag ∈ listed then [text kind ++ text ">>>" ++ tag ++ text ">>>traffic>>>" ++ text direction] else []

/-- The counters of a connection for `uplink` (those that its reads count on) or for `downlink`. -/
def counterNames (options : StatsOptions) (inbound outbound user : Bytes) (direction : String) : List Bytes :=
  counterName "inbound" inbound options.inbounds direction ++
    counterName "outbound" outbound options.outbounds direction ++ counterName "user" user options.users direction

structure QueryStatsRequest where
  patterns : List Bytes
  regexp : Bool
  reset : Bool

def QueryStatsRequest.matchers (compile : Bytes → Except Error (Bytes → Bool)) (request : QueryStatsRequest) :
    Except Error (List (Bytes → Bool)) :=
  if request.regexp then request.patterns.mapM compile
  else .ok (request.patterns.map fun pattern name => decide (pattern <:+: name))

/-- How often the loops of `QueryStats` come to a counter. -/
def visits (matchers : List (Bytes → Bool)) (name : Bytes) : Nat :=
  if matchers = [] then 1 else matchers.countP (· name)

/-- A `QueryStats` that holds the lock and has the counters `todo` left to read, with the counters as they were when it
read one. -/
structure QueryStats where
  reset : Bool
  matchers : List (Bytes → Bool)
  todo : List Bytes
  stat : List (Bytes × BitVec 64) := []
  moments : List (Bytes → BitVec 64) := []

/-- The counters by their names, with what they have counted and what resetting reads have returned. -/
structure StatsService where
  names : List Bytes := []
  counter : Bytes → BitVec 64 := fun _ => 0
  access : Option QueryStats := none
  counted : Bytes → Nat := fun _ => 0
  returned : Bytes → BitVec 64 := fun _ => 0

/-- `order` is that of the map, and `read` is a step of the `QueryStats` that holds the lock. -/
inductive StatsEvent where
  | routedConnection (inbound outbound user : Bytes)
  | count (name : Bytes) (n : Nat)
  | getStats (name : Bytes) (reset : Bool)
  | queryStats (request : QueryStatsRequest) (order : List Bytes)
  | read

variable (options : StatsOptions) (compile : Bytes → Except Error (Bytes → Bool))

namespace StatsService

/-- `Swap(0)` or `Load`. -/
def load (s : StatsService) (name : Bytes) (reset : Bool) : StatsService :=
  if reset then
    { s with counter := update s.counter name 0, returned := update s.returned name (s.returned name + s.counter name) }
  else s

/-- A step, and the `QueryStats` that it ends. -/
def step (s : StatsService) : StatsEvent → StatsService × Option QueryStats
  | .routedConnection inbound outbound user =>
    if s.access.isNone then
      ({ s with
        names := counterNames options inbound outbound user "uplink" ++
          counterNames options inbound outbound user "downlink" ∪ s.names }, none)
    else (s, none)
  | .count name n =>
    if name ∈ s.names then
      ({ s with
        counter := update s.counter name (s.counter name + .ofNat 64 n)
        counted := update s.counted name (s.counted name + n) }, none)
    else (s, none)
  | .getStats name reset => if name ∈ s.names then (s.load name reset, none) else (s, none)
  | .queryStats request order =>
    match s.access, request.matchers compile with
    | none, .ok matchers =>
      if order.Perm s.names then
        ({ s with
          access := some { reset := request.reset, matchers
                           todo := order.flatMap fun name => replicate (visits matchers name) name } }, none)
      else (s, none)
    | _, _ => (s, none)
  | .read =>
    match s.access with
    | none => (s, none)
    | some query =>
      match query.todo with
      | [] => ({ s with access := none }, some query)
      | name :: todo =>
        ({ s.load name query.reset with
          access := some { query with
            todo, stat := query.stat ++ [(name, s.counter name)], moments := s.counter :: query.moments } }, none)

/-- All that was counted has been returned or is there. -/
def Conserved (s : StatsService) : Prop := ∀ name, s.returned name + s.counter name = .ofNat 64 (s.counted name)

end StatsService

/-- Each value is the counter's at one moment of the call. -/
def QueryStats.Current (query : QueryStats) : Prop :=
  ∀ entry ∈ query.stat, ∃ counter ∈ query.moments, entry.2 = counter entry.1

namespace StatsService

/-- **Exact statistics**: a response has each counter that it is asked for once. -/
def Exact (s : StatsService) (event : StatsEvent) : Prop :=
  (s.step options compile event).1.Conserved ∧
    ∀ query, (s.step options compile event).2 = some query → query.Current ∧ ∀ name ∈ s.names,
      query.matchers = [] ∨ (∃ matcher ∈ query.matchers, matcher name = true) → (query.stat.map Prod.fst).count name = 1

/-- No name matches two patterns of a query that ends. -/
def Plain (s : StatsService) : StatsEvent → Prop
  | .read => ∀ query, s.access = some query → query.todo = [] → ∀ name ∈ s.names, query.matchers.countP (· name) ≤ 1
  | _ => True

/-- **What holds after every run.** -/
structure Sound (s : StatsService) : Prop where
  nodup : s.names.Nodup
  conserved : s.Conserved
  response : ∀ query, s.access = some query → query.Current ∧ ∀ name ∈ s.names,
    (query.stat.map Prod.fst ++ query.todo).count name = visits query.matchers name

end StatsService

def statsService : Machine StatsService StatsEvent QueryStats where
  step := StatsService.step options compile

theorem count_flatMap_replicate {order : List Bytes} (times : Bytes → Nat) (name : Bytes) :
    (order.flatMap fun name => replicate (times name) name).count name = order.count name * times name := by
  induction order with
  | nil => simp
  | cons first order ih =>
    rw [flatMap_cons, count_append, ih, count_replicate, count_cons]
    by_cases same : first = name
    · simp [same, Nat.add_mul, Nat.add_comm]
    · simp [same]

namespace StatsService

variable {options compile} {s : StatsService}

theorem Conserved.load (conserved : s.Conserved) (name : Bytes) (reset : Bool) : (s.load name reset).Conserved := by
  unfold StatsService.load
  split_ifs
  · intro other
    by_cases same : other = name
    · simpa [same] using conserved name
    · simpa [same] using conserved other
  · exact conserved

theorem Sound.step (sound : s.Sound) (event : StatsEvent) : (s.step options compile event).1.Sound := by
  have names (name : Bytes) (reset : Bool) : (s.load name reset).names = s.names := by
    unfold StatsService.load
    split <;> rfl
  fun_cases StatsService.step options compile s event with
  | case2 | case4 | case6 | case8 | case9 | case10 => exact sound
  | case1 inbound outbound user free =>
    refine { sound with nodup := sound.nodup.union _, response := fun query is => ?_ }
    simp [show s.access = some query from is] at free
  | case3 name n =>
    refine { sound with conserved := fun other => ?_ }
    by_cases same : other = name
    · simpa [same, BitVec.ofNat_add, ← BitVec.add_assoc] using sound.conserved name
    · simpa [same] using sound.conserved other
  | case5 name reset =>
    refine ⟨names name reset ▸ sound.nodup, sound.conserved.load name reset, ?_⟩
    unfold StatsService.load
    split <;> exact sound.response
  | case7 request order _ matchers _ perm =>
    refine { sound with response := ?_ }
    rintro query ⟨⟩
    refine ⟨by simp [QueryStats.Current], fun name member => ?_⟩
    have once := count_eq_one_of_mem (perm.nodup_iff.mpr sound.nodup) (perm.mem_iff.mpr member)
    simp [count_flatMap_replicate, once]
  | case11 => exact { sound with response := by simp }
  | case12 query is name todo left =>
    refine ⟨names name query.reset ▸ sound.nodup, sound.conserved.load name query.reset, ?_⟩
    rintro query ⟨⟩
    obtain ⟨current, all⟩ := sound.response _ is
    refine ⟨fun entry member => ?_, ?_⟩
    · rcases mem_append.mp member with before | now
      · obtain ⟨counter, seen, same⟩ := current entry before
        exact ⟨counter, mem_cons_of_mem _ seen, same⟩
      · cases mem_singleton.mp now
        exact ⟨s.counter, mem_cons_self, rfl⟩
    · rw [left] at all
      simpa [names] using all

theorem Sound.exact_iff (sound : s.Sound) (event : StatsEvent) : s.Exact options compile event ↔ s.Plain event := by
  refine (and_iff_right (sound.step event).conserved).trans ?_
  fun_cases StatsService.step options compile s event with
  | case11 query is left =>
    obtain ⟨current, all⟩ := sound.response _ is
    rw [left, append_nil] at all
    constructor
    · rintro once _ at_ - name member
      cases is.symm.trans at_
      by_contra more
      have asked := countP_pos_iff.mp (Nat.zero_lt_of_lt (Nat.lt_of_not_le more))
      have one := (once query rfl).2 name member (.inr asked)
      rw [all name member, visits, if_neg (by rintro none; simp [none] at asked)] at one
      exact more one.le
    · rintro plain _ ⟨⟩
      refine ⟨current, fun name member asked => ?_⟩
      rw [all name member, visits]
      split_ifs with none
      · rfl
      · exact le_antisymm (plain query is left name member) (countP_pos_iff.mpr (asked.resolve_left none))
  | case10 none => exact iff_of_true (by simp) fun query is => by cases none.symm.trans is
  | case12 _ is _ _ left =>
    refine iff_of_true (by simp) fun query at_ done => ?_
    cases is.symm.trans at_
    cases left.symm.trans done
  | _ => exact iff_of_true (by simp) trivial

end StatsService

/-- **The statistics are exact** along a run if and only if no name matches two patterns of a query. -/
theorem stats_exact_iff (events : List StatsEvent) :
    (statsService options compile).Along (StatsService.Exact options compile) {} events ↔
      (statsService options compile).Along StatsService.Plain {} events :=
  Machine.along_iff_of_invariant StatsService.Sound (fun _ event sound _ => sound.exact_iff event)
    (fun _ event sound _ _ => sound.step event) ⟨nodup_nil, fun _ => rfl, by simp⟩
    ((statsService options compile).along_of_forall (fun _ _ => trivial) {} events)

/-- The counter of the uplink matches both patterns: a resetting query has it twice, with 7 and with 0. -/
theorem stats_twice : ¬ ∀ options compile events,
    (statsService options compile).Along (StatsService.Exact options compile) {} events := by
  intro all
  let up := text "inbound>>>in>>>traffic>>>uplink"
  have along := all ⟨[text "in"], [], []⟩ (fun _ => .error .invalid) [.routedConnection (text "in") [] [], .count up 7,
    .queryStats ⟨[text "bound", text "up"], false, true⟩ [up, text "inbound>>>in>>>traffic>>>downlink"],
    .read, .read, .read, .read]
  exact absurd ((along.2.2.2.2.2.2.1.2 _ rfl).2 up (by decide) (by decide)) (by decide)

end SingBox.V2rayApi
