/-
**The ids of DNS queries** (`dns/transport/udp.go`: `nextAvailableQueryId`;
`dns/transport/tcp.go`: `exchangeWithCleanup`).

`nextAvailableQueryId` goes over all ids, beginning with the one after the last, and takes the first that is free. A
pipelined TCP connection takes the id after the last in any case. The ids come round after 65536 queries, and a query
that is still outstanding then has lost its place in the table to a later one.
-/

import SingBox.Dns.Multiplex

set_option linter.unusedSectionVars false

namespace SingBox.Dns

open SingBox.Lib List

/-! ### UDP -/

theorem toNat_succ_sub {id start : UInt16} (differs : id + 1 ≠ start) :
    (id + 1 - start).toNat = (id - start).toNat + 1 := by
  rw [Ne, ← UInt16.toNat_inj] at differs
  have := start.toNat_lt
  simp only [UInt16.toNat_sub, UInt16.toNat_add, UInt16.reduceToNat] at differs ⊢
  omega

theorem toNat_sub_succ (id : UInt16) : (id - (id + 1)).toNat = 65535 := by
  simp only [UInt16.toNat_sub, UInt16.toNat_add, UInt16.reduceToNat]
  omega

theorem eq_of_toNat_sub_eq {one other start : UInt16}
    (same : (one - start).toNat = (other - start).toNat) : one = other := by
  have := one.toNat_lt
  have := other.toNat_lt
  rw [← UInt16.toNat_inj]
  simp only [UInt16.toNat_sub] at same
  omega

/-- The loop of `nextAvailableQueryId`. -/
def nextAvailableLoop (loaded : UInt16 → Bool) (start queryId : UInt16) : UInt16 × Option UInt16 :=
  if loaded (queryId + 1) = false then (queryId + 1, some (queryId + 1))
  else if queryId + 1 = start then (queryId + 1, none)
  else nextAvailableLoop loaded start (queryId + 1)
termination_by UInt16.size - (queryId - start).toNat
decreasing_by
  rename_i differs
  have bound := (queryId + 1 - start).toNat_lt
  have next := toNat_succ_sub differs
  simp only [UInt16.size]
  omega

def nextAvailableQueryId : Allocate := fun queryId loaded => nextAvailableLoop loaded queryId queryId

/-- The ids up to the current one are in use; the result is free, or all ids are in use. -/
theorem nextAvailableLoop_spec {loaded : UInt16 → Bool} {start queryId : UInt16}
    (seen : ∀ id, id ≠ start → (id - start).toNat ≤ (queryId - start).toNat → loaded id = true) :
    (∃ id, nextAvailableLoop loaded start queryId = (id, some id) ∧ loaded id = false) ∨
    (nextAvailableLoop loaded start queryId).2 = none ∧ ∀ id, loaded id = true := by
  fun_induction nextAvailableLoop loaded start queryId with
  | case1 queryId free => exact .inl ⟨_, rfl, free⟩
  | case2 queryId taken last =>
    refine .inr ⟨rfl, fun id => ?_⟩
    by_cases same : id = start
    · rw [same, ← last]
      simpa using taken
    · refine seen id same ?_
      rw [← last, toNat_sub_succ]
      exact Nat.le_of_lt_succ (id - (queryId + 1)).toNat_lt
  | case3 queryId taken differs ih =>
    refine ih fun id notStart near => ?_
    by_cases same : id = queryId + 1
    · rw [same]
      simpa using taken
    refine seen id notStart (Nat.le_of_lt_succ (lt_of_le_of_ne ?_ ?_))
    · rwa [toNat_succ_sub differs] at near
    · rw [Nat.succ_eq_add_one, ← toNat_succ_sub differs]
      intro eq
      exact same (eq_of_toNat_sub_eq eq)

theorem nextAvailableQueryId_spec (queryId : UInt16) (loaded : UInt16 → Bool) :
    (∃ id, nextAvailableQueryId queryId loaded = (id, some id) ∧ loaded id = false) ∨
    (nextAvailableQueryId queryId loaded).2 = none ∧ ∀ id, loaded id = true := by
  refine nextAvailableLoop_spec fun id differs near => ?_
  refine absurd (eq_of_toNat_sub_eq (le_antisymm near ?_)) differs
  rw [UInt16.sub_self]
  exact Nat.zero_le _

variable {Query Receiver : Type} [DecidableEq Query] [DecidableEq Receiver]

def udp (Query Receiver : Type) [DecidableEq Query] [DecidableEq Receiver] :
    Machine (Multiplex Query Receiver) (MultiplexEvent Query Receiver) Unit :=
  multiplex Query Receiver nextAvailableQueryId

theorem udp_exact (events : List (MultiplexEvent Query Receiver)) : ((udp Query Receiver).run {} events).Exact := by
  refine (udp Query Receiver).run_invariant (fun _ s => s.Exact) (fun query queryId is => by cases is) ?_ events
  intro past s event exact
  refine exact.step ?_
  rintro ⟨-, -, queryId, -, -, chosen, taken⟩
  rcases nextAvailableQueryId_spec s.queryId s.used with ⟨id, is, free⟩ | ⟨is, -⟩
  · rw [is] at chosen
    cases chosen
    cases taken.symm.trans free
  · cases is.symm.trans chosen

/-- **The responses of a UDP transport reach the right query**, for every interleaving and every sequence of messages:
outstanding ids are distinct and the table has exactly their queries, there is no new id only if all are in use, and
what a query returns came in with the id that it was sent with, and has the original id. -/
theorem udp_routed (events : List (MultiplexEvent Query Receiver)) :
    let s := (udp Query Receiver).run {} events
    (∀ one other queryId, s.Outstanding one queryId → s.Outstanding other queryId → one = other) ∧
    (∀ query queryId, s.Outstanding query queryId ↔ s.callbacks queryId = some query) ∧
    ((nextAvailableQueryId s.queryId s.used).2 = none → ∀ queryId, ∃ query, s.Outstanding query queryId) ∧
    (∀ query other queryId, other ≠ query → s.callbacks queryId = some other →
      (s.finish query).callbacks queryId = some other) ∧
    (∀ receiver message query incoming, s.receivers receiver = none →
      (s.receive receiver message).receivers receiver = some (query, incoming) →
      incoming = message ∧ s.Outstanding query message.id) ∧
    ∀ query message response, s.calls query = .returned message (some response) → s.Answers query message response := by
  intro s
  have exact : s.Exact := udp_exact events
  have traced : s.Traced := Multiplex.traced_run nextAvailableQueryId events
  refine ⟨fun _ _ _ => exact.distinct, fun query queryId => ⟨exact query queryId, traced.table queryId query⟩,
    fun none queryId => ?_, fun query other queryId differs entry => ?_,
    fun receiver message query incoming idle found => ?_,
    fun query message response is => traced.result query message response (.inr is)⟩
  · rcases nextAvailableQueryId_spec s.queryId s.used with ⟨id, is, -⟩ | ⟨-, all⟩
    · rw [is] at none
      cases none
    · obtain ⟨query, entry⟩ := Option.isSome_iff_exists.mp (all queryId)
      exact ⟨query, traced.table queryId query entry⟩
  · refine exact.finish query other queryId ?_
    rw [Multiplex.Outstanding, Multiplex.calls_finish_of_ne differs]
    exact traced.table queryId other entry
  · obtain ⟨rfl, looked⟩ := Multiplex.receive_found idle found
    exact ⟨rfl, traced.table _ query looked⟩

/-! ### TCP with pipelining -/

/-- `c.queryId++`. -/
def nextQueryId : Allocate := fun queryId _ => (queryId + 1, some (queryId + 1))

def pipelined (Query Receiver : Type) [DecidableEq Query] [DecidableEq Receiver] :
    Machine (Multiplex Query Receiver) (MultiplexEvent Query Receiver) Unit :=
  multiplex Query Receiver nextQueryId

/-- No query is outstanding while 65536 others register. -/
def Multiplex.Timely (s : Multiplex Query Receiver) : Prop :=
  ∀ query queryId later, s.Outstanding query queryId → s.registrations[later]? = some (query, queryId) → later < 65536

structure Multiplex.Counted (s : Multiplex Query Receiver) : Prop where
  counter : s.queryId = UInt16.ofNat s.registrations.length
  numbers : ∀ later query queryId, s.registrations[later]? = some (query, queryId) →
    queryId = UInt16.ofNat (s.registrations.length - later)

section Pipelined

open Multiplex

variable {s after : Multiplex Query Receiver} {query : Query} {queryId : UInt16}

theorem Registers.next (one : Registers nextQueryId s after query queryId) :
    queryId = s.queryId + 1 ∧ after.queryId = s.queryId + 1 := by
  obtain ⟨counter, chosen⟩ := Prod.mk.inj one.chosen
  exact ⟨(Option.some.inj chosen).symm, counter.symm⟩

open Multiplex

theorem pipelined_cases (s : Multiplex Query Receiver) (event : MultiplexEvent Query Receiver) :
    NoneRegisters nextQueryId s ((pipelined Query Receiver).step s event).1 ∨
    ∃ query message queryId, event = .register query ∧ s.calls query = .begun message ∧
      Registers nextQueryId s ((pipelined Query Receiver).step s event).1 query queryId :=
  step_cases s nextQueryId event

namespace Multiplex.Counted

variable (counted : s.Counted)

include counted

theorem of_none (none : NoneRegisters nextQueryId s after) : after.Counted := by
  have counter : after.queryId = s.queryId := none.counter.resolve_right (by simp [nextQueryId])
  refine ⟨?_, ?_⟩
  · rw [counter, none.registrations]
    exact counted.counter
  · rw [none.registrations]
    exact counted.numbers

theorem of_registers (one : Registers nextQueryId s after query queryId) : after.Counted := by
  obtain ⟨rfl, counter⟩ := Registers.next one
  have number : s.queryId + 1 = .ofNat (s.registrations.length + 1) := by
    rw [counted.counter, UInt16.ofNat_add]
    rfl
  refine ⟨?_, ?_⟩
  · rw [counter, one.registrations, number]
    rfl
  rw [one.registrations]
  intro later other id is
  cases later with
  | zero =>
    cases is
    exact number
  | succ later =>
    have eq : s.registrations.length + 1 - (later + 1) = s.registrations.length - later := by omega
    rw [length_cons, eq]
    exact counted.numbers later other id is

theorem step (event : MultiplexEvent Query Receiver) : ((pipelined Query Receiver).step s event).1.Counted := by
  rcases pipelined_cases s event with none | ⟨query, message, queryId, -, -, one⟩
  · exact counted.of_none none
  · exact counted.of_registers one

/-- **The ids come round after 65536 registrations.** -/
theorem collides_iff {later : Nat} (is : s.registrations[later]? = some (query, queryId)) :
    queryId = s.queryId + 1 ↔ (later + 1) % 65536 = 0 := by
  obtain ⟨bound, -⟩ := List.getElem?_eq_some_iff.mp is
  rw [counted.numbers later query queryId is, counted.counter, ← UInt16.toNat_inj]
  simp only [UInt16.toNat_add, UInt16.toNat_ofNat', UInt16.reduceToNat]
  omega

end Multiplex.Counted

theorem Multiplex.Timely.step (timely : s.Timely) (traced : s.Traced) (counted : s.Counted)
    {event : MultiplexEvent Query Receiver} (exact : ((pipelined Query Receiver).step s event).1.Exact) :
    ((pipelined Query Receiver).step s event).1.Timely := by
  rcases pipelined_cases s event with none | ⟨query, message, queryId, -, at_, one⟩
  · intro other id later out is
    rw [none.registrations] at is
    exact timely other id later (none.outstanding other id out) is
  obtain ⟨rfl, -⟩ := Registers.next one
  intro other id later out is
  rw [one.registrations] at is
  cases later with
  | zero => exact Nat.zero_lt_succ _
  | succ later =>
    have member : (other, id) ∈ s.registrations := mem_of_getElem? is
    have differs : other ≠ query := by
      rintro rfl
      exact traced.fresh other (.inr ⟨message, at_⟩) (mem_map_of_mem member)
    have bound := timely other id later ((one.others other id differs).mp out) is
    -- the registration of the 65536th after it would give away its id
    have notLast : later + 1 ≠ 65536 := by
      intro last
      have same := (counted.collides_iff is).mpr (by rw [last])
      exact differs (exact.distinct (same ▸ out) one.outstanding)
    omega

theorem Multiplex.Timely.free (traced : s.Traced) (counted : s.Counted)
    {event : MultiplexEvent Query Receiver} (timely : ((pipelined Query Receiver).step s event).1.Timely) :
    ¬s.Collides nextQueryId event := by
  rintro ⟨query, message, queryId, rfl, at_, chosen, taken⟩
  have one := registers_register at_ chosen
  obtain ⟨rfl, -⟩ := Registers.next one
  obtain ⟨other, entry⟩ := Option.isSome_iff_exists.mp taken
  have out := traced.table _ other entry
  obtain ⟨later, is⟩ := mem_iff_getElem?.mp (traced.named other _ out)
  have differs : other ≠ query := by
    rintro rfl
    rw [Outstanding, at_] at out
    cases out
  have bound := timely other _ (later + 1) ((one.others other _ differs).mpr out) (by
    show (s.register nextQueryId query).registrations[later + 1]? = _
    rw [one.registrations]
    exact is)
  have round := (counted.collides_iff is).mp rfl
  omega

theorem counted_run (events : List (MultiplexEvent Query Receiver)) :
    ((pipelined Query Receiver).run {} events).Counted := by
  refine (pipelined Query Receiver).run_invariant (fun _ s => s.Counted) ⟨rfl, ?_⟩
    (fun _ _ event counted => counted.step event) events
  intro later query queryId is
  cases is

/-- **The responses of a pipelined connection reach the right query as long as** no query is outstanding while
65536 others register, and only as long. -/
theorem pipelined_routed_iff (events : List (MultiplexEvent Query Receiver)) :
    (∀ past, past <+: events → ((pipelined Query Receiver).run {} past).Routed) ↔
    ∀ past, past <+: events → ((pipelined Query Receiver).run {} past).Timely := by
  have shorter {past : List (MultiplexEvent Query Receiver)} {event : MultiplexEvent Query Receiver}
      (here : past ++ [event] <+: events) : past <+: events := (prefix_append past [event]).trans here
  constructor
  · intro routed past here
    induction past using reverseRecOn with
    | nil =>
      intro query queryId later out
      cases out
    | append_singleton past event ih =>
      rw [Machine.run_concat]
      refine (ih (shorter here)).step (traced_run nextQueryId past) (counted_run past) ?_
      rw [← Machine.run_concat]
      exact (routed _ here).2.1
  · intro timely past here
    have exact : ((pipelined Query Receiver).run {} past).Exact := by
      induction past using reverseRecOn with
      | nil =>
        intro query queryId out
        cases out
      | append_singleton past event ih =>
        have next := timely _ here
        rw [Machine.run_concat] at next ⊢
        exact (ih (shorter here)).step (Timely.free (traced_run nextQueryId past) (counted_run past) next)
    have traced := traced_run nextQueryId past
    exact ⟨fun _ _ _ => exact.distinct, exact, fun query message response is =>
      traced.result query message response (.inr is)⟩

/-! ### A query that is outstanding for too long -/

/-- A query that is registered, cannot be written, and leaves. -/
def shortQuery (query : Nat) : List (MultiplexEvent Nat Unit) :=
  [.start query {}, .register query, .write query false, .finish query]

/-- The first query stays in the table while others come and go. -/
def slowQuery (count : Nat) : List (MultiplexEvent Nat Unit) :=
  [.start 0 {}, .register 0] ++ (List.range count).flatMap fun query => shortQuery (query + 1)

theorem shortQuery_run {s : Multiplex Nat Unit} {query : Nat} (at_ : s.calls query = .ready) :
    let after := (pipelined Nat Unit).run s (shortQuery query)
    after.queryId = s.queryId + 1 ∧ ∀ other, other ≠ query → after.calls other = s.calls other := by
  simp only [shortQuery, Machine.run, pipelined, multiplex, foldl_cons, foldl_nil, at_,
    goTo, register, write, finish, nextQueryId, Function.update_self,
    Function.update_idem, Bool.false_eq_true, if_false, true_and]
  intro other differs
  exact Function.update_of_ne differs _ _

theorem slowQuery_run (count : Nat) :
    let s := (pipelined Nat Unit).run {} (slowQuery count)
    s.queryId = UInt16.ofNat (count + 1) ∧ s.calls 0 = .registered {} 1 ∧
      ∀ query, count < query → s.calls query = .ready := by
  induction count with
  | zero =>
    refine ⟨rfl, rfl, fun query positive => ?_⟩
    simp [slowQuery, Machine.run, pipelined, multiplex, goTo, register, nextQueryId, ne_of_gt positive]
  | succ count ih =>
    obtain ⟨counter, first, rest⟩ := ih
    have more : slowQuery (count + 1) = slowQuery count ++ shortQuery (count + 1) := by
      simp [slowQuery, range_succ]
    obtain ⟨next, others⟩ := shortQuery_run (rest (count + 1) (Nat.lt_succ_self count))
    rw [more, Machine.run_append]
    refine ⟨?_, ?_, fun query later => ?_⟩
    · rw [next, counter, UInt16.ofNat_add (count + 1)]
      rfl
    · rw [others 0 (Nat.succ_ne_zero count).symm, first]
    · rw [others query (ne_of_gt later)]
      exact rest query (Nat.lt_of_succ_lt later)

theorem not_routed_of_round {count : Nat} (round : UInt16.ofNat (count + 1) + 1 = 1) : ¬((pipelined Nat Unit).run {}
      (slowQuery count ++ [.start (count + 1) {}, .register (count + 1)])).Routed := by
  intro routed
  obtain ⟨counter, first, rest⟩ := slowQuery_run count
  have ready := rest (count + 1) (Nat.lt_succ_self count)
  rw [Machine.run_append] at routed
  generalize (pipelined Nat Unit).run {} (slowQuery count) = s at *
  have slow : ((pipelined Nat Unit).run s [.start (count + 1) {}, .register (count + 1)]).Outstanding 0 1 := by
    simp [Machine.run, pipelined, multiplex, goTo, register, nextQueryId, ready,
      Multiplex.Outstanding, first, ExchangePoint.wireId]
  have last : ((pipelined Nat Unit).run s
      [.start (count + 1) {}, .register (count + 1)]).Outstanding (count + 1) 1 := by
    simp only [Machine.run, pipelined, multiplex, goTo, register, nextQueryId, ready,
      Multiplex.Outstanding, counter, ExchangePoint.wireId, foldl_cons, foldl_nil,
      Function.update_self, round]
  exact Nat.succ_ne_zero count (routed.1 0 (count + 1) 1 slow last).symm

/-- **After 65535 others the next query takes the id of the first.** -/
theorem pipelined_wraps :
    ¬((pipelined Nat Unit).run {} (slowQuery 65535 ++ [.start 65536 {}, .register 65536])).Routed :=
  not_routed_of_round (by decide)

end Pipelined

end SingBox.Dns
