/-
**Many queries over one DNS transport** (`dns/transport/udp.go`: `exchange`, `recvLoop`;
`dns/transport/tcp.go`: `exchangeWithCleanup` with pipelining, `recvLoop`).

Both transports send each query with a 16-bit id of their own, keep a table of callbacks by that id, and pass a
message that comes in to the callback of its id. They differ only in how they choose an id (`Allocate`): UDP looks for
one that is free, TCP takes the next one.

Calls and receive loops run at the same time. The sections under the lock of the table are steps, and so are a write,
the choice of a `select`, and the delivery of a message to a callback that was looked up before. Connections may be
replaced, and queries given up, at any time.
-/

import SingBox.Dns.Message
import SingBox.Lib.Machine

set_option linter.unusedSectionVars false

namespace SingBox.Dns

open SingBox.Lib List Function

/-- The next counter, and the id for a new query, given the counter and the ids in use. -/
abbrev Allocate := UInt16 → (UInt16 → Bool) → UInt16 × Option UInt16

/-- Where an exchange is: it has a connection, is in the table, has written its query, has left its
`select` or failed (and will take itself out of the table), or has returned. -/
inductive ExchangePoint where
  | ready
  | begun (message : Msg)
  | registered (message : Msg) (queryId : UInt16)
  | waiting (message : Msg) (queryId : UInt16)
  | leaving (message : Msg) (queryId : UInt16) (result : Option Msg)
  | returned (message : Msg) (result : Option Msg)

def ExchangePoint.wireId : ExchangePoint → Option UInt16
  | registered _ queryId | waiting _ queryId | leaving _ queryId _ => some queryId
  | _ => none

/-- The transport: its table, the exchanges with the responses in their callbacks, and the receive loops
with the callback and the message that they are about to bring together. `registrations`, `sent` and
`received` are what has happened, the last first. -/
structure Multiplex (Query Receiver : Type) where
  queryId : UInt16 := 0
  callbacks : UInt16 → Option Query := fun _ => none
  calls : Query → ExchangePoint := fun _ => .ready
  responses : Query → Option Msg := fun _ => none
  receivers : Receiver → Option (Query × Msg) := fun _ => none
  registrations : List (Query × UInt16) := []
  sent : List (Query × Msg) := []
  received : List Msg := []

/-- `answered` is that the `select` takes the response; otherwise it is the context of the connection or of
the caller. -/
inductive MultiplexEvent (Query Receiver : Type) where
  | start (query : Query) (message : Msg)
  | noConnection (query : Query)
  | register (query : Query)
  | write (query : Query) (ok : Bool)
  | select (query : Query) (answered : Bool)
  | finish (query : Query)
  | receive (receiver : Receiver) (message : Msg)
  | deliver (receiver : Receiver)

variable {Query Receiver : Type}

namespace Multiplex

def used (s : Multiplex Query Receiver) (queryId : UInt16) : Bool := (s.callbacks queryId).isSome

variable [DecidableEq Query] [DecidableEq Receiver]

def goTo (s : Multiplex Query Receiver) (query : Query) (point : ExchangePoint) : Multiplex Query Receiver :=
  { s with calls := Function.update s.calls query point }

/-- The section that takes an id and puts the callback into the table. -/
def register (allocate : Allocate) (s : Multiplex Query Receiver) (query : Query) : Multiplex Query Receiver :=
  match s.calls query with
  | .begun message =>
    let chosen := allocate s.queryId s.used
    let s := { s with queryId := chosen.1 }
    match chosen.2 with
    | none => s.goTo query (.returned message none)
    | some queryId =>
      let s := { s with
        callbacks     := Function.update s.callbacks queryId (some query)
        registrations := (query, queryId) :: s.registrations }
      s.goTo query (.registered message queryId)
  | _ => s

variable (s : Multiplex Query Receiver)

/-- The query is written with its id, or cannot be packed or written. -/
def write (query : Query) (ok : Bool) : Multiplex Query Receiver :=
  match s.calls query with
  | .registered message queryId =>
    if ok then
      let exMessage := { message with id := queryId, compress := true }
      { s.goTo query (.waiting message queryId) with sent := (query, exMessage) :: s.sent }
    else s.goTo query (.leaving message queryId none)
  | _ => s

/-- The `select`. The response is taken only when there is one, and gets the original id. -/
def select (query : Query) (answered : Bool) : Multiplex Query Receiver :=
  match s.calls query with
  | .waiting message queryId =>
    if answered then
      match s.responses query with
      | some response => s.goTo query (.leaving message queryId (some { response with id := message.id }))
      | none => s
    else s.goTo query (.leaving message queryId none)
  | _ => s

/-- The deferred section that takes the callback out of the table. -/
def finish (query : Query) : Multiplex Query Receiver :=
  match s.calls query with
  | .leaving message queryId result =>
    { s.goTo query (.returned message result) with callbacks := Function.update s.callbacks queryId none }
  | _ => s

/-- A receive loop that has read a message looks its id up. -/
def receive (receiver : Receiver) (message : Msg) : Multiplex Query Receiver :=
  match s.receivers receiver with
  | some _ => s
  | none =>
    { s with
      received  := message :: s.received
      receivers := Function.update s.receivers receiver ((s.callbacks message.id).map fun query => (query, message)) }

/-- A receive loop gives the message to the callback, unless that has one. -/
def deliver (receiver : Receiver) : Multiplex Query Receiver :=
  match s.receivers receiver with
  | none => s
  | some (query, message) =>
    { s with
      receivers := Function.update s.receivers receiver none
      responses := Function.update s.responses query (some ((s.responses query).getD message)) }

end Multiplex

/-- **A transport with any number of exchanges and receive loops.** -/
def multiplex (Query Receiver : Type) [DecidableEq Query] [DecidableEq Receiver] (allocate : Allocate) :
    Machine (Multiplex Query Receiver) (MultiplexEvent Query Receiver) Unit where
  step s event :=
    match event with
    | .start query message =>
      match s.calls query with
      | .ready => (s.goTo query (.begun message), none)
      | _ => (s, none)
    | .noConnection query =>
      match s.calls query with
      | .begun message => (s.goTo query (.returned message none), none)
      | _ => (s, none)
    | .register query => (s.register allocate query, none)
    | .write query ok => (s.write query ok, none)
    | .select query answered => (s.select query answered, none)
    | .finish query => (s.finish query, none)
    | .receive receiver message => (s.receive receiver message, none)
    | .deliver receiver => (s.deliver receiver, none)

/-! ### What holds whatever ids are chosen -/

namespace Multiplex

def Outstanding (s : Multiplex Query Receiver) (query : Query) (queryId : UInt16) : Prop :=
  (s.calls query).wireId = some queryId

def Answers (s : Multiplex Query Receiver) (query : Query) (message response : Msg) : Prop :=
  ∃ incoming ∈ s.received, ∃ wire, (query, wire) ∈ s.sent ∧ wire.id = incoming.id ∧
    response = { incoming with id := message.id }

/-- The table and the messages against what has happened. -/
structure Traced (s : Multiplex Query Receiver) : Prop where
  table : ∀ queryId query, s.callbacks queryId = some query → s.Outstanding query queryId
  named : ∀ query queryId, s.Outstanding query queryId → (query, queryId) ∈ s.registrations
  once : (s.registrations.map Prod.fst).Nodup
  fresh : ∀ query, s.calls query = .ready ∨ (∃ message, s.calls query = .begun message) →
    query ∉ s.registrations.map Prod.fst
  waiting : ∀ query message queryId, s.calls query = .waiting message queryId →
    (query, { message with id := queryId, compress := true }) ∈ s.sent
  looked : ∀ receiver query message, s.receivers receiver = some (query, message) →
    message ∈ s.received ∧ (query, message.id) ∈ s.registrations
  answered : ∀ query message, s.responses query = some message →
    message ∈ s.received ∧ (query, message.id) ∈ s.registrations
  result : ∀ query message response, (∃ queryId, s.calls query = .leaving message queryId (some response)) ∨
    s.calls query = .returned message (some response) → s.Answers query message response

theorem Traced.unique {s : Multiplex Query Receiver} (traced : s.Traced) {query : Query} {one other : UInt16}
    (first : (query, one) ∈ s.registrations) (second : (query, other) ∈ s.registrations) : one = other :=
  congrArg Prod.snd (inj_on_of_nodup_map traced.once first second rfl)

theorem traced_initial : ({} : Multiplex Query Receiver).Traced where
  table _ _ is := by cases is
  named _ _ is := by cases is
  once := nodup_nil
  fresh _ _ := not_mem_nil
  waiting _ _ _ is := by cases is
  looked _ _ _ is := by cases is
  answered _ _ is := by cases is
  result _ _ _ is := by
    rcases is with ⟨_, is⟩ | is <;> cases is

section Steps

variable [DecidableEq Query] [DecidableEq Receiver] {s : Multiplex Query Receiver} {query : Query} {allocate : Allocate}

open ExchangePoint

section

variable (traced : s.Traced)

include traced

namespace Traced

/-- **A call goes on.** What is to be shown of its new point. -/
theorem goTo {point : ExchangePoint}
    (place : point.wireId = (s.calls query).wireId ∨ point.wireId = none ∧ ∀ queryId, s.callbacks queryId ≠ some query)
    (fresh : point = .ready ∨ (∃ message, point = .begun message) → query ∉ s.registrations.map Prod.fst)
    (waiting : ∀ message queryId, point = .waiting message queryId →
      (query, { message with id := queryId, compress := true }) ∈ s.sent)
    (result : ∀ message response, (∃ queryId, point = .leaving message queryId (some response)) ∨
      point = .returned message (some response) → s.Answers query message response) :
    (s.goTo query point).Traced := by
  have self : (s.goTo query point).calls query = point := update_self _ _ _
  have others {other : Query} (differs : other ≠ query) : (s.goTo query point).calls other = s.calls other :=
    update_of_ne differs _ _
  refine ⟨fun queryId other is => ?_, fun other queryId is => ?_, traced.once, fun other is => ?_,
    fun other message queryId is => ?_, traced.looked, traced.answered, fun other message response is => ?_⟩
  all_goals by_cases same : other = query
  · subst same
    rcases place with place | ⟨_, free⟩
    · exact (congrArg wireId self).trans (place.trans (traced.table queryId other is))
    · exact absurd is (free queryId)
  · exact (congrArg wireId (others same)).trans (traced.table queryId other is)
  · subst same
    have named := (congrArg wireId self).symm.trans is
    rcases place with place | ⟨none, _⟩
    · exact traced.named other queryId (place.symm.trans named)
    · cases none.symm.trans named
  · exact traced.named other queryId ((congrArg wireId (others same)).symm.trans is)
  · subst same
    rw [self] at is
    exact fresh is
  · rw [others same] at is
    exact traced.fresh other is
  · subst same
    exact waiting message queryId (self.symm.trans is)
  · exact traced.waiting other message queryId ((others same).symm.trans is)
  · subst same
    rw [self] at is
    exact result message response is
  · rw [others same] at is
    exact traced.result other message response is

theorem registered {message : Msg} (at_ : s.calls query = .begun message)
    (counter queryId : UInt16) : (Multiplex.goTo
      { s with
        queryId := counter, callbacks := update s.callbacks queryId (some query),
        registrations := (query, queryId) :: s.registrations }
      query (.registered message queryId)).Traced := by
  have new := traced.fresh query (.inr ⟨message, at_⟩)
  have calls other differs :
      update s.calls query (.registered message queryId) other = s.calls other :=
    update_of_ne differs _ _
  have self : update s.calls query (.registered message queryId) query =
    .registered message queryId := update_self _ _ _
  refine ⟨fun id other is => ?_, fun other id is => ?_, nodup_cons.mpr ⟨new, traced.once⟩,
    fun other is => ?_, fun other text id is => ?_,
    fun receiver other text is => (traced.looked receiver other text is).imp_right (mem_cons_of_mem _),
    fun other text is => (traced.answered other text is).imp_right (mem_cons_of_mem _), fun other text response is => ?_⟩
  · have entry : update s.callbacks queryId (some query) id = some other := is
    by_cases same : id = queryId
    · rw [same, update_self] at entry
      cases entry
      rw [same]
      exact congrArg wireId self
    · have old : s.callbacks id = some other := (update_of_ne same _ _).symm.trans is
      have differs : other ≠ query := by
        rintro rfl
        have outstanding := traced.table id other old
        rw [Outstanding, at_] at outstanding
        cases outstanding
      exact (congrArg wireId (calls other differs)).trans (traced.table id other old)
  all_goals by_cases same : other = query
  · subst same
    cases (congrArg wireId self).symm.trans is
    exact mem_cons_self
  · exact mem_cons_of_mem _ (traced.named other id ((congrArg wireId (calls other same)).symm.trans is))
  · subst same
    rcases is with is | ⟨text, is⟩ <;> cases self.symm.trans is
  · have old := traced.fresh other (is.imp (calls other same).symm.trans (.imp fun _ => (calls other same).symm.trans))
    exact fun member => (mem_cons.mp member).elim same old
  · subst same
    cases self.symm.trans is
  · exact traced.waiting other text id ((calls other same).symm.trans is)
  · subst same
    rcases is with ⟨id, is⟩ | is <;> cases self.symm.trans is
  · refine traced.result other text response ?_
    exact is.imp (.imp fun _ => (calls other same).symm.trans) (calls other same).symm.trans

theorem register (allocate : Allocate) (query : Query) : (s.register allocate query).Traced := by
  fun_cases Multiplex.register allocate s query with
  | case1 message at_ =>
    have counted : ({ s with queryId := (allocate s.queryId s.used).1 } : Multiplex Query Receiver).Traced :=
      { traced with }
    exact counted.goTo (.inl (by rw [at_]; rfl)) (by simp) (by simp) (by simp)
  | case2 message at_ _ _ queryId => exact traced.registered at_ _ queryId
  | case3 => exact traced

theorem write (query : Query) (ok : Bool) : (s.write query ok).Traced := by
  fun_cases Multiplex.write s query ok with
  | case1 message queryId at_ =>
    -- the log first, then the point of the call
    have logged : ({ s with sent := (query, { message with id := queryId, compress := true }) :: s.sent } :
        Multiplex Query Receiver).Traced :=
      { traced with
        waiting := fun other text id is => mem_cons_of_mem _ (traced.waiting other text id is)
        result := fun other text response is => by
          obtain ⟨incoming, came, wire, sent, rest⟩ := traced.result other text response is
          exact ⟨incoming, came, wire, mem_cons_of_mem _ sent, rest⟩ }
    refine logged.goTo (.inl (by rw [at_]; rfl)) (by simp) (fun text id is => ?_) (by simp)
    cases is
    exact mem_cons_self
  | case2 _ _ at_ => exact traced.goTo (.inl (by rw [at_]; rfl)) (by simp) (by simp) (by simp)
  | case3 => exact traced

theorem select (query : Query) (answered : Bool) : (s.select query answered).Traced := by
  fun_cases Multiplex.select s query answered with
  | case1 message queryId at_ _ incoming came =>
    have registered := traced.named query queryId (by rw [Outstanding, at_]; rfl)
    obtain ⟨received, looked⟩ := traced.answered query incoming came
    refine traced.goTo (.inl (by rw [at_]; rfl)) (by simp) (by simp) fun text response is => ?_
    rcases is with ⟨id, is⟩ | is
    · cases is
      exact ⟨incoming, received, _, traced.waiting query message queryId at_, traced.unique registered looked, rfl⟩
    · cases is
  | case3 _ _ at_ => exact traced.goTo (.inl (by rw [at_]; rfl)) (by simp) (by simp) (by simp)
  | case2 | case4 => exact traced

theorem finish (query : Query) : (s.finish query).Traced := by
  fun_cases Multiplex.finish s query with
  | case2 => exact traced
  | case1 message queryId result at_ =>
    have here : s.Outstanding query queryId := by rw [Outstanding, at_]; rfl
    have deleted : ({ s with callbacks := update s.callbacks queryId none } : Multiplex Query Receiver).Traced :=
      { traced with
        table := fun id other is => by
          by_cases same : id = queryId
          · simp [same] at is
          · exact traced.table id other (by simpa [same] using is) }
    refine deleted.goTo (.inr ⟨rfl, fun id is => ?_⟩) (by simp) (by simp) ?_
    · -- its own entry has been deleted, and it has no other
      by_cases same : id = queryId
      · simp [same] at is
      · have other := here.symm.trans (traced.table id query (by simpa [same] using is))
        cases other
        exact absurd rfl same
    · rintro text response (⟨id, is⟩ | is)
      · cases is
      · cases is
        exact traced.result query message response (.inl ⟨queryId, at_⟩)

theorem receive (receiver : Receiver) (message : Msg) : (s.receive receiver message).Traced := by
  unfold Multiplex.receive
  split
  · exact traced
  refine { traced with looked := ?_, answered := ?_, result := ?_ }
  · intro other query text is
    by_cases same : other = receiver
    · have found : (s.callbacks message.id).map (fun query => (query, message)) = some (query, text) := by
        simpa [same] using is
      obtain ⟨owner, entry, eq⟩ := Option.map_eq_some_iff.mp found
      cases eq
      exact ⟨mem_cons_self, traced.named query message.id (traced.table message.id query entry)⟩
    · have old := traced.looked other query text (by simpa [same] using is)
      exact old.imp_left (mem_cons_of_mem _)
  · intro query text is
    exact (traced.answered query text is).imp_left (mem_cons_of_mem _)
  · intro query text response is
    obtain ⟨incoming, came, rest⟩ := traced.result query text response is
    exact ⟨incoming, mem_cons_of_mem _ came, rest⟩

theorem deliver (receiver : Receiver) : (s.deliver receiver).Traced := by
  fun_cases Multiplex.deliver s receiver with
  | case1 => exact traced
  | case2 query message held =>
    refine { traced with looked := ?_, answered := ?_ }
    · intro other owner text is
      by_cases same : other = receiver
      · simp [same] at is
      · exact traced.looked other owner text (by simpa [same] using is)
    · intro owner text is
      by_cases same : owner = query
      · subst same
        have chosen : (s.responses owner).getD message = text := by simpa using is
        cases first : s.responses owner with
        | none =>
          rw [first] at chosen
          cases chosen
          exact traced.looked receiver owner message held
        | some earlier =>
          rw [first] at chosen
          cases chosen
          exact traced.answered owner earlier first
      · exact traced.answered owner text (by simpa [same] using is)

theorem step (allocate : Allocate) (event : MultiplexEvent Query Receiver) :
    ((multiplex Query Receiver allocate).step s event).1.Traced := by
  cases event with
  | start query message =>
    unfold multiplex
    dsimp only
    split
    · rename_i at_
      exact traced.goTo (.inl (by rw [at_]; rfl)) (fun _ => traced.fresh query (.inl at_)) (by simp) (by simp)
    · exact traced
  | noConnection query =>
    unfold multiplex
    dsimp only
    split
    · rename_i message at_
      exact traced.goTo (.inl (by rw [at_]; rfl)) (by simp) (by simp) (by simp)
    · exact traced
  | register query => exact traced.register allocate query
  | write query ok => exact traced.write query ok
  | select query answered => exact traced.select query answered
  | finish query => exact traced.finish query
  | receive receiver message => exact traced.receive receiver message
  | deliver receiver => exact traced.deliver receiver

end Traced

end

theorem traced_run (allocate : Allocate) (events : List (MultiplexEvent Query Receiver)) :
    ((multiplex Query Receiver allocate).run {} events).Traced :=
  (multiplex Query Receiver allocate).run_invariant (fun _ s => s.Traced) traced_initial
    (fun _ _ event traced => traced.step allocate event) events

/-! ### Every outstanding query is in the table -/

/-- Every outstanding query has its place in the table. -/
def Exact (s : Multiplex Query Receiver) : Prop :=
  ∀ query queryId, s.Outstanding query queryId → s.callbacks queryId = some query

/-- **Responses reach the right query**: the ids of outstanding queries are distinct, all of these queries are
in the table, and what a query returns came in with the id that it was sent with. -/
def Routed (s : Multiplex Query Receiver) : Prop :=
  (∀ one other queryId, s.Outstanding one queryId → s.Outstanding other queryId → one = other) ∧
  (∀ query queryId, s.Outstanding query queryId → s.callbacks queryId = some query) ∧
  ∀ query message response, s.calls query = .returned message (some response) → s.Answers query message response

def Collides (allocate : Allocate) (s : Multiplex Query Receiver) (event : MultiplexEvent Query Receiver) : Prop :=
  ∃ query message queryId, event = .register query ∧ s.calls query = .begun message ∧
    (allocate s.queryId s.used).2 = some queryId ∧ s.used queryId = true

theorem outstanding_goTo {point : ExchangePoint} (less : ∀ id, point.wireId = some id → s.Outstanding query id)
    (other : Query) (id : UInt16) (is : (s.goTo query point).Outstanding other id) : s.Outstanding other id := by
  have at_ : (update s.calls query point other).wireId = some id := is
  by_cases same : other = query
  · subst same
    rw [update_self] at at_
    exact less id at_
  · rwa [update_of_ne same] at at_

theorem Exact.register (exact : s.Exact) (free : ∀ message queryId, s.calls query = .begun message →
      (allocate s.queryId s.used).2 = some queryId → s.used queryId = false) : (s.register allocate query).Exact := by
  unfold Multiplex.register
  cases at_ : s.calls query with
  | begun message =>
    dsimp only
    cases chosen : (allocate s.queryId s.used).2 with
    | none =>
      intro other id is
      exact exact other id (outstanding_goTo (fun _ is => by cases is) other id is)
    | some queryId =>
      intro other id is
      show update s.callbacks queryId (some query) id = some other
      have point : (update s.calls query (.registered message queryId) other).wireId = some id := is
      by_cases same : other = query
      · rw [same, update_self] at point
        cases point
        rw [update_self, same]
      rw [update_of_ne same] at point
      have entry := exact other id point
      have differs : id ≠ queryId := by
        rintro rfl
        have unused := free message id at_ chosen
        rw [used, entry] at unused
        cases unused
      rw [update_of_ne differs, entry]
  | _ => exact exact

/-- **A query that leaves takes out its own entry only.** -/
theorem Exact.finish (exact : s.Exact) (query : Query) : (s.finish query).Exact := by
  unfold Multiplex.finish
  cases at_ : s.calls query with
  | leaving message queryId result =>
    have here : s.callbacks queryId = some query := exact query queryId (by rw [Outstanding, at_]; rfl)
    intro other id is
    show update s.callbacks queryId none id = some other
    have point : (update s.calls query (.returned message result) other).wireId = some id := is
    by_cases same : other = query
    · rw [same, update_self] at point
      cases point
    rw [update_of_ne same] at point
    have entry := exact other id point
    have differs : id ≠ queryId := by
      rintro rfl
      exact same (Option.some.inj (entry.symm.trans here))
    rw [update_of_ne differs, entry]
  | _ => exact exact

/-- The steps that neither take an id nor give one back. -/
structure Keeps (s after : Multiplex Query Receiver) : Prop where
  counter : after.queryId = s.queryId
  callbacks : after.callbacks = s.callbacks
  registrations : after.registrations = s.registrations
  outstanding : ∀ query queryId, after.Outstanding query queryId → s.Outstanding query queryId

theorem step_keeps (s : Multiplex Query Receiver) (allocate : Allocate) (event : MultiplexEvent Query Receiver) :
    s.Keeps ((multiplex Query Receiver allocate).step s event).1 ∨
    (∃ query, event = .register query) ∨ ∃ query, event = .finish query := by
  have stays : s.Keeps s := ⟨rfl, rfl, rfl, fun _ _ => id⟩
  -- a call that stays in the table keeps its id
  have goOn {query : Query} {point : ExchangePoint} (same : point.wireId = (s.calls query).wireId) :
      s.Keeps (s.goTo query point) :=
    ⟨rfl, rfl, rfl, outstanding_goTo fun id is => same.symm.trans is⟩
  cases event with
  | register query => exact .inr (.inl ⟨query, rfl⟩)
  | finish query => exact .inr (.inr ⟨query, rfl⟩)
  | start query message | noConnection query =>
    refine .inl ?_
    unfold multiplex
    dsimp only
    split
    · rename_i at_
      exact goOn (by rw [at_]; rfl)
    · exact stays
  | write query ok =>
    refine .inl (?_ : s.Keeps (s.write query ok))
    fun_cases write s query ok with
    | case1 _ _ at_ => exact { goOn (by rw [at_]; rfl) with }
    | case2 _ _ at_ => exact goOn (by rw [at_]; rfl)
    | case3 => exact stays
  | select query answered =>
    refine .inl (?_ : s.Keeps (s.select query answered))
    fun_cases select s query answered with
    | case1 _ _ at_ | case3 _ _ at_ => exact goOn (by rw [at_]; rfl)
    | case2 | case4 => exact stays
  | receive receiver message =>
    refine .inl (?_ : s.Keeps (s.receive receiver message))
    fun_cases receive s receiver message with
    | case1 => exact stays
    | case2 => exact { stays with }
  | deliver receiver =>
    refine .inl (?_ : s.Keeps (s.deliver receiver))
    fun_cases deliver s receiver with
    | case1 => exact stays
    | case2 => exact { stays with }

/-- **A step that takes no id in use keeps the table exact.** -/
theorem Exact.step (exact : s.Exact) {event : MultiplexEvent Query Receiver}
    (free : ¬s.Collides allocate event) : ((multiplex Query Receiver allocate).step s event).1.Exact := by
  rcases step_keeps s allocate event with keeps | ⟨query, rfl⟩ | ⟨query, rfl⟩
  · intro query queryId is
    rw [keeps.callbacks]
    exact exact query queryId (keeps.outstanding query queryId is)
  · refine exact.register fun message queryId at_ chosen => ?_
    by_contra taken
    exact free ⟨query, message, queryId, rfl, at_, chosen, by simpa using taken⟩
  · exact exact.finish query

/-! ### The registrations -/

/-- No query takes an id, though one may have asked for it. -/
structure NoneRegisters (allocate : Allocate) (s after : Multiplex Query Receiver) : Prop where
  counter : after.queryId = s.queryId ∨ (allocate s.queryId s.used).2 = none
  registrations : after.registrations = s.registrations
  outstanding : ∀ query queryId, after.Outstanding query queryId → s.Outstanding query queryId

structure Registers (allocate : Allocate) (s after : Multiplex Query Receiver) (query : Query)
    (queryId : UInt16) : Prop where
  chosen : allocate s.queryId s.used = (after.queryId, some queryId)
  registrations : after.registrations = (query, queryId) :: s.registrations
  outstanding : after.Outstanding query queryId
  others : ∀ other id, other ≠ query → (after.Outstanding other id ↔ s.Outstanding other id)

theorem registers_register {message : Msg} {queryId : UInt16} (at_ : s.calls query = .begun message)
    (chosen : (allocate s.queryId s.used).2 = some queryId) :
    Registers allocate s (s.register allocate query) query queryId := by
  unfold register
  rw [at_]
  dsimp only
  rw [chosen]
  refine ⟨Prod.ext rfl chosen, rfl, ?_, fun other id differs => ?_⟩
  · show (update s.calls query (.registered message queryId) query).wireId = some queryId
    rw [update_self]
    rfl
  · show (update s.calls query (.registered message queryId) other).wireId = some id ↔ _
    rw [update_of_ne differs]
    rfl

theorem step_cases (s : Multiplex Query Receiver) (allocate : Allocate) (event : MultiplexEvent Query Receiver) :
    NoneRegisters allocate s ((multiplex Query Receiver allocate).step s event).1 ∨
    ∃ query message queryId, event = .register query ∧ s.calls query = .begun message ∧
      Registers allocate s ((multiplex Query Receiver allocate).step s event).1 query queryId := by
  have stays : NoneRegisters allocate s s := ⟨.inl rfl, rfl, fun _ _ => id⟩
  rcases step_keeps s allocate event with keeps | ⟨query, rfl⟩ | ⟨query, rfl⟩
  · exact .inl ⟨.inl keeps.counter, keeps.registrations, keeps.outstanding⟩
  · cases at_ : s.calls query with
    | begun message =>
      cases chosen : (allocate s.queryId s.used).2 with
      | none =>
        refine .inl (?_ : NoneRegisters allocate s (s.register allocate query))
        simp only [register, at_, chosen]
        exact ⟨.inr chosen, rfl, outstanding_goTo fun _ is => by cases is⟩
      | some queryId => exact .inr ⟨query, message, queryId, rfl, at_, registers_register at_ chosen⟩
    | _ =>
      refine .inl (?_ : NoneRegisters allocate s (s.register allocate query))
      simpa only [register, at_] using stays
  · refine .inl (?_ : NoneRegisters allocate s (s.finish query))
    fun_cases finish s query with
    | case1 => exact ⟨.inl rfl, rfl, outstanding_goTo fun _ is => by cases is⟩
    | case2 => exact stays

theorem calls_finish_of_ne {other : Query} (differs : other ≠ query) :
    (s.finish query).calls other = s.calls other := by
  unfold finish
  split
  · exact update_of_ne differs _ _
  · rfl

theorem receive_found {receiver : Receiver} {message incoming : Msg} (idle : s.receivers receiver = none)
    (found : (s.receive receiver message).receivers receiver = some (query, incoming)) :
    incoming = message ∧ s.callbacks message.id = some query := by
  unfold receive at found
  rw [idle] at found
  have looked : (s.callbacks message.id).map (fun query => (query, message)) = some (query, incoming) := by
    simpa using found
  obtain ⟨owner, entry, eq⟩ := Option.map_eq_some_iff.mp looked
  cases eq
  exact ⟨rfl, entry⟩

theorem Exact.distinct (exact : s.Exact) {one other : Query} {queryId : UInt16}
    (first : s.Outstanding one queryId) (second : s.Outstanding other queryId) : one = other :=
  Option.some.inj ((exact one queryId first).symm.trans (exact other queryId second))

end Steps

end Multiplex

end SingBox.Dns
