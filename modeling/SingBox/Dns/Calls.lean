/-
**The DNS client under concurrent and nested calls** (`dns/client.go`: `Exchange`, `lookupToExchange`).

Around the two halves of a call stands what calls do to each other. A call that may write the cache marks its
transport and key while its transport is asked, and another such call waits for the mark to go. A call that refreshes
the cache is in the set `updating` instead. While a transport is asked, it may resolve further names with the context
that it was given. Everything else is left to the events: what is asked and when, what the transports answer, when a
call that waits gives up, what leaves the caches.
-/

import SingBox.Dns.Exchange

namespace SingBox.Dns

open SingBox.Lib Option Function

/-! ### Calls in flight -/

/-- `transportCacheKey`. -/
structure TransportKey where
  key : DnsCacheKey
  transportTag : Bytes
  deriving DecidableEq

/-- A call in flight: the calls that it is made for, with their transports, from the inside out; whether it has set its
mark; and the call whose mark it waits for, if its transport is not asked yet. -/
structure Flight where
  call : Call
  request : Request
  enclosing : List (Nat × Bytes)
  marks : Bool
  waitsFor : Option Nat

/-- What a transport is asked with, and what it uses to resolve further names. -/
def Flight.context (flight : Flight) : Context :=
  { flight.call.context with transportTag := some flight.call.transport }

def Flight.key (flight : Flight) : TransportKey := ⟨flight.request.key, flight.call.transport⟩

/-- The client with the calls in flight and their marks. -/
structure Calls where
  state : ClientState := {}
  flights : Nat → Option Flight := fun _ => none
  markers : TransportKey → Option Nat := fun _ => none
  next : Nat := 0

/-- `lookupToExchange`, the part that looks into the cache. -/
structure FamilyLookup where
  context : Context := {}
  transport : Bytes
  question : Question
  options : DNSQueryOptions := {}

inductive CallEvent where
  | begin (call : Call) (parent : Option Nat) (now : Nat)
  | resume (id now : Nat)
  | cancel (id : Nat)
  | reply (id : Nat) (answer : Except TransportError Msg) (now : Nat)
  | lookup (lookup : FamilyLookup) (parent : Option Nat) (now : Nat)
  | evict (slot : CacheSlot)
  | forget (key : RdrcKey)

/-- What is returned: by a call, or by the cache to a lookup. -/
inductive Returned where
  | exchanged (call : Call) (outcome : Outcome)
  | looked (lookup : FamilyLookup) (response : Msg) (stale : Bool)

def Returned.outcome : Returned → Option Outcome
  | .exchanged _ outcome => some outcome
  | .looked _ _ _ => none

section Machine

variable (lib : DnsLibrary) (client : Client)

/-- A call that may write the cache and does not refresh it sets a mark, or waits for one. -/
def Request.needsMark (request : Request) (call : Call) : Bool :=
  request.cacheReadable && request.cacheWritable && !call.context.updating

/-- The context of what is done for another call, and the calls around it; nothing if that call does not ask its
transport. -/
def Calls.within (system : Calls) (context : Context) : Option Nat → Option (Context × List (Nat × Bytes))
  | none => some (context, [])
  | some parent =>
    match system.flights parent with
    | none => none
    | some flight =>
      if flight.waitsFor.isSome then none
      else some (flight.context, (parent, flight.call.transport) :: flight.enclosing)

def Calls.enter (system : Calls) (id : Nat) (call : Call) (enclosing : List (Nat × Bytes)) (marks : Bool) (now : Nat) :
    Calls × Option Returned :=
  match startExchange lib client call now system.state with
  | (.done outcome, state) =>
    ({ system with state := state, flights := update system.flights id none }, some (.exchanged call outcome))
  | (.ask request, state) =>
    ({ system with
       state := state
       flights := update system.flights id (some ⟨call, request, enclosing, marks, none⟩)
       markers :=
        if marks then update system.markers ⟨request.key, call.transport⟩ (some id) else system.markers }, none)

def Calls.blocked (system : Calls) (call : Call) : Option (Request × Nat) :=
  match client.request call with
  | none => none
  | some request =>
    if request.needsMark call then (system.markers ⟨request.key, call.transport⟩).map fun holder => (request, holder)
    else none

def Client.marks (call : Call) : Bool :=
  match client.request call with
  | none => false
  | some request => request.needsMark call

def Calls.begin (system : Calls) (call : Call) (enclosing : List (Nat × Bytes)) (now : Nat) : Calls × Option Returned :=
  match system.blocked client call with
  | some (request, holder) =>
    ({ system with
       flights := update system.flights system.next (some ⟨call, request, enclosing, false, some holder⟩)
       next := system.next + 1 }, none)
  | none =>
    { system with next := system.next + 1 }.enter lib client system.next call enclosing (client.marks call) now

def Calls.finish (system : Calls) (id : Nat) (flight : Flight) (answer : Except TransportError Msg) (now : Nat) :
    Calls × Option Returned :=
  let finished := finishExchange lib client (fun _ _ => answer) flight.call flight.request now system.state
  ({ system with
     state := finished.2
     flights := update system.flights id none
     markers := if flight.marks then update system.markers flight.key none else system.markers },
    some (.exchanged flight.call finished.1))

def Calls.peek (system : Calls) (lookup : FamilyLookup) (now : Nat) : Calls × Option Returned :=
  if (client.disableCache || lookup.options.disableCache) || lookup.context.updating then (system, none)
  else
    let loaded := loadResponse lib client ⟨lookup.question, client.effectiveClientSubnet lookup.options⟩
      lookup.transport now system.state.cache
    ({ system with state.cache := loaded.2 }, loaded.1.map fun result => .looked lookup result.1 result.2.2)

/-- **The client under concurrent and nested calls.** Events that cannot happen change nothing. -/
def calls : Machine Calls CallEvent Returned where
  step system event :=
    match event with
    | .begin call parent now =>
      match system.within call.context parent with
      | none => (system, none)
      | some (context, enclosing) => system.begin lib client { call with context := context } enclosing now
    | .resume id now =>
      match system.flights id with
      | none => (system, none)
      | some flight =>
        match flight.waitsFor with
        | none => (system, none)
        | some holder =>
          if (system.flights holder).isSome then (system, none)
          else system.enter lib client id flight.call flight.enclosing false now
    | .cancel id =>
      match system.flights id with
      | none => (system, none)
      | some flight =>
        if flight.waitsFor.isNone then (system, none)
        else
          ({ system with flights := update system.flights id none },
            some (.exchanged flight.call { err := some (.failed []) }))
    | .reply id answer now =>
      match system.flights id with
      | none => (system, none)
      | some flight =>
        if flight.waitsFor.isSome then (system, none) else system.finish lib client id flight answer now
    | .lookup lookup parent now =>
      match system.within lookup.context parent with
      | none => (system, none)
      | some (context, _) => system.peek lib client { lookup with context := context } now
    | .evict slot =>
      ({ system with state.cache := update system.state.cache slot none }, none)
    | .forget key =>
      ({ system with state.rejections := update system.state.rejections key false }, none)

inductive Stepped (system : Calls) : CallEvent → Calls × Option Returned → Prop
  | idle {event : CallEvent} : Stepped system event (system, none)
  | waits {call : Call} {parent : Option Nat} {now : Nat} {context : Context} {request : Request} {holder : Nat}
      {enclosing : List (Nat × Bytes)}
      (blocked : system.blocked client { call with context := context } = some (request, holder)) :
      Stepped system (.begin call parent now)
        ({ system with
           flights := update system.flights system.next
            (some ⟨{ call with context := context }, request, enclosing, false, some holder⟩)
           next := system.next + 1 }, none)
  | begins {call : Call} {parent : Option Nat} {now : Nat} {context : Context} {enclosing : List (Nat × Bytes)}
      (free : system.blocked client { call with context := context } = none) :
      Stepped system (.begin call parent now)
        ({ system with next := system.next + 1 }.enter lib client system.next { call with context := context } enclosing
          (client.marks { call with context := context }) now)
  | resumes {id now holder : Nat} {flight : Flight} (there : system.flights id = some flight)
      (waits : flight.waitsFor = some holder) (gone : system.flights holder = none) :
      Stepped system (.resume id now) (system.enter lib client id flight.call flight.enclosing false now)
  | cancels {id : Nat} {flight : Flight} (there : system.flights id = some flight)
      (waits : flight.waitsFor.isSome = true) :
      Stepped system (.cancel id)
        ({ system with flights := update system.flights id none },
          some (.exchanged flight.call { err := some (.failed []) }))
  | replies {id now : Nat} {answer : Except TransportError Msg} {flight : Flight}
      (there : system.flights id = some flight) (asks : flight.waitsFor = none) :
      Stepped system (.reply id answer now) (system.finish lib client id flight answer now)
  | looks {lookup : FamilyLookup} {parent : Option Nat} {now : Nat} {context : Context} :
      Stepped system (.lookup lookup parent now) (system.peek lib client { lookup with context := context } now)
  | evicts {slot : CacheSlot} :
      Stepped system (.evict slot) ({ system with state.cache := update system.state.cache slot none }, none)
  | forgets {key : RdrcKey} :
      Stepped system (.forget key)
        ({ system with state.rejections := update system.state.rejections key false }, none)

theorem stepped (system : Calls) (event : CallEvent) :
    Stepped lib client system event ((calls lib client).step system event) := by
  unfold calls
  cases event with
  | begin call parent now =>
    dsimp only
    split
    · exact .idle
    unfold Calls.begin
    split
    · rename_i blocked
      exact .waits blocked
    · rename_i free
      exact .begins free
  | resume id now =>
    dsimp only
    split
    · exact .idle
    rename_i flight there
    split
    · exact .idle
    rename_i holder waits
    split
    · exact .idle
    · rename_i gone
      exact .resumes there waits (not_isSome_iff_eq_none.mp gone)
  | cancel id =>
    dsimp only
    split
    · exact .idle
    rename_i flight there
    split
    · exact .idle
    · rename_i waits
      exact .cancels there (isSome_iff_ne_none.mpr fun none => waits (by rw [none]; rfl))
  | reply id answer now =>
    dsimp only
    split
    · exact .idle
    rename_i flight there
    split
    · exact .idle
    · rename_i asks
      exact .replies there (not_isSome_iff_eq_none.mp asks)
  | lookup lookup parent now =>
    dsimp only
    split
    · exact .idle
    · exact .looks
  | evict slot => exact .evicts
  | forget key => exact .forgets

end Machine

/-! ### Marks -/

section Marks

variable {client : Client} {system : Calls} {call : Call} {request : Request}

theorem marks_iff :
    client.marks call = true ↔ ∃ request, client.request call = some request ∧ request.needsMark call = true := by
  unfold Client.marks
  cases client.request call with
  | none | some request => simp

theorem blocked_eq_some {holder : Nat} : system.blocked client call = some (request, holder) ↔
      client.request call = some request ∧ request.needsMark call = true ∧
        system.markers ⟨request.key, call.transport⟩ = some holder := by
  unfold Calls.blocked
  cases client.request call with
  | none => simp
  | some found =>
    dsimp only
    split_ifs with needs
    · simp only [map_eq_some_iff, Prod.mk.injEq, some.injEq]
      constructor
      · rintro ⟨other, marked, rfl, rfl⟩
        exact ⟨rfl, needs, marked⟩
      · rintro ⟨rfl, -, marked⟩
        exact ⟨holder, marked, rfl, rfl⟩
    · simp only [some.injEq, false_iff]
      rintro ⟨rfl, also, -⟩
      exact needs also

theorem blocked_eq_none (free : system.blocked client call = none) (marking : client.marks call = true)
    (request : Request) (asked : client.request call = some request) :
    system.markers ⟨request.key, call.transport⟩ = none := by
  obtain ⟨other, same, needs⟩ := marks_iff.mp marking
  obtain rfl : other = request := some.inj (same.symm.trans asked)
  cases held : system.markers ⟨other.key, call.transport⟩ with
  | none => rfl
  | some holder =>
    rw [blocked_eq_some.mpr ⟨asked, needs, held⟩] at free
    cases free

end Marks

section Halves

variable {lib : DnsLibrary} {client : Client} {upstream : Upstream} {call : Call} {request : Request} {now : Nat}
  {state after : ClientState}

theorem finishExchange_updating : (finishExchange lib client upstream call request now state).2.updating =
      if call.context.updating then update state.updating (client.slot request.key call.transport) false
      else state.updating := by
  have ends : (endUpdate client call request state).updating =
      if call.context.updating then update state.updating (client.slot request.key call.transport) false
      else state.updating := by
    unfold endUpdate
    split_ifs <;> rfl
  rw [← ends]
  unfold finishExchange
  split
  · rfl
  unfold settle
  dsimp only
  split
  · split
    · unfold saveRDRCAsync
      split <;> rfl
    · rfl
  · split <;> rfl

end Halves

/-! ### What holds after every run -/

def Begins (past : List CallEvent) (call : Call) : Prop :=
  ∃ context parent now, CallEvent.begin { call with context := context } parent now ∈ past

def Answers (past : List CallEvent) (answer : Except TransportError Msg) : Prop :=
  ∃ id now, CallEvent.reply id answer now ∈ past

def Flight.refreshes (client : Client) (flight : Flight) : Option CacheSlot :=
  if flight.call.context.updating then some (client.slot flight.request.key flight.call.transport) else none

def Flight.mark (flight : Flight) : Option TransportKey := if flight.marks then some flight.key else none

def Stored (lib : DnsLibrary) (client : Client) (past : List CallEvent) (slot : CacheSlot) (message : Msg) : Prop :=
  ∃ call request answer, Begins past call ∧ Answers past answer ∧ client.request call = some request ∧
    Wrote lib client (fun _ _ => answer) call request slot message

/-- What is known of a call in flight. -/
structure Flown (client : Client) (past : List CallEvent) (next id : Nat) (flight : Flight) : Prop where
  begins : Begins past flight.call
  asked : client.request flight.call = some flight.request
  numbered : id < next
  waiting : flight.waitsFor.isSome → flight.call.context.updating = false ∧ flight.marks = false

/-- **What holds after every run.** -/
structure Sound (lib : DnsLibrary) (client : Client) (past : List CallEvent) (system : Calls) : Prop where
  cached : ∀ slot entry, system.state.cache slot = some entry → Stored lib client past slot entry.value.msg
  flown : ∀ id flight, system.flights id = some flight → Flown client past system.next id flight
  updating : Taken ((fun flight => flight.bind (Flight.refreshes client)) ∘ system.flights) system.state.updating
  marked : Marked ((fun flight => flight.bind Flight.mark) ∘ system.flights) system.markers

section Runs

variable {lib : DnsLibrary} {client : Client} {past : List CallEvent} {system : Calls}

theorem sound_initial : Sound lib client [] {} where
  cached _ _ held := by cases held
  flown _ _ held := by cases held
  updating := ⟨by simp, by simp⟩
  marked := by simp [Marked]

theorem Begins.concat {call : Call} (begins : Begins past call) (event : CallEvent) : Begins (past ++ [event]) call := by
  obtain ⟨context, parent, now, member⟩ := begins
  exact ⟨context, parent, now, List.mem_append_left _ member⟩

theorem Stored.concat {slot : CacheSlot} {message : Msg} (stored : Stored lib client past slot message)
    (event : CallEvent) : Stored lib client (past ++ [event]) slot message := by
  obtain ⟨call, request, answer, begins, ⟨id, now, member⟩, rest⟩ := stored
  exact ⟨call, request, answer, begins.concat event, ⟨id, now, List.mem_append_left _ member⟩, rest⟩

variable {id : Nat}

theorem Flown.concat {next : Nat} {flight : Flight} (flown : Flown client past next id flight) (event : CallEvent) :
    Flown client (past ++ [event]) next id flight :=
  ⟨flown.begins.concat event, flown.asked, flown.numbered, flown.waiting⟩

theorem Flown.later {next next' : Nat} {flight : Flight} (flown : Flown client past next id flight)
    (later : next ≤ next') : Flown client past next' id flight :=
  ⟨flown.begins, flown.asked, Nat.lt_of_lt_of_le flown.numbered later, flown.waiting⟩

variable (sound : Sound lib client past system)

include sound

theorem Sound.concat (event : CallEvent) : Sound lib client (past ++ [event]) system where
  cached slot entry held := (sound.cached slot entry held).concat event
  flown id flight held := (sound.flown id flight held).concat event
  updating := sound.updating
  marked := sound.marked

theorem Sound.fresh : system.flights system.next = none := by
  cases there : system.flights system.next with
  | none => rfl
  | some flight => exact absurd (sound.flown _ flight there).numbered (lt_irrefl _)

open Flight

theorem Sound.idle (waits : ∀ flight ∈ system.flights id, flight.waitsFor.isSome = true) :
    (system.flights id).bind (refreshes client) = none ∧ (system.flights id).bind mark = none := by
  cases there : system.flights id with
  | none => exact ⟨rfl, rfl⟩
  | some flight =>
    obtain ⟨quiet, unmarked⟩ := (sound.flown id flight there).waiting (waits flight there)
    show refreshes client flight = none ∧ mark flight = none
    rw [refreshes, mark, quiet, unmarked]
    exact ⟨rfl, rfl⟩

omit sound in
theorem flown_update {flights : Nat → Option Flight} {next next' other : Nat} {new : Option Flight} {flight : Flight}
    (flown : ∀ id flight, flights id = some flight → Flown client past next id flight) (later : next ≤ next')
    (fits : ∀ flight, new = some flight → Flown client past next' id flight)
    (held : update flights id new other = some flight) : Flown client past next' other flight := by
  by_cases same : other = id
  · rw [same, update_self] at held
    rw [same]
    exact fits flight held
  · rw [update_of_ne same] at held
    exact (flown other flight held).later later

omit sound in
theorem held_update {κ : Type} {flights : Nat → Option Flight} (new : Option Flight)
    (claims : Flight → Option κ) : (fun flight => flight.bind claims) ∘ update flights id new =
      update ((fun flight => flight.bind claims) ∘ flights) id (new.bind claims) :=
  comp_update _ _ _ _

omit sound in
theorem update_idle {κ : Type} {holds : Nat → Option κ} (idle : holds id = none) : update holds id none = holds := by
  rw [← idle, update_eq_self]

variable {enclosing : List (Nat × Bytes)}

/-- In the place of a call that holds nothing comes another such call, or none. -/
theorem Sound.replace {state : ClientState} {new : Option Flight} {next : Nat}
    (waits : ∀ flight ∈ system.flights id, flight.waitsFor.isSome = true)
    (cached : ∀ slot entry, state.cache slot = some entry → Stored lib client past slot entry.value.msg)
    (same : state.updating = system.state.updating) (later : system.next ≤ next)
    (fits : ∀ flight, new = some flight → Flown client past next id flight)
    (free : new.bind (refreshes client) = none ∧ new.bind mark = none) :
    Sound lib client past { system with state, flights := update system.flights id new, next } := by
  obtain ⟨quiet, unmarked⟩ := sound.idle waits
  refine ⟨cached, fun other flight held => flown_update sound.flown later fits held, ?_, ?_⟩
  · show Taken _ state.updating
    rw [held_update, free.1, update_idle quiet, same]
    exact sound.updating
  · show Marked _ system.markers
    rw [held_update, free.2, update_idle unmarked]
    exact sound.marked

/-- **The first half of a call** keeps what holds. -/
theorem Sound.enter {call : Call} {marks : Bool} {now : Nat} (begins : Begins past call) (numbered : id < system.next)
    (waits : ∀ flight ∈ system.flights id, flight.waitsFor.isSome = true)
    (free : marks = true → ∀ request, client.request call = some request →
      system.markers ⟨request.key, call.transport⟩ = none) :
    Sound lib client past (system.enter lib client id call enclosing marks now).1 := by
  obtain ⟨quiet, unmarked⟩ := sound.idle waits
  have kept : ∀ slot entry, (startExchange lib client call now system.state).2.cache slot = some entry →
      Stored lib client past slot entry.value.msg := by
    intro slot entry held
    obtain ⟨before, heldBefore, same⟩ := startExchange_keeps held
    rw [same.msg]
    exact sound.cached slot before heldBefore
  have unchanged := (startExchange_state lib client call now system.state).2.2
  unfold Calls.enter
  cases begun : startExchange lib client call now system.state with
  | mk result state =>
    rw [begun] at kept unchanged
    cases result with
    | done outcome => exact sound.replace waits kept (unchanged outcome rfl) (le_refl _) (by simp) ⟨rfl, rfl⟩
    | ask request =>
      obtain ⟨asked, absent, added⟩ := startExchange_ask begun
      refine ⟨kept, fun other flight held => ?_, ?_, ?_⟩
      · refine flown_update sound.flown (le_refl _) (fun flight same => ?_) held
        cases same
        exact ⟨begins, asked, numbered, fun impossible => by cases impossible⟩
      · show Taken _ state.updating
        rw [held_update, added, bind_some, refreshes]
        split_ifs with updating
        · exact sound.updating.acquire quiet (absent updating)
        · rw [update_idle quiet]
          exact sound.updating
      · show Marked _ (if marks then _ else _)
        rw [held_update, bind_some, mark]
        split_ifs with marking
        · exact sound.marked.acquire unmarked (free marking request asked)
        · rw [update_idle unmarked]
          exact sound.marked

/-- **The second half of a call** keeps what holds. -/
theorem Sound.finish {flight : Flight} {answer : Except TransportError Msg} {now : Nat}
    (there : system.flights id = some flight) (answers : Answers past answer) :
    Sound lib client past (system.finish lib client id flight answer now).1 := by
  have known := sound.flown id flight there
  refine ⟨fun slot entry held => ?_, fun other flight held => ?_, ?_, ?_⟩
  · rcases finishExchange_cache held with old | wrote
    · exact sound.cached slot entry old
    · exact ⟨flight.call, flight.request, answer, known.begins, answers, known.asked, wrote⟩
  · refine flown_update sound.flown (le_refl _) (fun flight impossible => ?_) held
    cases impossible
  · show Taken ((fun flight => flight.bind (refreshes client)) ∘ update system.flights id none)
      (finishExchange lib client (fun _ _ => answer) flight.call flight.request now system.state).2.updating
    rw [finishExchange_updating, held_update, bind_none]
    have holds : ((fun flight => flight.bind (refreshes client)) ∘ system.flights) id =
        flight.refreshes client := congrArg (fun flight => flight.bind (refreshes client)) there
    rw [refreshes] at holds
    split_ifs at holds ⊢
    · exact sound.updating.release holds
    · rw [update_idle holds]
      exact sound.updating
  · show Marked ((fun flight => flight.bind mark) ∘ update system.flights id none) (if flight.marks then _ else _)
    rw [held_update, bind_none]
    have holds : ((fun flight => flight.bind mark) ∘ system.flights) id = flight.mark :=
      congrArg (fun flight => flight.bind mark) there
    rw [mark] at holds
    split_ifs at holds ⊢
    · exact sound.marked.release holds
    · rw [update_idle holds]
      exact sound.marked

theorem Sound.waiting {call : Call} {request : Request} {holder : Nat} (begins : Begins past call)
    (blocked : system.blocked client call = some (request, holder)) : Sound lib client past
      { system with
        flights := update system.flights system.next (some ⟨call, request, enclosing, false, some holder⟩)
        next := system.next + 1 } := by
  obtain ⟨asked, marking, -⟩ := blocked_eq_some.mp blocked
  have plain : call.context.updating = false := by
    simpa using (Bool.and_eq_true_iff.mp marking).2
  refine sound.replace (by simp [sound.fresh]) sound.cached rfl (Nat.le_succ _) (fun flight same => ?_)
    (by simp [refreshes, plain, mark])
  cases same
  exact ⟨begins, asked, Nat.lt_succ_self _, fun _ => ⟨plain, rfl⟩⟩

theorem Sound.recache {cache : Cache}
    (kept : ∀ slot entry, cache slot = some entry → ∃ before, system.state.cache slot = some before ∧ SameResponse entry before) :
    Sound lib client past { system with state.cache := cache } := by
  refine ⟨fun slot entry held => ?_, sound.flown, sound.updating, sound.marked⟩
  obtain ⟨before, heldBefore, same⟩ := kept slot entry held
  rw [same.msg]
  exact sound.cached slot before heldBefore

theorem Sound.step (event : CallEvent) :
    Sound lib client (past ++ [event]) ((calls lib client).step system event).1 := by
  have known := sound.concat event
  have last : event ∈ past ++ [event] := List.mem_append_right _ (List.mem_singleton_self event)
  generalize out : (calls lib client).step system event = next
  cases out ▸ stepped lib client system event with
  | idle => exact known
  | @waits call parent now context request holder enclosing blocked =>
    exact known.waiting ⟨call.context, parent, now, last⟩ blocked
  | @begins call parent now context enclosing free =>
    have later : Sound lib client (past ++ [.begin call parent now]) { system with next := system.next + 1 } :=
      ⟨known.cached, fun id flight held => (known.flown id flight held).later (Nat.le_succ _), known.updating,
        known.marked⟩
    exact later.enter ⟨call.context, parent, now, last⟩ (Nat.lt_succ_self _) (by simp [known.fresh]) (blocked_eq_none free)
  | resumes there waits gone =>
    have flown := known.flown _ _ there
    exact known.enter flown.begins flown.numbered (by simp [there, waits]) fun marking => by cases marking
  | cancels there waits =>
    exact known.replace (by simpa [there] using waits) known.cached rfl (le_refl _) (by simp) ⟨rfl, rfl⟩
  | @replies id now answer flight there asks => exact known.finish there ⟨id, now, last⟩
  | looks =>
    unfold Calls.peek
    split
    · exact known
    · exact known.recache fun slot entry held => loadResponse_keeps held
  | @evicts slot =>
    exact known.recache fun other entry held => ⟨entry, (update_none_iff.mp held).2, .refl entry⟩
  | forgets => exact ⟨known.cached, known.flown, known.updating, known.marked⟩

omit sound in
/-- **What holds after every run.** -/
theorem calls_sound (events : List CallEvent) : Sound lib client events ((calls lib client).run {} events) :=
  (calls lib client).run_invariant (Sound lib client) sound_initial (fun _ _ event sound => sound.step event) events

/-! ### What is returned -/

/-- What is returned: the outcome of the first half of a call, or of its second half, or that it has given up; or what
the cache has for a lookup. -/
inductive Returns (lib : DnsLibrary) (client : Client) (system : Calls) : CallEvent → Returned → Prop
  | first {event : CallEvent} {call : Call} {outcome : Outcome} {after : ClientState} (now : Nat)
      (ended : startExchange lib client call now system.state = (.done outcome, after)) :
      Returns lib client system event (.exchanged call outcome)
  | second {id now : Nat} {answer : Except TransportError Msg} {call : Call} (request : Request)
      (asked : client.request call = some request) :
      Returns lib client system (.reply id answer now) (.exchanged call
        (finishExchange lib client (fun _ _ => answer) call request now system.state).1)
  | gaveUp {event : CallEvent} {call : Call} :
      Returns lib client system event (.exchanged call { err := some (.failed []) })
  | looked {event : CallEvent} {lookup : FamilyLookup} {response : Msg} {ttl : Nat} {stale : Bool} (now : Nat)
      (loaded : (loadResponse lib client ⟨lookup.question, client.effectiveClientSubnet lookup.options⟩ lookup.transport
        now system.state.cache).1 = some (response, ttl, stale)) :
      Returns lib client system event (.looked lookup response stale)

omit sound in
theorem Returns.enter {event : CallEvent} {now : Nat} {call : Call} {marks : Bool} {returned : Returned}
    {next : Nat}
    (out : ({ system with next := next }.enter lib client id call enclosing marks now).2 = some returned) :
    Returns lib client system event returned := by
  unfold Calls.enter at out
  split at out
  · rename_i ended after begun
    cases out
    exact .first now begun
  · cases out

theorem Sound.returns {event : CallEvent} {returned : Returned}
    (out : ((calls lib client).step system event).2 = some returned) : Returns lib client system event returned := by
  generalize stepping : (calls lib client).step system event = next at out
  cases stepping ▸ stepped lib client system event with
  | idle | waits blocked => cases out
  | begins free | resumes there waits gone => exact .enter out
  | cancels there waits =>
    cases out
    exact .gaveUp
  | @replies id now answer flight there asks =>
    cases out
    exact .second flight.request (sound.flown id flight there).asked
  | looks =>
    unfold Calls.peek at out
    split at out
    · cases out
    · obtain ⟨result, loaded, same⟩ := map_eq_some_iff.mp out
      cases same
      exact .looked _ loaded
  | evicts | forgets => cases out

end Runs

end SingBox.Dns
