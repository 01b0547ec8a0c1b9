/-
**Calls within calls** (`dns/client.go`: `Exchange`, `lookupToExchange`; `dns/router.go`: the refresh of `Exchange`;
`common/dialer/resolve.go`).

A transport that is asked may have to resolve a name itself, and does so with the context that it was given. Two
values of that context reach into the inner call: the mark of a refresh, with which it does not look into the cache,
does not wait for a call that asks the same already, and gets nothing if its own name is being refreshed; and the
transport, on which an inner call is refused, but only after the marks of calls in flight have been looked at, and
only if no other transport is in between.
-/

import SingBox.Dns.AddressLimit
import SingBox.Dns.Calls

namespace SingBox.Dns

open SingBox.Lib

open Option

section Halves

variable {lib : DnsLibrary} {client : Client} {call : Call} {request : Request} {now : Nat} {state : ClientState}

/-! ### What follows the cache -/

/-- What becomes of a call that is not answered from the cache: it is refused, or its transport is asked. -/
def beyondCache (client : Client) (call : Call) (request : Request) (state : ClientState) : Begun :=
  if call.context.transportTag = some call.transport then .done { err := some (.loopback call.transport) }
  else if request.cacheReadable && call.responseChecker.isSome &&
      loadRDRC client (request.key.rdrcKey call.transport) state then
    .done { err := some .responseRejectedCached }
  else .ask request

theorem beyondCache_err {outcome : Outcome} (ended : beyondCache client call request state = .done outcome) :
    outcome.err ≠ none := by
  revert ended
  fun_cases beyondCache client call request state with
  | case1 | case2 => rintro ⟨⟩; exact some_ne_none _
  | case3 => rintro ⟨⟩

theorem startExchange_fst (asked : client.request call = some request) : (startExchange lib client call now state).1 =
      if call.context.updating && state.updating (client.slot request.key call.transport) then .done {}
      else ((loadCached lib client call request now state.cache).1.map .done).getD (beyondCache client call request state) := by
  rw [startExchange, asked]
  dsimp only
  split
  · rfl
  cases (loadCached lib client call request now state.cache).1 with
  | some outcome => rfl
  | none =>
    simp only [apply_ite Prod.fst, ite_self]
    rfl

theorem loadCached_updating {cache : Cache} (updating : call.context.updating = true) :
    (loadCached lib client call request now cache).1 = none := by
  refine eq_none_iff_forall_ne_some.mpr fun outcome loaded => ?_
  cases updating.symm.trans (loadCached_eq_some loaded).1.2

theorem loadCached_returns {outcome : Outcome} {cache : Cache}
    (loaded : (loadCached lib client call request now cache).1 = some outcome) :
    outcome.err = none ∧ outcome.response ≠ none := by
  obtain ⟨-, -, -, rfl⟩ := loadCached_eq_some loaded
  exact ⟨rfl, some_ne_none _⟩

/-! ### Refreshes -/

/-- The call that would be made without a refresh around it. -/
def Call.outside (call : Call) : Call := { call with context.updating := false }

theorem startExchange_undisturbed_iff (updating : call.context.updating = true) :
    (startExchange lib client call now state).1 = (startExchange lib client call.outside now state).1 ↔
      ∀ request, client.request call = some request → state.updating (client.slot request.key call.transport) = false ∧
          (loadCached lib client call.outside request now state.cache).1 = none := by
  cases asked : client.request call with
  | none =>
    refine iff_of_true ?_ fun request impossible => by cases impossible
    unfold startExchange
    rw [show client.request call.outside = none from asked, asked]
    rfl
  | some request =>
    simp only [some.injEq, forall_eq']
    have outside : client.request call.outside = some request := asked
    rw [startExchange_fst asked, updating, Bool.true_and, loadCached_updating updating, startExchange_fst outside,
      show call.outside.context.updating = false from rfl, Bool.false_and, if_neg Bool.false_ne_true]
    cases loaded : (loadCached lib client call.outside request now state.cache).1 with
    | some outcome =>
      obtain ⟨fine, answered⟩ := loadCached_returns loaded
      refine iff_of_false (fun equal => ?_) fun both => by cases both.2
      split_ifs at equal with refreshed
      · cases equal
        exact answered rfl
      · exact beyondCache_err equal fine
    | none =>
      split_ifs with refreshed
      · refine iff_of_false (fun equal => beyondCache_err equal.symm rfl) fun both => ?_
        rw [refreshed] at both
        cases both.1
      · exact iff_of_true rfl ⟨Bool.eq_false_iff.mpr refreshed, rfl⟩

theorem startExchange_nothing {outcome : Outcome} {after : ClientState}
    (ended : startExchange lib client call now state = (.done outcome, after)) (silent : outcome.response = none)
    (fine : outcome.err = none) : call.context.updating = true := by
  cases asked : client.request call with
  | none =>
    unfold startExchange at ended
    rw [asked] at ended
    cases ended
    cases silent
  | some request =>
    by_contra plain
    have first := congrArg Prod.fst ended
    rw [startExchange_fst asked, if_neg (by simp [plain])] at first
    cases loaded : (loadCached lib client call request now state.cache).1 with
    | some found =>
      rw [loaded] at first
      cases first
      exact (loadCached_returns loaded).2 silent
    | none =>
      rw [loaded] at first
      exact beyondCache_err first fine

theorem finishExchange_something {upstream : Upstream} :
    (finishExchange lib client upstream call request now state).1.response ≠ none ∨
      (finishExchange lib client upstream call request now state).1.err ≠ none := by
  unfold finishExchange
  split
  · exact .inr (some_ne_none _)
  · unfold settle
    split <;> exact .inl (some_ne_none _)

end Halves

section Refreshes

variable {lib : DnsLibrary} {client : Client} {past : List CallEvent} {system : Calls}

def Flight.nests (flight : Flight) (call : Call) : Call := { call with context := flight.context }

def Flight.looks (flight : Flight) (lookup : FamilyLookup) : FamilyLookup := { lookup with context := flight.context }

def FamilyLookup.outside (lookup : FamilyLookup) : FamilyLookup := { lookup with context.updating := false }

theorem step_nested {parent : Nat} {flight : Flight} (there : system.flights parent = some flight)
    (asking : flight.waitsFor = none) (call : Call) (now : Nat) :
    (calls lib client).step system (.begin call (some parent) now) =
      system.begin lib client (flight.nests call) ((parent, flight.call.transport) :: flight.enclosing) now := by
  have within : system.within call.context (some parent) =
      some (flight.context, (parent, flight.call.transport) :: flight.enclosing) := by
    unfold Calls.within
    dsimp only
    rw [there]
    dsimp only
    rw [asking]
    rfl
  unfold calls
  dsimp only
  rw [within]
  rfl

theorem Sound.returns_nothing (sound : Sound lib client past system) {event : CallEvent} {call : Call} {outcome : Outcome}
    (out : ((calls lib client).step system event).2 = some (.exchanged call outcome)) (silent : outcome.response = none)
    (fine : outcome.err = none) : call.context.updating = true := by
  generalize returns : Returned.exchanged call outcome = whole at out
  cases sound.returns out with
  | first now ended =>
    cases returns
    exact startExchange_nothing ended silent fine
  | second request asked =>
    cases returns
    rcases finishExchange_something with answered | failed
    · exact absurd silent answered
    · exact absurd fine failed
  | gaveUp =>
    cases returns
    cases fine
  | looked now loaded => cases returns

/-- Another call has the mark that this one would set. -/
def Held (system : Calls) (request : Request) (call : Call) (id : Nat) : Prop :=
  request.needsMark call = true ∧ ∃ holder, system.flights id = some holder ∧
    holder.mark = some ⟨request.key, call.transport⟩

theorem Sound.blocked_iff (sound : Sound lib client past system) {call : Call} {request : Request} {holder : Nat}
    (asked : client.request call = some request) :
    system.blocked client call = some (request, holder) ↔ Held system request call holder := by
  rw [blocked_eq_some, and_iff_right asked, Held, sound.marked _ holder]
  exact and_congr_right fun _ => bind_eq_some_iff

theorem Sound.not_held (sound : Sound lib client past system) {call : Call} {request : Request}
    (asked : client.request call = some request) (free : system.blocked client call = none) (id : Nat) :
    ¬ Held system request call id := by
  intro held
  rw [(sound.blocked_iff asked).mpr held] at free
  cases free

/-- What a caller sees of a call that begins: what is returned; or that it is in flight, and the call that it waits for. -/
def fateOf (id : Nat) (begun : Calls × Option Returned) : Option Outcome × Option (Option Nat) :=
  (begun.2.bind Returned.outcome, (begun.1.flights id).map Flight.waitsFor)

theorem fateOf_enter {call : Call} {id now : Nat} {enclosing : List (Nat × Bytes)} {marks : Bool} :
    fateOf id (system.enter lib client id call enclosing marks now) =
      match (startExchange lib client call now system.state).1 with
      | .done outcome => (some outcome, none)
      | .ask _ => (none, some none) := by
  unfold Calls.enter
  rcases startExchange lib client call now system.state with ⟨_ | _, _⟩ <;> simp [fateOf, Returned.outcome]

/-- What is asked for without a refresh: no other call has the mark, the key is not being refreshed, and the cache has no
answer. -/
structure Unanswered (lib : DnsLibrary) (client : Client) (system : Calls) (call : Call) (now : Nat) (request : Request) :
    Prop where
  unmarked : ∀ id, ¬ Held system request call.outside id
  unrefreshed : system.state.updating (client.slot request.key call.transport) = false
  uncached : (loadCached lib client call.outside request now system.state.cache).1 = none

/-- **A call within a refresh is as it would be without it** exactly if it would have been asked for anyway. -/
theorem Sound.undisturbed_iff (sound : Sound lib client past system) {call : Call} {now : Nat}
    (updating : call.context.updating = true) (enclosing : List (Nat × Bytes)) :
    fateOf system.next (system.begin lib client call enclosing now) =
        fateOf system.next (system.begin lib client call.outside enclosing now) ↔
      ∀ request, client.request call = some request → Unanswered lib client system call now request := by
  have first := @startExchange_undisturbed_iff lib client call now system.state updating
  have free : system.blocked client call = none := by
    refine eq_none_iff_forall_ne_some.mpr fun ⟨request, holder⟩ blocked => ?_
    have needs := (blocked_eq_some.mp blocked).2.1
    simp [Request.needsMark, updating] at needs
  unfold Calls.begin
  rw [free]
  cases asked : system.blocked client call.outside with
  | some found =>
    obtain ⟨request, holder⟩ := found
    have known : client.request call = some request := (blocked_eq_some.mp asked).1
    have outside : client.request call.outside = some request := known
    refine iff_of_false ?_ fun all => (all request known).unmarked holder ((sound.blocked_iff outside).mp asked)
    dsimp only
    rw [fateOf_enter]
    simp only [fateOf, Function.update_self]
    split <;> simp
  | none =>
    have unmarked {request : Request} (known : client.request call = some request) :
        ∀ id, ¬ Held system request call.outside id := sound.not_held known asked
    dsimp only
    rw [fateOf_enter, fateOf_enter]
    refine Iff.trans ⟨fun same => ?_, fun same => by rw [same]⟩ (first.trans ?_)
    · rcases inside : (startExchange lib client call now system.state).1 with outcome | request <;>
        rcases outside : (startExchange lib client call.outside now system.state).1 with other | again
      · simpa [inside, outside] using same
      · simp [inside, outside] at same
      · simp [inside, outside] at same
      · have known := (startExchange_ask (Prod.ext inside rfl)).1
        have also : client.request call = some again := (startExchange_ask (Prod.ext outside rfl)).1
        rw [some.inj (known.symm.trans also)]
    · exact forall_congr' fun request => forall_congr' fun known =>
        ⟨fun both => ⟨unmarked known, both.1, both.2⟩, fun all => ⟨all.unrefreshed, all.uncached⟩⟩

/-- **A lookup within a refresh is as it would be without it** exactly if the cache is not used or has nothing for it. -/
theorem peek_undisturbed_iff {lookup : FamilyLookup} {now : Nat} (updating : lookup.context.updating = true) :
    (system.peek lib client lookup now).2 = (system.peek lib client lookup.outside now).2 ↔
      (client.disableCache || lookup.options.disableCache) = true ∨
        (loadResponse lib client ⟨lookup.question, client.effectiveClientSubnet lookup.options⟩ lookup.transport now
          system.state.cache).1 = none := by
  have skipped : (system.peek lib client lookup now).2 = none := by
    unfold Calls.peek
    rw [updating, Bool.or_true, if_pos rfl]
  rw [skipped]
  show none = (if (client.disableCache || lookup.options.disableCache || false) = true then _ else _ : _ × _).2 ↔ _
  rw [Bool.or_false]
  split_ifs with disabled
  · exact iff_of_true rfl (.inl disabled)
  · rw [eq_comm]
    exact map_eq_none_iff.trans (or_iff_right disabled).symm

end Refreshes

/-- **Refreshes after every run**: one call refreshes a key, and only a call with the mark of a refresh gets nothing;
what is resolved for a refresh is as without it exactly if no other call asks for it, it is not being refreshed itself and
the cache has nothing for it. -/
theorem refresh_isolated_iff (lib : DnsLibrary) (client : Client) (events : List CallEvent) :
    (∀ slot, ((calls lib client).run {} events).state.updating slot = true ↔
      ∃ id flight, ((calls lib client).run {} events).flights id = some flight ∧ flight.refreshes client = some slot) ∧
    (∀ slot first second one two, ((calls lib client).run {} events).flights first = some one →
      ((calls lib client).run {} events).flights second = some two →
      one.refreshes client = some slot → two.refreshes client = some slot → first = second) ∧ (∀ event call outcome,
      ((calls lib client).step ((calls lib client).run {} events) event).2 = some (.exchanged call outcome) →
      outcome.response = none → outcome.err = none → call.context.updating = true) ∧
    ∀ parent flight, ((calls lib client).run {} events).flights parent = some flight → flight.waitsFor = none →
      flight.call.context.updating = true → (∀ call now,
        let system := (calls lib client).run {} events
        fateOf system.next ((calls lib client).step system (.begin call (some parent) now)) =
            fateOf system.next (system.begin lib client (flight.nests call).outside
              ((parent, flight.call.transport) :: flight.enclosing) now) ↔
          ∀ request, client.request call = some request →
            Unanswered lib client system (flight.nests call) now request) ∧ ∀ lookup now,
        (((calls lib client).run {} events).peek lib client (flight.looks lookup) now).2 =
            (((calls lib client).run {} events).peek lib client (flight.looks lookup).outside now).2 ↔
          (client.disableCache || lookup.options.disableCache) = true ∨
            (loadResponse lib client ⟨lookup.question, client.effectiveClientSubnet lookup.options⟩ lookup.transport now
              ((calls lib client).run {} events).state.cache).1 = none := by
  have sound : Sound lib client events ((calls lib client).run {} events) := calls_sound events
  refine ⟨fun slot => ?_, ?_, ?_, ?_⟩
  · rw [sound.updating.taken_iff]
    exact exists_congr fun id => bind_eq_some_iff
  · intro slot first second one two there also refreshes too
    exact sound.updating.unique slot first second (bind_eq_some_iff.mpr ⟨one, there, refreshes⟩)
      (bind_eq_some_iff.mpr ⟨two, also, too⟩)
  · intro event call outcome out silent fine
    exact sound.returns_nothing out silent fine
  · intro parent flight there asking updating
    refine ⟨fun call now => ?_, fun lookup now => ?_⟩
    · dsimp only
      rw [step_nested there asking]
      exact sound.undisturbed_iff (show (flight.nests call).context.updating = true from updating) _
    · exact peek_undisturbed_iff (show (flight.looks lookup).context.updating = true from updating)

/-- A query for the name of a server, by another transport. -/
def serverCall : Call where
  transport := [117]
  message := { id := 9, recursionDesired := true, question := [⟨[115, 46], typeA, classINET⟩] }

def refreshCall : Call :=
  { sampleCall with
    responseChecker := none
    context := { updating := true } }

/-- The name of the server is in the cache, and the sample name is being refreshed. -/
def refreshing : List CallEvent :=
  [.begin serverCall none 0, .reply 0 (.ok { sampleResponse with question := serverCall.message.question }) 0,
    .begin refreshCall none 1]

/-- **The name of the server is not found in the cache** if it is looked up for the refresh, although it is there; and
nothing at all is returned for it while it is refreshed itself. -/
theorem not_isolated_nested :
    ((((calls plainLibrary {}).step ((calls plainLibrary {}).run {} refreshing)
        (.begin serverCall none 1)).2.bind Returned.outcome).bind Outcome.response).isSome = true ∧
    ((calls plainLibrary {}).step ((calls plainLibrary {}).run {} refreshing) (.begin serverCall (some 1) 1)).2.isSome =
      false ∧
    ((calls plainLibrary {}).step
        ((calls plainLibrary {}).run {}
          (refreshing ++ [.begin { serverCall with context := { updating := true } } none 1]))
        (.begin serverCall (some 1) 1)).2.bind Returned.outcome = some {} := by
  decide +kernel

/-! ### Loops -/

section Loops

variable {lib : DnsLibrary} {client : Client} {past : List CallEvent} {system : Calls}

/-- **A call that is made for others**: it begins, or resumes when the call is gone that it has waited for. -/
inductive Entered (system : Calls) : CallEvent → (first : Bool) → Nat → Call → List (Nat × Bytes) → Nat → Prop
  | begins {parent now : Nat} {flight : Flight} {call : Call} (there : system.flights parent = some flight)
      (asking : flight.waitsFor = none) : Entered system (.begin call (some parent) now) true system.next
        (flight.nests call) ((parent, flight.call.transport) :: flight.enclosing) now
  | resumes {id holder now : Nat} {flight : Flight} (there : system.flights id = some flight)
      (waits : flight.waitsFor = some holder) (gone : system.flights holder = none) :
      Entered system (.resume id now) false id flight.call flight.enclosing now

/-- **It never waits for itself**: what it returns is from the cache, or the refusal; and if it does not return, it waits
for a call that is not around it, and does not ask its transport. -/
structure AtOnce (lib : DnsLibrary) (client : Client) (system : Calls) (id : Nat) (call : Call)
    (enclosing : List (Nat × Bytes)) (now : Nat) (after : Calls × Option Returned) : Prop where
  returned : ∀ outcome, after.2 = some (.exchanged call outcome) → ∀ request, client.request call = some request →
    (loadCached lib client call request now system.state.cache).1 = some outcome ∨
      outcome = { err := some (.loopback call.transport) }
  waits : ∀ flight, after.1.flights id = some flight → ∃ holder ∉ enclosing.map Prod.fst, flight.waitsFor = some holder

/-- What a call that does not wait needs: its key is not being refreshed within a refresh, and the cache has an answer or
the context names its transport. -/
def Answerable (lib : DnsLibrary) (client : Client) (system : Calls) (call : Call) (now : Nat) (request : Request) : Prop :=
  (call.context.updating = true → system.state.updating (client.slot request.key call.transport) = false) ∧
    ((loadCached lib client call request now system.state.cache).1 ≠ none ∨
      call.context.transportTag = some call.transport)

/-- When it does: no call around it has the mark that it would set at its beginning, and if no call has it, then the cache
has an answer or the innermost call around it is on the same transport. -/
structure LoopSeen (lib : DnsLibrary) (client : Client) (system : Calls) (first : Bool) (call : Call)
    (enclosing : List (Nat × Bytes)) (now : Nat) (request : Request) : Prop where
  apart : first = true → ∀ id, Held system request call id → id ∉ enclosing.map Prod.fst
  answered : (first = true → ∀ id, ¬ Held system request call id) → Answerable lib client system call now request

variable {call : Call}

section

variable {request : Request}

theorem beyondCache_loopback_iff {state : ClientState} :
    beyondCache client call request state = .done { err := some (.loopback call.transport) } ↔
      call.context.transportTag = some call.transport := by
  unfold beyondCache
  split_ifs with loop rejected
  · exact iff_of_true rfl loop
  · exact iff_of_false (fun same => by cases same) loop
  · exact iff_of_false (fun same => by cases same) loop

theorem startExchange_at_once_iff (lib : DnsLibrary) (now : Nat) (state : ClientState)
    (asked : client.request call = some request) :
    (∃ outcome, (startExchange lib client call now state).1 = .done outcome ∧
      ((loadCached lib client call request now state.cache).1 = some outcome ∨
        outcome = { err := some (.loopback call.transport) })) ↔
      (call.context.updating = true → state.updating (client.slot request.key call.transport) = false) ∧
      ((loadCached lib client call request now state.cache).1 ≠ none ∨ call.context.transportTag = some call.transport) := by
  rw [startExchange_fst asked]
  split_ifs with busy
  · obtain ⟨updating, refreshed⟩ := Bool.and_eq_true_iff.mp busy
    rw [loadCached_updating updating]
    refine iff_of_false ?_ fun both => by cases refreshed.symm.trans (both.1 updating)
    rintro ⟨outcome, ⟨⟩, impossible | impossible⟩ <;> cases impossible
  · rw [and_iff_right fun updating => by simpa [updating] using busy]
    cases loaded : (loadCached lib client call request now state.cache).1 with
    | some outcome => exact iff_of_true ⟨outcome, rfl, .inl rfl⟩ (.inl (some_ne_none _))
    | none =>
      simp only [reduceCtorEq, false_or, exists_eq_right, ne_eq, not_true_eq_false]
      exact beyondCache_loopback_iff

theorem enter_atOnce_iff {id now next : Nat} {enclosing : List (Nat × Bytes)} {marks : Bool} :
    AtOnce lib client system id call enclosing now
        ({ system with next := next }.enter lib client id call enclosing marks now) ↔
      ∀ request, client.request call = some request → Answerable lib client system call now request := by
  have first {request : Request} (asked : client.request call = some request) :=
    startExchange_at_once_iff lib now system.state asked
  unfold Calls.enter
  rcases begun : startExchange lib client call now system.state with ⟨outcome | request, state⟩
  · dsimp only
    refine ⟨fun once request asked => ?_, fun all => ⟨fun other same request asked => ?_, fun flight there => ?_⟩⟩
    · exact (first asked).mp ⟨outcome, by rw [begun], once.returned outcome rfl request asked⟩
    · obtain ⟨other, done, how⟩ := (first asked).mpr (all request asked)
      cases same
      rw [begun] at done
      cases done
      exact how
    · cases (Function.update_self ..).symm.trans there
  · have asked := (startExchange_ask begun).1
    refine iff_of_false (fun once => ?_) fun all => ?_
    · obtain ⟨holder, -, waits⟩ := once.waits _ (Function.update_self ..)
      cases waits
    · obtain ⟨other, done, -⟩ := (first asked).mpr (all request asked)
      rw [begun] at done
      cases done

/-- **A step of a nested call.** -/
theorem Sound.atOnce_iff (sound : Sound lib client past system) {event : CallEvent} {first : Bool} {id now : Nat}
    {enclosing : List (Nat × Bytes)} (entered : Entered system event first id call enclosing now) :
    AtOnce lib client system id call enclosing now ((calls lib client).step system event) ↔
      ∀ request, client.request call = some request → LoopSeen lib client system first call enclosing now request := by
  cases entered with
  | @begins parent now flight call there asking =>
    rw [step_nested there asking]
    unfold Calls.begin
    cases blocked : system.blocked client (flight.nests call) with
    | some found =>
      obtain ⟨request, holder⟩ := found
      have asked := (blocked_eq_some.mp blocked).1
      have held := (sound.blocked_iff asked).mp blocked
      rw [asked]
      simp only [some.injEq, forall_eq']
      constructor
      · intro once
        obtain ⟨other, apart, waits⟩ := once.waits _ (Function.update_self ..)
        cases waits
        refine ⟨fun _ id has => ?_, fun free => absurd held (free rfl holder)⟩
        cases blocked.symm.trans ((sound.blocked_iff asked).mpr has)
        exact apart
      · intro seen
        refine ⟨fun _ impossible => (by cases impossible), fun flight there => ?_⟩
        cases (Function.update_self ..).symm.trans there
        exact ⟨holder, seen.apart rfl holder held, rfl⟩
    | none =>
      refine enter_atOnce_iff.trans (forall_congr' fun request => forall_congr' fun asked => ?_)
      have free := sound.not_held asked blocked
      exact ⟨fun answerable => ⟨fun _ id held => absurd held (free id), fun _ => answerable⟩,
        fun seen => seen.answered fun _ => free⟩
  | @resumes id holder now flight there waits gone =>
    have step : (calls lib client).step system (.resume id now) =
        { system with next := system.next }.enter lib client id flight.call flight.enclosing false now := by
      simp [calls, there, waits, gone]
    rw [step]
    refine enter_atOnce_iff.trans (forall_congr' fun request => forall_congr' fun asked => ?_)
    exact ⟨fun answerable => ⟨fun impossible => (by cases impossible), fun _ => answerable⟩,
      fun seen => seen.answered fun impossible => (by cases impossible)⟩

end

/-! ### Waiting for oneself -/

/-- A call waits for another one whose transport is asked. -/
structure WaitsFor (system : Calls) (inner outer : Nat) : Prop where
  waits : ∃ flight, system.flights inner = some flight ∧ flight.waitsFor = some outer
  asks : ∃ flight, system.flights outer = some flight ∧ flight.waitsFor = none

theorem WaitsFor.other {inner outer id : Nat} (waiting : WaitsFor system inner outer) {after : Calls} {new : Option Flight}
    (changed : after.flights = Function.update system.flights id new) (first : inner ≠ id) (second : outer ≠ id) :
    WaitsFor after inner outer := by
  constructor
  · rw [changed, Function.update_of_ne first]
    exact waiting.waits
  · rw [changed, Function.update_of_ne second]
    exact waiting.asks

theorem WaitsFor.enter {inner outer id : Nat} (waiting : WaitsFor system inner outer) {next now : Nat}
    {enclosing : List (Nat × Bytes)} {marks : Bool} (first : inner ≠ id) (second : outer ≠ id) :
    WaitsFor ({ system with next := next }.enter lib client id call enclosing marks now).1 inner outer := by
  unfold Calls.enter
  split <;> exact waiting.other rfl first second

theorem Sound.waits_step (sound : Sound lib client past system) {inner outer : Nat} (waiting : WaitsFor system inner outer)
    {event : CallEvent} (uncancelled : event ≠ .cancel inner) (unanswered : ∀ answer now, event ≠ .reply outer answer now) :
    WaitsFor ((calls lib client).step system event).1 inner outer := by
  obtain ⟨waiter, held, waits⟩ := waiting.waits
  obtain ⟨holder, there, asks⟩ := waiting.asks
  have first : inner ≠ system.next := ne_of_lt (sound.flown inner waiter held).numbered
  have second : outer ≠ system.next := ne_of_lt (sound.flown outer holder there).numbered
  generalize stepping : (calls lib client).step system event = next
  cases stepping ▸ stepped lib client system event with
  | idle => exact waiting
  | waits blocked => exact waiting.other rfl first second
  | begins free => exact waiting.enter first second
  | @resumes id now other flight resumed waited gone =>
    refine waiting.enter ?_ ?_
    · rintro rfl
      cases held.symm.trans resumed
      cases waits.symm.trans waited
      cases there.symm.trans gone
    · rintro rfl
      cases there.symm.trans resumed
      cases asks.symm.trans waited
  | @cancels id flight cancelled waited =>
    refine waiting.other rfl (fun same => uncancelled (by rw [same])) ?_
    rintro rfl
    cases there.symm.trans cancelled
    rw [asks] at waited
    cases waited
  | @replies id now answer flight answered asked =>
    refine waiting.other rfl ?_ fun same => unanswered answer now (by rw [same])
    rintro rfl
    cases held.symm.trans answered
    cases waits.symm.trans asked
  | looks =>
    unfold Calls.peek
    split
    · exact waiting
    · exact ⟨waiting.waits, waiting.asks⟩
  | evicts | forgets => exact ⟨waiting.waits, waiting.asks⟩

/-- **A call that waits for the mark of a call around it** waits until it is given up or that call is answered. -/
theorem waits_for_enclosing {events more : List CallEvent} {inner outer : Nat}
    (waiting : WaitsFor ((calls lib client).run {} events) inner outer)
    (uncancelled : CallEvent.cancel inner ∉ more) (unanswered : ∀ answer now, CallEvent.reply outer answer now ∉ more) :
    WaitsFor ((calls lib client).run {} (events ++ more)) inner outer := by
  induction more using List.reverseRecOn with
  | nil =>
    rw [List.append_nil]
    exact waiting
  | append_singleton more event ih =>
    rw [List.mem_append, not_or] at uncancelled
    have before := ih uncancelled.1 fun answer now member => unanswered answer now (List.mem_append_left _ member)
    rw [← List.append_assoc, Machine.run_concat]
    have sound : Sound lib client (events ++ more) ((calls lib client).run {} (events ++ more)) := calls_sound _
    refine sound.waits_step before (fun same => ?_) fun answer now same => ?_
    · exact uncancelled.2 (List.mem_singleton.mpr same.symm)
    · exact unanswered answer now (List.mem_append_right _ (List.mem_singleton.mpr same.symm))

end Loops

/-- A transport that resolves the very name it is asked for. -/
theorem waits_for_itself : WaitsFor ((calls plainLibrary {}).run {}
    ([.begin serverCall none 0, .begin serverCall (some 0) 1] ++ [.resume 1 2])) 1 0 :=
  waits_for_enclosing ⟨⟨_, rfl, rfl⟩, ⟨_, rfl, rfl⟩⟩ (by simp) (by simp)

/-- The transport of `serverCall` asks itself for another name, with the context that it was given. -/
def innerCall : Call :=
  { serverCall with
    message := sampleCall.message
    context := { transportTag := some serverCall.transport } }

end SingBox.Dns
