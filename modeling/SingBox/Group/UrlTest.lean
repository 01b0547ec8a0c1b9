/-
**The urltest group** (`protocol/group/urltest.go`).

`Select` looks for the outbound with the smallest delay. It begins with the outbound that is selected already, which
stays if no other one is faster by more than the tolerance. When a provider has changed, the list of the outbounds is
replaced, but the selected outbounds stay what they are: the search may then begin with an outbound that is no longer
in the list.
-/

import SingBox.Group.Members
import SingBox.Lib.Machine

namespace SingBox.Group

open SingBox.Lib

/-- `N.NetworkTCP` and `N.NetworkUDP`. -/
def networkTCP : Bytes := [0x74, 0x63, 0x70]

def networkUDP : Bytes := [0x75, 0x64, 0x70]

structure URLTestFallback where
  enabled : Bool := false
  maxDelay : UInt16 := 0

/-- The fields of `URLTestGroup` that the selection uses. -/
structure URLTestGroup (Outbound : Type) where
  outbounds : List Outbound
  tolerance : UInt16
  fallback : URLTestFallback := {}
  (selectedOutboundTCP selectedOutboundUDP : Option Outbound := none)

/-- What a call sees of the outbounds and of the test history: the networks of an outbound, its tag (for a
group, that of the outbound it has selected), and the delay that was measured for a tag. -/
structure View (Outbound : Type) where
  network : Outbound → List Bytes
  realTag : Outbound → Bytes
  history : Bytes → Option UInt16

/-- `LoadURLTestHistory(RealTag(detour))`. -/
def View.delay {Outbound : Type} (view : View Outbound) (detour : Outbound) : Option UInt16 :=
  view.history (view.realTag detour)

variable {Outbound : Type}

/-! ### The selection -/

/-- The variables of the loop in `Select`. -/
structure Search (Outbound : Type) where
  minDelay : UInt16 := 0
  minOutbound : Option Outbound := none
  fallbackIgnoreOutboundDelay : UInt16 := 0
  fallbackIgnoreOutbound : Option Outbound := none

namespace URLTestGroup

variable (g : URLTestGroup Outbound) (view : View Outbound) (network : Bytes)

def selected : Option Outbound :=
  if network = networkTCP then g.selectedOutboundTCP
  else if network = networkUDP then g.selectedOutboundUDP
  else none

/-- The variables before the loop: the selected outbound, if it has been tested. -/
def seed : Search Outbound :=
  match g.selected network with
  | none => {}
  | some detour =>
    match view.delay detour with
    | none => {}
    | some delay => { minDelay := delay, minOutbound := some detour }

def overLimit (delay : UInt16) : Bool :=
  g.fallback.enabled && decide (g.fallback.maxDelay > 0) && decide (delay > g.fallback.maxDelay)

/-- One turn of the loop over the outbounds, and whether it is the last one. The sum of a delay and the
tolerance is one of 16 bits. -/
def turn (detour : Outbound) (search : Search Outbound) : Search Outbound × Bool :=
  if network ∉ view.network detour then (search, false)
  else
    match view.delay detour with
    | none => (search, false)
    | some delay =>
      if g.overLimit delay then
        if search.fallbackIgnoreOutboundDelay = 0 || delay < search.fallbackIgnoreOutboundDelay then
          ({ search with fallbackIgnoreOutboundDelay := delay, fallbackIgnoreOutbound := some detour }, false)
        else (search, false)
      else if g.fallback.enabled then
        ({ search with minDelay := delay, minOutbound := some detour }, delay ≠ 0)
      else if search.minDelay = 0 || search.minDelay > delay + g.tolerance then
        ({ search with minDelay := delay, minOutbound := some detour }, false)
      else (search, false)

def searchLoop : List Outbound → Search Outbound → Search Outbound
  | [], search => search
  | detour :: outbounds, search =>
    let next := g.turn view network detour search
    if next.2 then next.1 else searchLoop outbounds next.1

/-- The last part of `Select`: what was found, what was put aside, or the first outbound that supports the
network. -/
def finish (search : Search Outbound) : Option Outbound × Bool :=
  match search.minOutbound with
  | some detour => (some detour, true)
  | none =>
    match search.fallbackIgnoreOutbound with
    | some detour => (some detour, true)
    | none => (g.outbounds.find? fun detour => network ∈ view.network detour, false)

def select : Option Outbound × Bool :=
  g.finish view network (g.searchLoop view network g.outbounds (g.seed view network))

variable [DecidableEq Outbound]

def checked : Option Outbound :=
  match g.select view network with
  | (none, _) => g.selected network
  | (some outbound, found) =>
    if g.selected network = none || (found && some outbound ≠ g.selected network) then some outbound
    else g.selected network

/-- The first half of `performUpdateCheck`. -/
def checkTCP : URLTestGroup Outbound :=
  { g with selectedOutboundTCP := g.checked view networkTCP }

/-- The second half of `performUpdateCheck`. -/
def checkUDP : URLTestGroup Outbound :=
  { g with selectedOutboundUDP := g.checked view networkUDP }

def performUpdateCheck : URLTestGroup Outbound := (g.checkTCP view).checkUDP view

end URLTestGroup

/-! ### The search -/

section Search

variable (g : URLTestGroup Outbound) (view : View Outbound) (network : Bytes)

def Tested (detour : Outbound) (delay : UInt16) : Prop :=
  network ∈ view.network detour ∧ view.delay detour = some delay

/-- An outbound with a delay takes the place of one with the delay `current`. -/
def Beats (delay current : UInt16) : Prop :=
  g.overLimit delay = false ∧ (g.fallback.enabled = true ∨ current = 0 ∨ current > delay + g.tolerance)

variable {g view network}

/-- **The three ways a turn can go**: the outbound is passed over, is put aside, or takes the place of the
one that was found. -/
theorem turn_cases (detour : Outbound) (search : Search Outbound) :
    ((∀ delay, Tested view network detour delay → ¬Beats g delay search.minDelay) ∧
      (g.turn view network detour search = (search, false) ∨ ∃ delay, Tested view network detour delay ∧
        g.turn view network detour search = ({ search with
          fallbackIgnoreOutboundDelay := delay, fallbackIgnoreOutbound := some detour }, false))) ∨
    ∃ delay last, Tested view network detour delay ∧ Beats g delay search.minDelay ∧
      g.turn view network detour search = ({ search with minDelay := delay, minOutbound := some detour }, last) := by
  have slow {delay other : UInt16} (known : view.delay detour = some delay) (limit : g.overLimit delay = true)
      (tested : Tested view network detour other) : ¬Beats g other search.minDelay := by
    cases known.symm.trans tested.2
    exact fun beats => by cases limit.symm.trans beats.1
  fun_cases URLTestGroup.turn g view network detour search with
  | case1 unsupported => exact .inl ⟨fun delay tested => absurd tested.1 unsupported, .inl rfl⟩
  | case2 _ unknown => exact .inl ⟨fun delay tested => (by cases unknown.symm.trans tested.2), .inl rfl⟩
  | case3 supported delay known limit =>
    exact .inl ⟨fun _ => slow known limit, .inr ⟨delay, ⟨not_not.mp supported, known⟩, rfl⟩⟩
  | case4 _ _ known limit => exact .inl ⟨fun _ => slow known limit, .inl rfl⟩
  | case5 supported delay known limit enabled =>
    exact .inr ⟨delay, _, ⟨not_not.mp supported, known⟩, ⟨Bool.eq_false_iff.mpr limit, .inl enabled⟩, rfl⟩
  | case6 supported delay known limit _ better =>
    refine .inr ⟨delay, _, ⟨not_not.mp supported, known⟩, ⟨Bool.eq_false_iff.mpr limit, .inr ?_⟩, rfl⟩
    simpa using better
  | case7 _ _ known _ disabled worse =>
    refine .inl ⟨fun other tested beats => worse ?_, .inl rfl⟩
    cases known.symm.trans tested.2
    simpa using beats.2.resolve_left disabled

theorem searchLoop_spec (outbounds : List Outbound) (search : Search Outbound) :
    let result := g.searchLoop view network outbounds search
    ((result.minOutbound = search.minOutbound ∧ ∀ detour ∈ outbounds, ∀ delay,
        Tested view network detour delay → ¬Beats g delay search.minDelay) ∨
      ((∃ detour ∈ outbounds, ∃ delay, Tested view network detour delay ∧ Beats g delay search.minDelay) ∧
        ∃ detour ∈ outbounds, ∃ delay, Tested view network detour delay ∧ result.minOutbound = some detour)) ∧
    (result.fallbackIgnoreOutbound = search.fallbackIgnoreOutbound ∨
      ∃ detour ∈ outbounds, ∃ delay, Tested view network detour delay ∧
        result.fallbackIgnoreOutbound = some detour) := by
  induction outbounds generalizing search with
  | nil => exact ⟨.inl ⟨rfl, fun detour member => by cases member⟩, .inl rfl⟩
  | cons detour outbounds ih =>
    simp only [List.forall_mem_cons, List.exists_mem_cons_iff]
    unfold URLTestGroup.searchLoop
    obtain ⟨loses, passed | ⟨delay, tested, aside⟩⟩ | ⟨delay, last, tested, beats, taken⟩ :=
      @turn_cases _ g view network detour search
    · rw [passed]
      obtain ⟨found, ignored⟩ := ih search
      exact ⟨found.imp (fun kept => ⟨kept.1, loses, kept.2⟩) (fun other => ⟨.inr other.1, .inr other.2⟩),
        ignored.imp_right .inr⟩
    · rw [aside]
      obtain ⟨found, ignored⟩ := ih { search with
        fallbackIgnoreOutboundDelay := delay, fallbackIgnoreOutbound := some detour }
      refine ⟨found.imp (fun kept => ⟨kept.1, loses, kept.2⟩) (fun other => ⟨.inr other.1, .inr other.2⟩), .inr ?_⟩
      exact ignored.imp (fun same => ⟨delay, tested, same⟩) id
    · -- From here on the outbound that was found is one of the list.
      rw [taken]
      dsimp only
      split
      · exact ⟨.inr ⟨.inl ⟨delay, tested, beats⟩, .inl ⟨delay, tested, rfl⟩⟩, .inl rfl⟩
      · obtain ⟨found, ignored⟩ := ih { search with minDelay := delay, minOutbound := some detour }
        refine ⟨.inr ⟨.inl ⟨delay, tested, beats⟩, ?_⟩, ignored.imp_right .inr⟩
        exact found.imp (fun kept => ⟨delay, tested, kept.1⟩) fun other => other.2

/-! ### What `Select` returns -/

variable (g view network)

/-- **What `Select` returns** is an outbound of the list that supports the network, and comes with true
only if it has been tested. -/
def Selects : Prop :=
  ∀ detour found, g.select view network = (some detour, found) →
    detour ∈ g.outbounds ∧ network ∈ view.network detour ∧ (found = true → ∃ delay, view.delay detour = some delay)

/-- **The outbound that the search begins with**, if it has been tested, is in the list and supports the
network, or is beaten by one that is and does. -/
def SeedListed : Prop :=
  ∀ detour delay, g.selected network = some detour → view.delay detour = some delay →
    (detour ∈ g.outbounds ∧ network ∈ view.network detour) ∨
      ∃ other ∈ g.outbounds, ∃ less, Tested view network other less ∧ Beats g less delay

variable {g view network}

theorem seed_iff {detour : Outbound} {delay : UInt16} : g.selected network = some detour ∧ view.delay detour = some delay ↔
    (g.seed view network).minOutbound = some detour ∧ (g.seed view network).minDelay = delay := by
  fun_cases URLTestGroup.seed g view network with
  | case1 none => simp [none]
  | case2 other selected unknown =>
    rw [selected]
    refine iff_of_false ?_ (by simp)
    rintro ⟨⟨⟩, known⟩
    cases unknown.symm.trans known
  | case3 other selected delay known =>
    rw [selected]
    refine and_congr_right ?_
    rintro ⟨⟩
    simp [known]

theorem fallbackIgnoreOutbound_seed : (g.seed view network).fallbackIgnoreOutbound = none := by
  fun_cases URLTestGroup.seed g view network <;> rfl

theorem finish_cases {search : Search Outbound} {detour : Outbound} {found : Bool}
    (returned : g.finish view network search = (some detour, found)) :
    search.minOutbound = some detour ∨ search.fallbackIgnoreOutbound = some detour ∨
      (detour ∈ g.outbounds ∧ network ∈ view.network detour ∧ found = false) := by
  revert returned
  fun_cases URLTestGroup.finish g view network search with
  | case1 _ known => rintro ⟨⟩; exact .inl known
  | case2 _ _ known => rintro ⟨⟩; exact .inr (.inl known)
  | case3 =>
    intro returned
    obtain ⟨first, rfl⟩ := Prod.mk.inj returned
    refine .inr (.inr ⟨List.mem_of_find?_eq_some first, ?_, rfl⟩)
    simpa using List.find?_some first

/-- **`Select` returns an outbound of the list** exactly if the one it begins with is in it or beaten. -/
theorem selects_iff : Selects g view network ↔ SeedListed g view network := by
  obtain ⟨found, ignored⟩ :=
    @searchLoop_spec _ g view network g.outbounds (g.seed view network)
  constructor
  · intro selects detour delay selected known
    obtain ⟨begins, rfl⟩ := seed_iff.mp ⟨selected, known⟩
    rcases found with ⟨kept, -⟩ | ⟨beaten, -⟩
    · have returned : g.select view network = (some detour, true) := by
        rw [URLTestGroup.select, URLTestGroup.finish, kept, begins]
      obtain ⟨member, supported, -⟩ := selects detour true returned
      exact .inl ⟨member, supported⟩
    · exact .inr beaten
  · intro listed detour flag returned
    have tested {other : Outbound} {delay : UInt16} (member : other ∈ g.outbounds)
        (tested : Tested view network other delay) (same : some other = some detour) :
        detour ∈ g.outbounds ∧ network ∈ view.network detour ∧
          (flag = true → ∃ delay, view.delay detour = some delay) := by
      cases same
      exact ⟨member, tested.1, fun _ => ⟨delay, tested.2⟩⟩
    rcases finish_cases returned with least | aside | ⟨member, supported, rfl⟩
    · rcases found with ⟨kept, unbeaten⟩ | ⟨-, other, member, delay, isTested, same⟩
      · obtain ⟨selected, known⟩ := seed_iff.mpr ⟨kept.symm.trans least, rfl⟩
        rcases listed detour _ selected known with here | ⟨other, member, less, isTested, beats⟩
        · exact ⟨here.1, here.2, fun _ => ⟨_, known⟩⟩
        · exact absurd beats (unbeaten other member less isTested)
      · exact tested member isTested (same.symm.trans least)
    · rcases ignored with none | ⟨other, member, delay, isTested, same⟩
      · rw [aside, fallbackIgnoreOutbound_seed] at none
        cases none
      · exact tested member isTested (same.symm.trans aside)
    · exact ⟨member, supported, fun flagged => by cases flagged⟩

end Search

/-! ### The group and its providers -/

/-- `option.URLTestOutboundOptions`; times are in nanoseconds. -/
structure URLTestOptions extends GroupOptions where
  interval : Int := 0
  tolerance : UInt16 := 0
  idleTimeout : Int := 0
  fallbackEnabled : Bool := false
  fallbackMaxDelay : Int := 0

/-- The fallback of `NewURLTest`. The limit is cut to 16 bits of milliseconds. -/
def URLTestOptions.fallback (options : URLTestOptions) : URLTestFallback :=
  if options.fallbackEnabled then
    { enabled := true, maxDelay := UInt16.ofInt (options.fallbackMaxDelay.tdiv 1000000) }
  else {}

def newURLTestGroup (outbounds : List Outbound) (options : URLTestOptions) : Except Error (URLTestGroup Outbound) :=
  let interval := if options.interval = 0 then 180000000000 else options.interval
  let tolerance := if options.tolerance = 0 then 50 else options.tolerance
  let idleTimeout := if options.idleTimeout = 0 then 1800000000000 else options.idleTimeout
  if interval > idleTimeout then .error (.new "interval must be less or equal than idle_timeout")
  else .ok { outbounds, tolerance, fallback := options.fallback }

/-- The state of a `URLTest`. -/
structure URLTest (Outbound : Type) where
  options : URLTestOptions
  (providerTags tags : List Bytes)
  outboundsCache : OutboundsCache Outbound := fun _ => none
  group : URLTestGroup Outbound

variable (ctx : GroupContext Outbound)

/-- `Start`. -/
def startURLTest (options : URLTestOptions) : Except Error (URLTest Outbound) := do
  let members ← startMembers ctx options.toGroupOptions
  let group ← newURLTestGroup members.2 options
  return { options, group
           providerTags := members.1
           tags         := startTags ctx options.toGroupOptions }

/-- `onProviderUpdated`, up to the test it makes at the end. The static outbounds are registered as long
as there is the group. -/
def URLTest.onProviderUpdated (s : URLTest Outbound) (tag : Bytes) (current : Bytes → List Outbound) :
    URLTest Outbound :=
  if tag ∉ s.providerTags then s
  else
    let found := collect ctx s.options.toGroupOptions tag current s.outboundsCache s.providerTags
    let tags := s.options.outbounds ++ found.1.map ctx.tag
    let outbounds := s.options.outbounds.filterMap ctx.outbound ++ found.1
    if tags = [] then
      { s with
        tags           := [ctx.tag ctx.compatible]
        outboundsCache := found.2
        group          := { s.group with outbounds := [ctx.compatible] } }
    else { s with tags, outboundsCache := found.2, group := { s.group with outbounds } }

/-- What can happen to a `URLTest`. A call sees the outbounds and the history as they are then. -/
inductive URLTestEvent (Outbound : Type) where
  | select (network : Bytes) (view : View Outbound)
  | performUpdateCheck (view : View Outbound)
  | onProviderUpdated (tag : Bytes) (current : Bytes → List Outbound)

/-- The runs of a `URLTest`. -/
def urlTests [DecidableEq Outbound] : Machine (URLTest Outbound) (URLTestEvent Outbound) (Option Outbound × Bool) where
  step s event :=
    match event with
    | .select network view => (s, s.group.select view network)
    | .performUpdateCheck view => ({ s with group := s.group.performUpdateCheck view }, none)
    | .onProviderUpdated tag current => (s.onProviderUpdated ctx tag current, none)

section Runs

variable [DecidableEq Outbound]

/-- All calls of `Select` in a step return an outbound of the list. -/
def Picks (s : URLTest Outbound) : URLTestEvent Outbound → Prop
  | .select network view => Selects s.group view network
  | .performUpdateCheck view =>
    Selects s.group view networkTCP ∧ Selects (s.group.checkTCP view) view networkUDP
  | .onProviderUpdated _ _ => True

/-- All calls of `Select` in a step begin with an outbound of the list, or one that is beaten. -/
def Begins (s : URLTest Outbound) : URLTestEvent Outbound → Prop
  | .select network view => SeedListed s.group view network
  | .performUpdateCheck view => SeedListed s.group view networkTCP ∧ SeedListed s.group view networkUDP
  | .onProviderUpdated _ _ => True

/-- **In every run the calls of `Select` return an outbound of the list** exactly if they begin with one,
or with one that is beaten. -/
theorem runs_select_iff (ctx : GroupContext Outbound) (s : URLTest Outbound) (events : List (URLTestEvent Outbound)) :
    (urlTests ctx).Along Picks s events ↔ (urlTests ctx).Along Begins s events := by
  refine Machine.along_congr _ fun state event => ?_
  cases event with
  | select network view => exact selects_iff
  | performUpdateCheck view =>
    exact and_congr selects_iff (selects_iff.trans .rfl)
  | onProviderUpdated tag current => exact .rfl

def Retains (network : Outbound → List Bytes) (s : URLTest Outbound) : URLTestEvent Outbound → Prop
  | .select _ view | .performUpdateCheck view => view.network = network
  | .onProviderUpdated tag current => ∀ detour,
    s.group.selectedOutboundTCP = some detour ∨ s.group.selectedOutboundUDP = some detour →
      detour ∈ (s.onProviderUpdated ctx tag current).group.outbounds

def SelectedListed (network : Outbound → List Bytes) (g : URLTestGroup Outbound) : Prop :=
  ∀ name detour, g.selected name = some detour → detour ∈ g.outbounds ∧ name ∈ network detour

variable {ctx} {network : Outbound → List Bytes} {g : URLTestGroup Outbound} {view : View Outbound}

section

variable (listed : SelectedListed network g) (same : view.network = network)

include listed same

omit [DecidableEq Outbound] in
theorem SelectedListed.seedListed (name : Bytes) : SeedListed g view name := by
  intro detour delay selected _
  rw [same]
  exact .inl (listed name detour selected)

theorem SelectedListed.checked {name : Bytes} {detour : Outbound}
    (selected : g.checked view name = some detour) : detour ∈ g.outbounds ∧ name ∈ network detour := by
  have selects : Selects g view name := selects_iff.mpr (listed.seedListed same name)
  unfold URLTestGroup.checked at selected
  split at selected
  · exact listed name detour selected
  rename_i outbound found returned
  split at selected
  · cases selected
    obtain ⟨member, supported, -⟩ := selects detour found returned
    rw [same] at supported
    exact ⟨member, supported⟩
  · exact listed name detour selected

omit [DecidableEq Outbound] same listed in
theorem selected_onProviderUpdated (ctx : GroupContext Outbound) (s : URLTest Outbound) (tag : Bytes)
    (current : Bytes → List Outbound) (name : Bytes) :
    (s.onProviderUpdated ctx tag current).group.selected name = s.group.selected name := by
  unfold URLTest.onProviderUpdated
  dsimp only
  split
  · rfl
  · split <;> rfl

omit [DecidableEq Outbound] same listed in
theorem selected_eq {name : Bytes} {detour : Outbound} (selected : g.selected name = some detour) :
    g.selectedOutboundTCP = some detour ∨ g.selectedOutboundUDP = some detour := by
  unfold URLTestGroup.selected at selected
  split at selected
  · exact .inl selected
  · split at selected
    · exact .inr selected
    · cases selected

theorem SelectedListed.checkTCP : SelectedListed network (g.checkTCP view) := by
  intro name detour here
  by_cases tcp : name = networkTCP
  · subst tcp
    exact listed.checked same here
  · apply listed name detour
    rwa [URLTestGroup.selected, if_neg tcp] at here ⊢

theorem SelectedListed.checkUDP : SelectedListed network (g.checkUDP view) := by
  intro name detour here
  by_cases udp : name = networkUDP
  · subst udp
    exact listed.checked same here
  · apply listed name detour
    rwa [URLTestGroup.selected, if_neg udp] at here ⊢

end

end Runs

def sampleURLTest : URLTestOptions where
  outbounds := []
  providers := [[0x70]]

/-- All outbounds support TCP, and have been tested. -/
def sampleView : View (Bytes × Nat) where
  network _ := [networkTCP]
  realTag := Prod.fst
  history _ := some 10

/-- **`Select` returns an outbound that is gone.** It was selected, and stays so when the provider drops
it. -/
theorem select_returns_dropped : ∃ s, startURLTest sampleGroup sampleURLTest = .ok s ∧
    let after := (urlTests sampleGroup).run s [.onProviderUpdated [0x70] fun _ => [([0x78], 1)],
      .performUpdateCheck sampleView, .onProviderUpdated [0x70] fun _ => [([0x79], 2)]]
    after.group.outbounds = [([0x79], 2)] ∧ after.group.select sampleView networkTCP = (some ([0x78], 1), true) := by
  refine ⟨_, rfl, ?_⟩
  decide +kernel

end SingBox.Group
