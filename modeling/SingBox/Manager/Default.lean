/-
**The default outbound** (`adapter/outbound/manager.go`).

The default outbound is a pointer that three rules move: the configured tag, the first outbound if no tag is
configured, and the next one in the list when the default is removed. `Start` takes an endpoint or a direct outbound
if there is none. `Create` does not look at the outbound that it replaces: if that was the default and the tag is not
the configured one then the default stays on the closed outbound. And if all outbounds have been removed then only the
configured tag gives a default again.
-/

import SingBox.Manager.Outbound

namespace SingBox.Manager

open SingBox.Lib List OutboundManager

/-! ### The start -/

def StartStage.index : StartStage → Nat
  | .stateInitialize => 0
  | .stateStart => 1
  | .statePostStart => 2
  | .stateStarted => 3

namespace OutboundManager

def findDefault (m : OutboundManager) : Except ManagerError OutboundManager :=
  if m.defaultTag ≠ [] ∧ m.defaultOutbound = none then
    match m.endpoint m.defaultTag with
    | none => .error (.defaultNotFound m.defaultTag)
    | some defaultEndpoint => .ok { m with defaultOutbound := some (.endpoint defaultEndpoint) }
  else .ok m

/-- The tag and the type of the fallback, "direct". -/
def direct : Bytes := [0x64, 0x69, 0x72, 0x65, 0x63, 0x74]

/-- `defaultOutboundFallback` gives a direct outbound, or fails. -/
def fallBack (m : OutboundManager) (fallback : Option Error) : Except ManagerError OutboundManager :=
  if m.defaultOutbound = none then
    match fallback with
    | some error => .error (.fallback error)
    | none =>
      let directOutbound := m.made direct direct []
      .ok { m with
        created         := m.created + 1
        registry        :=
          { m.registry with
            list  := m.registry.list ++ [directOutbound]
            byTag := Function.update m.registry.byTag directOutbound.tag (some directOutbound) }
        listed          := directOutbound :: m.listed
        defaultOutbound := some (.outbound directOutbound) }
  else .ok m

def chooseDefault (m : OutboundManager) (fallback : Option Error) : Except ManagerError OutboundManager :=
  if m.stage = .stateStart then m.findDefault.bind (·.fallBack fallback) else .ok m

/-- `Start`. `startErr` is what the outbounds give when they are started. -/
def startStage (m : OutboundManager) (stage : StartStage) (fallback startErr : Option Error) :
    OutboundManager × Result :=
  if m.started ∧ stage.index ≤ m.stage.index then (m, .error .panic)
  else
    let m := { m with started := true, stage }
    match m.chooseDefault fallback with
    | .error error => (m, Checked.fail error)
    | .ok m =>
      match startErr with
      | some error => (m, Checked.fail (.startAll error))
      | none => (m, .ok ())

def startStages (m : OutboundManager) (fallback : Option Error) (startErr : StartStage → Option Error) :
    List StartStage → OutboundManager × Result
  | [] => (m, .ok ())
  | stage :: stages =>
    match m.startStage stage fallback (startErr stage) with
    | (m, .ok ()) => m.startStages fallback startErr stages
    | failed => failed

/-- `adapter.ListStartStages`. -/
def start (m : OutboundManager) (fallback : Option Error) (startErr : StartStage → Option Error) :
    OutboundManager × Result :=
  m.startStages fallback startErr [.stateInitialize, .stateStart, .statePostStart, .stateStarted]

end OutboundManager

structure OutboundOptions where
  tag : Bytes
  type : Bytes
  dependencies : List Bytes

/-- A configuration. The options are checked for tags that are used twice, and tags are never empty. -/
structure OutboundConfig where
  final : Bytes
  endpoint : Bytes → Option Endpoint
  outbounds : List OutboundOptions
  named : ∀ options ∈ outbounds, options.tag ≠ []
  distinct : (outbounds.map OutboundOptions.tag).Nodup

def OutboundConfig.load (config : OutboundConfig) : OutboundManager :=
  config.outbounds.foldl
    (fun m options => (m.create options.tag options.type (.ok options.dependencies) none none).1)
    { defaultTag := config.final, endpoint := config.endpoint }

def Live (m : OutboundManager) : Prop :=
  match m.defaultOutbound with
  | none => m.registry.list = []
  | some (.outbound outbound) => outbound ∈ m.registry.list ∧ outbound ∉ m.closed
  | some (.endpoint endpoint) => ∃ tag, m.endpoint tag = some endpoint

def Succeeds (m : OutboundManager) (call : ManagerCall) : Prop := (m.call call).2 = .ok ()

def Follows (m : OutboundManager) : ManagerCall → Prop
  | .create tag _ _ _ _ => tag ≠ m.defaultTag →
    (∀ old, m.registry.byTag tag = some old → m.defaultOutbound ≠ some (.outbound old)) ∧
      (m.defaultOutbound = none → m.defaultTag = [])
  | .remove _ _ => True

/-- The list and the map agree, and what is listed has not been closed. -/
structure Open (m : OutboundManager) : Prop where
  consistent : m.registry.Consistent
  recorded : Recorded m
  closed : ∀ outbound ∈ m.closed, outbound ∈ m.listed
  listed : ∀ outbound ∈ m.registry.list, outbound ∉ m.closed

open Registry

/-! ### Calls -/

section Calls

variable {m : OutboundManager}

/-- The outbound that `Create` makes is a new one. -/
theorem Open.made_not_listed (opened : Open m) (tag inboundType : Bytes) (dependencies : List Bytes) :
    m.made tag inboundType dependencies ∉ m.listed :=
  fun member => Nat.lt_irrefl _ (opened.recorded.fresh _ member)

theorem live_add_iff (live : Live m) {created : Nat} {r : Registry Bytes Bytes} {closed : List Outbound}
    {outbound : Outbound} (fresh : outbound ∉ closed) :
    Live ({ m with created, registry := r, closed }.add outbound) ↔
      (outbound.tag ≠ m.defaultTag →
        (∀ other, m.defaultOutbound = some (.outbound other) → other ∈ r.list ++ [outbound] ∧ other ∉ closed) ∧
          (m.defaultOutbound = none → m.defaultTag = [])) := by
  by_cases configured : outbound.tag = m.defaultTag
  · refine iff_of_true ?_ fun differs => absurd configured differs
    simp [Live, add, register, configured, fresh]
  cases default : m.defaultOutbound with
  | none =>
    by_cases unset : m.defaultTag = []
    · simp [Live, add, register, unset, fresh]
    · simp [Live, add, register, configured, unset]
  | some detour =>
    cases detour with
    | outbound other => simp [Live, add, register, configured]
    | endpoint endpoint =>
      simpa [Live, add, configured, default] using live

variable (opened : Open m)

include opened

/-- **A successful `Create` keeps the default live** exactly if the default follows it. -/
theorem Open.live_create_iff (live : Live m) (started : m.started = true) {tag inboundType : Bytes}
    {made : Except Error (List Bytes)} {startErr closeErr : Option Error}
    (succeeds : Succeeds m (.create tag inboundType made startErr closeErr)) :
    Live (m.create tag inboundType made startErr closeErr).1 ↔
      Follows m (.create tag inboundType made startErr closeErr) := by
  have member {outbound : Outbound} (default : m.defaultOutbound = some (.outbound outbound)) :
      outbound ∈ m.registry.list ∧ outbound ∉ m.closed := by
    simpa only [Live, default] using live
  have ok : (m.create tag inboundType made startErr closeErr).2 = .ok () := succeeds
  rcases create_cases opened.consistent tag inboundType made startErr closeErr with
    ⟨created, closed, error, -, -, -, is⟩ | ⟨dependencies, rfl, ⟨new, is⟩ | ⟨old, found, is⟩⟩
  · rw [is] at ok
    cases ok
  · have fresh := opened.made_not_listed tag inboundType dependencies
    rw [is]
    refine (live_add_iff live fun closed => fresh (opened.closed _ closed)).trans ?_
    refine imp_congr_right fun _ => and_congr_left fun _ => iff_of_true ?_ fun old found => ?_
    · exact fun other default => ⟨mem_append_left _ (member default).1, (member default).2⟩
    · cases new.symm.trans found
  · have fresh := opened.made_not_listed tag inboundType dependencies
    have listed := ((opened.consistent.indexed _ _).mp found).1
    have unclosed : m.made tag inboundType dependencies ∉ if m.started then old :: m.closed else m.closed := by
      rw [if_pos started, mem_cons]
      rintro (is | closed)
      · exact fresh (is ▸ opened.recorded.listed old listed)
      · exact fresh (opened.closed _ closed)
    rw [is]
    refine (live_add_iff live unclosed).trans (imp_congr_right fun _ => and_congr_left fun _ => ?_)
    rw [if_pos started]
    constructor
    · rintro stays old' found' default
      cases found.symm.trans found'
      exact (stays old default).2 (mem_cons_self ..)
    · intro other outbound default
      have differs : outbound ≠ old := fun same => other old found (same ▸ default)
      obtain ⟨inside, unclosed⟩ := member default
      refine ⟨mem_append_left _ (opened.consistent.mem_unlist.mpr ⟨inside, differs⟩), ?_⟩
      exact fun closed => (mem_cons.mp closed).elim differs unclosed

/-- **A successful `Remove` keeps the default live.** -/
theorem Open.live_remove (live : Live m) {tag : Bytes} {closeErr : Option Error}
    (succeeds : Succeeds m (.remove tag closeErr)) : Live (m.remove tag closeErr).1 := by
  have ok : (m.remove tag closeErr).2 = .ok () := succeeds
  rcases remove_cases opened.consistent tag closeErr with
    ⟨-, is⟩ | ⟨outbound, found, ⟨-, is⟩ | ⟨-, result, -, is⟩⟩
  · rw [is] at ok
    cases ok
  · rw [is] at ok
    cases ok
  rw [is]
  have left {other : Outbound} (member : other ∈ (m.registry.unlist outbound).list) :
      other ∈ (m.registry.unlist outbound).list ∧ other ∉ if m.started then outbound :: m.closed else m.closed := by
    obtain ⟨inside, differs⟩ := opened.consistent.mem_unlist.mp member
    refine ⟨member, fun closed => ?_⟩
    split_ifs at closed
    · exact (mem_cons.mp closed).elim differs (opened.listed other inside)
    · exact opened.listed other inside closed
  by_cases was : m.defaultOutbound = some (.outbound outbound)
  · -- The next one in the list.
    cases next : (m.registry.unlist outbound).list with
    | nil => simp [Live, nextDefault, was, unregister, withdraw, next]
    | cons first rest =>
      have here := left (next ▸ mem_cons_self : first ∈ (m.registry.unlist outbound).list)
      simpa [Live, nextDefault, was, unregister, withdraw, next] using here.2
  · have stays : ({ m with registry := m.registry.unregister tag outbound } : OutboundManager).nextDefault outbound =
        m.defaultOutbound := if_neg was
    simp only [stays]
    cases default : m.defaultOutbound with
    | none =>
      simp only [Live, default] at live
      have inside := ((opened.consistent.indexed _ _).mp found).1
      rw [live] at inside
      cases inside
    | some detour =>
      simp only [Live, default] at live
      cases detour with
      | outbound other =>
        refine left (opened.consistent.mem_unlist.mpr ⟨live.1, ?_⟩)
        rintro rfl
        exact was default
      | endpoint endpoint => exact live

theorem Open.add {tag : Bytes} (new : m.registry.byTag tag = none) (inboundType : Bytes) (dependencies : List Bytes) :
    Open ({ m with created := m.created + 1 }.add (m.made tag inboundType dependencies)) := by
  have fresh := opened.made_not_listed tag inboundType dependencies
  refine ⟨opened.consistent.register new, opened.recorded.add dependencies tag inboundType (.refl _),
    fun outbound closed => ?_, fun outbound member closed => ?_⟩
  · exact mem_cons_of_mem _ (opened.closed outbound closed)
  · rcases mem_append.mp member with before | here
    · exact opened.listed outbound before closed
    · exact fresh (mem_singleton.mp here ▸ opened.closed outbound closed)

theorem Open.call (started : m.started = true) {call : ManagerCall} (succeeds : Succeeds m call) :
    Open (m.call call).1 := by
  have recorded := (opened.recorded.call opened.consistent call).1
  have wasListed {old outbound : Outbound} (closed : outbound ∈ if m.started then old :: m.closed else m.closed) :
      outbound = old ∨ outbound ∈ m.closed := by
    rw [if_pos started] at closed
    exact mem_cons.mp closed
  revert succeeds recorded
  unfold Succeeds OutboundManager.call
  cases call with
  | create tag inboundType made startErr closeErr =>
    have fresh := opened.made_not_listed tag inboundType
    dsimp only
    rcases create_cases opened.consistent tag inboundType made startErr closeErr with
      ⟨created, closed, error, -, -, -, is⟩ | ⟨dependencies, rfl, ⟨new, is⟩ | ⟨old, found, is⟩⟩ <;>
      rw [is] <;> intro ok recorded
    · cases ok
    · exact opened.add new inboundType dependencies
    have inside := ((opened.consistent.indexed _ _).mp found).1
    refine ⟨opened.consistent.replace found, recorded, fun outbound closed => ?_, fun outbound member closed => ?_⟩
    · refine mem_cons_of_mem _ ?_
      rcases wasListed closed with rfl | before
      · exact opened.recorded.listed outbound inside
      · exact opened.closed outbound before
    · rcases mem_append.mp member with before | here
      · obtain ⟨member, differs⟩ := opened.consistent.mem_unlist.mp before
        exact (wasListed closed).elim differs (opened.listed outbound member)
      obtain rfl := mem_singleton.mp here
      rcases wasListed closed with is | before
      · exact fresh dependencies (is ▸ opened.recorded.listed old inside)
      · exact fresh dependencies (opened.closed _ before)
  | remove tag closeErr =>
    dsimp only
    rcases remove_cases opened.consistent tag closeErr with
      ⟨-, is⟩ | ⟨outbound, found, ⟨-, is⟩ | ⟨-, result, -, is⟩⟩ <;> rw [is] <;> intro ok recorded
    · cases ok
    · cases ok
    have consistent := opened.consistent.unregister found
    refine ⟨⟨consistent.indexed, consistent.distinct⟩, recorded, fun other closed => ?_, fun other member closed => ?_⟩
    · rcases wasListed closed with rfl | before
      · exact opened.recorded.listed other ((opened.consistent.indexed _ _).mp found).1
      · exact opened.closed other before
    · obtain ⟨member, differs⟩ := opened.consistent.mem_unlist.mp member
      exact (wasListed closed).elim differs (opened.listed other member)

end Calls

/-! ### The start -/

section Start

variable {m : OutboundManager}

/-- Before the start, a manager with outbounds has a default unless one is configured. -/
structure Loaded (m : OutboundManager) : Prop where
  opened : Open m
  default : m.defaultOutbound = none ∧ (m.defaultTag = [] → m.registry.list = []) ∨
    ∃ outbound ∈ m.registry.list, m.defaultOutbound = some (.outbound outbound)

theorem create_new {options : OutboundOptions} (named : options.tag ≠ [])
    (new : m.registry.byTag options.tag = none) :
    m.create options.tag options.type (.ok options.dependencies) none none =
      ({ m with created := m.created + 1 }.add (m.made options.tag options.type options.dependencies), .ok ()) := by
  simp [create, named, new, whenStarted, made]

theorem Loaded.add (loaded : Loaded m) {tag : Bytes} (new : m.registry.byTag tag = none) (inboundType : Bytes)
    (dependencies : List Bytes) :
    Loaded ({ m with created := m.created + 1 }.add (m.made tag inboundType dependencies)) := by
  refine ⟨loaded.opened.add new inboundType dependencies, ?_⟩
  by_cases takes : tag = m.defaultTag ∨ m.defaultTag = [] ∧ m.defaultOutbound = none
  · exact .inr ⟨_, mem_append_right _ (mem_singleton_self _), if_pos takes⟩
  have stays : ({ m with created := m.created + 1 }.add (m.made tag inboundType dependencies)).defaultOutbound =
      m.defaultOutbound := if_neg takes
  rw [stays]
  rcases loaded.default with ⟨none, -⟩ | ⟨outbound, member, is⟩
  · exact .inl ⟨none, fun unset => absurd (.inr ⟨unset, none⟩) takes⟩
  · exact .inr ⟨outbound, mem_append_left _ member, is⟩

theorem Loaded.foldl (loaded : Loaded m) {outbounds : List OutboundOptions}
    (named : ∀ options ∈ outbounds, options.tag ≠ []) (distinct : (outbounds.map OutboundOptions.tag).Nodup)
    (new : ∀ options ∈ outbounds, m.registry.byTag options.tag = none) : Loaded (outbounds.foldl
      (fun m options => (m.create options.tag options.type (.ok options.dependencies) none none).1) m) := by
  induction outbounds generalizing m with
  | nil => exact loaded
  | cons first rest ih =>
    have here := new first mem_cons_self
    rw [map_cons, nodup_cons] at distinct
    rw [foldl_cons, create_new (named first mem_cons_self) here]
    refine ih (loaded.add here first.type first.dependencies)
      (fun options later => named options (mem_cons_of_mem _ later)) distinct.2 fun options later => ?_
    have differs : options.tag ≠ first.tag := fun same => distinct.1 (same ▸ mem_map_of_mem later)
    exact (Function.update_of_ne differs ..).trans (new options (mem_cons_of_mem _ later))

theorem loaded_load (config : OutboundConfig) : Loaded config.load := by
  refine .foldl ⟨⟨consistent_empty, ⟨by simp, by simp⟩, by simp, by simp⟩, .inl ⟨rfl, fun _ => rfl⟩⟩
    config.named config.distinct fun _ _ => rfl

theorem Loaded.live (loaded : Loaded m) (chosen : m.defaultOutbound ≠ none) : Live m := by
  rcases loaded.default with ⟨unchosen, -⟩ | ⟨outbound, member, is⟩
  · exact absurd unchosen chosen
  · simpa only [Live, is] using ⟨member, loaded.opened.listed outbound member⟩

variable {fallback : Option Error}

/-- **The stage `Start` leaves a live default.** -/
theorem Loaded.fallBack (loaded : Loaded m) {found next : OutboundManager}
    (finds : m.findDefault = .ok found) (falls : found.fallBack fallback = .ok next) :
    Open next ∧ Live next ∧ next.started = m.started := by
  unfold findDefault at finds
  unfold OutboundManager.fallBack at falls
  rcases loaded.default with ⟨unchosen, empty⟩ | ⟨outbound, -, is⟩
  · by_cases unset : m.defaultTag = []
    · rw [if_neg (fun set => set.1 unset)] at finds
      cases finds
      rw [if_pos unchosen] at falls
      cases fallback with
      | some error => cases falls
      | none =>
        -- The direct outbound is registered as others are, and nothing depends on it.
        have new : m.registry.byTag direct = none := by
          cases has : m.registry.byTag direct with
          | none => rfl
          | some outbound =>
            have member := ((loaded.opened.consistent.indexed _ _).mp has).1
            rw [empty unset] at member
            cases member
        have added := loaded.add new direct []
        have same : next = { m with created := m.created + 1 }.add
            (m.made direct direct []) := by
          rw [← Except.ok.inj falls]
          simp only [unset, unchosen]
          rfl
        rw [same]
        refine ⟨added.opened, added.live ?_, rfl⟩
        simp [OutboundManager.add, unset, unchosen]
    · rw [if_pos ⟨unset, unchosen⟩] at finds
      cases known : m.endpoint m.defaultTag with
      | none =>
        rw [known] at finds
        cases finds
      | some endpoint =>
        rw [known] at finds
        cases finds
        cases falls
        exact ⟨⟨loaded.opened.consistent, ⟨loaded.opened.recorded.listed, loaded.opened.recorded.fresh⟩,
          loaded.opened.closed, loaded.opened.listed⟩, ⟨m.defaultTag, known⟩, rfl⟩
  · rw [if_neg (by simp [is])] at finds
    cases finds
    rw [if_neg (by simp [is])] at falls
    cases falls
    exact ⟨loaded.opened, loaded.live (by simp [is]), rfl⟩

theorem startStage_ok {stage : StartStage} {startErr : Option Error} {next : OutboundManager}
    (ok : m.startStage stage fallback startErr = (next, .ok ())) :
    ({ m with started := true, stage } : OutboundManager).chooseDefault fallback = .ok next := by
  revert ok
  unfold startStage
  split_ifs with already
  · intro ok
    cases ok
  dsimp only
  cases ({ m with started := true, stage } : OutboundManager).chooseDefault fallback with
  | error error =>
    intro ok
    cases ok
  | ok chosen =>
    cases startErr with
    | some error =>
      intro ok
      cases ok
    | none =>
      intro ok
      cases ok
      rfl

theorem startStage_other {stage : StartStage} (other : stage ≠ .stateStart) {startErr : Option Error}
    {next : OutboundManager} (ok : m.startStage stage fallback startErr = (next, .ok ())) :
    next = { m with started := true, stage } :=
  (Except.ok.inj ((if_neg other).symm.trans (startStage_ok ok))).symm

variable {startErr : StartStage → Option Error}

theorem startStages_cons {stage : StartStage} {stages : List StartStage}
    (ok : (m.startStages fallback startErr (stage :: stages)).2 = .ok ()) :
    ∃ next, m.startStage stage fallback (startErr stage) = (next, .ok ()) ∧
      m.startStages fallback startErr (stage :: stages) = next.startStages fallback startErr stages := by
  revert ok
  rw [startStages]
  split
  · rename_i next is
    exact fun _ => ⟨next, is, rfl⟩
  · rename_i failed
    intro ok
    exact (failed _ (Prod.ext rfl ok)).elim

theorem Loaded.start (loaded : Loaded m) (ok : (m.start fallback startErr).2 = .ok ()) :
    Open (m.start fallback startErr).1 ∧ Live (m.start fallback startErr).1 ∧
      (m.start fallback startErr).1.started = true := by
  unfold OutboundManager.start at ok ⊢
  obtain ⟨first, begun, is⟩ := startStages_cons ok
  rw [is] at ok ⊢
  obtain ⟨second, chosen, is⟩ := startStages_cons ok
  rw [is] at ok ⊢
  obtain ⟨third, posted, is⟩ := startStages_cons ok
  rw [is] at ok ⊢
  obtain ⟨last, ended, is⟩ := startStages_cons ok
  rw [is]
  obtain rfl := startStage_other (by decide) begun
  obtain rfl := startStage_other (by decide) posted
  obtain rfl := startStage_other (by decide) ended
  have chooses : ({ m with started := true, stage := .stateStart } : OutboundManager).findDefault.bind
      (·.fallBack fallback) = .ok second := startStage_ok chosen
  cases finds : ({ m with started := true, stage := .stateStart } : OutboundManager).findDefault with
  | error error =>
    rw [finds] at chooses
    cases chooses
  | ok found =>
    rw [finds] at chooses
    have ready : Loaded { m with started := true, stage := .stateStart } :=
      ⟨⟨loaded.opened.consistent, ⟨loaded.opened.recorded.listed, loaded.opened.recorded.fresh⟩,
        loaded.opened.closed, loaded.opened.listed⟩, loaded.default⟩
    obtain ⟨opened, live, -⟩ := ready.fallBack finds chooses
    exact ⟨⟨opened.consistent, ⟨opened.recorded.listed, opened.recorded.fresh⟩, opened.closed, opened.listed⟩,
      live, rfl⟩

end Start

/-! ### Whole runs -/

/-- **After a successful start, the default stays live along successful calls** exactly if it follows all of them. -/
theorem default_live_iff (config : OutboundConfig) (fallback : Option Error) (startErr : StartStage → Option Error)
    (calls : List ManagerCall) (starts : (config.load.start fallback startErr).2 = .ok ())
    (succeed : outboundCalls.Along Succeeds (config.load.start fallback startErr).1 calls) :
    Live (config.load.start fallback startErr).1 ∧
      (outboundCalls.Along (fun m call => Live (m.call call).1) (config.load.start fallback startErr).1 calls ↔
        outboundCalls.Along Follows (config.load.start fallback startErr).1 calls) := by
  obtain ⟨opened, live, started⟩ := (loaded_load config).start starts
  have agree (m : OutboundManager) (call : ManagerCall) (inv : Open m ∧ Live m ∧ m.started = true)
      (succeeds : Succeeds m call) : Live (m.call call).1 ↔ Follows m call := by
    obtain ⟨opened, live, started⟩ := inv
    cases call with
    | create tag inboundType made startErr closeErr => exact opened.live_create_iff live started succeeds
    | remove tag closeErr => exact iff_of_true (opened.live_remove live succeeds) trivial
  refine ⟨live, Machine.along_iff_of_invariant (fun m => Open m ∧ Live m ∧ m.started = true) agree ?_
    ⟨opened, live, started⟩ succeed⟩
  intro m call inv succeeds follows
  refine ⟨inv.1.call inv.2.2 succeeds, (agree m call inv succeeds).mpr follows, ?_⟩
  exact (inv.1.recorded.call inv.1.consistent call).2.trans inv.2.2

def twoOutbounds : OutboundConfig where
  final := []
  endpoint _ := none
  outbounds := [⟨[97], [], []⟩, ⟨[98], [], []⟩]
  named := by simp
  distinct := by decide

/-- The default is replaced and stays on the outbound that was closed. -/
theorem default_closed : (twoOutbounds.load.start none fun _ => none).2 = .ok () ∧
      outboundCalls.Along Succeeds (twoOutbounds.load.start none fun _ => none).1 [.create [97] [] (.ok []) none none] ∧
      ¬outboundCalls.Along (fun m call => Live (m.call call).1) (twoOutbounds.load.start none fun _ => none).1
        [.create [97] [] (.ok []) none none] := by
  refine ⟨rfl, ⟨rfl, trivial⟩, ?_⟩
  rintro ⟨⟨member, -⟩, -⟩
  revert member
  decide

/-- The outbound that is not the default is replaced, and the default is removed. -/
theorem default_follows : Live (twoOutbounds.load.start none fun _ => none).1 ∧
      (outboundCalls.Along (fun m call => Live (m.call call).1) (twoOutbounds.load.start none fun _ => none).1
          [.create [98] [] (.ok []) none none, .remove [97] none] ↔
        outboundCalls.Along Follows (twoOutbounds.load.start none fun _ => none).1
          [.create [98] [] (.ok []) none none, .remove [97] none]) :=
  default_live_iff twoOutbounds none (fun _ => none) _ rfl ⟨rfl, rfl, trivial⟩

end SingBox.Manager
