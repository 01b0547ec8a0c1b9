/-
**The outbound manager** (`adapter/outbound/manager.go`).

The manager lists its outbounds, finds them by tag, and knows which outbounds depend on which tags. Providers create,
replace and remove outbounds while it runs. Three things go wrong:

* `Remove` takes the outbound out of the map and the list before it finds that others depend on it.
* `Create` does not strike off the outbound that it replaces.
* A dependency that is listed twice is struck off twice, which costs its only other dependent its place.
-/

import SingBox.Adapter.Metadata
import SingBox.Lib.Machine
import SingBox.Lib.Registry

namespace SingBox.Manager

open SingBox.Lib List Checked

/-! ### Outbounds and the manager -/

abbrev Outbound := Entry Bytes Bytes

instance outboundLawfulBEq : LawfulBEq Outbound := inferInstance

structure Endpoint where
  serial : Nat
  tag : Bytes
  deriving DecidableEq

/-- What can be the default. Endpoints are outbounds as well, but the manager does not list them. -/
inductive Detour where
  | outbound (outbound : Outbound)
  | endpoint (endpoint : Endpoint)
  deriving DecidableEq

inductive StartStage where
  | stateInitialize
  | stateStart
  | statePostStart
  | stateStarted
  deriving DecidableEq

inductive ManagerError where
  /-- `os.ErrInvalid`. -/
  | invalid
  /-- "default outbound not found: " and the tag. -/
  | defaultNotFound (tag : Bytes)
  /-- "create direct outbound for fallback", with the error. -/
  | fallback (error : Error)
  /-- The error of the registry. -/
  | create (error : Error)
  /-- The stage and "outbound/", the type and the tag in brackets, with the error. -/
  | start (outbound : Outbound) (error : Error)
  /-- What `startOutbounds` or a later stage gives. -/
  | startAll (error : Error)
  /-- "close outbound/", the type and the tag in brackets, with the error. -/
  | closeExists (outbound : Outbound) (error : Error)
  /-- "outbound[", the tag, "] is depended by " and the dependents. -/
  | dependedBy (tag : Bytes) (dependBy : List Bytes)
  /-- The error of `Close`. -/
  | close (error : Error)
  deriving DecidableEq

/-- The manager. `listed` is all that has been in the list, and `closed` all that `Close` has been called of. -/
structure OutboundManager where
  defaultTag : Bytes
  endpoint : Bytes → Option Endpoint
  started : Bool := false
  stage : StartStage := .stateInitialize
  registry : Registry Bytes Bytes := {}
  defaultOutbound : Option Detour := none
  created : Nat := 0
  (listed closed : List Outbound := [])

abbrev Result := Checked ManagerError Unit

def whenStarted (started : Bool) (error : Option Error) : Option Error := if started then error else none

namespace OutboundManager

variable (m : OutboundManager)

def closing (outbound : Outbound) : OutboundManager :=
  { m with closed := if m.started then outbound :: m.closed else m.closed }

def nextDefault (outbound : Outbound) : Option Detour :=
  if m.defaultOutbound = some (.outbound outbound) then m.registry.list.head?.map .outbound
  else m.defaultOutbound

/-- `Remove`. `closeErr` is what `Close` gives. -/
def remove (tag : Bytes) (closeErr : Option Error) : OutboundManager × Result :=
  match m.registry.byTag tag with
  | none => (m, fail .invalid)
  | some outbound =>
    if outbound ∈ m.registry.list then
      let m := { m with registry := m.registry.unregister tag outbound }
      let m := { m with defaultOutbound := m.nextDefault outbound }
      let dependBy := m.registry.dependBy tag
      if 0 < dependBy.length then (m, fail (.dependedBy tag dependBy))
      else
        let m := { m with registry := m.registry.withdraw tag outbound }
        match whenStarted m.started closeErr with
        | some error => (m.closing outbound, fail (.close error))
        | none => (m.closing outbound, .ok ())
    else (m, .error .panic)

/-- The end of `Create`: the outbound is registered, and perhaps the default. -/
def add (outbound : Outbound) : OutboundManager :=
  { m with
    registry        := m.registry.register outbound
    listed          := outbound :: m.listed
    defaultOutbound :=
      if outbound.tag = m.defaultTag ∨ m.defaultTag = [] ∧ m.defaultOutbound = none then some (.outbound outbound)
      else m.defaultOutbound }

/-- `Create`. The registry makes an outbound with these dependencies or fails; `startErr` and `closeErr` are what
starting it gives and what closing the outbound gives that has the tag already. -/
def create (tag inboundType : Bytes) (made : Except Error (List Bytes))
    (startErr closeErr : Option Error) : OutboundManager × Result :=
  if tag = [] then (m, fail .invalid)
  else
    match made with
    | .error error => (m, fail (.create error))
    | .ok dependencies =>
      let outbound : Outbound := ⟨m.created, tag, dependencies, inboundType⟩
      let m := { m with created := m.created + 1 }
      match whenStarted m.started startErr with
      | some error => (m, fail (.start outbound error))
      | none =>
        match m.registry.byTag tag with
        | none => (m.add outbound, .ok ())
        | some existsOutbound =>
          let m := m.closing existsOutbound
          match whenStarted m.started closeErr with
          | some error => (m, fail (.closeExists existsOutbound error))
          | none =>
            if existsOutbound ∈ m.registry.list then
              ({ m with registry := m.registry.unlist existsOutbound }.add outbound, .ok ())
            else (m, .error .panic)

end OutboundManager

inductive ManagerCall where
  | create (tag inboundType : Bytes) (made : Except Error (List Bytes)) (startErr closeErr : Option Error)
  | remove (tag : Bytes) (closeErr : Option Error)

def OutboundManager.call (m : OutboundManager) : ManagerCall → OutboundManager × Result
  | .create tag inboundType made startErr closeErr => m.create tag inboundType made startErr closeErr
  | .remove tag closeErr => m.remove tag closeErr

def outboundCalls : Machine OutboundManager ManagerCall Result where
  step m call := ((m.call call).1, some (m.call call).2)

/-! ### What a call does -/

namespace OutboundManager

/-- The outbound that `Create` makes. -/
def made (m : OutboundManager) (tag inboundType : Bytes) (dependencies : List Bytes) : Outbound :=
  ⟨m.created, tag, dependencies, inboundType⟩

variable {m : OutboundManager}

/-- **`Create`** fails and leaves the registry as it is, or registers an outbound under a new tag, or in the place
of the one that has the tag. -/
theorem create_cases (consistent : m.registry.Consistent) (tag inboundType : Bytes)
    (made : Except Error (List Bytes)) (startErr closeErr : Option Error) :
    (∃ created closed error, m.created ≤ created ∧ m.closed ⊆ closed ∧
      (∀ tag dependBy, error ≠ .dependedBy tag dependBy) ∧
      m.create tag inboundType made startErr closeErr = ({ m with created, closed }, fail error)) ∨
    ∃ dependencies, made = .ok dependencies ∧
      ((m.registry.byTag tag = none ∧
        m.create tag inboundType made startErr closeErr =
          ({ m with created := m.created + 1 }.add (m.made tag inboundType dependencies), .ok ())) ∨
      ∃ old, m.registry.byTag tag = some old ∧
        m.create tag inboundType made startErr closeErr =
          ({ ({ m with created := m.created + 1 }.closing old) with
              registry := m.registry.unlist old }.add (m.made tag inboundType dependencies), .ok ())) := by
  fun_cases create m tag inboundType made startErr closeErr with
  | case1 | case2 => exact .inl ⟨_, _, _, le_refl _, .refl _, by simp, rfl⟩
  | case3 => exact .inl ⟨_, _, _, Nat.le_succ _, .refl _, by simp, rfl⟩
  | case4 _ dependencies _ _ _ free => exact .inr ⟨dependencies, rfl, .inl ⟨free, rfl⟩⟩
  | case5 =>
    refine .inl ⟨_, _, _, Nat.le_succ _, ?_, by simp, rfl⟩
    split_ifs
    · exact subset_cons_self _ _
    · exact .refl _
  | case6 _ dependencies _ _ _ old found => exact .inr ⟨dependencies, rfl, .inr ⟨old, found, rfl⟩⟩
  | case7 _ _ _ _ old found _ _ absent => exact absurd ((consistent.indexed _ _).mp found).1 absent

/-- **`Remove`** finds nothing, or takes the outbound out of the registry and then fails, or goes on to close it. -/
theorem remove_cases (consistent : m.registry.Consistent) (tag : Bytes) (closeErr : Option Error) :
    (m.registry.byTag tag = none ∧ m.remove tag closeErr = (m, fail .invalid)) ∨
    ∃ outbound, m.registry.byTag tag = some outbound ∧
      let unlisted := { m with registry := m.registry.unregister tag outbound }
      ((m.registry.dependBy tag ≠ [] ∧
        m.remove tag closeErr =
          ({ unlisted with defaultOutbound := unlisted.nextDefault outbound },
            fail (.dependedBy tag (m.registry.dependBy tag)))) ∨
      (m.registry.dependBy tag = [] ∧ ∃ result : Result,
        (result = .ok () ∨ ∃ error, result = fail (.close error)) ∧
        m.remove tag closeErr =
          ({ unlisted with
              registry        := unlisted.registry.withdraw tag outbound
              defaultOutbound := unlisted.nextDefault outbound
              closed          := if m.started then outbound :: m.closed else m.closed }, result))) := by
  have free {dependBy : List Bytes} (none : ¬0 < dependBy.length) : dependBy = [] := by simpa using none
  fun_cases remove m tag closeErr with
  | case1 missing => exact .inl ⟨missing, rfl⟩
  | case2 outbound found _ _ _ _ depended =>
    exact .inr ⟨outbound, found, .inl ⟨length_pos_iff.mp depended, rfl⟩⟩
  | case3 outbound found _ _ _ _ none _ error =>
    exact .inr ⟨outbound, found, .inr ⟨free none, _, .inr ⟨error, rfl⟩, rfl⟩⟩
  | case4 outbound found _ _ _ _ none => exact .inr ⟨outbound, found, .inr ⟨free none, _, .inl rfl, rfl⟩⟩
  | case5 outbound found absent => exact absurd ((consistent.indexed _ _).mp found).1 absent

end OutboundManager

/-- **The books are kept**: list and map agree, the dependents are exact, and what is no longer listed is closed. -/
structure Kept (m : OutboundManager) : Prop where
  consistent : m.registry.Consistent
  exact : m.registry.Exact
  closed : ∀ outbound ∈ m.listed, outbound ∉ m.registry.list → outbound ∈ m.closed

def DependedBy (result : Result) : Prop := ∃ tag dependBy, result = fail (.dependedBy tag dependBy)

/-- After a call the books are kept, and a call that returns "is depended by" has changed nothing. -/
def Sound (m : OutboundManager) (call : ManagerCall) : Prop :=
  Kept (m.call call).1 ∧ (DependedBy (m.call call).2 → (m.call call).1 = m)

def Careful (m : OutboundManager) : ManagerCall → Prop
  | .create tag inboundType made startErr closeErr =>
    (m.create tag inboundType made startErr closeErr).2 = .ok () →
      ∀ old dependencies, m.registry.byTag tag = some old → made = .ok dependencies → old.dependencies ⊆ dependencies
  | .remove tag _ => ∀ outbound, m.registry.byTag tag = some outbound →
    m.registry.dependBy tag = [] ∧ m.registry.Separable tag outbound

/-- New outbounds differ from those that were listed before. -/
structure Recorded (m : OutboundManager) : Prop where
  listed : ∀ outbound ∈ m.registry.list, outbound ∈ m.listed
  fresh : ∀ outbound ∈ m.listed, outbound.serial < m.created

/-- A started manager whose bookkeeping is in order. -/
structure StartedManager where
  manager : OutboundManager
  started : manager.started = true
  recorded : Recorded manager
  kept : Kept manager

/-! ### Calls -/

section Calls

variable {m : OutboundManager}

theorem not_dependedBy_ok : ¬DependedBy (.ok ()) := by
  rintro ⟨tag, dependBy, is⟩
  cases is

theorem Recorded.add (recorded : Recorded m) (dependencies : List Bytes) (tag inboundType : Bytes)
    {r : Registry Bytes Bytes} (sub : r.list ⊆ m.registry.list) {closed : List Outbound} :
    Recorded ({ m with created := m.created + 1, registry := r, closed }.add (m.made tag inboundType dependencies)) := by
  constructor
  · intro outbound member
    rcases mem_append.mp member with before | here
    · exact mem_cons_of_mem _ (recorded.listed outbound (sub before))
    · exact mem_cons.mpr (.inl (mem_singleton.mp here))
  · intro outbound member
    rcases mem_cons.mp member with rfl | before
    · exact Nat.lt_succ_self _
    · exact Nat.lt_succ_of_lt (recorded.fresh outbound before)

open OutboundManager

/-- **`Create` keeps the books** exactly if it is careful. -/
theorem sound_create_iff (kept : Kept m) (started : m.started = true) (tag inboundType : Bytes)
    (made : Except Error (List Bytes)) (startErr closeErr : Option Error) :
    Sound m (.create tag inboundType made startErr closeErr) ↔
      Careful m (.create tag inboundType made startErr closeErr) := by
  unfold Sound Careful call
  dsimp only
  rcases create_cases kept.consistent tag inboundType made startErr closeErr with
    ⟨created, closed, error, -, more, other, is⟩ | ⟨dependencies, rfl, ⟨new, is⟩ | ⟨old, found, is⟩⟩ <;> rw [is]
  · refine iff_of_true ⟨⟨kept.consistent, kept.exact, fun outbound listed gone => more (kept.closed _ listed gone)⟩, ?_⟩
      fun ok => by cases ok
    rintro ⟨tag, dependBy, same⟩
    cases same
    exact absurd rfl (other tag dependBy)
  · refine iff_of_true ⟨⟨kept.consistent.register new, kept.exact.register, ?_⟩,
      fun depended => absurd depended not_dependedBy_ok⟩ fun _ old _ found _ => ?_
    · intro outbound listed gone
      rcases mem_cons.mp listed with rfl | before
      · exact absurd (mem_append_right _ (mem_singleton_self _)) gone
      · exact kept.closed outbound before fun member => gone (mem_append_left _ member)
    · cases new.symm.trans found
  · have replaced : ((m.registry.unlist old).register (m.made tag inboundType dependencies)).Exact ↔
        old.dependencies ⊆ dependencies := Registry.exact_replace_iff kept.consistent kept.exact found
    constructor
    · rintro ⟨after, -⟩ - old' dependencies' found' same
      cases found.symm.trans found'
      cases same
      exact replaced.mp after.exact
    · intro careful
      refine ⟨⟨kept.consistent.replace found, replaced.mpr (careful rfl old dependencies found rfl), ?_⟩,
        fun depended => absurd depended not_dependedBy_ok⟩
      intro outbound listed gone
      show outbound ∈ if m.started then old :: m.closed else m.closed
      rw [if_pos started]
      rcases mem_cons.mp listed with rfl | before
      · exact absurd (mem_append_right _ (mem_singleton_self _)) gone
      by_cases is : outbound = old
      · exact mem_cons.mpr (.inl is)
      · refine mem_cons_of_mem _ (kept.closed outbound before fun member => gone ?_)
        exact mem_append_left _ (kept.consistent.mem_unlist.mpr ⟨member, is⟩)

/-- **`Remove` keeps the books** exactly if it is careful. -/
theorem sound_remove_iff (kept : Kept m) (started : m.started = true) (tag : Bytes) (closeErr : Option Error) :
    Sound m (.remove tag closeErr) ↔ Careful m (.remove tag closeErr) := by
  unfold Sound Careful call
  dsimp only
  rcases remove_cases kept.consistent tag closeErr with
    ⟨missing, is⟩ | ⟨outbound, found, ⟨depended, is⟩ | ⟨free, result, ends, is⟩⟩ <;> rw [is]
  · refine iff_of_true ⟨kept, fun _ => rfl⟩ fun outbound found => ?_
    cases missing.symm.trans found
  · -- The tag is gone from the map.
    refine iff_of_false ?_ fun careful => depended (careful outbound found).1
    rintro ⟨-, unchanged⟩
    have same := congrArg (fun m => m.registry.byTag tag) (unchanged ⟨tag, m.registry.dependBy tag, rfl⟩)
    have gone : (m.registry.unregister tag outbound).byTag tag = none := Function.update_self ..
    cases gone.symm.trans (same.trans found)
  · have withdrawn := Registry.exact_withdraw_iff kept.consistent kept.exact found
    constructor
    · rintro ⟨after, -⟩ outbound' found'
      cases found.symm.trans found'
      exact ⟨free, withdrawn.mp after.exact⟩
    · intro careful
      have consistent := kept.consistent.unregister found
      refine ⟨⟨⟨consistent.indexed, consistent.distinct⟩, withdrawn.mpr (careful outbound found).2, ?_⟩, ?_⟩
      · intro other listed gone
        rw [if_pos started]
        by_cases is : other = outbound
        · exact mem_cons.mpr (.inl is)
        · refine mem_cons_of_mem _ (kept.closed other listed fun member => gone ?_)
          exact kept.consistent.mem_unlist.mpr ⟨member, is⟩
      · rintro ⟨name, dependBy, same⟩
        rcases ends with rfl | ⟨error, rfl⟩ <;> cases same

theorem Recorded.call (recorded : Recorded m) (consistent : m.registry.Consistent) (call : ManagerCall) :
    Recorded (m.call call).1 ∧ (m.call call).1.started = m.started := by
  unfold OutboundManager.call
  cases call with
  | create tag inboundType made startErr closeErr =>
    dsimp only
    rcases create_cases consistent tag inboundType made startErr closeErr with
      ⟨created, closed, error, more, -, -, is⟩ | ⟨dependencies, -, ⟨-, is⟩ | ⟨old, -, is⟩⟩ <;> rw [is]
    · exact ⟨⟨recorded.listed, fun outbound listed => (recorded.fresh outbound listed).trans_le more⟩, rfl⟩
    · exact ⟨recorded.add dependencies tag inboundType (.refl _), rfl⟩
    · exact ⟨recorded.add dependencies tag inboundType erase_subset, rfl⟩
  | remove tag closeErr =>
    dsimp only
    rcases remove_cases consistent tag closeErr with
      ⟨-, is⟩ | ⟨outbound, -, ⟨-, is⟩ | ⟨-, result, -, is⟩⟩ <;> rw [is]
    · exact ⟨recorded, rfl⟩
    · exact ⟨⟨fun other member => recorded.listed other (mem_of_mem_erase member), recorded.fresh⟩, rfl⟩
    · exact ⟨⟨fun other member => recorded.listed other (mem_of_mem_erase member), recorded.fresh⟩, rfl⟩

end Calls

/-! ### Whole runs -/

/-- **The manager keeps its books along a run** exactly if all its calls are careful. -/
theorem bookkeeping_iff (m : StartedManager) (calls : List ManagerCall) :
    outboundCalls.Along Sound m.manager calls ↔ outboundCalls.Along Careful m.manager calls := by
  have agree (m : OutboundManager) (call : ManagerCall) (inv : m.started = true ∧ Recorded m ∧ Kept m) :
      Sound m call ↔ Careful m call := by
    obtain ⟨started, -, kept⟩ := inv
    cases call with
    | create tag inboundType made startErr closeErr =>
      exact sound_create_iff kept started tag inboundType made startErr closeErr
    | remove tag closeErr => exact sound_remove_iff kept started tag closeErr
  refine Machine.along_iff_of_invariant (fun m => m.started = true ∧ Recorded m ∧ Kept m)
    (fun m call inv _ => agree m call inv) ?_ ⟨m.started, m.recorded, m.kept⟩
    (outboundCalls.along_of_forall (fun _ _ => trivial) m.manager calls)
  intro m call inv _ careful
  obtain ⟨recorded, started⟩ := inv.2.1.call inv.2.2.consistent call
  exact ⟨started.trans inv.1, recorded, ((agree m call inv).mpr careful).1⟩

def endpointOnly : StartedManager where
  manager :=
    { defaultTag      := [101]
      endpoint        := fun tag => if tag = [101] then some ⟨0, tag⟩ else none
      started         := true
      stage           := .stateStarted
      defaultOutbound := some (.endpoint ⟨0, [101]⟩) }
  started := rfl
  recorded := ⟨by simp, by simp⟩
  kept := ⟨Registry.consistent_empty, Registry.exact_empty, by simp⟩

/-- `b` depends on `a`, and `a` is removed: `Remove` returns an error, and `a` is neither listed nor closed. -/
theorem removes_depended : ¬outboundCalls.Along Sound endpointOnly.manager
      [.create [97] [] (.ok []) none none, .create [98] [] (.ok [[97]]) none none, .remove [97] none] := by
  rintro ⟨-, -, ⟨-, unchanged⟩, -⟩
  have same := congrArg (fun m => (m.registry.byTag [97]).isSome) (unchanged ⟨[97], [[98]], rfl⟩)
  revert same
  decide

end SingBox.Manager
