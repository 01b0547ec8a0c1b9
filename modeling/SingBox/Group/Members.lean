/-
**The members of an outbound group** (`protocol/group/selector.go`, `urltest.go`).

A group has static outbounds, given by their tags, and the outbounds of its providers. `startMembers` finds the static
outbounds when the group is started, and `collect` goes through the providers when one of them has changed. It reads
the outbounds of the changed provider, and of those it has no outbounds of in its cache, and leaves out those that the
patterns of the group do not want.
-/

import SingBox.Adapter.Metadata
import Mathlib.Logic.Function.Basic

namespace SingBox.Group

open SingBox.Lib

/-- `Compatible`. -/
def compatibleTag : Bytes := [0x43, 0x6F, 0x6D, 0x70, 0x61, 0x74, 0x69, 0x62, 0x6C, 0x65]

/-- What a group finds in its context: the tag of an outbound, the outbounds that the outbound manager
knows, among them always `Compatible`, and the tags of the providers. -/
structure GroupContext (Outbound : Type) where
  tag : Outbound → Bytes
  outbound : Bytes → Option Outbound
  compatible : Outbound
  providers : List Bytes
  outbound_tag : ∀ {name detour}, outbound name = some detour → tag detour = name
  outbound_compatible : outbound compatibleTag = some compatible

structure GroupOptions where
  outbounds : List Bytes
  providers : List Bytes := []
  useAllProviders : Bool := false
  (exclude includes : Option (Bytes → Bool) := none)

variable {Outbound : Type}

/-! ### At the start -/

section Start

variable (ctx : GroupContext Outbound) (options : GroupOptions)

def startProviders : Except Error (List Bytes) :=
  if options.useAllProviders then .ok ctx.providers
  else do
    options.providers.zipIdx.forM fun entry =>
      if entry.1 ∈ ctx.providers then .ok ()
      else .error (.extend (.new ("outbound provider " ++ toString entry.2 ++ " not found: ")) entry.1)
    return options.providers

def startOutbounds : Except Error (List Outbound) :=
  options.outbounds.zipIdx.mapM fun entry =>
    match ctx.outbound entry.1 with
    | some detour => .ok detour
    | none => .error (.extend (.new ("outbound " ++ toString entry.2 ++ " not found: ")) entry.1)

def startTags : List Bytes :=
  if options.outbounds = [] then [ctx.tag ctx.compatible] else options.outbounds

/-- The first part of `Start`: the providers, and the outbounds that the group has as long as it knows
none of the providers'. -/
def startMembers : Except Error (List Bytes × List Outbound) := do
  let providerTags ← startProviders ctx options
  if options.outbounds.length + providerTags.length = 0 then
    .error (.new "missing outbound and provider tags")
  else do
    let outbounds ← startOutbounds ctx options
    return (providerTags, if options.outbounds = [] then [ctx.compatible] else outbounds)

end Start

theorem startMembers_spec {ctx : GroupContext Outbound} {options : GroupOptions}
    {members : List Bytes × List Outbound} (started : startMembers ctx options = .ok members) :
    List.Forall₂ (fun tag detour => ctx.outbound tag = some detour) (startTags ctx options) members.2 := by
  obtain ⟨providerTags, -, started⟩ := bind_eq_ok_iff.mp started
  split at started
  · cases started
  obtain ⟨outbounds, found, same⟩ := bind_eq_ok_iff.mp started
  cases same
  unfold startTags
  split
  · refine .cons ?_ .nil
    rw [ctx.outbound_tag ctx.outbound_compatible]
    exact ctx.outbound_compatible
  · refine (mapM_zipIdx_eq_ok_iff (fun tag i detour => ?_) 0).mp found
    cases ctx.outbound tag <;> simp

/-! ### When a provider has changed -/

def wants (options : GroupOptions) (tag : Bytes) : Bool :=
  (options.exclude.all fun exclude => !exclude tag) && options.includes.all fun wanted => wanted tag

/-- `outboundsCache`; an entry without outbounds is nil. -/
abbrev OutboundsCache (Outbound : Type) := Bytes → Option (List Outbound)

section Collect

variable (ctx : GroupContext Outbound) (options : GroupOptions) (updated : Bytes) (current : Bytes → List Outbound)

def offered (providerTag : Bytes) : List Outbound :=
  (current providerTag).filter fun detour => wants options (ctx.tag detour)

/-- The loop over the providers when `updated` has changed: the outbounds, and the new cache. `current`
are the outbounds of the providers at this time. -/
def collect : OutboundsCache Outbound → List Bytes → List Outbound × OutboundsCache Outbound
  | cache, [] => ([], cache)
  | cache, providerTag :: providerTags =>
    match if providerTag ≠ updated then cache providerTag else none with
    | some cached =>
      let rest := collect cache providerTags
      (cached ++ rest.1, rest.2)
    | none =>
      let found := offered ctx options current providerTag
      let rest := collect (Function.update cache providerTag (if found = [] then none else some found)) providerTags
      (found ++ rest.1, rest.2)

end Collect

theorem mem_collect {ctx : GroupContext Outbound} {options : GroupOptions} {updated : Bytes}
    {current : Bytes → List Outbound} {cache : OutboundsCache Outbound} {providerTags : List Bytes}
    {detour : Outbound} (member : detour ∈ (collect ctx options updated current cache providerTags).1) :
    ∃ providerTag ∈ providerTags, detour ∈ current providerTag ∨ detour ∈ (cache providerTag).getD [] := by
  induction providerTags generalizing cache with
  | nil => cases member
  | cons providerTag providerTags ih =>
    unfold collect at member
    split at member
    · rename_i cached known
      rcases List.mem_append.mp member with here | later
      · split at known
        · refine ⟨providerTag, List.mem_cons_self, .inr ?_⟩
          rwa [known]
        · cases known
      · obtain ⟨next, inside, source⟩ := ih later
        exact ⟨next, List.mem_cons_of_mem _ inside, source⟩
    · rcases List.mem_append.mp member with here | later
      · exact ⟨providerTag, List.mem_cons_self, .inl (List.mem_of_mem_filter here)⟩
      obtain ⟨next, inside, source⟩ := ih later
      by_cases same : next = providerTag
      · -- The cache has been set from the provider.
        subst same
        refine ⟨next, List.mem_cons_self, .inl ?_⟩
        rw [Function.update_self] at source
        rcases source with now | stored
        · exact now
        · split at stored
          · cases stored
          · exact List.mem_of_mem_filter stored
      · rw [Function.update_of_ne same] at source
        exact ⟨next, List.mem_cons_of_mem _ inside, source⟩

/-- A context that knows an outbound of every name, and one provider. -/
def sampleGroup : GroupContext (Bytes × Nat) where
  tag := Prod.fst
  outbound name := some (name, 0)
  compatible := (compatibleTag, 0)
  providers := [[0x70]]
  outbound_tag := by
    intro name detour found
    cases found
    rfl
  outbound_compatible := rfl

end SingBox.Group
