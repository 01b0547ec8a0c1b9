/-
**The outbounds of a provider** (`adapter/provider/adapter.go`).

A provider turns a list of options into outbounds, and does so again each time the list changes. An outbound that it
already has is kept if its option has not changed. To decide that, the code compares the new option with the last old
option *of the same raw tag*, but takes the outbound *of the same resolved tag*, which depends on the position of an
option and on the options before it. `updateLoop_updated` says what one update does, whatever the options are.
-/

import SingBox.Adapter.Metadata
import SingBox.Lib.Names
import Mathlib.Data.List.ReduceOption

namespace SingBox.Provider

open SingBox.Lib List Function

/-! ### Options and outbounds -/

/-- `option.Outbound` and `option.Endpoint`, which have the same fields. The default value of `Options`
stands for nil. -/
structure OutboundOption (Options : Type) where
  type : Bytes
  tag : Bytes
  options : Options
  deriving DecidableEq, Inhabited

structure Outbound (Options : Type) where
  serial : Nat
  tag : Bytes
  option : OutboundOption Options
  deriving DecidableEq

/-- `adapter.OutboundManager` or `adapter.EndpointManager`: what is registered, and what was registered
and has been closed. -/
structure Manager (Options : Type) where
  outboundByTag : Bytes → Option (Outbound Options)
  closed : List (Outbound Options)
  created : Nat
  tag_eq : ∀ {tag outbound}, outboundByTag tag = some outbound → outbound.tag = tag
  registered_lt : ∀ {tag outbound}, outboundByTag tag = some outbound → outbound.serial < created
  closed_lt : ∀ outbound ∈ closed, outbound.serial < created
  closed_removed : ∀ outbound ∈ closed, outboundByTag outbound.tag ≠ some outbound

namespace Manager

variable {Options : Type}

section

variable (manager : Manager Options)

def replace (tag : Bytes) (next : Option (Outbound Options)) (created : Nat)
    (more : manager.created ≤ created)
    (fits : ∀ outbound ∈ next, outbound.tag = tag ∧ manager.created ≤ outbound.serial ∧
      outbound.serial < created) : Manager Options where
  outboundByTag := update manager.outboundByTag tag next
  closed := manager.closed ++ (manager.outboundByTag tag).toList
  created := created
  tag_eq := by
    intro other outbound found
    rw [update_apply] at found
    split at found
    · rename_i same
      exact (fits outbound found).1.trans same.symm
    · exact manager.tag_eq found
  registered_lt := by
    intro other outbound found
    rw [update_apply] at found
    split at found
    · exact (fits outbound found).2.2
    · exact (manager.registered_lt found).trans_le more
  closed_lt := by
    intro outbound member
    apply lt_of_lt_of_le _ more
    rcases List.mem_append.mp member with before | here
    · exact manager.closed_lt outbound before
    · exact manager.registered_lt (Option.mem_toList.mp here)
  closed_removed := by
    intro outbound member found
    rw [update_apply] at found
    rcases List.mem_append.mp member with before | here
    · split at found
      · exact Nat.not_lt.mpr (fits outbound found).2.1 (manager.closed_lt outbound before)
      · exact manager.closed_removed outbound before found
    · have registered := Option.mem_toList.mp here
      rw [if_pos (manager.tag_eq registered)] at found
      exact Nat.not_lt.mpr (fits outbound found).2.1 (manager.registered_lt registered)

def remove (tag : Bytes) : Manager Options :=
  manager.replace tag none manager.created le_rfl (by simp)

/-- The outbound that `Create` makes. -/
def made (tag : Bytes) (option : OutboundOption Options) : Outbound Options :=
  ⟨manager.created, tag, option⟩

/-- A successful `Create`. -/
def create (tag : Bytes) (option : OutboundOption Options) : Manager Options :=
  manager.replace tag (some (manager.made tag option)) (manager.created + 1) (Nat.le_succ _) (by simp [made])

end

section Lemmas

variable (manager : Manager Options) {tag other : Bytes} {option : OutboundOption Options}

@[simp] theorem create_self : (manager.create tag option).outboundByTag tag = some (manager.made tag option) :=
  update_self ..

theorem remove_of_ne (differs : other ≠ tag) : (manager.remove tag).outboundByTag other = manager.outboundByTag other :=
  update_of_ne differs ..

end Lemmas

end Manager

/-! ### Tags -/

variable {Options : Type}

def baseTag (providerTag label : Bytes) (option : OutboundOption Options) (i : Nat) : Bytes :=
  providerTag ++ 0x2F :: if option.tag ≠ [] then option.tag else label ++ decimal i

/-- The tags that are tried: `tag`, `tag (2)`, `tag (3)` and so on. -/
def candidateTag (baseTag : Bytes) : Nat → Bytes
  | 0 => baseTag
  | k + 1 => baseTag ++ ([0x20, 0x28] ++ decimal (k + 2) ++ [0x29])

/-- `resolveOutboundTags` and `resolveEndpointTags`. -/
def resolveTags (providerTag label : Bytes) (newOpts : List (OutboundOption Options)) : List Bytes :=
  freshNames (newOpts.zipIdx.map fun entry =>
    candidateTag (baseTag providerTag label entry.1 entry.2)) []

theorem candidateTag_injective (baseTag : Bytes) : Function.Injective (candidateTag baseTag) := by
  rintro (_ | n) (_ | m) same
  · rfl
  · simp [candidateTag] at same
  · simp [candidateTag] at same
  · simp only [candidateTag, append_cancel_left_eq, append_cancel_right_eq] at same
    have := decimal_inj (by simp) (by simp) same
    omega

theorem resolveTags_nodup (providerTag label : Bytes) (newOpts : List (OutboundOption Options)) :
    (resolveTags providerTag label newOpts).Nodup := by
  apply freshNames_nodup
  simp only [forall_mem_map]
  exact fun entry _ => candidateTag_injective _

@[simp] theorem resolveTags_length (providerTag label : Bytes) (newOpts : List (OutboundOption Options)) :
    (resolveTags providerTag label newOpts).length = newOpts.length := by
  simp [resolveTags]

/-! ### One update -/

section Update

variable [DecidableEq Options] [Inhabited Options]

/-- `oldOptByTag`: the last old option with a raw tag, or the zero value. -/
def oldOptByTag (oldOpts : List (OutboundOption Options)) (tag : Bytes) : OutboundOption Options :=
  (oldOpts.reverse.find? fun option => option.tag == tag).getD default

/-- `removeUseless` and `removeUselessEndpoints`. -/
def removeUseless (newTags : List Bytes) (manager : Manager Options)
    (outbounds : List (Outbound Options)) : Manager Options :=
  outbounds.foldl (fun manager outbound =>
    if outbound.tag ∈ newTags then manager else manager.remove outbound.tag) manager

section Loop

variable (activeTags : List Bytes) (oldOpts : List (OutboundOption Options)) (fails : Bytes → Bool)

/-- The condition under which an outbound that exists is kept. -/
def Unchanged (opt : OutboundOption Options) (tag : Bytes) : Prop :=
  tag ∈ activeTags ∧ opt = oldOptByTag oldOpts opt.tag

instance (opt : OutboundOption Options) (tag : Bytes) :
    Decidable (Unchanged activeTags oldOpts opt tag) :=
  inferInstanceAs (Decidable (_ ∧ _))

/-- A turn of the loop that creates an outbound. `fails` says for which tags `Create` fails. -/
def recreate (manager : Manager Options) (opt : OutboundOption Options) (tag : Bytes) :
    Manager Options × Option (Outbound Options) :=
  if fails tag then (if tag ∈ activeTags then manager.remove tag else manager, none)
  else (manager.create tag opt, (manager.create tag opt).outboundByTag tag)

/-- One turn of the loop over the new options: the outbound, or none if it could not be created. -/
def updateOne (manager : Manager Options) (opt : OutboundOption Options) (tag : Bytes) :
    Manager Options × Option (Outbound Options) :=
  match manager.outboundByTag tag with
  | none => recreate activeTags fails manager opt tag
  | some outbound =>
    if Unchanged activeTags oldOpts opt tag then (manager, some outbound)
    else recreate activeTags fails manager opt tag

def updateLoop : Manager Options → List (OutboundOption Options × Bytes) →
    Manager Options × List (Option (Outbound Options))
  | manager, [] => (manager, [])
  | manager, entry :: entries =>
    let turn := updateOne activeTags oldOpts fails manager entry.1 entry.2
    let rest := updateLoop turn.1 entries
    (rest.1, turn.2 :: rest.2)

end Loop

/-- `UpdateOutbounds` and `UpdateEndpoints`, for the manager and the outbounds they work on. -/
def update (providerTag label : Bytes) (manager : Manager Options) (outbounds : List (Outbound Options))
    (oldOpts newOpts : List (OutboundOption Options)) (fails : Bytes → Bool) :
    Manager Options × List (Option (Outbound Options)) :=
  let newTags := resolveTags providerTag label newOpts
  let activeTags := outbounds.map fun outbound => outbound.tag
  updateLoop activeTags oldOpts fails (removeUseless newTags manager outbounds) (newOpts.zip newTags)

/-! ### What the loop does -/

/-- The outcome for an option: an outbound of its tag, or none if it could not be created. -/
def Named (fails : Bytes → Bool) (entry : OutboundOption Options × Bytes) : Option (Outbound Options) → Prop
  | none => fails entry.2 = true
  | some outbound => outbound.tag = entry.2

def BuiltFrom (entry : OutboundOption Options × Bytes) (outcome : Option (Outbound Options)) : Prop :=
  ∀ outbound ∈ outcome, outbound.option = entry.1

structure Turn (activeTags : List Bytes) (oldOpts : List (OutboundOption Options))
    (fails : Bytes → Bool) (manager : Manager Options) (entry : OutboundOption Options × Bytes)
    (result : Manager Options × Option (Outbound Options)) : Prop where
  named : Named fails entry result.2
  registered : ∀ outbound ∈ result.2, result.1.outboundByTag entry.2 = some outbound
  frame : ∀ tag ≠ entry.2, result.1.outboundByTag tag = manager.outboundByTag tag
  closed : manager.closed ⊆ result.1.closed
  listed_or_closed : entry.2 ∈ activeTags → ∀ outbound, manager.outboundByTag entry.2 = some outbound →
    result.2 = some outbound ∨ outbound ∈ result.1.closed
  builtFrom_iff : BuiltFrom entry result.2 ↔ (Unchanged activeTags oldOpts entry.1 entry.2 →
    ∀ outbound, manager.outboundByTag entry.2 = some outbound → outbound.option = entry.1)

/-- **What one update does**, whatever the options are. -/
structure Updated (activeTags : List Bytes) (oldOpts : List (OutboundOption Options))
    (fails : Bytes → Bool) (manager : Manager Options)
    (entries : List (OutboundOption Options × Bytes))
    (result : Manager Options × List (Option (Outbound Options))) : Prop where
  /-- There is one outcome for each option. -/
  named : List.Forall₂ (Named fails) entries result.2
  /-- The outbounds are registered. -/
  registered : ∀ outbound ∈ result.2.reduceOption, result.1.outboundByTag outbound.tag = some outbound
  /-- Other tags are left alone. -/
  frame : ∀ tag ∉ entries.map Prod.snd, result.1.outboundByTag tag = manager.outboundByTag tag
  /-- What is closed stays closed. -/
  closed : manager.closed ⊆ result.1.closed
  /-- An active outbound is listed again, or closed. -/
  listed_or_closed : ∀ tag ∈ entries.map Prod.snd, tag ∈ activeTags → ∀ outbound,
    manager.outboundByTag tag = some outbound → outbound ∈ result.2.reduceOption ∨ outbound ∈ result.1.closed
  /-- The outbounds belong to the options if those do that were kept. -/
  builtFrom_iff : List.Forall₂ BuiltFrom entries result.2 ↔
    ∀ entry ∈ entries, Unchanged activeTags oldOpts entry.1 entry.2 → ∀ outbound,
      manager.outboundByTag entry.2 = some outbound → outbound.option = entry.1

section Loop

variable {activeTags : List Bytes} {oldOpts : List (OutboundOption Options)} {fails : Bytes → Bool}

omit [DecidableEq Options] in
theorem recreate_turn {manager : Manager Options} {entry : OutboundOption Options × Bytes}
    (missing : Unchanged activeTags oldOpts entry.1 entry.2 → manager.outboundByTag entry.2 = none) :
    Turn activeTags oldOpts fails manager entry (recreate activeTags fails manager entry.1 entry.2) := by
  have moved (outbound : Outbound Options) (found : manager.outboundByTag entry.2 = some outbound) :
      outbound ∈ manager.closed ++ (manager.outboundByTag entry.2).toList := by
    simp [found]
  have unkept (unchanged : Unchanged activeTags oldOpts entry.1 entry.2) (outbound : Outbound Options)
      (found : manager.outboundByTag entry.2 = some outbound) : outbound.option = entry.1 := by
    simp [missing unchanged] at found
  fun_cases recreate activeTags fails manager entry.1 entry.2 with
  | case1 failed =>
    refine ⟨failed, by simp, ?_, ?_, ?_, iff_of_true (by simp [BuiltFrom]) unkept⟩
    · intro tag differs
      split
      · exact manager.remove_of_ne differs
      · rfl
    · split
      · exact subset_append_left _ _
      · exact fun _ member => member
    · intro active outbound found
      rw [if_pos active]
      exact .inr (moved outbound found)
  | case2 =>
    rw [Manager.create_self]
    exact ⟨rfl, by simp, fun tag differs => update_of_ne differs .., subset_append_left _ _,
      fun _ outbound found => .inr (moved outbound found), iff_of_true (by simp [BuiltFrom, Manager.made]) unkept⟩

/-- **The ways a turn can go**: the outbound is kept, whatever it was created from, or it is created again. -/
theorem updateOne_turn (manager : Manager Options) (entry : OutboundOption Options × Bytes) :
    Turn activeTags oldOpts fails manager entry (updateOne activeTags oldOpts fails manager entry.1 entry.2) := by
  fun_cases updateOne activeTags oldOpts fails manager entry.1 entry.2 with
  | case1 missing => exact recreate_turn fun _ => missing
  | case2 outbound found unchanged =>
    exact ⟨manager.tag_eq found, by simp [found], fun _ _ => rfl, fun _ member => member, by simp [found],
      by simp [BuiltFrom, found, unchanged]⟩
  | case3 _ _ changed => exact recreate_turn fun same => absurd same changed

omit [DecidableEq Options] in
theorem Updated.cons {manager : Manager Options} {entry : OutboundOption Options × Bytes}
    {entries : List (OutboundOption Options × Bytes)} (other : entry.2 ∉ entries.map Prod.snd)
    {turn : Manager Options × Option (Outbound Options)} {rest : Manager Options × List (Option (Outbound Options))}
    (first : Turn activeTags oldOpts fails manager entry turn)
    (later : Updated activeTags oldOpts fails turn.1 entries rest) :
    Updated activeTags oldOpts fails manager (entry :: entries) (rest.1, turn.2 :: rest.2) := by
  have same tag member :
      turn.1.outboundByTag tag = manager.outboundByTag tag :=
    first.frame tag fun equal => other (equal ▸ member)
  have here : ∀ outbound ∈ turn.2, rest.1.outboundByTag outbound.tag = some outbound := by
    intro outbound outcome
    have named := first.named
    rw [outcome] at named
    rw [show outbound.tag = entry.2 from named, later.frame _ other]
    exact first.registered outbound outcome
  refine ⟨.cons first.named later.named, ?_, ?_, fun _ member => later.closed (first.closed member), ?_, ?_⟩
  · intro outbound member
    rw [reduceOption_mem_iff, mem_cons] at member
    rcases member with outcome | member
    · exact here outbound outcome.symm
    · exact later.registered outbound (reduceOption_mem_iff.mpr member)
  · intro tag missing
    rw [map_cons, mem_cons, not_or] at missing
    rw [later.frame tag missing.2, first.frame tag missing.1]
  · intro tag member active outbound found
    rw [reduceOption_mem_iff, mem_cons]
    rcases mem_cons.mp member with rfl | member
    · rcases first.listed_or_closed active outbound found with outcome | closed
      · exact .inl (.inl outcome.symm)
      · exact .inr (later.closed closed)
    · rw [← same tag member] at found
      refine (later.listed_or_closed tag member active outbound found).imp_left fun listed => ?_
      exact .inr (reduceOption_mem_iff.mp listed)
  · rw [forall₂_cons, first.builtFrom_iff, later.builtFrom_iff, forall_mem_cons]
    refine and_congr_right fun _ => forall₂_congr fun next member => ?_
    rw [same next.2 (mem_map_of_mem member)]

theorem updateLoop_updated (entries : List (OutboundOption Options × Bytes))
    (distinct : (entries.map Prod.snd).Nodup) (manager : Manager Options) :
    Updated activeTags oldOpts fails manager entries (updateLoop activeTags oldOpts fails manager entries) := by
  induction entries generalizing manager with
  | nil =>
    refine ⟨.nil, ?_, fun _ _ => rfl, fun _ member => member, ?_, ?_⟩
    · exact fun outbound member => by cases member
    · exact fun tag member => by cases member
    · simp [updateLoop]
  | cons entry entries ih =>
    obtain ⟨other, distinct⟩ := nodup_cons.mp distinct
    exact .cons other (updateOne_turn manager entry) (ih distinct _)

end Loop

/-! ### What an update does -/

def Held (manager : Manager Options) (outbounds : List (Outbound Options)) : Prop :=
  ∀ outbound ∈ outbounds, manager.outboundByTag outbound.tag = some outbound

omit [DecidableEq Options] [Inhabited Options] in
theorem removeUseless_spec (newTags : List Bytes) {manager : Manager Options}
    {outbounds : List (Outbound Options)} (held : Held manager outbounds)
    (distinct : (outbounds.map fun outbound => outbound.tag).Nodup) :
    (∀ tag ∈ newTags, (removeUseless newTags manager outbounds).outboundByTag tag =
      manager.outboundByTag tag) ∧ manager.closed ⊆ (removeUseless newTags manager outbounds).closed ∧
    ∀ outbound ∈ outbounds, outbound.tag ∉ newTags → outbound ∈ (removeUseless newTags manager outbounds).closed := by
  induction outbounds generalizing manager with
  | nil => exact ⟨fun _ _ => rfl, fun _ member => member, fun outbound member => by cases member⟩
  | cons outbound outbounds ih =>
    obtain ⟨other, distinct⟩ := nodup_cons.mp distinct
    obtain ⟨here, held⟩ := forall_mem_cons.mp held
    unfold removeUseless at ih ⊢
    rw [foldl_cons]
    split_ifs with new
    · obtain ⟨same, closed, gone⟩ := ih held distinct
      exact ⟨same, closed, forall_mem_cons.mpr ⟨absurd new, gone⟩⟩
    · have still : Held (manager.remove outbound.tag) outbounds := by
        intro next member
        have differs : next.tag ≠ outbound.tag := fun equal =>
          other (mem_map.mpr ⟨next, member, equal⟩)
        rw [manager.remove_of_ne differs]
        exact held next member
      obtain ⟨same, closed, gone⟩ := ih still distinct
      refine ⟨fun tag member => ?_, fun _ member => closed (mem_append_left _ member),
        forall_mem_cons.mpr ⟨fun _ => closed (mem_append_right _ (by simp [here])), gone⟩⟩
      rw [same tag member, manager.remove_of_ne (ne_of_mem_of_not_mem member new)]

omit [DecidableEq Options] [Inhabited Options] in
theorem Named.sublist {fails : Bytes → Bool} {entries : List (OutboundOption Options × Bytes)}
    {outcomes : List (Option (Outbound Options))} (named : List.Forall₂ (Named fails) entries outcomes) :
    (outcomes.reduceOption.map fun outbound => outbound.tag).Sublist (entries.map Prod.snd) := by
  induction named with
  | nil => exact .slnil
  | @cons entry outcome entries outcomes first _ ih =>
    cases outcome with
    | none => exact .cons _ ih
    | some outbound =>
      rw [map_cons]
      exact (show outbound.tag = entry.2 from first) ▸ ih.cons_cons _

section

variable {providerTag label : Bytes} {manager : Manager Options} {outbounds : List (Outbound Options)}
  {oldOpts newOpts : List (OutboundOption Options)} {fails : Bytes → Bool}

theorem update_spec (held : Held manager outbounds)
    (distinct : (outbounds.map fun outbound => outbound.tag).Nodup) :
    let result := update providerTag label manager outbounds oldOpts newOpts fails
    let entries := newOpts.zip (resolveTags providerTag label newOpts)
    List.Forall₂ (Named fails) entries result.2 ∧
    Held result.1 result.2.reduceOption ∧
    (result.2.reduceOption.map fun outbound => outbound.tag).Nodup ∧
    (∀ outbound, outbound ∈ outbounds ∨ outbound ∈ manager.closed →
      outbound ∈ result.2.reduceOption ∨ outbound ∈ result.1.closed) ∧
    (List.Forall₂ BuiltFrom entries result.2 ↔ ∀ entry ∈ entries, ∀ outbound ∈ outbounds,
      outbound.tag = entry.2 → entry.1 = oldOptByTag oldOpts entry.1.tag → outbound.option = entry.1) := by
  intro result entries
  have tags : entries.map Prod.snd = resolveTags providerTag label newOpts :=
    map_snd_zip (by simp)
  have nodup : (entries.map Prod.snd).Nodup := tags ▸ resolveTags_nodup ..
  obtain ⟨same, closed, gone⟩ :=
    removeUseless_spec (resolveTags providerTag label newOpts) held distinct
  have updated : Updated _ oldOpts fails _ entries result := updateLoop_updated entries nodup _
  have active (tag : Bytes) (member : tag ∈ entries.map Prod.snd) (outbound : Outbound Options) :
      tag ∈ outbounds.map (fun outbound => outbound.tag) ∧
        (removeUseless (resolveTags providerTag label newOpts) manager outbounds).outboundByTag tag =
          some outbound ↔ outbound ∈ outbounds ∧ outbound.tag = tag := by
    rw [same tag (tags ▸ member)]
    constructor
    · rintro ⟨listed, found⟩
      obtain ⟨first, inside, rfl⟩ := mem_map.mp listed
      cases (held first inside).symm.trans found
      exact ⟨inside, rfl⟩
    · rintro ⟨inside, rfl⟩
      exact ⟨mem_map_of_mem inside, held outbound inside⟩
  refine ⟨updated.named, updated.registered, nodup.sublist (Named.sublist updated.named), ?_, ?_⟩
  · rintro outbound (listed | before)
    · by_cases new : outbound.tag ∈ entries.map Prod.snd
      · obtain ⟨isActive, found⟩ := (active outbound.tag new outbound).mpr ⟨listed, rfl⟩
        exact updated.listed_or_closed outbound.tag new isActive outbound found
      · exact .inr (updated.closed (gone outbound listed (tags ▸ new)))
    · exact .inr (updated.closed (closed before))
  · rw [updated.builtFrom_iff]
    refine forall₂_congr fun entry member => ?_
    have inside : entry.2 ∈ entries.map Prod.snd := mem_map_of_mem member
    constructor
    · intro right outbound listed equal unchanged
      obtain ⟨isActive, found⟩ := (active entry.2 inside outbound).mpr ⟨listed, equal⟩
      exact right ⟨isActive, unchanged⟩ outbound found
    · rintro right ⟨isActive, unchanged⟩ outbound found
      obtain ⟨listed, equal⟩ := (active entry.2 inside outbound).mp ⟨isActive, found⟩
      exact right outbound listed equal unchanged

end

/-! ### The adapter -/

/-- The fields of `Adapter` that the updates work on. `outbound` and `endpoint` are the managers. -/
structure Adapter (Options : Type) where
  providerTag : Bytes
  (outbound endpoint : Manager Options)
  (outbounds endpoints : List (Outbound Options) := [])

namespace Adapter

def Outbounds (a : Adapter Options) : List (Outbound Options) := a.outbounds ++ a.endpoints

/-- `UpdateOutbounds`, with the outcomes of the options. -/
def updateOutbounds (a : Adapter Options) (oldOpts newOpts : List (OutboundOption Options))
    (fails : Bytes → Bool) : Adapter Options × List (Option (Outbound Options)) :=
  let result := update a.providerTag [] a.outbound a.outbounds oldOpts newOpts fails
  ({ a with outbound := result.1, outbounds := result.2.reduceOption }, result.2)

/-- `UpdateEndpoints`, with the outcomes of the options. An endpoint without a tag is called
`endpoint-` and its position. -/
def updateEndpoints (a : Adapter Options) (oldOpts newOpts : List (OutboundOption Options))
    (fails : Bytes → Bool) : Adapter Options × List (Option (Outbound Options)) :=
  let result := update a.providerTag [0x65, 0x6E, 0x64, 0x70, 0x6F, 0x69, 0x6E, 0x74, 0x2D] a.endpoint
    a.endpoints oldOpts newOpts fails
  ({ a with endpoint := result.1, endpoints := result.2.reduceOption }, result.2)

end Adapter

/-- A call of `UpdateOutbounds`: the new options, and the creations that fail. -/
structure Call (Options : Type) where
  options : List (OutboundOption Options)
  fails : Bytes → Bool

structure Done (Options : Type) extends Call Options where
  outcomes : List (Option (Outbound Options))
  adapter : Adapter Options

def updates : Adapter Options → List (OutboundOption Options) → List (Call Options) → List (Done Options)
  | _, _, [] => []
  | a, oldOpts, call :: calls =>
    let result := a.updateOutbounds oldOpts call.options call.fails
    { call with outcomes := result.2, adapter := result.1 } :: updates result.1 call.options calls

/-! ### Outbounds and options in step -/

/-- Outbounds and options are in step. -/
structure InStep (done : Done Options) : Prop where
  listed : done.adapter.Outbounds = done.outcomes.reduceOption
  named : List.Forall₂ (Named done.fails)
    (done.options.zip (resolveTags done.adapter.providerTag [] done.options)) done.outcomes
  builtFrom : List.Forall₂ BuiltFrom
    (done.options.zip (resolveTags done.adapter.providerTag [] done.options)) done.outcomes
  distinct : (done.adapter.Outbounds.map fun outbound => outbound.tag).Nodup

/-- What was listed before, and is not listed now, has been removed and closed. -/
def Cleaned (before after : Done Options) : Prop :=
  ∀ outbound ∈ before.adapter.Outbounds, outbound ∉ after.adapter.Outbounds →
    outbound ∈ after.adapter.outbound.closed ∧ after.adapter.outbound.outboundByTag outbound.tag ≠ some outbound

def Reusable (providerTag : Bytes) (oldOpts newOpts : List (OutboundOption Options)) : Prop :=
  ∀ new ∈ newOpts.zip (resolveTags providerTag [] newOpts),
    ∀ old ∈ oldOpts.zip (resolveTags providerTag [] oldOpts),
      old.2 = new.2 → new.1 = oldOptByTag oldOpts new.1.tag → old.1 = new.1

instance (providerTag : Bytes) (oldOpts newOpts : List (OutboundOption Options)) :
    Decidable (Reusable providerTag oldOpts newOpts) :=
  inferInstanceAs (Decidable (∀ _ ∈ _, ∀ _ ∈ _, _))

/-- The outbounds of the adapter are registered, with different tags, and it has no endpoints. -/
structure Steady (a : Adapter Options) : Prop where
  held : Held a.outbound a.outbounds
  distinct : (a.outbounds.map fun outbound => outbound.tag).Nodup
  none : a.endpoints = []

omit [DecidableEq Options] [Inhabited Options] in
theorem Steady.outbounds_eq {a : Adapter Options} (steady : Steady a) : a.Outbounds = a.outbounds := by
  simp [Adapter.Outbounds, steady.none]

def Adapter.done (a : Adapter Options) (oldOpts : List (OutboundOption Options)) (call : Call Options) : Done Options :=
  let result := a.updateOutbounds oldOpts call.options call.fails
  { call with outcomes := result.2, adapter := result.1 }

section Run

variable {a : Adapter Options} {oldOpts : List (OutboundOption Options)}

theorem done_spec (steady : Steady a) (call : Call Options) : Steady (a.done oldOpts call).adapter ∧
    (a.done oldOpts call).adapter.outbounds = (a.done oldOpts call).outcomes.reduceOption ∧
    List.Forall₂ (Named call.fails) (call.options.zip (resolveTags a.providerTag [] call.options))
      (a.done oldOpts call).outcomes ∧ (∀ outbound, outbound ∈ a.outbounds ∨ outbound ∈ a.outbound.closed →
      outbound ∈ (a.done oldOpts call).adapter.outbounds ∨ outbound ∈ (a.done oldOpts call).adapter.outbound.closed) ∧
    (List.Forall₂ BuiltFrom (call.options.zip (resolveTags a.providerTag [] call.options))
        (a.done oldOpts call).outcomes ↔ ∀ entry ∈ call.options.zip (resolveTags a.providerTag [] call.options),
        ∀ outbound ∈ a.outbounds, outbound.tag = entry.2 →
          entry.1 = oldOptByTag oldOpts entry.1.tag → outbound.option = entry.1) := by
  obtain ⟨named, held, distinct, kept, builtFrom⟩ := @update_spec _ _ _ a.providerTag [] a.outbound
    a.outbounds oldOpts call.options call.fails steady.held steady.distinct
  exact ⟨⟨held, distinct, steady.none⟩, rfl, named, kept, builtFrom⟩

omit [DecidableEq Options] [Inhabited Options] in
theorem mem_of_inStep {fails : Bytes → Bool} {entries : List (OutboundOption Options × Bytes)}
    {outcomes : List (Option (Outbound Options))} (named : List.Forall₂ (Named fails) entries outcomes)
    (builtFrom : List.Forall₂ BuiltFrom entries outcomes) :
    (∀ outbound ∈ outcomes.reduceOption, (outbound.option, outbound.tag) ∈ entries) ∧
    ((∀ tag, fails tag = false) → ∀ entry ∈ entries, ∃ outbound ∈ outcomes.reduceOption,
      (outbound.option, outbound.tag) = entry) := by
  have both : List.Forall₂ (fun entry outcome => Named fails entry outcome ∧ BuiltFrom entry outcome)
      entries outcomes := named.mp (fun _ _ named built => ⟨named, built⟩) builtFrom
  constructor
  · intro outbound member
    obtain ⟨entry, inside, named, built⟩ :=
      exists_of_forall₂ both (reduceOption_mem_iff.mp member)
    rw [built outbound rfl, show outbound.tag = entry.2 from named]
    exact inside
  · intro never entry inside
    obtain ⟨outcome, member, named, built⟩ := exists_of_forall₂ both.flip inside
    cases outcome with
    | none =>
      have failed : fails entry.2 = true := named
      rw [never] at failed
      cases failed
    | some outbound =>
      refine ⟨outbound, reduceOption_mem_iff.mpr member, ?_⟩
      rw [built outbound rfl, show outbound.tag = entry.2 from named]

section

variable {calls : List (Call Options)}

theorem updates_spec (steady : Steady a) : ∀ done ∈ updates a oldOpts calls, Steady done.adapter ∧
      done.adapter.providerTag = a.providerTag ∧ done.adapter.outbounds = done.outcomes.reduceOption ∧
      List.Forall₂ (Named done.fails) (done.options.zip (resolveTags a.providerTag [] done.options)) done.outcomes ∧
      ∀ outbound, outbound ∈ a.outbounds ∨ outbound ∈ a.outbound.closed →
        outbound ∈ done.adapter.outbounds ∨ outbound ∈ done.adapter.outbound.closed := by
  induction calls generalizing a oldOpts with
  | nil => exact fun done member => by cases member
  | cons call calls ih =>
    obtain ⟨still, listed, named, kept, -⟩ := done_spec steady call
    intro done member
    rcases mem_cons.mp member with rfl | member
    · exact ⟨still, rfl, listed, named, kept⟩
    · obtain ⟨later, tag, listed, named, closed⟩ := ih still done member
      exact ⟨later, tag, listed, named, fun outbound before => closed outbound (kept outbound before)⟩

theorem updates_cleaned (steady : Steady a) : (updates a oldOpts calls).Pairwise Cleaned := by
  induction calls generalizing a oldOpts with
  | nil => exact .nil
  | cons call calls ih =>
    obtain ⟨still, -, -, -, -⟩ := done_spec steady call
    show (a.done oldOpts call :: updates (a.done oldOpts call).adapter call.options calls).Pairwise Cleaned
    refine .cons (fun later member outbound listed missing => ?_) (ih still)
    obtain ⟨steadyLater, -, -, -, kept⟩ := updates_spec still later member
    rw [still.outbounds_eq] at listed
    rw [steadyLater.outbounds_eq] at missing
    have closed := (kept outbound (.inl listed)).resolve_left missing
    exact ⟨closed, later.adapter.outbound.closed_removed outbound closed⟩

theorem updates_builtFrom (steady : Steady a) (before : ∀ outbound ∈ a.outbounds,
      (outbound.option, outbound.tag) ∈ oldOpts.zip (resolveTags a.providerTag [] oldOpts))
    (reusable : (oldOpts :: calls.map Call.options).IsChain (Reusable a.providerTag)) :
    ∀ done ∈ updates a oldOpts calls, List.Forall₂ BuiltFrom
      (done.options.zip (resolveTags a.providerTag [] done.options)) done.outcomes := by
  induction calls generalizing a oldOpts with
  | nil => exact fun done member => by cases member
  | cons call calls ih =>
    obtain ⟨still, -, named, -, builtFrom_iff⟩ := @done_spec _ _ _ _ oldOpts steady call
    obtain ⟨here, later⟩ := isChain_cons_cons.mp reusable
    have builtFrom := builtFrom_iff.mpr fun entry member outbound inside equal unchanged =>
      here entry member _ (before outbound inside) equal unchanged
    intro done member
    rcases mem_cons.mp member with rfl | member
    · exact builtFrom
    · refine ih still ?_ later done member
      exact (mem_of_inStep named builtFrom).1

end

theorem reusable_of_builtFrom (steady : Steady a) {lists : List (List (OutboundOption Options))}
    (all : ∀ entry ∈ oldOpts.zip (resolveTags a.providerTag [] oldOpts),
      ∃ outbound ∈ a.outbounds, (outbound.option, outbound.tag) = entry)
    (builtFrom : ∀ done ∈ updates a oldOpts (lists.map fun options => ⟨options, fun _ => false⟩),
      List.Forall₂ BuiltFrom (done.options.zip (resolveTags a.providerTag [] done.options)) done.outcomes) :
    (oldOpts :: lists).IsChain (Reusable a.providerTag) := by
  induction lists generalizing a oldOpts with
  | nil => exact .singleton _
  | cons options lists ih =>
    obtain ⟨here, later⟩ := forall_mem_cons.mp builtFrom
    obtain ⟨still, -, named, -, builtFrom_iff⟩ :=
      @done_spec _ _ _ _ oldOpts steady ⟨options, fun _ => false⟩
    have next := (mem_of_inStep named here).2 fun _ => rfl
    have rest : List.IsChain _ (options :: lists) := ih still next later
    refine isChain_cons_cons.mpr ⟨?_, rest⟩
    intro new member old inside equal unchanged
    obtain ⟨outbound, active, rfl⟩ := all old inside
    exact builtFrom_iff.mp here new member outbound active equal unchanged

end Run

def newAdapter (providerTag : Bytes) (outbound endpoint : Manager Options) : Adapter Options where
  providerTag := providerTag
  outbound    := outbound
  endpoint    := endpoint

/-- **Updates keep outbounds and options in step** exactly if each two lists that follow each other have only right
outbounds to keep. -/
theorem updates_inStep_iff (providerTag : Bytes) (outbound endpoint : Manager Options)
    (first : List (OutboundOption Options)) (lists : List (List (OutboundOption Options))) :
    (∀ calls : List (Call Options), calls.map Call.options = lists →
      (∀ done ∈ updates (newAdapter providerTag outbound endpoint) first calls, InStep done) ∧
        (updates (newAdapter providerTag outbound endpoint) first calls).Pairwise Cleaned) ↔
      lists.IsChain (Reusable providerTag) := by
  have steady : Steady (newAdapter providerTag outbound endpoint) := ⟨by simp [Held, newAdapter], nodup_nil, rfl⟩
  -- There is nothing to keep at the first call.
  have start call : List.Forall₂ BuiltFrom
      (call.options.zip (resolveTags providerTag [] call.options))
        ((newAdapter providerTag outbound endpoint).done first call).outcomes := by
    obtain ⟨-, -, -, -, builtFrom_iff⟩ := @done_spec _ _ _ _ first steady call
    exact builtFrom_iff.mpr fun entry _ outbound member => by cases member
  constructor
  · intro inStep
    cases lists with
    | nil => exact .nil
    | cons options lists =>
      obtain ⟨all, -⟩ := inStep ((options :: lists).map fun options => ⟨options, fun _ => false⟩)
        (by simp [comp_def])
      obtain ⟨-, later⟩ := forall_mem_cons.mp all
      obtain ⟨still, listed, named, -, -⟩ :=
        @done_spec _ _ _ _ first steady ⟨options, fun _ => false⟩
      refine reusable_of_builtFrom still ?_ fun done member => ?_
      · rw [listed]
        exact (mem_of_inStep named (start _)).2 fun _ => rfl
      · have builtFrom := (later done member).builtFrom
        rwa [(updates_spec still done member).2.1] at builtFrom
  · rintro reusable calls rfl
    refine ⟨fun done member => ?_, updates_cleaned steady⟩
    obtain ⟨still, tag, listed, named, -⟩ := updates_spec steady done member
    refine ⟨still.outbounds_eq.trans listed, ?_, ?_, ?_⟩
    · rwa [tag]
    · rw [tag]
      cases calls with
      | nil => cases member
      | cons call calls =>
        obtain ⟨next, -, nextNamed, -, -⟩ := @done_spec _ _ _ _ first steady call
        rcases mem_cons.mp member with rfl | member
        · exact start call
        · refine updates_builtFrom next ?_ reusable done member
          exact (mem_of_inStep nextNamed (start call)).1
    · rw [still.outbounds_eq]
      exact still.distinct

/-- Two options with one tag: the second one is taken for the outbound of the first. -/
def twins : List (OutboundOption Nat) := [⟨[], [0x78], 1⟩, ⟨[], [0x78], 2⟩]

def emptyManager : Manager Nat where
  outboundByTag _ := none
  closed := []
  created := 0
  tag_eq := by simp
  registered_lt := by simp
  closed_lt := by simp
  closed_removed := by simp

/-- If the first of two options with the same tag is dropped then its outbound is kept for the other. -/
theorem updates_twins : ((updates (newAdapter [0x70] emptyManager emptyManager) []
        [⟨twins, fun _ => false⟩, ⟨twins.drop 1, fun _ => false⟩]).map fun done =>
      done.adapter.Outbounds.map fun outbound => outbound.option) = [twins, twins.take 1] ∧
    ¬∀ done ∈ updates (newAdapter [0x70] emptyManager emptyManager) []
      [⟨twins, fun _ => false⟩, ⟨twins.drop 1, fun _ => false⟩], InStep done := by
  refine ⟨by decide +kernel, fun all => ?_⟩
  have second := all _ (List.mem_cons_of_mem _ List.mem_cons_self)
  have wrong := (mem_of_inStep second.named second.builtFrom).1 ⟨0, [0x70, 0x2F, 0x78], ⟨[], [0x78], 1⟩⟩
    (by decide +kernel)
  revert wrong
  decide +kernel

end Update

end SingBox.Provider
