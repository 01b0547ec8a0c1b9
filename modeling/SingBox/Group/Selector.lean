/-
**The selector group** (`protocol/group/selector.go`).

The selection is made anew at each update of a provider (`outboundSelect`): it is the tag in the cache file, if there
is an outbound with this tag, else the default tag, else the first tag. The choice of a user is in the cache file
only, and only if there is one.
-/

import SingBox.Group.Members
import SingBox.Lib.Machine

namespace SingBox.Group

open SingBox.Lib List

/-- `option.SelectorOutboundOptions`, and the tag of the group. -/
structure SelectorOptions extends GroupOptions where
  tag : Bytes
  default : Bytes := []

/-- The state of a selector. `cacheFile` is what the cache file has for this group, if there is a cache
file; the empty tag stands for nothing. -/
structure Selector (Outbound : Type) where
  options : SelectorOptions
  (providerTags tags : List Bytes)
  outbounds : Bytes → Option Outbound
  outboundsCache : OutboundsCache Outbound := fun _ => none
  selected : Option Outbound := none
  cacheFile : Option Bytes := none

variable {Outbound : Type}

def setAll (outbounds : Bytes → Option Outbound) (entries : List (Bytes × Outbound)) : Bytes → Option Outbound :=
  entries.foldl (fun outbounds entry => Function.update outbounds entry.1 (some entry.2)) outbounds

namespace Selector

/-- What `LoadSelected` gives, if it is called. -/
def loadSelected (s : Selector Outbound) : Bytes :=
  if s.options.tag ≠ [] then s.cacheFile.getD [] else []

def cached (s : Selector Outbound) : Option Outbound :=
  if s.loadSelected ≠ [] then s.outbounds s.loadSelected else none

def outboundSelect (s : Selector Outbound) : Except Error (Option Outbound) :=
  match s.cached with
  | some detour => .ok (some detour)
  | none =>
    if s.options.default ≠ [] then
      match s.outbounds s.options.default with
      | some detour => .ok (some detour)
      | none => .error (.extend (.new "default outbound not found: ") s.options.default)
    -- There is always a first tag.
    else .ok (s.tags.head?.bind s.outbounds)

end Selector

variable (ctx : GroupContext Outbound)

/-- `Start`, for a selector with this cache file. -/
def startSelector (options : SelectorOptions) (cacheFile : Option Bytes) : Except Error (Selector Outbound) := do
  let members ← startMembers ctx options.toGroupOptions
  let tags := startTags ctx options.toGroupOptions
  let s : Selector Outbound :=
    { options, cacheFile, tags
      providerTags := members.1
      outbounds    := setAll (fun _ => none) (tags.zip members.2) }
  let outbound ← s.outboundSelect
  return { s with selected := outbound }

namespace Selector

def rebuild (s : Selector Outbound) (updated : Bytes) (current : Bytes → List Outbound) : Selector Outbound :=
  let found := collect ctx s.options.toGroupOptions updated current s.outboundsCache s.providerTags
  let tags := s.options.outbounds ++ found.1.map ctx.tag
  let outboundByTag := setAll (fun tag => if tag ∈ s.options.outbounds then s.outbounds tag else none)
    (found.1.map fun detour => (ctx.tag detour, detour))
  if tags = [] then
    { s with
      tags           := [ctx.tag ctx.compatible]
      outbounds      := setAll outboundByTag [(ctx.tag ctx.compatible, ctx.compatible)]
      outboundsCache := found.2 }
  else { s with tags, outbounds := outboundByTag, outboundsCache := found.2 }

/-- `onProviderUpdated`. An error of `outboundSelect` is dropped, and there is no selection then. -/
def onProviderUpdated (s : Selector Outbound) (tag : Bytes) (current : Bytes → List Outbound) : Selector Outbound :=
  if tag ∉ s.providerTags then s
  else
    let next := s.rebuild ctx tag current
    { next with selected := next.outboundSelect.toOption.join }

/-- `SelectOutbound`, and whether it found the tag. `stores` says whether `StoreSelected` succeeds. -/
def selectOutbound [DecidableEq Outbound] (s : Selector Outbound) (tag : Bytes) (stores : Bool) :
    Selector Outbound × Bool :=
  match s.outbounds tag with
  | none => (s, false)
  | some detour =>
    if s.selected = some detour then (s, true)
    else if s.options.tag ≠ [] && s.cacheFile.isSome && stores then
      ({ s with selected := some detour, cacheFile := some tag }, true)
    else ({ s with selected := some detour }, true)

end Selector

inductive SelectorEvent (Outbound : Type) where
  | selectOutbound (tag : Bytes) (stores : Bool)
  | onProviderUpdated (tag : Bytes) (current : Bytes → List Outbound)

def selectors [DecidableEq Outbound] : Machine (Selector Outbound) (SelectorEvent Outbound) Bool where
  step s event :=
    match event with
    | .selectOutbound tag stores => ((s.selectOutbound tag stores).1, (s.selectOutbound tag stores).2)
    | .onProviderUpdated tag current => (s.onProviderUpdated ctx tag current, none)

variable {entries : List (Bytes × Outbound)} {outbounds : Bytes → Option Outbound}

theorem setAll_of_notMem {tag : Bytes} (other : tag ∉ entries.map Prod.fst) :
    setAll outbounds entries tag = outbounds tag := by
  induction entries generalizing outbounds with
  | nil => rfl
  | cons entry entries ih =>
    rw [map_cons, mem_cons, not_or] at other
    exact (ih other.2).trans (Function.update_of_ne other.1 _ _)

theorem setAll_of_mem {tag : Bytes} (set : tag ∈ entries.map Prod.fst) :
    ∃ detour, (tag, detour) ∈ entries ∧ setAll outbounds entries tag = some detour := by
  induction entries generalizing outbounds with
  | nil => cases set
  | cons entry entries ih =>
    by_cases later : tag ∈ entries.map Prod.fst
    · obtain ⟨detour, member, found⟩ := @ih (Function.update outbounds entry.1 (some entry.2)) later
      exact ⟨detour, mem_cons_of_mem _ member, found⟩
    · obtain rfl := (mem_cons.mp set).resolve_right later
      exact ⟨entry.2, mem_cons_self, (setAll_of_notMem later).trans (Function.update_self _ _ _)⟩

/-! ### The listed outbounds -/

/-- The map has an outbound for each of the tags, and for no other; the static outbounds come first. -/
structure Listed (s : Selector Outbound) : Prop where
  some_tag : s.tags ≠ []
  found : ∀ tag ∈ s.tags, ∃ detour, s.outbounds tag = some detour
  tag_eq : ∀ {tag detour}, s.outbounds tag = some detour → ctx.tag detour = tag ∧ tag ∈ s.tags
  static : s.options.outbounds <+: s.tags

def Valid (s : Selector Outbound) : Prop :=
  ∃ detour, s.selected = some detour ∧ ctx.tag detour ∈ s.tags ∧ s.outbounds (ctx.tag detour) = some detour

variable {s : Selector Outbound}

theorem Listed.of_setAll (some_tag : s.tags ≠ []) (map : s.outbounds = setAll outbounds entries)
    (tags : ∀ tag, tag ∈ s.tags ↔ (∃ detour, outbounds tag = some detour) ∨ tag ∈ entries.map Prod.fst)
    (before : ∀ {tag detour}, outbounds tag = some detour → ctx.tag detour = tag)
    (named : ∀ entry ∈ entries, ctx.tag entry.2 = entry.1) (static : s.options.outbounds <+: s.tags) :
    Listed ctx s := by
  refine ⟨some_tag, fun tag member => ?_, fun {tag detour} found => ?_, static⟩
  · rw [map]
    by_cases set : tag ∈ entries.map Prod.fst
    · obtain ⟨detour, -, found⟩ := @setAll_of_mem _ _ outbounds _ set
      exact ⟨detour, found⟩
    · rw [setAll_of_notMem set]
      exact ((tags tag).mp member).resolve_right set
  · rw [map] at found
    by_cases set : tag ∈ entries.map Prod.fst
    · obtain ⟨other, inside, same⟩ := @setAll_of_mem _ _ outbounds _ set
      cases same.symm.trans found
      exact ⟨named _ inside, (tags tag).mpr (.inr set)⟩
    · rw [setAll_of_notMem set] at found
      exact ⟨before found, (tags tag).mpr (.inl ⟨detour, found⟩)⟩

variable {ctx}

open Selector

section Rebuild

variable {s : Selector Outbound} {updated : Bytes} {current : Bytes → List Outbound}

theorem rebuild_frame : (s.rebuild ctx updated current).options = s.options ∧
    (s.rebuild ctx updated current).providerTags = s.providerTags ∧
    (s.rebuild ctx updated current).cacheFile = s.cacheFile := by
  unfold rebuild
  dsimp only
  split <;> exact ⟨rfl, rfl, rfl⟩

theorem Listed.rebuild (listed : Listed ctx s) : Listed ctx (s.rebuild ctx updated current) := by
  have static tag : (∃ detour, (if tag ∈ s.options.outbounds then s.outbounds tag else none) =
      some detour) ↔ tag ∈ s.options.outbounds := by
    by_cases member : tag ∈ s.options.outbounds
    · simp only [member, iff_true]
      exact listed.found tag (listed.static.subset member)
    · simp [member]
  have before {tag : Bytes} {detour : Outbound}
      (found : (if tag ∈ s.options.outbounds then s.outbounds tag else none) = some detour) :
      ctx.tag detour = tag := by
    split at found
    · exact (listed.tag_eq found).1
    · cases found
  unfold Selector.rebuild
  dsimp only
  split
  · rename_i none
    obtain ⟨noStatic, noOther⟩ := append_eq_nil_iff.mp none
    rw [map_eq_nil_iff] at noOther
    refine .of_setAll ctx (cons_ne_nil _ _) rfl (fun tag => ?_) ?_ (by simp) ?_
    · simp [noOther, noStatic, setAll]
    · simp [noOther, noStatic, setAll]
    · simp [noStatic]
  · rename_i some
    refine .of_setAll ctx some rfl (fun tag => ?_) before (by simp) ?_
    · rw [static]
      simp
    · exact prefix_append _ _

end Rebuild

/-! ### The selection -/

section Select

variable {s : Selector Outbound}

/-- The tag that `outboundSelect` goes back to, as far as it does not depend on the providers. -/
def Selector.remembered (s : Selector Outbound) : Option Bytes :=
  if s.loadSelected ≠ [] then some s.loadSelected
  else if s.options.default ≠ [] then some s.options.default
  else s.options.outbounds.head?

def SelectorOptions.DefaultStatic (options : SelectorOptions) : Prop :=
  options.default = [] ∨ options.default ∈ options.outbounds

theorem outboundSelect_spec (listed : Listed ctx s) (safe : s.options.DefaultStatic) :
    ∃ detour, s.outboundSelect = .ok (some detour) ∧ ctx.tag detour ∈ s.tags ∧
      s.outbounds (ctx.tag detour) = some detour ∧ ∀ tag ∈ s.tags, s.remembered = some tag → ctx.tag detour = tag := by
  have rest : ∃ first detour, s.outbounds first = some detour ∧ (s.cached = none → s.outboundSelect = .ok (some detour)) ∧
      ∀ tag, (if s.options.default ≠ [] then some s.options.default else s.options.outbounds.head?) = some tag →
        first = tag := by
    by_cases noDefault : s.options.default = []
    · obtain ⟨first, others, tags⟩ := exists_cons_of_ne_nil listed.some_tag
      obtain ⟨detour, found⟩ := listed.found first (by simp [tags])
      refine ⟨first, detour, found, fun none => by simp [outboundSelect, none, noDefault, tags, found], fun tag back => ?_⟩
      obtain ⟨names, outbounds⟩ := head?_eq_some_iff.mp (by simpa [noDefault] using back)
      have static := listed.static
      rw [tags, outbounds] at static
      exact (cons_prefix_cons.mp static).1.symm
    · obtain ⟨detour, found⟩ := listed.found _ (listed.static.subset (safe.resolve_left noDefault))
      exact ⟨_, detour, found, fun none => by simp [outboundSelect, none, noDefault, found], by simp [noDefault]⟩
  have chosen : ∃ first detour, s.outbounds first = some detour ∧ s.outboundSelect = .ok (some detour) ∧
      ∀ tag ∈ s.tags, s.remembered = some tag → first = tag := by
    unfold remembered
    cases known : s.cached with
    | some detour =>
      have selects : s.outboundSelect = .ok (some detour) := by rw [outboundSelect, known]
      unfold cached at known
      split at known
      · rename_i loaded
        exact ⟨_, detour, known, selects, by simp [loaded]⟩
      · cases known
    | none =>
      obtain ⟨first, detour, found, selects, back⟩ := rest
      refine ⟨first, detour, found, selects known, fun tag member remembered => ?_⟩
      split at remembered
      · -- A tag in the cache file that is listed would have been taken.
        rename_i loaded
        obtain ⟨other, there⟩ := listed.found tag member
        rw [cached, if_pos loaded, Option.some.inj remembered, there] at known
        cases known
      · exact back tag remembered
  obtain ⟨first, detour, found, selects, back⟩ := chosen
  obtain ⟨rfl, member⟩ := listed.tag_eq found
  exact ⟨detour, selects, member, found, back⟩

end Select

/-! ### Runs -/

variable (ctx)

/-- No outbound has the tag any more: none of the static ones, and none that a provider has or had. -/
def Gone (s : Selector Outbound) (current : Bytes → List Outbound) (tag : Bytes) : Prop :=
  tag ∉ s.options.outbounds ∧ ∀ providerTag ∈ s.providerTags, ∀ detour,
    detour ∈ current providerTag ∨ detour ∈ (s.outboundsCache providerTag).getD [] → ctx.tag detour ≠ tag

/-- **The selection is remembered**: at an update the tag that `outboundSelect` goes back to is the
selected one, or nothing has the selected tag any more. -/
def Remembered (s : Selector Outbound) : SelectorEvent Outbound → Prop
  | .selectOutbound _ _ => True
  | .onProviderUpdated _ current => ∀ detour, s.selected = some detour →
    s.remembered = some (ctx.tag detour) ∨ Gone ctx s current (ctx.tag detour)

def Kept (s : Selector Outbound) : SelectorEvent Outbound → Prop
  | .selectOutbound _ _ => True
  | .onProviderUpdated tag current => ∀ before, s.selected = some before →
    ctx.tag before ∈ (s.onProviderUpdated ctx tag current).tags →
      ∃ after, (s.onProviderUpdated ctx tag current).selected = some after ∧ ctx.tag after = ctx.tag before

variable {ctx}

theorem tags_of_gone {updated : Bytes} {current : Bytes → List Outbound} {tag : Bytes}
    (gone : Gone ctx s current tag) (member : tag ∈ (s.rebuild ctx updated current).tags) :
    (s.rebuild ctx updated current).tags = [tag] ∧ s.options.outbounds = [] := by
  simp only [rebuild, apply_ite tags] at member ⊢
  split at member
  · rename_i none
    rw [if_pos none, mem_singleton.mp member]
    exact ⟨rfl, (append_eq_nil_iff.mp none).1⟩
  · rcases mem_append.mp member with static | other
    · exact absurd static gone.1
    · obtain ⟨detour, inside, same⟩ := mem_map.mp other
      obtain ⟨providerTag, known, source⟩ := mem_collect inside
      exact absurd same (gone.2 providerTag known detour source)

theorem onProviderUpdated_spec (listed : Listed ctx s) (valid : Valid ctx s)
    (safe : s.options.DefaultStatic) (tag : Bytes) (current : Bytes → List Outbound) :
    Listed ctx (s.onProviderUpdated ctx tag current) ∧ Valid ctx (s.onProviderUpdated ctx tag current) ∧
    (s.onProviderUpdated ctx tag current).options = s.options ∧
    (Remembered ctx s (.onProviderUpdated tag current) → Kept ctx s (.onProviderUpdated tag current)) := by
  by_cases missing : tag ∉ s.providerTags
  · have same : s.onProviderUpdated ctx tag current = s := if_pos missing
    dsimp only [Kept]
    rw [same]
    exact ⟨listed, valid, rfl, fun _ before selected _ => ⟨before, selected, rfl⟩⟩
  · obtain ⟨options, -, cacheFile⟩ := @rebuild_frame _ ctx s tag current
    have next := @Listed.rebuild _ ctx s tag current listed
    obtain ⟨detour, selects, member, found, back⟩ := outboundSelect_spec next (options ▸ safe)
    have updated : s.onProviderUpdated ctx tag current =
        { s.rebuild ctx tag current with selected := some detour } := by
      rw [onProviderUpdated, if_neg missing]
      dsimp only
      rw [selects]
      rfl
    have same : (s.rebuild ctx tag current).remembered = s.remembered := by
      unfold remembered loadSelected
      rw [options, cacheFile]
    dsimp only [Kept]
    rw [updated]
    refine ⟨⟨next.some_tag, next.found, next.tag_eq, next.static⟩, ⟨detour, rfl, member, found⟩, options, ?_⟩
    intro remembered before selected still
    refine ⟨detour, rfl, ?_⟩
    rcases remembered before selected with known | gone
    · exact back _ still (same.trans known)
    · rw [(tags_of_gone gone still).1] at member
      exact mem_singleton.mp member

variable [DecidableEq Outbound]

theorem selectOutbound_spec (listed : Listed ctx s) (valid : Valid ctx s) (tag : Bytes) (stores : Bool) :
    Listed ctx (s.selectOutbound tag stores).1 ∧ Valid ctx (s.selectOutbound tag stores).1 ∧
    (s.selectOutbound tag stores).1.options = s.options := by
  unfold selectOutbound
  split
  · exact ⟨listed, valid, rfl⟩
  rename_i detour found
  obtain ⟨rfl, member⟩ := listed.tag_eq found
  have next : Valid ctx { s with selected := some detour } := ⟨detour, rfl, member, found⟩
  split
  · exact ⟨listed, valid, rfl⟩
  · split <;> exact ⟨⟨listed.some_tag, listed.found, listed.tag_eq, listed.static⟩, next, rfl⟩

omit [DecidableEq Outbound] in
theorem startSelector_spec {options : SelectorOptions} {cacheFile : Option Bytes}
    (started : startSelector ctx options cacheFile = .ok s) (safe : options.DefaultStatic) :
    Listed ctx s ∧ Valid ctx s ∧ s.options = options := by
  obtain ⟨members, found, started⟩ := bind_eq_ok_iff.mp started
  obtain ⟨outbound, selects, started⟩ := bind_eq_ok_iff.mp started
  cases started
  have outbounds := startMembers_spec found
  have listed : Listed ctx ({
      options, cacheFile
      tags         := startTags ctx options.toGroupOptions
      providerTags := members.1
      outbounds    := setAll (fun _ => none)
        ((startTags ctx options.toGroupOptions).zip members.2) } : Selector Outbound) := by
    refine .of_setAll ctx ?_ rfl (fun tag => ?_) (by simp) (fun entry member => ?_) ?_
    · unfold startTags
      split
      · simp
      · assumption
    · rw [map_fst_zip outbounds.length_eq.le]
      simp
    · exact ctx.outbound_tag (forall₂_zip outbounds member)
    · unfold startTags
      split
      · rename_i none
        simp [none]
      · exact prefix_rfl
  obtain ⟨detour, again, member, known, -⟩ := outboundSelect_spec listed safe
  cases again.symm.trans selects
  exact ⟨⟨listed.some_tag, listed.found, listed.tag_eq, listed.static⟩, ⟨detour, rfl, member, known⟩, rfl⟩

/-- **The selector keeps a valid selection**: if the default tag is empty or that of a static outbound, the selected
outbound is always listed; and an update at which the selection is remembered keeps its tag while an outbound has it. -/
theorem selection_kept (ctx : GroupContext Outbound) (options : SelectorOptions)
    (cacheFile : Option Bytes) (s : Selector Outbound) (events : List (SelectorEvent Outbound))
    (started : startSelector ctx options cacheFile = .ok s) (safe : options.DefaultStatic) :
    Valid ctx s ∧ (selectors ctx).Along (fun state event => Valid ctx ((selectors ctx).step state event).1 ∧
      (Remembered ctx state event → Kept ctx state event)) s events := by
  obtain ⟨listed, valid, same⟩ := startSelector_spec started safe
  refine ⟨valid, .of_invariant
    (fun state => Listed ctx state ∧ Valid ctx state ∧ state.options = options) ?_ ⟨listed, valid, same⟩
    (Machine.along_of_forall _ (fun _ _ => trivial) _ _)⟩
  rintro state event ⟨listed, valid, rfl⟩ -
  cases event with
  | selectOutbound tag stores =>
    obtain ⟨next, still, same⟩ := selectOutbound_spec listed valid tag stores
    exact ⟨⟨next, still, same⟩, still, fun _ => trivial⟩
  | onProviderUpdated tag current =>
    obtain ⟨next, still, same, kept⟩ := onProviderUpdated_spec listed valid safe tag current
    exact ⟨⟨next, still, same⟩, still, kept⟩

/-- The group `g` with the static outbounds `a` and `b`. -/
def sampleSelector : SelectorOptions where
  tag       := [0x67]
  outbounds := [[0x61], [0x62]]
  providers := [[0x70]]

/-- With a cache file, `b` stays selected when the provider gets an outbound. -/
theorem selection_kept_stored : ∃ s, startSelector sampleGroup sampleSelector (some []) = .ok s ∧
    Valid sampleGroup s ∧ (selectors sampleGroup).Along
      (fun state event => Valid sampleGroup ((selectors sampleGroup).step state event).1 ∧
        Kept sampleGroup state event) s
      [.selectOutbound [0x62] true, .onProviderUpdated [0x70] fun _ => [([0x78], 1)]] := by
  obtain ⟨valid, ⟨selected, -⟩, ⟨updated, kept⟩, -⟩ := selection_kept sampleGroup sampleSelector (some []) _
    [.selectOutbound [0x62] true, .onProviderUpdated [0x70] fun _ => [([0x78], 1)]] rfl (.inl rfl)
  refine ⟨_, rfl, valid, ⟨selected, trivial⟩, ⟨updated, kept fun detour selected => ?_⟩, trivial⟩
  cases selected
  exact .inl rfl

/-- **The selection is lost**: without a cache file an update goes back to the first outbound, though the selected one
is still listed; and a default tag of a provider's outbound leaves no selection when the provider drops it. -/
theorem selection_lost :
    (∃ s, startSelector sampleGroup sampleSelector none = .ok s ∧
      let before := (selectors sampleGroup).run s [.selectOutbound [0x62] true]
      let after := before.onProviderUpdated sampleGroup [0x70] fun _ => [([0x78], 1)]
      before.selected = some ([0x62], 0) ∧ [0x62] ∈ after.tags ∧ after.selected = some ([0x61], 0)) ∧
    ∃ s, startSelector sampleGroup { sampleSelector with default := [0x78] } (some [0x61]) = .ok s ∧
      ((selectors sampleGroup).run s [.onProviderUpdated [0x70] fun _ => [([0x78], 1)],
        .selectOutbound [0x78] true, .onProviderUpdated [0x70] fun _ => []]).selected = none := by
  refine ⟨⟨_, rfl, ?_⟩, _, rfl, ?_⟩ <;> decide +kernel

end SingBox.Group
