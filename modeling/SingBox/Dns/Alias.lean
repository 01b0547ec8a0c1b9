/-
**Following predefined aliases** (`dns/router.go`: `exchangeLoop`, `followPredefinedCNAME`, `findLastCNAMETarget`,
`Lookup`; `dns/client.go`: `ContextWithAliasResolution`).

A predefined answer may end in an alias, which is then resolved by the same rules. Nothing in the source bounds this,
but every step takes a target that is not in the chain of the context and adds it (`AliasStep`), and the targets are
those of the records of the rules. `exchanging` and `looking` are the bodies of the two recursions, `passing` is that
of the loop over the records; each is used with `Recursion.unroll_eq`.
-/

import SingBox.Dns.Retry
import SingBox.Lib.Recursion
import Mathlib.Data.Finset.Card

namespace SingBox.Dns

open SingBox.Lib SingBox.Route List

/-! ### Targets -/

def RR.cname? (record : RR) : Option Bytes :=
  match record.data with
  | .cname target => some target
  | _ => none

def aliasTargets (records : List RR) : Finset Bytes := (records.filterMap RR.cname?).toFinset

def predefinedOf (rules : List RuleEntry) : List Predefined :=
  rules.filterMap fun entry =>
    match entry.action with
    | .predefined action => some action
    | _ => none

def Router.aliasTargets (router : Router) : Finset Bytes :=
  Dns.aliasTargets ((predefinedOf router.rules).flatMap Predefined.answer)

def QueryContext.chain (ctx : QueryContext) : List Bytes := ctx.aliasChain.getD []

def unseen (targets : Finset Bytes) (names : List Bytes) : Nat :=
  (targets.filter fun target => !names.contains target).card

theorem unseen_le (targets : Finset Bytes) (names : List Bytes) : unseen targets names ≤ targets.card :=
  Finset.card_filter_le _ _

theorem unseen_lt {targets : Finset Bytes} {names more : List Bytes} {target : Bytes} (known : target ∈ targets)
    (fresh : target ∉ names) (added : target ∈ more) (within : names ⊆ more) : unseen targets more < unseen targets names := by
  have mem : ∀ {names : List Bytes} {other : Bytes},
      other ∈ targets.filter (fun target => !names.contains target) ↔ other ∈ targets ∧ other ∉ names := by
    simp
  refine Finset.card_lt_card (Finset.ssubset_iff_of_subset (fun other member => ?_) |>.mpr ⟨target, ?_, ?_⟩)
  · obtain ⟨inside, away⟩ := mem.mp member
    exact mem.mpr ⟨inside, fun seen => away (within seen)⟩
  · exact mem.mpr ⟨known, fresh⟩
  · exact fun member => (mem.mp member).2 added

def Router.unfollowed (router : Router) (ctx : QueryContext) : Nat := unseen router.aliasTargets ctx.chain

/-- **A step of the recursion**: it follows a target of the rules that is not in the chain, and adds it. -/
structure AliasStep (router : Router) (ctx : QueryContext) (target : Bytes) (next : QueryContext) : Prop where
  known : target ∈ router.aliasTargets
  fresh : target ∉ ctx.chain
  added : ∃ source, next.chain = source :: target :: ctx.chain

theorem AliasStep.unfollowed_lt {router : Router} {ctx next : QueryContext} {target : Bytes}
    (step : AliasStep router ctx target next) : router.unfollowed next < router.unfollowed ctx := by
  obtain ⟨source, chain⟩ := step.added
  refine unseen_lt step.known step.fresh ?_ ?_
  · rw [chain]
    exact mem_cons_of_mem _ mem_cons_self
  · rw [chain]
    exact fun name member => mem_cons_of_mem _ (mem_cons_of_mem _ member)

section Records

variable {records : List RR}

theorem mem_aliasTargets {target : Bytes} :
    target ∈ aliasTargets records ↔ ∃ record ∈ records, record.cname? = some target := by
  rw [aliasTargets, mem_toFinset, mem_filterMap]

theorem aliasTargets_rewriteRecords (question : Question) :
    aliasTargets (rewriteRecords records question) = aliasTargets records := by
  have same : (rewriteRecords records question).filterMap RR.cname? = records.filterMap RR.cname? := by
    unfold rewriteRecords
    rw [filterMap_map]
    congr 1
    funext record
    dsimp only [Function.comp_apply]
    split
    · split <;> rfl
    · rfl
  rw [aliasTargets, same, aliasTargets]

variable {current : Bytes}

theorem target_of_pass {target : Bytes} (found : records.findSome? (cnameTarget current) = some target) :
    target ∈ aliasTargets records := by
  obtain ⟨record, member, names⟩ := exists_of_findSome?_eq_some found
  exact mem_aliasTargets.mpr ⟨record, member, by rw [RR.cname?, data_of_cnameTarget names]⟩

/-! ### The loop over the records -/

/-- One pass of `findLastCNAMETarget`. -/
def passing (records : List RR) : Recursion (List Bytes × Bytes) (Option Bytes) where
  body next place :=
    match records.findSome? (cnameTarget place.2) with
    | none => some place.2
    | some target => if place.1.contains target then none else next (target :: place.1, target)
  calls place next := ∃ target ∈ aliasTargets records, target ∉ place.1 ∧ next = (target :: place.1, target)
  uses first second place agree := by
    cases found : records.findSome? (cnameTarget place.2) with
    | none => rfl
    | some target =>
      dsimp only
      split
      · rfl
      · rename_i fresh
        exact agree _ ⟨target, target_of_pass found, by simpa using fresh, rfl⟩

section

variable {visited : List Bytes}

/-- The loop of `findLastCNAMETarget` is the recursion over its passes. -/
theorem lastCNAME_fixed : (passing records).body (fun place => lastCNAME records place.1 place.2) = fun place =>
      lastCNAME records place.1 place.2 := by
  funext place
  unfold passing
  dsimp only
  fun_cases lastCNAME records place.1 place.2 with
  | case1 nothing => rw [nothing]
  | case2 target found seen =>
    rw [found]
    exact if_pos (contains_iff_mem.mpr seen)
  | case3 target found fresh =>
    rw [found]
    exact if_neg (contains_iff_mem.not.mpr fresh)

theorem passing_decreases : (passing records).Decreases fun place => unseen (aliasTargets records) place.1 := by
  rintro place next ⟨target, known, fresh, rfl⟩
  exact unseen_lt known fresh mem_cons_self fun name member => mem_cons_of_mem _ member

theorem unroll_passing (base : List Bytes × Bytes → Option Bytes) (place : List Bytes × Bytes) {passes : Nat}
    (enough : (aliasTargets records).card < passes) :
    (passing records).unroll passes base place = lastCNAME records place.1 place.2 := by
  have within : unseen (aliasTargets records) place.1 < passes := lt_of_le_of_lt (unseen_le _ _) enough
  calc (passing records).unroll passes base place
      = (passing records).unroll passes (fun place => lastCNAME records place.1 place.2) place :=
        Recursion.unroll_eq passing_decreases within within
    _ = lastCNAME records place.1 place.2 := congrFun (Function.iterate_fixed lastCNAME_fixed passes) place

/-! ### Chains that come back -/

def walk (records : List RR) : Nat → Bytes → Option Bytes
  | 0, name => some name
  | hops + 1, name => (records.findSome? (cnameTarget name)).bind (walk records hops)

/-- The chain from a name comes back to one of its names. -/
def Cyclic (records : List RR) (name : Bytes) : Prop :=
  ∃ first second there, first < second ∧ walk records first name = some there ∧ walk records second name = some there

theorem walk_add (first second : Nat) (name : Bytes) :
    walk records (first + second) name = (walk records first name).bind (walk records second) := by
  induction first generalizing name with
  | zero =>
    rw [zero_add]
    rfl
  | succ first ih =>
    rw [Nat.succ_add, walk, walk, Option.bind_assoc]
    congr 1
    funext next
    exact ih next

theorem walk_mul {hops : Nat} {name : Bytes} (back : walk records hops name = some name) (turns : Nat) :
    walk records (turns * hops) name = some name := by
  induction turns with
  | zero =>
    rw [zero_mul]
    rfl
  | succ turns ih =>
    rw [Nat.succ_mul, walk_add, ih]
    exact back

theorem walk_of_lastCNAME {last : Bytes} (ends : lastCNAME records visited current = some last) :
    (∃ hops, walk records hops current = some last) ∧ records.findSome? (cnameTarget last) = none ∧
      (last = current ∨ last ∈ aliasTargets records) := by
  fun_induction lastCNAME records visited current with
  | case1 visited current nothing =>
    cases ends
    exact ⟨⟨0, rfl⟩, nothing, .inl rfl⟩
  | case2 => cases ends
  | case3 visited current target found fresh ih =>
    obtain ⟨⟨hops, walked⟩, nothing, kind⟩ := ih ends
    refine ⟨⟨hops + 1, ?_⟩, nothing, .inr ?_⟩
    · rw [walk, found]
      exact walked
    · rcases kind with rfl | known
      · exact target_of_pass found
      · exact known

end

/-- **A chain that comes back has no last target.** -/
theorem findLastCNAMETarget_of_cyclic {name : Bytes} (cyclic : Cyclic records name) :
    findLastCNAMETarget name records = [] := by
  obtain ⟨first, second, there, less, one, two⟩ := cyclic
  have back : walk records (second - first) there = some there := by
    have again : walk records (first + (second - first)) name =
        (walk records first name).bind (walk records (second - first)) := walk_add _ _ _
    rw [Nat.add_sub_cancel' less.le, one, two] at again
    exact again.symm
  unfold findLastCNAMETarget
  cases ends : lastCNAME records [name] name with
  | none => rfl
  | some last =>
    -- the chain ends after some hops, but has come back more often than that
    obtain ⟨⟨hops, walked⟩, nothing, -⟩ := walk_of_lastCNAME ends
    have ended : ∀ more, walk records (hops + 1 + more) name = none := by
      intro more
      rw [add_assoc, walk_add, walked, add_comm 1 more]
      show walk records (more + 1) last = none
      rw [walk, nothing]
      rfl
    have still : walk records (first + (hops + 1) * (second - first)) name = some there := by
      rw [walk_add, one]
      exact walk_mul back (hops + 1)
    have far : hops + 1 ≤ first + (hops + 1) * (second - first) :=
      le_trans (Nat.le_mul_of_pos_right _ (Nat.sub_pos_of_lt less)) (Nat.le_add_left _ _)
    obtain ⟨more, sum⟩ := Nat.exists_eq_add_of_le far
    rw [sum, ended] at still
    cases still

theorem findLastCNAMETarget_mem {name : Bytes} (found : findLastCNAMETarget name records ≠ []) :
    findLastCNAMETarget name records ∈ aliasTargets records := by
  revert found
  fun_cases findLastCNAMETarget name records with
  | case1 | case2 | case3 => exact absurd rfl
  | case4 last ends differs => exact fun _ => (walk_of_lastCNAME ends).2.2.resolve_left differs

end Records

/-! ### What the rules answer with -/

section Rules

variable {router : Router} {metadata : InboundContext} {allowFakeIP isAddressQuery : Bool} {rules rest : List RuleEntry}
  {options found : DNSQueryOptions}

variable {action : Predefined}

theorem mem_predefinedOf : action ∈ predefinedOf rules ↔ ∃ entry ∈ rules, entry.action = .predefined action := by
  unfold predefinedOf
  rw [mem_filterMap]
  refine exists_congr fun entry => and_congr_right fun _ => ?_
  cases entry.action <;> simp

theorem matchDNS_predefined
    (matched : matchDNS router metadata allowFakeIP isAddressQuery rules options = .predefined action found) :
    action ∈ predefinedOf rules := by
  rw [mem_predefinedOf]
  fun_induction matchDNS router metadata allowFakeIP isAddressQuery rules options
  case case1 | case7 | case9 => cases matched
  case case10 => cases matched; exact ⟨_, mem_cons_self, ‹_›⟩
  all_goals
    next ih =>
      obtain ⟨entry, member, same⟩ := ih matched
      exact ⟨entry, mem_cons_of_mem _ member, same⟩

theorem matchDNS_rest_subset {transport : Transport} {rule : DNSRule}
    (matched : matchDNS router metadata allowFakeIP isAddressQuery rules options =
      .route transport (some rule) found rest) : rest ⊆ rules := by
  fun_induction matchDNS router metadata allowFakeIP isAddressQuery rules options
  case case1 | case9 | case10 => cases matched
  case case7 => cases matched; exact subset_cons_self _ _
  all_goals next ih => exact fun entry member => mem_cons_of_mem _ (ih matched member)

theorem aliasStep_of_resolution (member : action ∈ predefinedOf router.rules) {question : Question}
    {ctx aliasCtx : QueryContext}
    (present : findLastCNAMETarget question.name (rewriteRecords action.answer question) ≠ [])
    (resolved : contextWithAliasResolution ctx question.name
      (findLastCNAMETarget question.name (rewriteRecords action.answer question)) = some aliasCtx) :
    AliasStep router ctx (findLastCNAMETarget question.name (rewriteRecords action.answer question)) aliasCtx := by
  have known := findLastCNAMETarget_mem present
  rw [aliasTargets_rewriteRecords] at known
  unfold contextWithAliasResolution at resolved
  dsimp only at resolved
  split_ifs at resolved with same looped
  cases resolved
  refine ⟨?_, ?_, question.name, rfl⟩
  · obtain ⟨record, inside, target⟩ := mem_aliasTargets.mp known
    exact mem_aliasTargets.mpr ⟨record, mem_flatMap.mpr ⟨action, member, inside⟩, target⟩
  · exact fun inside => looped (contains_iff_mem.mpr inside)

end Rules

/-! ### The recursion of `exchangeLoop` -/

/-- The arguments of `exchangeLoop`. -/
structure ExchangeQuery where
  ctx : QueryContext
  message : Msg
  question : Question
  options : DNSQueryOptions
  allowFakeIP : Bool
  world : World

/-- `exchangeLoop` for a query, with the way in which aliases are followed. -/
def Router.exchanges (router : Router) (follow : Follow) (query : ExchangeQuery) : ExchangeResult × World :=
  exchangeLoop router follow query.ctx query.message query.question query.options query.allowFakeIP router.rules query.world

/-- The body of `followPredefinedCNAME`, with the exchange that it calls. -/
def Router.follow (router : Router) (exchange : ExchangeQuery → ExchangeResult × World) : Follow :=
  fun ctx _ question response options world =>
    if question.qtype ≠ typeA ∧ question.qtype ≠ typeAAAA then ({ response := some response }, world)
    else
      let cnameTarget := findLastCNAMETarget question.name response.answer
      if cnameTarget = [] then ({ response := some response }, world)
      else
        match contextWithAliasResolution ctx question.name cnameTarget with
        | none => ({ response := some response }, world)
        | some aliasCtx =>
          let followQuestion : Question := ⟨cnameTarget, question.qtype, classINET⟩
          let followMsg : Msg := { recursionDesired := true, question := [followQuestion] }
          let followCtx := aliasCtx.forQuestion router.env.lib followQuestion
          let followed := exchange ⟨followCtx, followMsg, followQuestion, options, false, world⟩
          let refreshes :=
            if followed.1.stale then [Refresh.exchange followCtx.update followMsg options] else []
          ({ response := some (mergeFollowed question.qtype response followed.1.response)
             refreshes := followed.1.refreshes ++ refreshes }, followed.2)

def ExchangeQuery.Leads (router : Router) (query next : ExchangeQuery) : Prop :=
  ∃ target, AliasStep router query.ctx target next.ctx ∧ next.question.name = target

section Exchanging

variable {router : Router}

theorem follow_congr {first second : ExchangeQuery → ExchangeResult × World} {query : ExchangeQuery}
    (agree : ∀ next, query.Leads router next → first next = second next) {action : Predefined}
    (member : action ∈ predefinedOf router.rules) (options : DNSQueryOptions) (world : World) :
    router.follow first query.ctx query.message query.question (action.response query.message query.question) options world =
      router.follow second query.ctx query.message query.question (action.response query.message query.question) options
        world := by
  unfold Router.follow
  split
  · rfl
  dsimp only
  split
  · rfl
  rename_i present
  cases resolved : contextWithAliasResolution query.ctx query.question.name
      (findLastCNAMETarget query.question.name (action.response query.message query.question).answer) with
  | none => rfl
  | some aliasCtx =>
    have step := aliasStep_of_resolution member present resolved
    dsimp only
    rw [agree]
    exact ⟨_, ⟨step.known, step.fresh, step.added⟩, rfl⟩

theorem exchangeLoop_congr {first second : Follow} {ctx : QueryContext} {message : Msg} {question : Question}
    (agree : ∀ action ∈ predefinedOf router.rules, ∀ options world,
      first ctx message question (action.response message question) options world =
        second ctx message question (action.response message question) options world)
    {options : DNSQueryOptions} {allowFakeIP : Bool} {rules : List RuleEntry} {world : World}
    (within : rules ⊆ router.rules) : exchangeLoop router first ctx message question options allowFakeIP rules world =
      exchangeLoop router second ctx message question options allowFakeIP rules world := by
  induction left : rules.length using Nat.strong_induction_on generalizing rules world with
  | _ count ih =>
    rw [exchangeLoop, exchangeLoop]
    split
    · rfl
    · rename_i action dnsOptions matched
      obtain ⟨entry, member, same⟩ := mem_predefinedOf.mp (matchDNS_predefined matched)
      exact agree action (mem_predefinedOf.mpr ⟨entry, within member, same⟩) dnsOptions world
    · rfl
    · rename_i transport rule dnsOptions rest matched
      dsimp only
      split
      · refine ih rest.length ?_ (fun entry member => within (matchDNS_rest_subset matched member)) rfl
        rw [← left]
        exact matchDNS_rest router matched
      · rfl

/-- **The recursion of `exchangeLoop` and `followPredefinedCNAME`.** -/
def Router.exchanging (router : Router) : Recursion ExchangeQuery (ExchangeResult × World) where
  body exchange := router.exchanges (router.follow exchange)
  calls := ExchangeQuery.Leads router
  uses _ _ _ agree :=
    exchangeLoop_congr (fun _ member options world => follow_congr agree member options world) (List.Subset.refl _)

theorem exchanging_decreases : router.exchanging.Decreases fun query => router.unfollowed query.ctx := by
  rintro query next ⟨target, step, -⟩
  exact step.unfollowed_lt

theorem exchanges_eq_unroll (depth : Nat) : router.exchanges (followPredefinedCNAME router depth) =
      router.exchanging.unroll depth (router.exchanges (followPredefinedCNAME router 0)) := by
  induction depth with
  | zero => rfl
  | succ depth ih =>
    rw [Recursion.unroll_succ, ← ih]
    rfl

end Exchanging

/-! ### The recursion of `Lookup` -/

/-- The arguments of `Lookup`. -/
structure LookupQuery where
  ctx : QueryContext
  domain : Bytes
  options : DNSQueryOptions
  world : World

def LookupQuery.Leads (router : Router) (query next : LookupQuery) : Prop :=
  ∃ target, AliasStep router query.ctx target next.ctx ∧ next.domain = fqdnToDomain router.env.lib target

section Looking

variable {router : Router}

theorem lookupLoop_predefined {ctx : QueryContext} {domain : Bytes} {options : DNSQueryOptions} {rules : List RuleEntry}
    {world after : World} {action : Predefined}
    (selected : lookupLoop router ctx domain options rules world = (.predefined action, after)) :
    action ∈ predefinedOf rules := by
  fun_induction lookupLoop router ctx domain options rules world with
  | case1 | case3 | case5 => cases selected
  | case2 _ _ other _ matched => cases selected; exact matchDNS_predefined matched
  | case4 _ _ _ _ _ _ matched _ _ _ _ ih =>
    obtain ⟨entry, member, same⟩ := mem_predefinedOf.mp (ih selected)
    exact mem_predefinedOf.mpr ⟨entry, matchDNS_rest_subset matched member, same⟩

/-- **The recursion of `Lookup`.** -/
def Router.looking (router : Router) : Recursion LookupQuery (RouterLookup × World) where
  body lookup query :=
    router.lookupFollowing (some fun ctx domain options world => lookup ⟨ctx, domain, options, world⟩) query.ctx
      query.domain query.options query.world
  calls := LookupQuery.Leads router
  uses first second query agree := by
    unfold Router.lookupFollowing
    dsimp only
    split
    · rfl
    split
    · rfl
    · rfl
    rename_i action world selected
    split
    · rfl
    split
    · rfl
    split
    · rfl
    rename_i present
    cases resolved : contextWithAliasResolution (query.ctx.forDomain router.env.lib query.domain)
        (router.env.lib.fqdn query.domain)
        (findLastCNAMETarget (router.env.lib.fqdn query.domain)
          (rewriteRecords action.answer ⟨router.env.lib.fqdn query.domain, typeNone, classINET⟩)) with
    | none => rfl
    | some aliasCtx =>
      have step := aliasStep_of_resolution (lookupLoop_predefined selected) present resolved
      dsimp only
      rw [agree]
      exact ⟨_, ⟨step.known, step.fresh, step.added⟩, rfl⟩

theorem looking_decreases : router.looking.Decreases fun query => router.unfollowed query.ctx := by
  rintro query next ⟨target, step, -⟩
  exact step.unfollowed_lt

theorem lookup_eq_unroll (depth : Nat) (query : LookupQuery) :
    router.lookup depth query.ctx query.domain query.options query.world =
      router.looking.unroll depth (fun query => router.lookup 0 query.ctx query.domain query.options query.world) query := by
  induction depth generalizing query with
  | zero => rfl
  | succ depth ih =>
    rw [Recursion.unroll_succ]
    exact router.looking.uses _ _ query fun next _ => ih next

end Looking

/-- **Following predefined aliases ends**: calls are nested no deeper than there are distinct targets in the rules,
and one more, and the loop over the records of an answer takes one pass for each of its targets, and one more. -/
theorem alias_following_ends (router : Router) :
    (∀ query later, List.IsChain (ExchangeQuery.Leads router) (query :: later) →
      (query :: later).length ≤ router.aliasTargets.card + 1) ∧
    (∀ query later, List.IsChain (LookupQuery.Leads router) (query :: later) →
      (query :: later).length ≤ router.aliasTargets.card + 1) ∧
    (∀ depth, router.aliasTargets.card < depth → ∀ base query,
      router.exchanges (followPredefinedCNAME router depth) query =
        router.exchanging.unroll (router.aliasTargets.card + 1) base query) ∧
    (∀ depth, router.aliasTargets.card < depth → ∀ base (query : LookupQuery),
      router.lookup depth query.ctx query.domain query.options query.world =
        router.looking.unroll (router.aliasTargets.card + 1) base query) ∧ (∀ records name base,
      (passing records).unroll ((aliasTargets records).card + 1) base ([name], name) = lastCNAME records [name] name) ∧
    ∀ records name, Cyclic records name → findLastCNAMETarget name records = [] := by
  have few : ∀ ctx : QueryContext, router.unfollowed ctx < router.aliasTargets.card + 1 := fun ctx =>
    Nat.lt_succ_of_le (unseen_le _ ctx.chain)
  refine ⟨?_, ?_, ?_, ?_, ?_, ?_⟩
  · intro query later chain
    exact lt_of_le_of_lt (router.exchanging.length_le_of_chain exchanging_decreases chain) (few query.ctx)
  · intro query later chain
    exact lt_of_le_of_lt (router.looking.length_le_of_chain looking_decreases chain) (few query.ctx)
  · intro depth enough base query
    rw [exchanges_eq_unroll]
    exact Recursion.unroll_eq exchanging_decreases (lt_of_le_of_lt (unseen_le _ _) enough) (few query.ctx)
  · intro depth enough base query
    rw [lookup_eq_unroll]
    exact Recursion.unroll_eq looking_decreases (lt_of_le_of_lt (unseen_le _ _) enough) (few query.ctx)
  · intro records name base
    exact unroll_passing base ([name], name) (Nat.lt_succ_self _)
  · intro records name cyclic
    exact findLastCNAMETarget_of_cyclic cyclic

def aliasRecord (name target : Bytes) : RR := ⟨⟨name, typeCNAME, classINET, 60⟩, .cname target⟩

/-- A rule that has an alias for every name, and one of them leads back. -/
def aliasRouter : Router :=
  { limitedRouter {} with
    rules :=
      [{ rule := everyQuery
         action := .predefined { answer := [aliasRecord [98, 46] [97, 46], aliasRecord [42] [98, 46]] } }] }

def aliasQuery : ExchangeQuery := ⟨{}, sampleMessage, sampleQuestion, {}, true, {}⟩

/-- Three nested calls are enough for two targets, whatever would come deeper. -/
theorem alias_of_alias : aliasRouter.exchanges (followPredefinedCNAME aliasRouter 7) aliasQuery =
      aliasRouter.exchanging.unroll 3 (fun query => ({}, query.world)) aliasQuery := by
  have two : aliasRouter.aliasTargets.card = 2 := by decide
  have ends := (alias_following_ends aliasRouter).2.2.1 7 (by rw [two]; decide) (fun query => ({}, query.world)) aliasQuery
  rw [two] at ends
  exact ends

/-- One pass is not enough for one target: the loop still has to look for an alias of that target. -/
theorem one_pass_missing : (aliasTargets [aliasRecord [97, 46] [98, 46]]).card = 1 ∧
    (passing [aliasRecord [97, 46] [98, 46]]).unroll 1 (fun _ => none) ([[97, 46]], [97, 46]) ≠
      (passing [aliasRecord [97, 46] [98, 46]]).unroll 1 (fun _ => some []) ([[97, 46]], [97, 46]) := by
  decide

end SingBox.Dns
