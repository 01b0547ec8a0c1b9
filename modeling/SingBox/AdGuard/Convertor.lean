/-
**An AdGuard filter list as a rule** (`common/convertor/adguard/convertor.go`, the second half of `ToOptions`).

The lines fall into four classes, important or not and exceptions or not. The rule is built from the inside out: the
ordinary lines, without the exceptions, or the important lines, without the important exceptions. A layer whose class
has no lines is left out, but the innermost one is always there, and a default rule without items matches everything.

What a line is for is said by its text: `Pattern` has the anchors and stars of AdGuard, and `accepts` looks at letters
without their case. `Means` says what a rule answers once it has been built, layer by layer.
-/

import SingBox.AdGuard.Line
import SingBox.Route.Evaluate
import SingBox.Route.Headless

namespace SingBox.AdGuard

open SingBox.Lib SingBox.Lib.Checked SingBox.Route SingBox.Options Options.HeadlessRule List

/-! ### The rule -/

/-- `mapDomain`: the pattern with its anchors. -/
def mapDomain (it : AgdguardRuleLine) : Bytes :=
  let ruleLine := if it.isSuffix then [0x7C, 0x7C] ++ it.ruleLine
    else if it.hasStart then 0x7C :: it.ruleLine
    else it.ruleLine
  if it.hasEnd then ruleLine ++ [0x5E] else ruleLine

def classOf (isImportant isExclude : Bool) (ruleLines : List AgdguardRuleLine) : List AgdguardRuleLine :=
  ruleLines.filter fun it => it.isImportant == isImportant && it.isExclude == isExclude

/-- The patterns of a class: `domain`, `domainRegex`, `importantDomain` and so on. -/
def patterns (isRegexp : Bool) (lines : List AgdguardRuleLine) : List Bytes :=
  (lines.filter fun it => it.isRegexp == isRegexp).map mapDomain

/-- A simple list has domains only, on lines of their own or of a hosts file. -/
def isSimple (ruleLines : List AgdguardRuleLine) : Bool := ruleLines.all fun it => it.isRawDomain

variable {lib : ItemLibrary}

/-- The default rule of a class. `common.Map` returns a slice that is not nil. -/
def classRule (lines : List AgdguardRuleLine) (invert : Bool) : Options.HeadlessRule lib :=
  .default { adGuardDomain := some (patterns false lines)
             domainRegex   := some (patterns true lines)
             invert        := invert }

def layer (mode : LogicalMode) (lines : List AgdguardRuleLine) (invert : Bool)
    (currentRule : Options.HeadlessRule lib) : Options.HeadlessRule lib :=
  if (patterns false lines).length > 0 || (patterns true lines).length > 0 then
    .logical mode [classRule lines invert, currentRule] .asIS false
  else currentRule

def buildRule (ruleLines : List AgdguardRuleLine) : Options.HeadlessRule lib :=
  let currentRule := classRule (classOf false false ruleLines) false
  let currentRule := layer .and (classOf false true ruleLines) true currentRule
  let currentRule := layer .or (classOf true false ruleLines) false currentRule
  layer .and (classOf true true ruleLines) true currentRule

/-- `ToOptions`, for the lines of the list. -/
def toOptions (lineLib : LineLibrary) (lines : List Bytes) :
    Checked Error (List (Options.HeadlessRule lib)) := do
  let ruleLines ← parseLines lineLib lines
  ensure (ruleLines ≠ []) (.new "AdGuard rule-set is empty or all rules are unsupported")
  if isSimple ruleLines then
    return [.default { domain := some (ruleLines.map fun it => it.ruleLine) }]
  else return [buildRule ruleLines]

/-! ### What a line says -/

def isUpper (byte : UInt8) : Bool := 0x41 ≤ byte && byte ≤ 0x5A

def lower (s : Bytes) : Bytes := s.map fun byte => if isUpper byte then byte + 0x20 else byte

/-- A text with stars, each of which stands for any text. -/
def glob : Bytes → Bytes → Bool
  | [], s => s.isEmpty
  | byte :: pattern, s =>
    if byte = 0x2A then s.tails.any (glob pattern) else s.head? == some byte && glob pattern s.tail

/-- Where a pattern is found: anywhere, at the start of the name (`|`), or at the start of a label (`||`). -/
inductive Anchor where
  | free
  | start
  | label
  deriving DecidableEq

def Anchor.text : Anchor → Bytes
  | .free => []
  | .start => [0x7C]
  | .label => [0x7C, 0x7C]

/-- What may stand in front of the pattern. -/
def Anchor.allows : Anchor → Bytes → Bool
  | .free, _ => true
  | .start, front => front.isEmpty
  | .label, front => front.isEmpty || front.getLast? == some 0x2E

structure Pattern where
  anchor : Anchor
  body : Bytes
  /-- Nothing may follow (`^`). -/
  hasEnd : Bool

/-- The pattern that AdGuard reads in a text. -/
def Pattern.read (text : Bytes) : Pattern :=
  let anchor : Anchor :=
    if hasPrefix text [0x7C, 0x7C] then .label else if hasPrefix text [0x7C] then .start else .free
  let rest := text.drop anchor.text.length
  { anchor, body := trimSuffix rest [0x5E], hasEnd := hasSuffix rest [0x5E] }

def Pattern.found (pattern : Pattern) (name : Bytes) : Bool :=
  (range (name.length + 1)).any fun i => pattern.anchor.allows (name.take i) &&
    glob (if pattern.hasEnd then pattern.body else pattern.body ++ [0x2A]) (name.drop i)

/-- The bytes that the patterns of a list are made of. -/
def Pattern.Plain (pattern : Pattern) : Prop :=
  ∀ byte ∈ pattern.body, isDomainByte byte = true ∨ byte = 0x2A

/-- **The meaning of the matchers**: that of their patterns together. Names are compared byte by byte. -/
structure MatcherLaws (lib : ItemLibrary) : Prop where
  adGuard : ∀ patterns, (∀ pattern ∈ patterns, (Pattern.read pattern).Plain) → ∀ name,
    lib.adGuardMatch (lib.newAdGuardMatcher patterns) name =
      patterns.any fun pattern => (Pattern.read pattern).found name
  domain : ∀ domains, (∀ domain ∈ domains, ∀ byte ∈ domain, isDomainByte byte = true) → ∀ name,
    lib.matcherMatch (lib.newMatcher domains [] false) name = domains.contains name
  toLower : ∀ name, ∀ byte ∈ lib.toLower name, isUpper byte = false

namespace AgdguardRuleLine

/-- The pattern of a line, with its text in the given letters. -/
def pattern (line : AgdguardRuleLine) (body : Bytes) : Pattern where
  anchor := if line.isSuffix then .label else if line.hasStart then .start else .free
  body   := body
  hasEnd := line.hasEnd

/-- **The names that a line is for**, written in small letters: those that its regular expression matches, those
with its pattern, or, in a simple list, its domain. Capital letters mean the same. -/
def accepts (lib : ItemLibrary) (simple : Bool) (line : AgdguardRuleLine) (name : Bytes) : Bool :=
  if line.isRegexp then (lib.compile line.ruleLine).toOption.any fun matcher => lib.matchString matcher name
  else if simple then name == lower line.ruleLine
  else (line.pattern (lower line.ruleLine)).found name

/-- What the matchers that are built make of a line. -/
def matched (lib : ItemLibrary) (simple : Bool) (line : AgdguardRuleLine) (name : Bytes) : Bool :=
  if line.isRegexp then (lib.compile (mapDomain line)).toOption.any fun matcher => lib.matchString matcher name
  else if simple then name == line.ruleLine
  else (line.pattern line.ruleLine).found name

/-- A regular expression stands between slashes, without anchors around them. -/
def Supported (line : AgdguardRuleLine) : Prop :=
  line.isRegexp = true → line.isSuffix = false ∧ line.hasStart = false ∧ line.hasEnd = false

/-- A domain or pattern without capital letters, or a regular expression. -/
def isLower (line : AgdguardRuleLine) : Bool := line.isRegexp || line.ruleLine.all fun byte => !isUpper byte

end AgdguardRuleLine

/-! ### The verdict of the lines -/

/-- The name that the rule looks at, as its items see it. -/
def hostOf (lib : ItemLibrary) (ctx : RuleContext) (metadata : InboundContext) : Bytes :=
  domainHost lib (ctx.strategy .asIS) metadata

section Verdict

variable (lib : ItemLibrary) (ctx : RuleContext) (accepts : AgdguardRuleLine → Bytes → Bool)

/-- The connection has a name, and the line is for it. -/
def hits (metadata : InboundContext) (line : AgdguardRuleLine) : Bool :=
  hostOf lib ctx metadata ≠ [] && accepts line (lib.toLower (hostOf lib ctx metadata))

/-- **The verdict of AdGuard**: no important exception, and an important line, or an ordinary line without
an exception. -/
def verdict (ruleLines : List AgdguardRuleLine) (metadata : InboundContext) : Bool :=
  let hit := fun isImportant isExclude =>
    (classOf isImportant isExclude ruleLines).any (hits lib ctx accepts metadata)
  !hit true true && (hit true false || (!hit false true && hit false false))

/-- Some line decides on the connection: there are ordinary lines, or one that has no capital letters is for it. -/
def Decides (ruleLines : List AgdguardRuleLine) (metadata : InboundContext) : Prop :=
  (∃ line ∈ ruleLines, line.isImportant = false ∧ line.isExclude = false) ∨
    ∃ line ∈ ruleLines, line.isLower = true ∧ hits lib ctx accepts metadata line = true

end Verdict

/-- The matchers that are built for a list, in terms of its lines. -/
structure Interprets (lib : ItemLibrary) (ruleLines : List AgdguardRuleLine)
    (accepts : AgdguardRuleLine → Bytes → Bool) : Prop where
  adGuard : (∃ line ∈ ruleLines, line.isRawDomain = false) → ∀ lines, lines ⊆ ruleLines →
    (∀ line ∈ lines, line.isRegexp = false) → ∀ name,
      lib.adGuardMatch (lib.newAdGuardMatcher (lines.map mapDomain)) name =
        lines.any fun line => accepts line name
  regexp : ∀ line ∈ ruleLines, line.isRegexp = true → ∀ matcher,
    lib.compile (mapDomain line) = .ok matcher → ∀ name, lib.matchString matcher name = accepts line name
  domain : (∀ line ∈ ruleLines, line.isRawDomain = true) → ∀ name,
    lib.matcherMatch (lib.newMatcher (ruleLines.map fun it => it.ruleLine) [] false) name =
      ruleLines.any fun line => accepts line name

/-- The regular expressions of these lines are valid. -/
def Compiles (lib : ItemLibrary) (lines : List AgdguardRuleLine) : Prop :=
  ∀ line ∈ lines, line.isRegexp = true → ∃ matcher, lib.compile (mapDomain line) = .ok matcher

/-! ### Patterns -/

theorem mem_of_glob {pattern s : Bytes} (found : glob pattern s = true) :
    ∀ byte ∈ pattern, byte ≠ 0x2A → byte ∈ s := by
  induction pattern generalizing s with
  | nil => simp
  | cons first pattern ih =>
    intro byte member star
    unfold glob at found
    split at found
    · rename_i same
      obtain ⟨rest, suffix, found⟩ := any_eq_true.mp found
      rcases mem_cons.mp member with rfl | member
      · exact absurd same star
      · exact ((mem_tails _ _).mp suffix).subset (ih found byte member star)
    · obtain ⟨head, found⟩ := Bool.and_eq_true_iff.mp found
      obtain _ | ⟨other, rest⟩ := s
      · cases head
      cases beq_iff_eq.mp head
      rcases mem_cons.mp member with rfl | member
      · exact mem_cons_self
      · exact mem_cons_of_mem _ (ih found byte member star)

/-- What stands before the first star is there as it is. -/
theorem glob_append {text rest : Bytes} (plain : 0x2A ∉ text) (s : Bytes) :
    glob (text ++ rest) s = true ↔ ∃ more, s = text ++ more ∧ glob rest more = true := by
  induction text generalizing s with
  | nil => simp
  | cons byte text ih =>
    obtain ⟨star, others⟩ := not_or.mp (mem_cons.not.mp plain)
    rw [cons_append, glob, if_neg (Ne.symm star), Bool.and_eq_true, ih others]
    cases s with
    | nil => simp
    | cons first s => simp [and_assoc]

theorem glob_star (s : Bytes) : glob [0x2A] s = true := by
  simp [glob]

namespace Pattern

theorem mem_of_found {pattern : Pattern} {name : Bytes} (found : pattern.found name = true) :
    ∀ byte ∈ pattern.body, byte ≠ 0x2A → byte ∈ name := by
  obtain ⟨i, -, found⟩ := any_eq_true.mp found
  intro byte member star
  refine mem_of_mem_drop (mem_of_glob (Bool.and_eq_true_iff.mp found).2 byte ?_ star)
  split
  · exact member
  · exact mem_append_left _ member

/-- A domain with no anchor is found in every name that contains it. -/
theorem found_free {body name : Bytes} (plain : 0x2A ∉ body) :
    ({ anchor := .free, body, hasEnd := false } : Pattern).found name = true ↔ body <:+: name := by
  simp only [found, any_eq_true, Anchor.allows, Bool.true_and, Bool.false_eq_true, if_false,
    glob_append plain, glob_star, and_true]
  constructor
  · rintro ⟨i, -, more, same⟩
    exact ⟨name.take i, more, by rw [append_assoc, ← same, take_append_drop]⟩
  · rintro ⟨front, more, rfl⟩
    refine ⟨front.length, mem_range.mpr ?_, more, ?_⟩
    · simp only [length_append]
      omega
    · rw [append_assoc, drop_left]

/-- Between both anchors it is the name itself. -/
theorem found_whole {body name : Bytes} (plain : 0x2A ∉ body) :
    ({ anchor := .start, body, hasEnd := true } : Pattern).found name = true ↔ name = body := by
  have whole (s : Bytes) : glob body s = true ↔ s = body := by
    rw [← append_nil body, glob_append plain]
    simp [glob]
  simp only [found, any_eq_true, Anchor.allows, Bool.and_eq_true, List.isEmpty_iff, if_true, whole]
  constructor
  · rintro ⟨i, -, front, same⟩
    rw [← take_append_drop i name, front, same, nil_append]
  · exact fun same => ⟨0, mem_range.mpr (Nat.succ_pos _), rfl, same⟩

theorem read_text {anchor : Anchor} {body : Bytes} (hasEnd : Bool) (bar : 0x7C ∉ body) (hat : 0x5E ∉ body) :
    read (anchor.text ++ (body ++ if hasEnd then [0x5E] else [])) = { anchor, body, hasEnd } := by
  have noBar (text : Bytes) : hasPrefix (body ++ if hasEnd then [0x5E] else []) (0x7C :: text) = false := by
    cases body <;> cases hasEnd <;> simp_all [hasPrefix, isPrefixOf]
  have noHat : hasSuffix body [0x5E] = false := by
    rw [hasSuffix, ← Bool.not_eq_true, isSuffixOf_iff_suffix]
    exact fun suffix => hat (suffix.subset mem_cons_self)
  have ending : hasSuffix (body ++ if hasEnd then [0x5E] else []) [0x5E] = hasEnd := by
    cases hasEnd
    · simpa using noHat
    · simp [hasSuffix]
  have front : ∀ text, hasPrefix (0x7C :: text) [0x7C, 0x7C] = hasPrefix text [0x7C] ∧
      hasPrefix (0x7C :: text) [0x7C] = true := by simp [hasPrefix]
  cases anchor <;> cases hasEnd <;> simp_all [read, Anchor.text, trimSuffix]

theorem read_mapDomain {line : AgdguardRuleLine} (plain : (line.pattern line.ruleLine).Plain) :
    read (mapDomain line) = line.pattern line.ruleLine := by
  have text : mapDomain line = (line.pattern line.ruleLine).anchor.text ++
      (line.ruleLine ++ if line.hasEnd then [0x5E] else []) := by
    unfold mapDomain AgdguardRuleLine.pattern
    cases line.isSuffix <;> cases line.hasStart <;> cases line.hasEnd <;> simp [Anchor.text]
  rw [text]
  exact read_text line.hasEnd (fun member => absurd (plain _ member) (by decide))
    (fun member => absurd (plain _ member) (by decide))

end Pattern

/-! ### What a rule means -/

/-- **The meaning of a rule**: it is valid, it can be built if `builds` holds, and then it answers with
`answer`, which does not depend on the caches of the evaluation. -/
structure Means (ctx : RuleContext) (rule : Options.HeadlessRule lib) (builds : Prop)
    (answer : InboundContext → Bool) : Prop where
  valid : rule.isValid = true
  builds_iff : (∃ built, newHeadlessRule lib ctx rule = .ok built) ↔ builds
  answers : ∀ built, newHeadlessRule lib ctx rule = .ok built →
    ∀ metadata, built.Match metadata = answer metadata
  frame : ∀ metadata, answer metadata.resetRuleCache = answer metadata

namespace Means

variable {ctx : RuleContext} {answer answer' : InboundContext → Bool}

variable {builds builds' : Prop}

theorem congr {rule : Options.HeadlessRule lib} (means : Means ctx rule builds answer) (same : builds ↔ builds')
    (equal : answer = answer') : Means ctx rule builds' answer' := by
  subst equal
  exact ⟨means.valid, means.builds_iff.trans same, means.answers, means.frame⟩

variable {first second : Options.HeadlessRule lib}

theorem logical {mode : LogicalMode} {logicalType : LogicalType} (known : newMode mode = .ok logicalType)
    (combine : Bool → Bool → Bool)
    (combines : ∀ (first second : Route.HeadlessRule) (metadata : InboundContext),
      Route.HeadlessRule.Match (.logical logicalType false [first, second]) metadata =
        combine (first.Match metadata.resetRuleCache) (second.Match metadata.resetRuleCache))
    (one : Means ctx first builds answer) (two : Means ctx second builds' answer') :
    Means ctx (.logical mode [first, second] .asIS false) (builds ∧ builds')
      fun metadata => combine (answer metadata) (answer' metadata) := by
  have build : ∀ built, newHeadlessRule lib ctx (.logical mode [first, second] .asIS false) = .ok built ↔
      ∃ left right, newHeadlessRule lib ctx first = .ok left ∧
        newHeadlessRule lib ctx second = .ok right ∧ built = .logical logicalType false [left, right] := by
    intro built
    rw [newHeadlessRule_logical_iff]
    constructor
    · rintro ⟨-, found, results, same, related, rfl⟩
      cases known.symm.trans same
      rcases related with _ | ⟨left, _ | ⟨right, _ | _⟩⟩
      exact ⟨_, _, left, right, rfl⟩
    · rintro ⟨left, right, done, done', rfl⟩
      refine ⟨⟨cons_ne_nil _ _, ?_⟩, logicalType, [left, right], known, ?_, rfl⟩
      · simp [allValid, one.valid, two.valid]
      · exact .cons done (.cons done' .nil)
  refine ⟨?_, ?_, ?_, fun metadata => by rw [one.frame, two.frame]⟩
  · simp [isValid, allValid, one.valid, two.valid]
  · rw [← one.builds_iff, ← two.builds_iff]
    constructor
    · rintro ⟨built, done⟩
      obtain ⟨left, right, leftDone, rightDone, -⟩ := (build built).mp done
      exact ⟨⟨left, leftDone⟩, right, rightDone⟩
    · rintro ⟨⟨left, leftDone⟩, right, rightDone⟩
      exact ⟨_, (build _).mpr ⟨left, right, leftDone, rightDone, rfl⟩⟩
  · intro built done metadata
    obtain ⟨left, right, leftDone, rightDone, rfl⟩ := (build built).mp done
    rw [combines, one.answers left leftDone, two.answers right rightDone, one.frame, two.frame]

variable (one : Means ctx first builds answer) (two : Means ctx second builds' answer')

include one two

theorem and : Means ctx (.logical .and [first, second] .asIS false) (builds ∧ builds')
      fun metadata => answer metadata && answer' metadata := by
  refine logical rfl (· && ·) (fun first second metadata => ?_) one two
  simp [Route.HeadlessRule.Match, RuleTree.match_and]

theorem or : Means ctx (.logical .or [first, second] .asIS false) (builds ∧ builds')
      fun metadata => answer metadata || answer' metadata := by
  refine logical rfl (· || ·) (fun first second metadata => ?_) one two
  simp [Route.HeadlessRule.Match, RuleTree.match_or]

end Means

/-! ### The rule of a class -/

section Class

variable {ctx : RuleContext}

theorem compileAll_eq_ok_iff {expressions : List Bytes} {matchers : List lib.Regexp} :
    compileAll lib expressions = .ok matchers ↔
      List.Forall₂ (fun expression matcher => lib.compile expression = .ok matcher) expressions
        matchers := by
  refine mapM_zipIdx_eq_ok_iff (fun expression i matcher => ?_) 0
  cases found : lib.compile expression <;> simp [found]

theorem newDefaultHeadlessRule_domain (domain domainRegex adGuardDomain : Listable Bytes)
    (invert : Bool) :
    newDefaultHeadlessRule lib ctx { domain, domainRegex, adGuardDomain, invert } = (do
      let domainItems ← newDomainItems lib { domain } (ctx.strategy .asIS)
      let regexItems ← newItemWhen (domainRegex.items.length > 0) (wrapError "domain_regex"
        (newDomainRegexItem lib domainRegex.items (ctx.strategy .asIS)))
      return { destinationAddressItems := domainItems ++ regexItems ++
                 adGuardItems lib { adGuardDomain } (ctx.strategy .asIS)
               invert                  := invert }) := by
  have noNetwork : networkItems lib ctx { domain, domainRegex, adGuardDomain, invert } = [] := by
    unfold networkItems
    cases ctx.networkManager <;> rfl
  unfold newDefaultHeadlessRule
  rw [noNetwork]
  have none (given : Bool) (absent : given = false) (item : Except Error RuleItem) :
      newItemWhen given item = pure [] := by
    subst absent
    rfl
  simp [newIPCIDRItems, itemWhen, newDomainItems, adGuardItems, none]

theorem newDefaultHeadlessRule_class {domains regexps : List Bytes} {invert : Bool}
    {result : AbstractDefaultRule Empty} :
    newDefaultHeadlessRule lib ctx { adGuardDomain := some domains, domainRegex := some regexps,
                                     invert := invert } = .ok result ↔
      ∃ matchers, compileAll lib regexps = .ok matchers ∧ result = {
        destinationAddressItems :=
          itemWhen (regexps.length > 0) (domainRegexItem lib matchers (ctx.strategy .asIS)) ++
          itemWhen (domains.length > 0)
            (adGuardDomainItem lib (lib.newAdGuardMatcher domains) (ctx.strategy .asIS))
        invert := invert } := by
  have adGuard : adGuardItems lib { adGuardDomain := some domains } (ctx.strategy .asIS) =
      itemWhen (domains.length > 0)
        (adGuardDomainItem lib (lib.newAdGuardMatcher domains) (ctx.strategy .asIS)) := by
    unfold adGuardItems itemWhen
    simp
  have regexp items : newItemWhen (0 < regexps.length) (wrapError "domain_regex"
        (newDomainRegexItem lib regexps (ctx.strategy .asIS))) = .ok items ↔
      ∃ matchers, compileAll lib regexps = .ok matchers ∧ items =
        itemWhen (regexps.length > 0) (domainRegexItem lib matchers (ctx.strategy .asIS)) := by
    cases regexps with
    | nil => exact ⟨fun same => ⟨[], rfl, (Except.ok.inj same).symm⟩, by rintro ⟨-, -, rfl⟩; rfl⟩
    | cons first others =>
      simp [newItemWhen, itemWhen, newDomainRegexItem, bind_eq_ok_iff, wrapError_eq_ok_iff, pure, Except.pure,
        @eq_comm _ items]
  have none : newDomainItems lib { domain := none } (ctx.strategy .asIS) = .ok [] := rfl
  rw [newDefaultHeadlessRule_domain, none]
  simp [bind_eq_ok_iff, Listable.items, regexp, adGuard, pure, Except.pure, @eq_comm _ result]

theorem matchAnyItem_itemWhen (given : Bool) (item : RuleItem) (metadata : InboundContext) :
    matchAnyItem (itemWhen given item) metadata = (given && item.Match metadata) := by
  cases given
  · rfl
  · simp [itemWhen, matchAnyItem]

variable {ruleLines : List AgdguardRuleLine} {accepts : AgdguardRuleLine → Bytes → Bool}
  {lines : List AgdguardRuleLine}

theorem any_matchers (interprets : Interprets lib ruleLines accepts) (sub : lines ⊆ ruleLines)
    (regexps : ∀ line ∈ lines, line.isRegexp = true) {matchers : List lib.Regexp}
    (compiled : List.Forall₂ (fun expression matcher => lib.compile expression = .ok matcher)
      (lines.map mapDomain) matchers) (name : Bytes) :
    (matchers.any fun matcher => lib.matchString matcher name) = lines.any fun line => accepts line name := by
  induction lines generalizing matchers with
  | nil =>
    cases compiled
    rfl
  | cons line lines ih =>
    obtain ⟨matcher, others, found, rest, rfl⟩ := forall₂_cons_left_iff.mp compiled
    obtain ⟨inside, insides⟩ := cons_subset.mp sub
    obtain ⟨regexp, more⟩ := forall_mem_cons.mp regexps
    rw [any_cons, any_cons, ih insides more rest,
      interprets.regexp line inside regexp matcher found]

theorem any_filter_regexp (lines : List AgdguardRuleLine) (p : AgdguardRuleLine → Bool) :
    ((lines.filter fun it => it.isRegexp == true).any p ||
      (lines.filter fun it => it.isRegexp == false).any p) = lines.any p := by
  induction lines with
  | nil => rfl
  | cons line lines ih =>
    rw [any_cons, ← ih]
    cases regexp : line.isRegexp <;> cases answer : p line <;> simp [regexp, answer]

theorem domainTest_eq {test : Bytes → Bool}
    (right : ∀ name, test name = lines.any fun line => accepts line name) (metadata : InboundContext) :
    (decide ((lines.map mapDomain).length > 0) &&
      (domainTestItem lib test (ctx.strategy .asIS)).Match metadata) =
        lines.any (hits lib ctx accepts metadata) := by
  have some : ∀ p : AgdguardRuleLine → Bool,
      (decide ((lines.map mapDomain).length > 0) && lines.any p) = lines.any p := by
    cases lines <;> simp
  rw [← some]
  unfold domainTestItem hits hostOf
  by_cases noName : domainHost lib (ctx.strategy .asIS) metadata = []
  · simp [noName]
  · simp [noName, right]

theorem isValid_classRule (invert : Bool) : (classRule lines invert : Options.HeadlessRule lib).isValid = true := by
  simp [classRule, isValid, DefaultHeadlessRule.isValid]

/-- The rule is built if the regular expressions are. -/
theorem exists_classRule_iff (invert : Bool) :
    (∃ built, newHeadlessRule lib ctx (classRule lines invert) = .ok built) ↔ Compiles lib lines := by
  have builds : (∃ matchers, compileAll lib (patterns true lines) = .ok matchers) ↔ Compiles lib lines := by
    simp only [compileAll_eq_ok_iff, exists_forall₂_iff, patterns, forall_mem_map,
      mem_filter, beq_iff_eq, and_imp, Compiles]
  rw [← builds]
  constructor
  · rintro ⟨built, done⟩
    obtain ⟨-, r, made, -⟩ := newHeadlessRule_default_iff.mp done
    obtain ⟨matchers, compiled, -⟩ := newDefaultHeadlessRule_class.mp made
    exact ⟨matchers, compiled⟩
  · rintro ⟨matchers, compiled⟩
    exact ⟨_, newHeadlessRule_default_iff.mpr
      ⟨isValid_classRule invert, _, newDefaultHeadlessRule_class.mpr ⟨matchers, compiled, rfl⟩, rfl⟩⟩

theorem means_classRule (interprets : Interprets lib ruleLines accepts)
    (mixed : ∃ line ∈ ruleLines, line.isRawDomain = false) (sub : lines ⊆ ruleLines) (invert : Bool) :
    Means ctx (classRule lines invert : Options.HeadlessRule lib) (Compiles lib lines)
      fun metadata => lines.isEmpty || (lines.any (hits lib ctx accepts metadata) != invert) := by
  refine ⟨isValid_classRule invert, exists_classRule_iff invert, ?_, fun metadata => rfl⟩
  intro built done metadata
  obtain ⟨-, r, made, rfl⟩ := newHeadlessRule_default_iff.mp done
  obtain ⟨matchers, compiled, rfl⟩ := newDefaultHeadlessRule_class.mp made
  have regexps name : (matchers.any fun matcher => lib.matchString matcher name) =
      (lines.filter fun it => it.isRegexp == true).any fun line => accepts line name := by
    refine any_matchers interprets (fun line member => sub (mem_of_mem_filter member)) ?_
      (compileAll_eq_ok_iff.mp compiled) name
    simp
  have domains name : lib.adGuardMatch (lib.newAdGuardMatcher (patterns false lines)) name =
      (lines.filter fun it => it.isRegexp == false).any fun line => accepts line name := by
    refine interprets.adGuard mixed _ (fun line member => sub (mem_of_mem_filter member)) ?_ name
    simp
  have empty : (itemWhen (decide ((patterns true lines).length > 0))
        (domainRegexItem lib matchers (ctx.strategy .asIS)) ++
      itemWhen (decide ((patterns false lines).length > 0)) (adGuardDomainItem lib
        (lib.newAdGuardMatcher (patterns false lines)) (ctx.strategy .asIS))).isEmpty =
      lines.isEmpty := by
    cases lines with
    | nil => rfl
    | cons line lines => cases regexp : line.isRegexp <;> simp [itemWhen, patterns, regexp]
  rw [Route.HeadlessRule.match_destination, matchAnyItem_append, matchAnyItem_itemWhen,
    matchAnyItem_itemWhen, ← any_filter_regexp lines]
  congr 3
  · exact domainTest_eq regexps metadata
  · exact domainTest_eq domains metadata

end Class

/-! ### The whole rule -/

section Whole

variable {ctx : RuleContext} {ruleLines : List AgdguardRuleLine} {accepts : AgdguardRuleLine → Bytes → Bool}

theorem layer_eq (mode : LogicalMode) (lines : List AgdguardRuleLine) (invert : Bool)
    (rule : Options.HeadlessRule lib) : layer mode lines invert rule =
      if lines.isEmpty then rule else .logical mode [classRule lines invert, rule] .asIS false := by
  unfold layer
  cases lines with
  | nil => rfl
  | cons line lines => cases regexp : line.isRegexp <;> simp [patterns, regexp]

theorem Means.layer (exclude : Bool) (interprets : Interprets lib ruleLines accepts)
    (mixed : ∃ line ∈ ruleLines, line.isRawDomain = false) {lines : List AgdguardRuleLine}
    (sub : lines ⊆ ruleLines) {rule : Options.HeadlessRule lib} {builds : Prop}
    {answer : InboundContext → Bool} (means : Means ctx rule builds answer) :
    Means ctx (layer (if exclude then .and else .or) lines exclude rule) (Compiles lib lines ∧ builds)
      fun metadata => if exclude then !lines.any (hits lib ctx accepts metadata) && answer metadata
        else lines.any (hits lib ctx accepts metadata) || answer metadata := by
  rw [layer_eq]
  cases lines with
  | nil => exact means.congr (by simp [Compiles]) (by simp)
  | cons line lines =>
    have lower : Means ctx _ _ _ := means_classRule interprets mixed sub exclude
    cases exclude
    · exact lower.or means |>.congr .rfl (by simp)
    · exact lower.and means |>.congr .rfl (by simp)

theorem classOf_subset (isImportant isExclude : Bool) (ruleLines : List AgdguardRuleLine) :
    classOf isImportant isExclude ruleLines ⊆ ruleLines :=
  fun _ member => mem_of_mem_filter member

theorem mem_iff_classes {line : AgdguardRuleLine} : line ∈ ruleLines ↔ line ∈ classOf true true ruleLines ∨
    line ∈ classOf true false ruleLines ∨ line ∈ classOf false true ruleLines ∨ line ∈ classOf false false ruleLines := by
  cases important : line.isImportant <;> cases exclude : line.isExclude <;> simp [classOf, important, exclude]

theorem compiles_classes : Compiles lib (classOf true true ruleLines) ∧
      Compiles lib (classOf true false ruleLines) ∧ Compiles lib (classOf false true ruleLines) ∧
      Compiles lib (classOf false false ruleLines) ↔ Compiles lib ruleLines := by
  simp only [Compiles, @mem_iff_classes ruleLines, or_imp, forall_and]

def answerOf (lib : ItemLibrary) (ctx : RuleContext) (accepts : AgdguardRuleLine → Bytes → Bool)
    (ruleLines : List AgdguardRuleLine) (metadata : InboundContext) : Bool :=
  let hit := fun isImportant isExclude =>
    (classOf isImportant isExclude ruleLines).any (hits lib ctx accepts metadata)
  !hit true true && (hit true false ||
    (!hit false true && ((classOf false false ruleLines).isEmpty || hit false false)))

theorem means_buildRule (interprets : Interprets lib ruleLines accepts)
    (mixed : ∃ line ∈ ruleLines, line.isRawDomain = false) :
    Means ctx (buildRule ruleLines : Options.HeadlessRule lib) (Compiles lib ruleLines)
      (answerOf lib ctx accepts ruleLines) := by
  have ordinary : Means ctx (classRule (classOf false false ruleLines) false :
      Options.HeadlessRule lib) _ _ :=
    means_classRule interprets mixed (classOf_subset false false _) false
  have layers := ((ordinary.layer true interprets mixed (classOf_subset false true _)).layer false interprets
    mixed (classOf_subset true false _)).layer true interprets mixed (classOf_subset true true _)
  refine layers.congr compiles_classes ?_
  funext metadata
  simp [answerOf]

theorem newDefaultHeadlessRule_domains {domains : List Bytes} (some : domains ≠ []) (noEmpty : [] ∉ domains) :
    newDefaultHeadlessRule lib ctx { domain := Option.some domains } = .ok { destinationAddressItems :=
      [domainItem lib (lib.newMatcher domains [] false) (ctx.strategy .asIS)] } := by
  have domainItems : newDomainItems lib { domain := .some domains } (ctx.strategy .asIS) =
      .ok [domainItem lib (lib.newMatcher domains [] false) (ctx.strategy .asIS)] := by
    have positive := length_pos_iff.mpr some
    simp [newDomainItems, newDomainItem, positive, noEmpty, bind, Except.bind, pure, Except.pure]
  rw [newDefaultHeadlessRule_domain, domainItems]
  rfl

theorem means_domainRule (interprets : Interprets lib ruleLines accepts) (some : ruleLines ≠ [])
    (plain : ∀ line ∈ ruleLines, line.Plain) (raw : ∀ line ∈ ruleLines, line.isRawDomain = true) :
    Means ctx (.default { domain := Option.some (ruleLines.map fun it => it.ruleLine) } :
      Options.HeadlessRule lib) (Compiles lib ruleLines) (answerOf lib ctx accepts ruleLines) := by
  have compiles : Compiles lib ruleLines := by
    intro line member regexp
    rw [(plain line member (raw line member)).2.2.1] at regexp
    cases regexp
  have classes (isImportant isExclude : Bool) :
      classOf isImportant isExclude ruleLines = ruleLines.filter fun _ => !(isImportant || isExclude) := by
    refine filter_congr fun line member => ?_
    obtain ⟨exclude, important, -⟩ := plain line member (raw line member)
    rw [exclude, important]
    cases isImportant <;> cases isExclude <;> rfl
  have answer : answerOf lib ctx accepts ruleLines =
      fun metadata => ruleLines.any (hits lib ctx accepts metadata) := by
    funext metadata
    simp [answerOf, classes, some]
  have noEmpty : [] ∉ ruleLines.map fun it => it.ruleLine := by
    intro member
    obtain ⟨line, member, empty⟩ := mem_map.mp member
    exact (plain line member (raw line member)).2.2.2 empty
  have valid : (.default { domain := .some (ruleLines.map fun it => it.ruleLine) } :
      Options.HeadlessRule lib).isValid = true := by
    simp [isValid, DefaultHeadlessRule.isValid]
  have made := @newDefaultHeadlessRule_domains lib ctx _ (map_eq_nil_iff.not.mpr some) noEmpty
  rw [answer]
  refine ⟨valid, iff_of_true ⟨_, newHeadlessRule_default_iff.mpr ⟨valid, _, made, rfl⟩⟩ compiles, ?_,
    fun metadata => rfl⟩
  intro built done metadata
  obtain ⟨-, r, again, rfl⟩ := newHeadlessRule_default_iff.mp done
  cases made.symm.trans again
  have test : _ = ruleLines.any (hits lib ctx accepts metadata) :=
    domainTest_eq (interprets.domain raw) metadata
  rw [length_map] at test
  rw [Route.HeadlessRule.match_destination, ← test, decide_eq_true (length_pos_iff.mpr some)]
  simp [matchAnyItem, domainItem]

/-- **What a list means for which `ToOptions` succeeds.** -/
theorem toOptions_means (ctx : RuleContext) {lineLib : LineLibrary} {texts : List Bytes}
    {rules : List (Options.HeadlessRule lib)} (parsed : parseLines lineLib texts = .ok ruleLines)
    (succeeds : toOptions lineLib texts = .ok rules) (interprets : Interprets lib ruleLines accepts) :
    ∃ rule, rules = [rule] ∧
      Means ctx rule (Compiles lib ruleLines) (answerOf lib ctx accepts ruleLines) := by
  obtain ⟨others, again, succeeds⟩ := bind_eq_ok_iff.mp succeeds
  cases parsed.symm.trans again
  obtain ⟨done, checked, succeeds⟩ := bind_eq_ok_iff.mp succeeds
  have some := ensure_eq_ok_iff.mp checked
  split at succeeds
  · rename_i raw
    cases succeeds
    exact ⟨_, rfl, means_domainRule interprets some (plain_of_parseLines parsed) (all_eq_true.mp raw)⟩
  · rename_i mixed
    cases succeeds
    refine ⟨_, rfl, means_buildRule interprets ?_⟩
    simpa [isSimple] using mixed

theorem any_classes (p : AgdguardRuleLine → Bool) : ruleLines.any p =
    ((classOf true true ruleLines).any p || (classOf true false ruleLines).any p ||
      (classOf false true ruleLines).any p || (classOf false false ruleLines).any p) := by
  rw [Bool.eq_iff_iff]
  simp only [Bool.or_eq_true, any_eq_true, @mem_iff_classes ruleLines, or_and_right, exists_or, or_assoc]

theorem MatcherLaws.interprets {lineLib : LineLibrary} {texts : List Bytes} (laws : MatcherLaws lib)
    (parsed : parseLines lineLib texts = .ok ruleLines) :
    Interprets lib ruleLines (AgdguardRuleLine.matched lib (isSimple ruleLines)) := by
  have plain : ∀ line ∈ ruleLines, line.isRegexp = false → (line.pattern line.ruleLine).Plain :=
    bytes_of_parseLines parsed
  refine ⟨fun mixed lines sub domains name => ?_, fun line _ regexp matcher compiled name => ?_,
    fun raw name => ?_⟩
  · have mixed : isSimple ruleLines = false := by simpa [isSimple] using mixed
    have reads : ∀ line ∈ lines, Pattern.read (mapDomain line) = line.pattern line.ruleLine :=
      fun line member => Pattern.read_mapDomain (plain line (sub member) (domains line member))
    rw [laws.adGuard, any_map, Bool.eq_iff_iff, any_eq_true, any_eq_true]
    · refine exists_congr fun line => and_congr_right fun member => ?_
      simp [AgdguardRuleLine.matched, domains line member, mixed, reads line member]
    · refine forall_mem_map.mpr fun line member => ?_
      rw [reads line member]
      exact plain line (sub member) (domains line member)
  · simp [AgdguardRuleLine.matched, regexp, compiled, Except.toOption]
  · have simple : isSimple ruleLines = true := all_eq_true.mpr raw
    have rawLines : ∀ line ∈ ruleLines, RawLine lineLib line :=
      fun line member => rawLine_of_parseLines parsed line member (raw line member)
    rw [laws.domain _ (forall_mem_map.mpr fun line member =>
      lineLib.isDomainName_bytes _ (rawLines line member).1), Bool.eq_iff_iff, any_eq_true,
      contains_iff_mem, mem_map]
    refine exists_congr fun line => and_congr_right fun member => ?_
    obtain ⟨-, anchored, same⟩ := rawLines line member
    have domain : line.isRegexp = false := by rw [same]
    simp [AgdguardRuleLine.matched, domain, simple, @eq_comm _ name]

theorem lower_eq_self {s : Bytes} (small : ∀ byte ∈ s, isUpper byte = false) : lower s = s := by
  refine (map_congr_left fun byte member => ?_).trans s.map_id
  simp [small byte member]

/-- A line with a capital letter is matched by no name in small letters. -/
theorem AgdguardRuleLine.matched_eq {line : AgdguardRuleLine} (supported : line.Supported) (simple : Bool)
    {name : Bytes} (small : ∀ byte ∈ name, isUpper byte = false) :
    line.matched lib simple name = (line.isLower && line.accepts lib simple name) := by
  cases regexp : line.isRegexp with
  | true =>
    obtain ⟨suffix, start, ending⟩ := supported regexp
    simp [matched, accepts, isLower, regexp, mapDomain, suffix, start, ending]
  | false =>
    by_cases lowered : ∀ byte ∈ line.ruleLine, isUpper byte = false
    · have yes : line.isLower = true := by simpa [isLower, regexp] using lowered
      rw [yes, matched, accepts, lower_eq_self lowered]
      simp [regexp]
    · have no : line.isLower = false := by simpa [isLower, regexp] using lowered
      obtain ⟨byte, inside, upper⟩ : ∃ byte ∈ line.ruleLine, isUpper byte = true := by simpa using lowered
      have outside : byte ∉ name := fun member => by simp [small byte member] at upper
      have star : byte ≠ 0x2A := by
        rintro rfl
        cases upper
      rw [no, Bool.false_and, matched, regexp, ← Bool.not_eq_true]
      cases simple with
      | true =>
        rintro same
        exact outside ((beq_iff_eq.mp same).symm ▸ inside)
      | false => exact fun found => outside (Pattern.mem_of_found found byte inside star)

section Lower

variable (laws : MatcherLaws lib) (supported : ∀ line ∈ ruleLines, line.Supported) (simple : Bool)

include laws supported

theorem any_hits_matched (isImportant isExclude : Bool) (metadata : InboundContext) :
    (classOf isImportant isExclude ruleLines).any
        (hits lib ctx (AgdguardRuleLine.matched lib simple) metadata) =
      (classOf isImportant isExclude (ruleLines.filter (·.isLower))).any
        (hits lib ctx (AgdguardRuleLine.accepts lib simple) metadata) := by
  rw [classOf, classOf, any_filter, any_filter, any_filter, Bool.eq_iff_iff, any_eq_true,
    any_eq_true]
  refine exists_congr fun line => and_congr_right fun member => ?_
  rw [hits, hits, AgdguardRuleLine.matched_eq (supported line member) simple (laws.toLower _)]
  cases line.isLower <;> simp

/-- **What the rule answers**: the verdict of the lines without capital letters. But if no line decides, then the
innermost rule has no items and is true. -/
theorem answerOf_matched (metadata : InboundContext) :
    (Decides lib ctx (AgdguardRuleLine.accepts lib simple) ruleLines metadata →
      answerOf lib ctx (AgdguardRuleLine.matched lib simple) ruleLines metadata =
        verdict lib ctx (AgdguardRuleLine.accepts lib simple) (ruleLines.filter (·.isLower)) metadata) ∧
    (¬ Decides lib ctx (AgdguardRuleLine.accepts lib simple) ruleLines metadata →
      answerOf lib ctx (AgdguardRuleLine.matched lib simple) ruleLines metadata = true) := by
  have some : (∃ line ∈ ruleLines, line.isLower = true ∧
      hits lib ctx (AgdguardRuleLine.accepts lib simple) metadata line = true) ↔
      (ruleLines.filter (·.isLower)).any (hits lib ctx (AgdguardRuleLine.accepts lib simple) metadata) = true := by
    simp
  have ordinary : (∃ line ∈ ruleLines, line.isImportant = false ∧ line.isExclude = false) ↔
      (classOf false false ruleLines).isEmpty = false := by
    simp [classOf]
  have noHit : (classOf false false ruleLines).isEmpty = true →
      (classOf false false (ruleLines.filter (·.isLower))).any
        (hits lib ctx (AgdguardRuleLine.accepts lib simple) metadata) = false := by
    rw [← any_hits_matched laws supported]
    intro empty
    rw [isEmpty_iff.mp empty, any_nil]
  unfold answerOf verdict Decides
  rw [some, ordinary, any_classes]
  simp only [any_hits_matched laws supported]
  revert noHit
  generalize (classOf false false ruleLines).isEmpty = empty
  generalize (classOf true true _).any _ = importantExclude
  generalize (classOf true false _).any _ = important
  generalize (classOf false true _).any _ = exclude
  generalize (classOf false false _).any _ = block
  revert empty importantExclude important exclude block
  decide

end Lower

end Whole

def text (s : String) : Bytes := s.toUTF8.toList

/-- Labels of at most 63 bytes without a hyphen at their ends, and not only digits. -/
def sampleLineLibrary : LineLibrary where
  isDomainName name := name.all isDomainByte && name.any (fun byte => !(0x30 ≤ byte && byte ≤ 0x39 || byte = 0x2E)) &&
    (name.splitOn 0x2E).all fun label =>
      !label.isEmpty && label.length ≤ 63 && label.head? != some 0x2D && label.getLast? != some 0x2D
  parseAddr s := if s = text "0.0.0.0" then some (.v4 0) else none
  mParseAddr s := if s = text "0.0.0.0" then .v4 0 else .invalid
  isDomainName_nil := rfl
  isDomainName_bytes name valid := by
    simp only [Bool.and_eq_true, all_eq_true] at valid
    exact valid.1.1

def adGuardLibrary : ItemLibrary where
  __ := sampleLibrary
  AdGuardMatcher := List Pattern
  newAdGuardMatcher ruleLines := ruleLines.map Pattern.read
  adGuardMatch patterns host := patterns.any fun pattern => pattern.found host

theorem matcherLaws_adGuardLibrary : MatcherLaws adGuardLibrary := by
  refine ⟨fun patterns _ name => any_map, fun domains _ name => ?_, fun name byte member => ?_⟩
  · show (domains.contains name || ([] : List Bytes).any _) = _
    rw [any_nil, Bool.or_false]
  · obtain ⟨letter, -, rfl⟩ := mem_map.mp member
    simp only [isUpper, UInt8.le_iff_toNat_le, Bool.and_eq_false_iff, decide_eq_false_iff_not]
    split
    · rw [UInt8.toNat_add]
      simp at *
      omega
    · simp at *
      omega

def filterTexts : List Bytes :=
  [text "||sagernet.org^$important", text "@@|sing-box.sagernet.org^$important", text "||example.org^",
    text "0.0.0.0 google.com", text "example.arpa", text "@@|sagernet.example.org^"]

def filterLines : List AgdguardRuleLine :=
  [{ ruleLine := text "sagernet.org", isSuffix := true, hasEnd := true, isImportant := true },
    { ruleLine := text "sing-box.sagernet.org", isExclude := true, hasStart := true, hasEnd := true,
      isImportant := true },
    { ruleLine := text "example.org", isSuffix := true, hasEnd := true },
    { ruleLine := text "google.com", isRawDomain := true, hasStart := true, hasEnd := true },
    { ruleLine := text "example.arpa", isRawDomain := true },
    { ruleLine := text "sagernet.example.org", isExclude := true, hasStart := true, hasEnd := true }]

theorem parseLines_filterTexts : parseLines sampleLineLibrary filterTexts = .ok filterLines := by
  decide +kernel

theorem toOptions_mixed {lineLib : LineLibrary} {texts : List Bytes} {ruleLines : List AgdguardRuleLine}
    (parsed : parseLines lineLib texts = .ok ruleLines) (mixed : isSimple ruleLines = false) :
    toOptions lineLib texts = .ok [(buildRule ruleLines : Options.HeadlessRule lib)] := by
  have some : ruleLines ≠ [] := by
    rintro rfl
    cases mixed
  unfold toOptions
  rw [parsed]
  simp [ensure, some, mixed, bind, Except.bind, pure, Except.pure]

theorem toOptions_filterTexts : toOptions sampleLineLibrary filterTexts =
    .ok [(buildRule filterLines : Options.HeadlessRule adGuardLibrary)] :=
  toOptions_mixed parseLines_filterTexts rfl

def exceptionLine : AgdguardRuleLine where
  ruleLine  := text "example.org"
  isExclude := true
  isSuffix  := true
  hasEnd    := true

/-- **Which lists are converted without a panic.** Every slice is within its bounds, except that of a regular
expression that is a single slash. -/
theorem toOptions_returns_iff (lineLib : LineLibrary) (lib : ItemLibrary) (lines : List Bytes) :
    (∀ ruleLine isImportant, slicePattern lineLib ruleLine isImportant =
      parsePattern lineLib ruleLine isImportant) ∧
    (Returns (toOptions lineLib lines : Checked Error (List (Options.HeadlessRule lib))) ↔
      ∀ line ∈ lines, ¬ SlashOnly lineLib line) := by
  refine ⟨slicePattern_eq lineLib, ?_⟩
  rw [toOptions, Returns, meets_bind_iff]
  refine (parseLines_panicsUnless lines).meets_iff fun ruleLines _ => ?_
  refine .ensure fun _ => ?_
  split <;> trivial

/-- A list with a slash as its only line. -/
theorem toOptions_slash_panics :
    (toOptions sampleLineLibrary [[0x2F]] : Checked Error (List (Options.HeadlessRule sampleLibrary))) =
      .error .panic := rfl

/-! ### Plain domains -/

theorem AgdguardRuleLine.matched_raw {lineLib : LineLibrary} {line : AgdguardRuleLine} (raw : RawLine lineLib line)
    (simple : Bool) (name : Bytes) : line.matched lib simple name = true ↔
      if simple = true ∨ line.hasStart = true then name = line.ruleLine else line.ruleLine <:+: name := by
  obtain ⟨valid, anchored, same⟩ := raw
  have domain : line.isRegexp = false := by rw [same]
  have noStar : 0x2A ∉ line.ruleLine :=
    fun member => absurd (lineLib.isDomainName_bytes _ valid _ member) (by decide)
  unfold matched
  rw [domain]
  cases simple with
  | true => simp
  | false =>
    cases anchored with
    | true =>
      have pattern : line.pattern line.ruleLine = ⟨.start, line.ruleLine, true⟩ := by rw [same]; rfl
      have start : line.hasStart = true := by rw [same]
      simp [pattern, start, Pattern.found_whole noStar]
    | false =>
      have pattern : line.pattern line.ruleLine = ⟨.free, line.ruleLine, false⟩ := by rw [same]; rfl
      have start : line.hasStart = false := by rw [same]
      simp [pattern, start, Pattern.found_free noStar]

/-- **What a plain domain or a hosts line blocks**: exactly its domain if all lines of the list are such lines, or it is
a hosts line; in other lists a plain domain is a pattern, and blocks each name that contains it. With a capital letter it
blocks nothing. -/
theorem rawDomain_blocks_iff (lineLib : LineLibrary) (lib : ItemLibrary) (ctx : RuleContext)
    (laws : MatcherLaws lib) (texts : List Bytes) (ruleLines : List AgdguardRuleLine)
    (rules : List (Options.HeadlessRule lib)) (parsed : parseLines lineLib texts = .ok ruleLines)
    (succeeds : toOptions lineLib texts = .ok rules) :
    let blocks := hits lib ctx (AgdguardRuleLine.matched lib (isSimple ruleLines))
    (∃ rule, rules = [rule] ∧ Means ctx rule (Compiles lib ruleLines)
      (answerOf lib ctx (AgdguardRuleLine.matched lib (isSimple ruleLines)) ruleLines)) ∧
    ∀ line ∈ ruleLines, line.isRawDomain = true → ∀ metadata,
      (blocks metadata line = true ↔ hostOf lib ctx metadata ≠ [] ∧
        if isSimple ruleLines = true ∨ line.hasStart = true then
          lib.toLower (hostOf lib ctx metadata) = line.ruleLine
        else line.ruleLine <:+: lib.toLower (hostOf lib ctx metadata)) ∧
      (line.isLower = false → blocks metadata line = false) := by
  intro blocks
  refine ⟨toOptions_means ctx parsed succeeds (laws.interprets parsed), fun line member raw metadata => ⟨?_, ?_⟩⟩
  · simp only [blocks, hits, Bool.and_eq_true, decide_eq_true_eq,
      AgdguardRuleLine.matched_raw (rawLine_of_parseLines parsed line member raw)]
  · intro capital
    have unmarked := (plain_of_parseLines parsed line member raw).2.2.1
    have supported : line.Supported := fun regexp => absurd regexp (by simp [unmarked])
    simp [blocks, hits, AgdguardRuleLine.matched_eq supported _ (laws.toLower _), capital]

/-- The line `example.arpa` is for `isexample.arpa.cn`, too. -/
theorem rawDomain_blocks_filter : hits adGuardLibrary {} (AgdguardRuleLine.matched adGuardLibrary (isSimple filterLines))
    { domain := text "isexample.arpa.cn" } { ruleLine := text "example.arpa", isRawDomain := true } = true := by
  have named : hostOf adGuardLibrary {} { domain := text "isexample.arpa.cn" } ≠ [] := by decide +kernel
  have inside : text "example.arpa" <:+:
      adGuardLibrary.toLower (hostOf adGuardLibrary {} { domain := text "isexample.arpa.cn" }) :=
    ⟨text "is", text ".cn", by decide +kernel⟩
  have blocks := (rawDomain_blocks_iff sampleLineLibrary adGuardLibrary {} matcherLaws_adGuardLibrary filterTexts
    filterLines _ parseLines_filterTexts toOptions_filterTexts).2 { ruleLine := text "example.arpa", isRawDomain := true }
    (by decide +kernel) rfl { domain := text "isexample.arpa.cn" }
  exact blocks.1.mpr ⟨named, inside⟩

/-- Beside other lines `example.arpa` blocks `isexample.arpa.cn`. -/
theorem rawDomain_blocks_more : toOptions sampleLineLibrary filterTexts =
      .ok [(buildRule filterLines : Options.HeadlessRule adGuardLibrary)] ∧
    ∃ built, newHeadlessRule adGuardLibrary {} (buildRule filterLines) = .ok built ∧
      built.Match { domain := text "isexample.arpa.cn" } = true := by
  refine ⟨toOptions_filterTexts, _, rfl, ?_⟩
  decide +kernel

end SingBox.AdGuard
