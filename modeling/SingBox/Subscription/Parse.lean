/-
**Subscriptions** (`ParseSubscription` in `provider/parser/parser.go`, with `sing_box.go`, `sip008.go` and `raw.go`).

The content of a subscription is untrusted. It is given to four parsers, one after the other: for a document of
sing-box, for one of Clash, for one of SIP008 and for lines with share links. The first one that finds servers wins,
and the overrides of the provider are applied to them. Overrides never panic; the parsers do: that of sing-box asserts
the types of what it finds in the document, that of Clash uses the configuration of a null document and prints plugin
options of any type.
-/

import SingBox.Subscription.ClashSafe
import SingBox.Subscription.Override

namespace SingBox.Subscription

open SingBox.Lib SingBox.Lib.Checked Except List

/-! ### What is used of other libraries -/

/-- What `badjson` makes of a document. -/
inductive Json where
  | null
  | bool (value : Bool)
  | number (text : Bytes)
  | string (text : Bytes)
  | array (elements : List Json)
  | object (fields : List (Bytes × Json))

def Json.array? : Json → Option (List Json)
  | .array elements => some elements
  | _ => none

def Json.object? : Json → Option (List (Bytes × Json))
  | .object fields => some fields
  | _ => none

def Json.string? : Json → Option Bytes
  | .string text => some text
  | _ => none

/-- A server of a `ShadowsocksDocument`. -/
structure ShadowsocksServerDocument where
  remarks : Bytes
  server : Bytes
  serverPort : Int
  (password method plugin pluginOpts : Bytes)

/-- What the parsers use of JSON: the fields of an object; the elements of `outbounds` and `endpoints` in the document
that an object is written to; the type and the tag of an element; its other fields, decoded into options; and the
servers of a SIP008 document. -/
structure ParserLibrary extends ClashLibrary where
  decodeObject : Bytes → Except Error (List (Bytes × Json))
  document : List (Bytes × Json) → Except Error (List Json × List Json)
  decodeHead : Json → Except Error (Bytes × Bytes)
  unmarshalOptions : (kind : Kind) → Json → Except Error kind.Options
  unmarshalSIP008 : Bytes → Except Error (List ShadowsocksServerDocument)

variable (lib : ParserLibrary)

/-! ### Documents of sing-box -/

def skippedTypes : List Bytes := ["direct", "block", "dns", "selector", "urltest", "pass"].map text

/-- The loop over the outbounds, from the `i`-th on. -/
def filterOutbounds (i : Nat) : List Json → Parsed (List Json)
  | [] => .ok []
  | outbound :: outbounds => do
    let fields ← asserted outbound.object?
    match get fields (text "type") with
    | none => fail (.new ("missing type in outbound[" ++ toString i ++ "]"))
    | some typeVal => do
      let type ← asserted typeVal.string?
      let outs ← filterOutbounds (i + 1) outbounds
      return if skippedTypes.contains type then outs else outbound :: outs

/-- `content.Put("outbounds", outs)`; a list to which nothing was appended is written as null. -/
def putOutbounds (fields : List (Bytes × Json)) (outs : List Json) : List (Bytes × Json) :=
  fields.map fun field =>
    if field.1 = text "outbounds" then (field.1, if outs.isEmpty then .null else .array outs) else field

def filterDocument (fields : List (Bytes × Json)) : Parsed (List (Bytes × Json)) :=
  match get fields (text "outbounds") with
  | none => .ok fields
  | some outbounds => do
    let elements ← asserted outbounds.array?
    let outs ← filterOutbounds 0 elements
    return putOutbounds fields outs

def unmarshalTyped (registry : List (String × Kind)) (unknown : String) (element : Json) (type tag : Bytes) :
    Except Error Outbound :=
  match lookup registry type with
  | none => .error (.extend (.new unknown) type)
  | some kind => do
    let options ← lib.unmarshalOptions kind element
    return ⟨type, tag, some ⟨kind, options⟩⟩

/-- `Outbound.UnmarshalJSONContext`. -/
def unmarshalOutbound (element : Json) : Except Error Outbound := do
  let head ← lib.decodeHead element
  if head.1 = text "dns" then
    .error (.new "dns outbound is deprecated in sing-box 1.11.0 and removed in sing-box 1.13.0, use rule actions instead")
  else unmarshalTyped lib outboundRegistry "unknown outbound type: " element head.1 head.2

/-- `Endpoint.UnmarshalJSONContext`. -/
def unmarshalEndpoint (element : Json) : Except Error Outbound := do
  let head ← lib.decodeHead element
  unmarshalTyped lib endpointRegistry "unknown endpoint type: " element head.1 head.2

def decodeDocument (fields : List (Bytes × Json)) : Except Error Servers := do
  let elements ← lib.document fields
  let outbounds ← elements.1.mapM (unmarshalOutbound lib)
  let endpoints ← elements.2.mapM (unmarshalEndpoint lib)
  return (outbounds, endpoints)

/-- `SingBoxDocument.UnmarshalJSONContext`. -/
def unmarshalDocument (content : Bytes) : Parsed Servers := do
  let fields ← returning (lib.decodeObject content)
  let fields ← filterDocument fields
  returning (decodeDocument lib fields)

def noServers (servers : Servers) : Bool := servers.1.isEmpty && servers.2.isEmpty

def parseBoxSubscription (content : Bytes) : Parsed Servers := do
  let options ← unmarshalDocument lib content
  if noServers options then fail (.new "no servers found") else return options

def ShadowsocksServerDocument.outbound (server : ShadowsocksServerDocument) : Outbound :=
  { type := text "shadowsocks"
    tag := server.remarks
    options := some ⟨.shadowsocks,
      { server := ⟨server.server, toUint 16 server.serverPort⟩
        password := server.password
        method := server.method
        plugin := server.plugin
        pluginOptions := server.pluginOpts }⟩ }

def parseSIP008Subscription (content : Bytes) : Parsed Servers :=
  match lib.unmarshalSIP008 content with
  | .error err => fail (.cause err (.new "parse SIP008 document"))
  | .ok servers => .ok (servers.map ShadowsocksServerDocument.outbound, [])

/-- `strings.ReplaceAll(content, "\r\n", "\n")`. -/
def replaceCRLF : Bytes → Bytes
  | [] => []
  | byte :: s => if byte = 0x0D ∧ s.head? = some newline then replaceCRLF s else byte :: replaceCRLF s

def linkLines (content : Bytes) : List Bytes := (replaceCRLF content).splitOn newline

/-- The loop over the lines; a link with an error is skipped. -/
def parseLinks : List Bytes → Parsed (List Outbound)
  | [] => .ok []
  | linkLine :: lines => do
    let server ← attempt (parseSubscriptionLink lib.toLinkLibrary linkLine)
    let servers ← parseLinks lines
    return server.toOption.toList ++ servers

/-- `parseRawSubscription`. -/
def parseRawContent (content : Bytes) : Parsed (List Outbound) := do
  let servers ← parseLinks lib (linkLines content)
  if servers.isEmpty then fail (.new "no servers found") else return servers

/-- `ParseRawSubscription`. The content is tried as it is if it has no servers when it is decoded. -/
def parseRawSubscription (content : Bytes) : Parsed Servers := do
  let decoded ← attempt (parseRawContent lib (decodeBase64URLSafe lib.rawURLDecode content))
  match decoded with
  | .ok servers => return (servers, [])
  | .error _ => do
    let outbounds ← parseRawContent lib content
    return (outbounds, [])

/-! ### Subscriptions -/

/-- `E.Cause` of `E.Errors`. -/
structure ParseError where
  causes : List Error
  message : String

/-- `E.Cause`, which panics if there is no error. -/
def causeErrors {α : Type} (causes : List Error) (message : String) : Checked ParseError α :=
  if causes.isEmpty then .error .panic else fail ⟨causes, message⟩

def providerTags (servers : Servers) : List Bytes :=
  servers.1.map Outbound.tag ++ servers.2.map Outbound.tag

def subscriptionParsers : List (Bytes → Parsed Servers) :=
  [parseBoxSubscription lib, parseClashSubscription lib.toClashLibrary, parseSIP008Subscription lib,
    parseRawSubscription lib]

section Overriding

variable (overrideDialerOptions : Option OverrideDialerOptions) (overrideTLSOptions : Option OverrideTLSOptions)
  (overrideAnyTLSOptions : Option OverrideAnyTLSOptions) (providerTag content : Bytes)

/-- What is returned if a parser has found servers. -/
def overrideServers {ε : Type} (servers : Servers) : Checked ε Servers := do
  let overrides : Overrides :=
    ⟨overrideDialerOptions, overrideTLSOptions, overrideAnyTLSOptions, providerTags servers, providerTag⟩
  let outbounds ← overrideOutbounds overrides servers.1
  let endpoints ← overrideEndpoints overrides servers.2
  return (outbounds, endpoints)

def tryParsers : List (Bytes → Parsed Servers) → List Error → Checked ParseError Servers
  | [], pErr => causeErrors pErr "no servers found"
  | parser :: parsers, pErr => do
    let result ← attempt (parser content)
    match result with
    | .ok servers =>
      if noServers servers then tryParsers parsers pErr
      else overrideServers overrideDialerOptions overrideTLSOptions overrideAnyTLSOptions providerTag servers
    | .error err => tryParsers parsers (pErr ++ [err])

def parseSubscription : Checked ParseError Servers :=
  tryParsers overrideDialerOptions overrideTLSOptions overrideAnyTLSOptions providerTag content
    (subscriptionParsers lib) []

end Overriding

/-! ### When a document of sing-box is parsed without a panic -/

/-- Each outbound up to one without a type is an object whose type is a string. -/
def SafeOutbounds : List Json → Prop
  | [] => True
  | outbound :: outbounds => ∃ fields, outbound.object? = some fields ∧
      ∀ typeVal, get fields (text "type") = some typeVal → ∃ type, typeVal.string? = some type ∧ SafeOutbounds outbounds

/-- The outbounds of the document, if it has any, are an array of such objects. -/
def SafeBox (content : Bytes) : Prop :=
  ∀ fields, lib.decodeObject content = .ok fields → ∀ outbounds, get fields (text "outbounds") = some outbounds →
    ∃ elements, outbounds.array? = some elements ∧ SafeOutbounds elements

theorem returns_returning {α : Type} (result : Except Error α) : Returns (returning result) := by
  cases result with
  | ok value | error err => trivial

theorem eq_ok_of_returning {α : Type} {result : Except Error α} {value : α} (done : returning result = .ok value) :
    result = .ok value := by
  cases result with
  | ok other => rw [ok.inj done]
  | error err => cases done

theorem returns_filterOutbounds_iff {outbounds : List Json} {i : Nat} :
    Returns (filterOutbounds i outbounds) ↔ SafeOutbounds outbounds := by
  induction outbounds generalizing i with
  | nil => exact iff_of_true trivial trivial
  | cons outbound outbounds ih =>
    rw [filterOutbounds, Returns, meets_bind_iff, meets_asserted_iff]
    refine exists_congr fun fields => and_congr_right fun _ => ?_
    cases get fields (text "type") with
    | none => exact iff_of_true trivial fun _ impossible => by cases impossible
    | some typeVal =>
      simp only [Option.some.injEq, forall_eq']
      rw [meets_bind_iff, meets_asserted_iff]
      refine exists_congr fun type => and_congr_right fun _ => ?_
      rw [meets_bind_iff]
      exact ih

theorem returns_filterDocument_iff {fields : List (Bytes × Json)} :
    Returns (filterDocument fields) ↔ ∀ outbounds, get fields (text "outbounds") = some outbounds →
      ∃ elements, outbounds.array? = some elements ∧ SafeOutbounds elements := by
  rw [filterDocument]
  cases get fields (text "outbounds") with
  | none => exact iff_of_true trivial fun _ impossible => by cases impossible
  | some outbounds =>
    simp only [Option.some.injEq, forall_eq']
    rw [Returns, meets_bind_iff, meets_asserted_iff]
    refine exists_congr fun elements => and_congr_right fun _ => ?_
    rw [meets_bind_iff]
    exact returns_filterOutbounds_iff

variable {content : Bytes}

theorem parseBoxSubscription_returns_iff : Returns (parseBoxSubscription lib content) ↔ SafeBox lib content := by
  have finish : ∀ servers, Returns (if noServers servers then fail (.new "no servers found") else .ok servers :
      Parsed Servers) := by
    intro servers
    split_ifs <;> trivial
  rw [parseBoxSubscription, unmarshalDocument, Returns, meets_bind_iff, meets_returning_iff]
  refine forall_congr' fun fields => imp_congr_right fun _ => ?_
  rw [meets_bind_iff, ← returns_filterDocument_iff]
  constructor
  · exact fun meets => meets.weaken fun _ _ => trivial
  · intro returns
    refine returns.weaken fun filtered _ => ?_
    exact (returns_returning _).weaken fun servers _ => finish servers

theorem unmarshalTyped_typed {registry : List (String × Kind)} {unknown : String} {element : Json}
    {type tag : Bytes} {outbound : Outbound}
    (done : unmarshalTyped lib registry unknown element type tag = .ok outbound) : outbound.Typed registry := by
  rw [unmarshalTyped] at done
  cases registered : lookup registry type with
  | none =>
    rw [registered] at done
    cases done
  | some kind =>
    rw [registered] at done
    obtain ⟨options, -, same⟩ := bind_eq_ok_iff.mp done
    rw [← ok.inj same]
    exact registered.symm

theorem unmarshalOutbound_typed {element : Json} {outbound : Outbound}
    (done : unmarshalOutbound lib element = .ok outbound) : outbound.Typed outboundRegistry := by
  obtain ⟨head, -, done⟩ := bind_eq_ok_iff.mp done
  split_ifs at done with removed
  exact unmarshalTyped_typed lib done

section

variable {servers : Servers}

theorem decodeDocument_typed {fields : List (Bytes × Json)}
    (done : decodeDocument lib fields = .ok servers) : ServersTyped servers := by
  obtain ⟨elements, -, done⟩ := bind_eq_ok_iff.mp done
  obtain ⟨outbounds, first, done⟩ := bind_eq_ok_iff.mp done
  obtain ⟨endpoints, second, same⟩ := bind_eq_ok_iff.mp done
  rw [← ok.inj same]
  exact ⟨forall_of_mapM_eq_ok (fun _ _ _ => unmarshalOutbound_typed lib) first,
    forall_of_mapM_eq_ok (fun _ _ _ done =>
      (bind_eq_ok_iff.mp done).elim fun _ made => unmarshalTyped_typed lib made.2) second⟩

/-- What is found in a document of sing-box: some servers, with options of their types. -/
theorem parseBoxSubscription_eq_ok (done : parseBoxSubscription lib content = .ok servers) :
    ServersTyped servers ∧ noServers servers = false := by
  obtain ⟨options, decoded, done⟩ := bind_eq_ok_iff.mp done
  obtain ⟨fields, -, decoded⟩ := bind_eq_ok_iff.mp decoded
  obtain ⟨filtered, -, decoded⟩ := bind_eq_ok_iff.mp decoded
  have typed := decodeDocument_typed lib (eq_ok_of_returning decoded)
  split_ifs at done with none
  · cases done
  · rw [← ok.inj done]
    exact ⟨typed, Bool.eq_false_of_not_eq_true none⟩

/-! ### When lines of links are parsed without a panic -/

/-- No link in the content makes its parser panic. -/
def SafeLinks (content : Bytes) : Prop :=
  ∀ linkLine ∈ linkLines content, SafeSubscriptionLink lib.toLinkLibrary linkLine

def SafeRaw (content : Bytes) : Prop :=
  SafeLinks lib (decodeBase64URLSafe lib.rawURLDecode content) ∧
    ((∀ servers, parseRawContent lib (decodeBase64URLSafe lib.rawURLDecode content) ≠ .ok servers) →
      SafeLinks lib content)

theorem returns_parseLinks_iff {lines : List Bytes} :
    Returns (parseLinks lib lines) ↔ ∀ linkLine ∈ lines, SafeSubscriptionLink lib.toLinkLibrary linkLine := by
  induction lines with
  | nil => exact iff_of_true trivial (forall_mem_nil _)
  | cons linkLine lines ih =>
    rw [parseLinks, forall_mem_cons, ← parseSubscriptionLink_returns_iff, ← ih]
    simp only [meets_bind_iff, meets_pure]
    exact meets_attempt_const_iff

theorem parseLinks_typed {lines : List Bytes} {servers : List Outbound} (done : parseLinks lib lines = .ok servers) :
    ∀ server ∈ servers, server.Typed outboundRegistry := by
  induction lines generalizing servers with
  | nil =>
    rw [← ok.inj done]
    exact forall_mem_nil _
  | cons linkLine lines ih =>
    obtain ⟨result, parsed, done⟩ := bind_eq_ok_iff.mp done
    obtain ⟨more, rest, same⟩ := bind_eq_ok_iff.mp done
    rw [← ok.inj same]
    intro server member
    rcases mem_append.mp member with here | there
    · cases result with
      | ok other =>
        rw [mem_singleton.mp here]
        exact parseSubscriptionLink_typed (eq_ok_of_attempt parsed)
      | error err => exact absurd here not_mem_nil
    · exact ih rest server there

theorem returns_parseRawContent_iff : Returns (parseRawContent lib content) ↔ SafeLinks lib content := by
  rw [SafeLinks, ← returns_parseLinks_iff, parseRawContent, Returns, meets_bind_iff]
  constructor
  · exact fun meets => meets.weaken fun _ _ => trivial
  · intro returns
    refine returns.weaken fun servers _ => ?_
    split_ifs <;> trivial

theorem parseRawContent_typed {servers : List Outbound}
    (done : parseRawContent lib content = .ok servers) : ∀ server ∈ servers, server.Typed outboundRegistry := by
  obtain ⟨found, parsed, done⟩ := bind_eq_ok_iff.mp done
  split_ifs at done with none
  · cases done
  · rw [← ok.inj done]
    exact parseLinks_typed lib parsed

theorem parseRawSubscription_returns_iff : Returns (parseRawSubscription lib content) ↔ SafeRaw lib content := by
  rw [parseRawSubscription, SafeRaw, ← returns_parseRawContent_iff, ← returns_parseRawContent_iff, Returns,
    meets_bind_iff]
  cases parseRawContent lib (decodeBase64URLSafe lib.rawURLDecode content) with
  | ok servers => exact iff_of_true trivial ⟨trivial, fun none => absurd rfl (none servers)⟩
  | error fault =>
    cases fault with
    | error err =>
      refine meets_bind_iff.trans ⟨fun returns => ⟨trivial, fun _ => returns⟩, fun both => ?_⟩
      exact both.2 fun servers same => by cases same
    | panic | loops => exact iff_of_false id fun both => both.1

theorem parseRawSubscription_typed (done : parseRawSubscription lib content = .ok servers) : ServersTyped servers := by
  obtain ⟨decoded, first, done⟩ := bind_eq_ok_iff.mp done
  have none : ∀ endpoint ∈ ([] : List Outbound), endpoint.Typed endpointRegistry :=
    forall_mem_nil _
  cases decoded with
  | ok found =>
    rw [← ok.inj done]
    exact ⟨parseRawContent_typed lib (eq_ok_of_attempt first), none⟩
  | error err =>
    obtain ⟨found, second, same⟩ := bind_eq_ok_iff.mp done
    rw [← ok.inj same]
    exact ⟨parseRawContent_typed lib second, none⟩

theorem parseSIP008Subscription_returns : Returns (parseSIP008Subscription lib content) := by
  rw [parseSIP008Subscription]
  cases lib.unmarshalSIP008 content with
  | ok servers | error err => trivial

theorem parseSIP008Subscription_typed (done : parseSIP008Subscription lib content = .ok servers) :
    ServersTyped servers := by
  rw [parseSIP008Subscription] at done
  cases found : lib.unmarshalSIP008 content with
  | error err =>
    rw [found] at done
    cases done
  | ok documents =>
    rw [found] at done
    rw [← ok.inj done]
    refine ⟨fun outbound member => ?_, forall_mem_nil _⟩
    obtain ⟨-, -, rfl⟩ := mem_map.mp member
    rfl

end

/-! ### When a subscription is parsed without a panic -/

def Finds (result : Parsed Servers) : Prop := ∃ servers, result = .ok servers ∧ noServers servers = false

def errorOf : Parsed Servers → List Error
  | .ok _ => []
  | .error (.error err) => [err]
  | .error .panic | .error .loops => []

/-- The content is parsed without a panic: each parser that is tried meets its condition. -/
def SafeSubscription (content : Bytes) : Prop :=
  SafeBox lib content ∧ (¬ Finds (parseBoxSubscription lib content) →
    SafeClash lib.toClashLibrary content ∧ (¬ Finds (parseClashSubscription lib.toClashLibrary content) →
      ¬ Finds (parseSIP008Subscription lib content) → SafeRaw lib content))

section Subscription

variable {lib} {overrideDialerOptions : Option OverrideDialerOptions} {overrideTLSOptions : Option OverrideTLSOptions}
  {overrideAnyTLSOptions : Option OverrideAnyTLSOptions} {providerTag content : Bytes}

theorem overrideServers_returns {ε : Type} {servers : Servers} (typed : ServersTyped servers) :
    Returns (overrideServers overrideDialerOptions overrideTLSOptions overrideAnyTLSOptions providerTag servers :
      Checked ε Servers) := by
  rw [overrideServers, Returns, meets_bind_iff]
  refine (overrideOutbounds_meets _ typed.1).weaken fun outbounds _ => ?_
  rw [meets_bind_iff]
  exact (overrideEndpoints_meets _ typed.2).weaken fun endpoints _ => trivial

theorem returns_tryParsers_cons_iff {parser : Bytes → Parsed Servers} {parsers : List (Bytes → Parsed Servers)}
    {pErr : List Error} (typed : ∀ servers, parser content = .ok servers → ServersTyped servers) :
    Returns (tryParsers overrideDialerOptions overrideTLSOptions overrideAnyTLSOptions providerTag content
        (parser :: parsers) pErr) ↔ Returns (parser content) ∧ (¬ Finds (parser content) →
        Returns (tryParsers overrideDialerOptions overrideTLSOptions overrideAnyTLSOptions providerTag content
          parsers (pErr ++ errorOf (parser content)))) := by
  rw [tryParsers, Returns, meets_bind_iff]
  cases result : parser content with
  | ok servers =>
    cases none : noServers servers with
    | true =>
      have nothing : ¬ Finds (.ok servers) := by
        rintro ⟨other, same, some⟩
        rw [← ok.inj same, none] at some
        cases some
      rw [errorOf, append_nil]
      simp only [attempt, meets_ok, none]
      exact ⟨fun returns => ⟨trivial, fun _ => returns⟩, fun both => both.2 nothing⟩
    | false =>
      have found : Finds (.ok servers) := ⟨servers, rfl, none⟩
      simp only [attempt, meets_ok, none]
      exact iff_of_true (overrideServers_returns (typed servers result)) ⟨trivial, fun nothing => absurd found nothing⟩
  | error fault =>
    cases fault with
    | error err =>
      have nothing : ¬ Finds (.error (.error err)) := by
        rintro ⟨other, same, -⟩
        cases same
      exact ⟨fun returns => ⟨trivial, fun _ => returns⟩, fun both => both.2 nothing⟩
    | panic | loops => exact iff_of_false id fun both => both.1

def AllReturn (content : Bytes) : List (Bytes → Parsed Servers) → Prop
  | [] => True
  | parser :: parsers => Returns (parser content) ∧ (¬ Finds (parser content) → AllReturn content parsers)

/-- **The loop over the parsers**, once there is an error to be the cause of the one in the end. -/
theorem returns_tryParsers_iff {parsers : List (Bytes → Parsed Servers)}
    (typed : ∀ parser ∈ parsers, ∀ servers, parser content = .ok servers → ServersTyped servers)
    {pErr : List Error} (some : pErr ≠ []) :
    Returns (tryParsers overrideDialerOptions overrideTLSOptions overrideAnyTLSOptions providerTag content
        parsers pErr) ↔ AllReturn content parsers := by
  induction parsers generalizing pErr with
  | nil =>
    rw [tryParsers, causeErrors, if_neg]
    · exact iff_of_true trivial trivial
    · exact fun none => some (isEmpty_iff.mp none)
  | cons parser parsers ih =>
    have others : ∀ other ∈ parsers, ∀ servers, other content = .ok servers → ServersTyped servers :=
      fun other member => typed other (mem_cons_of_mem _ member)
    rw [returns_tryParsers_cons_iff (typed parser mem_cons_self)]
    refine and_congr_right fun _ => imp_congr_right fun _ => ?_
    exact ih others fun none => some (append_eq_nil_iff.mp none).1

theorem errorOf_parseBoxSubscription (returns : Returns (parseBoxSubscription lib content))
    (nothing : ¬ Finds (parseBoxSubscription lib content)) : errorOf (parseBoxSubscription lib content) ≠ [] := by
  rcases returns.fails_or_ok with ⟨err, failed⟩ | ⟨servers, done, -⟩
  · rw [failed]
    exact cons_ne_nil _ _
  · exact absurd ⟨servers, done, (parseBoxSubscription_eq_ok lib done).2⟩ nothing

/-- **Which subscriptions are parsed without a panic.** -/
theorem parseSubscription_returns_iff (lib : ParserLibrary) (overrideDialerOptions : Option OverrideDialerOptions)
    (overrideTLSOptions : Option OverrideTLSOptions) (overrideAnyTLSOptions : Option OverrideAnyTLSOptions)
    (providerTag content : Bytes) :
    Returns (parseSubscription lib overrideDialerOptions overrideTLSOptions overrideAnyTLSOptions providerTag
        content) ↔ SafeSubscription lib content := by
  have typed : ∀ parser ∈ [parseClashSubscription lib.toClashLibrary, parseSIP008Subscription lib,
      parseRawSubscription lib], ∀ servers, parser content = .ok servers → ServersTyped servers := by
    simp only [forall_mem_cons]
    exact ⟨fun _ => parseClashSubscription_typed, fun _ => parseSIP008Subscription_typed lib,
      fun _ => parseRawSubscription_typed lib, forall_mem_nil _⟩
  have first : ∀ servers, parseBoxSubscription lib content = .ok servers → ServersTyped servers :=
    fun _ done => (parseBoxSubscription_eq_ok lib done).1
  rw [parseSubscription, subscriptionParsers, returns_tryParsers_cons_iff first, nil_append, SafeSubscription,
    ← parseBoxSubscription_returns_iff]
  refine and_congr_right fun returns => imp_congr_right fun nothing => ?_
  rw [returns_tryParsers_iff typed (errorOf_parseBoxSubscription returns nothing)]
  simp only [AllReturn, parseClashSubscription_returns_iff, parseRawSubscription_returns_iff]
  refine and_congr_right fun _ => imp_congr_right fun _ => ?_
  constructor
  · exact fun both nothing => (both.2 nothing).1
  · exact fun safe => ⟨parseSIP008Subscription_returns lib, fun nothing => ⟨safe nothing, fun _ => trivial⟩⟩

/-- Libraries that know one document, whose `outbounds` are a number. -/
def numberOfOutbounds : ParserLibrary where
  parseURL _ := .error .invalid
  rawURLDecode _ := none
  unmarshalStrings _ := .error .invalid
  order := ⟨id, List.Perm.refl⟩
  parseDuration _ := none
  isAddr _ := false
  isDomainName _ := false
  networkBytes _ := none
  Node := Unit
  Value := Unit
  unmarshalYAML _ := .error .invalid
  decodeProxy _ := .error .invalid
  decodeOptions _ _ := .error .invalid
  valueText _ := none
  stdDecode _ := none
  trimSpace := id
  parseNetwork _ := none
  decodeObject content :=
    if content = text "\x7b\"outbounds\":1\x7d" then .ok [(text "outbounds", .number (text "1"))]
    else .error .invalid
  document _ := .error .invalid
  decodeHead _ := .error .invalid
  unmarshalOptions _ _ := .error .invalid
  unmarshalSIP008 _ := .error .invalid

/-- A document whose outbounds are a number is a panic. -/
theorem parseSubscription_panics :
    parseSubscription numberOfOutbounds none none none (text "provider") (text "\x7b\"outbounds\":1\x7d") =
      .error .panic :=
  rfl

end Subscription

end SingBox.Subscription
