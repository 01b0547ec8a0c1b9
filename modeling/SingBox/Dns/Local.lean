/-
**The local resolver** (`dns/transport/local`).

A name is tried with each suffix of the search list, one candidate after the other or all at once. Candidates that are
too long or under `.onion` are left out, and perhaps none is left: then the serial loop ends with neither a response
nor an error, and the parallel one waits for its context.
-/

import SingBox.Dns.Message
import SingBox.Subscription.Text

namespace SingBox.Dns.Local

open SingBox.Subscription (text)

def dot : UInt8 := 46

/-- The fields of `dnsConfig` that say which exchanges are made. There is a server, since each reader of the system's
configuration falls back to `defaultNS`. -/
structure DnsConfig where
  (servers search : List Bytes)
  ndots : Int
  attempts : Nat
  singleRequest : Bool
  served : servers ≠ []
  tries : 1 ≤ attempts

def avoidDNS (name : Bytes) : Bool :=
  name = [] || (text ".onion").isSuffixOf (if name.getLast? = some dot then name.dropLast else name)

def DnsConfig.nameList (c : DnsConfig) (name : Bytes) : List Bytes :=
  let rooted := name.getLast? = some dot
  if name.length > 254 ∨ name.length = 254 ∧ ¬rooted then []
  else if rooted then if avoidDNS name then [] else [name]
  else
    let hasNdots := c.ndots ≤ name.count dot
    let own := if avoidDNS (name ++ [dot]) then [] else [name ++ [dot]]
    let searched := c.search.map (name ++ [dot] ++ ·)
    (if hasNdots then own else []) ++ searched.filter (fun fqdn => !avoidDNS fqdn && fqdn.length ≤ 254) ++
      if hasNdots then [] else own

theorem DnsConfig.server_lt (c : DnsConfig) (i : Nat) : i % c.servers.length < c.servers.length :=
  Nat.mod_lt _ (List.length_pos_of_ne_nil c.served)

/-! ### Exchanges

A response and an error are returned side by side, and `none` is nil. -/

inductive Failure (ε : Type) where
  | cause (err : ε) (fqdn : Bytes)
  | context
  | errors (all : List (Failure ε))

variable {α ε : Type}

/-- A loop that returns the first response, or else the last error. -/
def firstAnswer (lastErr : Option ε) : List (Option α × Option ε) → Option α × Option ε
  | [] => (none, lastErr)
  | (response, none) :: _ => (response, none)
  | (_, some err) :: rest => firstAnswer (some err) rest

/-- What `exchangeOne` returns. -/
def returned : Except ε α → Option α × Option ε
  | .ok response => (some response, none)
  | .error err => (none, some err)

/-- The server's number and the round tell the exchanges of one name apart. -/
def tryOneName (config : DnsConfig) (serverOffset : UInt32) (exchangeOne : Nat → Nat → Bytes → Bytes → Except ε α)
    (fqdn : Bytes) : Option α × Option (Failure ε) :=
  let rounds := (List.range config.attempts).flatMap fun i => (List.range config.servers.length).map fun j =>
    let server := config.servers.get ⟨_, config.server_lt (serverOffset + j.toUInt32).toNat⟩
    returned (exchangeOne i j server fqdn)
  let tried := firstAnswer none rounds
  -- a nil error is not wrapped; there is none that gets here
  (tried.1, tried.2.map (.cause · fqdn))

/-- The loop of `exchangeParallel`, over what its `select` finds: the result of a racer, or the end of the context. -/
def exchangeParallel {nameCount : Nat} (result : Fin nameCount → Option α × Option (Failure ε))
    (errors : List (Failure ε)) : List (Option (Fin nameCount)) → Option (Option α × Option (Failure ε))
  | [] => none
  | none :: _ => some (none, some .context)
  | some racer :: arrivals =>
    match result racer with
    | (response, none) => some (response, none)
    | (_, some err) =>
      if errors.length + 1 = nameCount then some (none, some (.errors (errors ++ [err])))
      else exchangeParallel result (errors ++ [err]) arrivals

/-- `Transport.exchange`; `none` is a call that has not returned. -/
def exchange (config : DnsConfig) (qtype : UInt16) (domain : Bytes) (serverOffset : Nat → UInt32)
    (exchangeOne : Nat → Nat → Nat → Bytes → Bytes → Except ε α)
    (arrivals : List (Option (Fin (config.nameList domain).length))) : Option (Option α × Option (Failure ε)) :=
  let result := fun name : Fin (config.nameList domain).length =>
    tryOneName config (serverOffset name) (exchangeOne name) ((config.nameList domain).get name)
  if config.singleRequest ∨ ¬(qtype = typeA ∨ qtype = typeAAAA) then some (firstAnswer none (List.ofFn result))
  else exchangeParallel result [] arrivals

/-! ### Answers -/

/-- There is a response or an error, and not both. -/
def Answers (result : Option α × Option ε) : Prop := result.1.isSome = result.2.isNone

theorem answers_firstAnswer {lastErr : Option ε} {results : List (Option α × Option ε)}
    (each : ∀ result ∈ results, Answers result) (any : lastErr.isSome ∨ results ≠ []) :
    Answers (firstAnswer lastErr results) := by
  induction results generalizing lastErr with
  | nil => simp_all [firstAnswer, Answers]
  | cons result results ih =>
    obtain ⟨response, err⟩ := result
    obtain ⟨first, others⟩ := List.forall_mem_cons.mp each
    cases err with
    | none => exact first
    | some err => exact ih others (.inl rfl)

theorem answers_tryOneName (config : DnsConfig) (serverOffset : UInt32)
    (exchangeOne : Nat → Nat → Bytes → Bytes → Except ε α) (fqdn : Bytes) :
    Answers (tryOneName config serverOffset exchangeOne fqdn) := by
  rw [tryOneName, Answers, Option.isNone_map]
  refine answers_firstAnswer ?_ (.inr ?_)
  · simp only [List.mem_flatMap, List.mem_map]
    rintro _ ⟨i, -, j, -, rfl⟩
    cases exchangeOne i j _ fqdn <;> rfl
  · simpa [config.served] using ⟨0, config.tries⟩

section

variable {nameCount : Nat} {result : Fin nameCount → Option α × Option (Failure ε)} {errors : List (Failure ε)}
  {arrivals : List (Option (Fin nameCount))}

theorem answers_exchangeParallel (each : ∀ racer, Answers (result racer)) {answer : Option α × Option (Failure ε)}
    (done : exchangeParallel result errors arrivals = some answer) : Answers answer := by
  fun_induction exchangeParallel result errors arrivals with
  | case1 => cases done
  | case2 | case4 => exact Option.some.inj done ▸ rfl
  | case3 errors racer arrivals response eq => exact Option.some.inj done ▸ eq ▸ each racer
  | case5 errors racer arrivals response err eq more ih => exact ih done

theorem exchangeParallel_isSome (waiting : errors.length < nameCount)
    (enough : nameCount ≤ errors.length + arrivals.length) : (exchangeParallel result errors arrivals).isSome := by
  fun_induction exchangeParallel result errors arrivals with
  | case1 => exact absurd enough waiting.not_ge
  | case2 | case3 | case4 => rfl
  | case5 errors racer arrivals response err eq more ih =>
    exact ih (by grind) (by grind)

end

/-- **The transport answers or fails, once every candidate has,** exactly if there is a candidate. -/
theorem exchange_answers_iff (config : DnsConfig) (qtype : UInt16) (domain : Bytes) (serverOffset : Nat → UInt32)
    (exchangeOne : Nat → Nat → Nat → Bytes → Bytes → Except ε α) :
    (∀ arrivals, (∀ answer, exchange config qtype domain serverOffset exchangeOne arrivals = some answer →
        Answers answer) ∧
      ((∀ racer, some racer ∈ arrivals) →
        (exchange config qtype domain serverOffset exchangeOne arrivals).isSome)) ↔
      config.nameList domain ≠ [] := by
  unfold exchange
  generalize config.nameList domain = names
  constructor
  · rintro answers rfl
    split_ifs at answers
    · cases (answers []).1 _ rfl
    · cases (answers []).2 finZeroElim
  · intro named arrivals
    have each (racer : Fin names.length) := answers_tryOneName config (serverOffset racer) (exchangeOne racer)
      (names.get racer)
    split_ifs
    · refine ⟨fun answer same => Option.some.inj same ▸ answers_firstAnswer (List.forall_mem_ofFn_iff.mpr each) ?_,
        fun _ => rfl⟩
      exact .inr (by simpa using named)
    · refine ⟨fun answer => answers_exchangeParallel each, fun all => exchangeParallel_isSome ?_ ?_⟩
      · exact List.length_pos_of_ne_nil named
      · have distinct := (List.nodup_finRange names.length).map (Option.some_injective _)
        have finished : (List.finRange names.length).map some ⊆ arrivals := by simpa [List.subset_def] using all
        simpa using (distinct.subperm finished).length_le

/-- A query under `.onion` has no candidates: as a TXT query it is returned without a response and without an error,
and as an A query it is not returned although no candidate is left. -/
theorem exchange_onion : let config : DnsConfig := ⟨[text "127.0.0.1:53"], [], 1, 2, false, by decide, by decide⟩
    let exchangeOne (_ _ _ : Nat) (_ _ : Bytes) : Except Unit Unit := .ok ()
    exchange config 16 (text "x.onion.") (fun _ => 0) exchangeOne [] = some (none, none) ∧
      exchange config typeA (text "x.onion.") (fun _ => 0) exchangeOne [] = none :=
  ⟨rfl, rfl⟩

end SingBox.Dns.Local
