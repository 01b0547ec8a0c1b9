/-
**DNS servers by DHCP** (`dns/transport/dhcp/dhcp.go`).

A query is sent to the servers that the last discovery found. They are used for an hour; then a query starts a new
discovery. An error is remembered, too, but is looked at before the time: only a reset or a change of the interface
leaves it behind.
-/

import SingBox.Adapter.Metadata
import SingBox.Lib.Machine

namespace SingBox.Dns

open SingBox.Lib

/-- `C.DHCPTTL`, in seconds. -/
def dhcpTTL : Nat := 3600

/-- How a discovery ends: there is no interface to ask on, it fails, perhaps after an offer, or there is
an offer with these servers. -/
inductive Discovery where
  | noInterface (error : Error)
  | failed (error : Error) (offered : Option (List Addr))
  | offered (servers : List Addr)

/-- The fields of `Transport` that say which servers to ask; the zero time is `none`. -/
structure DHCPTransport where
  updatedAt : Option Nat := none
  lastError : Option Error := none
  servers : List Addr := []

namespace DHCPTransport

variable (t : DHCPTransport)

/-- `updateServers`, which ends at the given time. -/
def updateServers (later : Nat) : Discovery → DHCPTransport × Option Error
  | .noInterface error => (t, some (.cause error (.new "dhcp: prepare interface")))
  | .failed error offered => (⟨some later, some error, offered.getD t.servers⟩, some error)
  | .offered servers =>
    if servers.length = 0 then
      (⟨some later, some (.new "dhcp: empty DNS servers response"), servers⟩,
        some (.new "dhcp: empty DNS servers response"))
    else (⟨some later, none, servers⟩, none)

/-- `time.Since(t.updatedAt) < C.DHCPTTL`. -/
def isFresh (now : Nat) : Bool := t.updatedAt.any fun time => now - time < dhcpTTL

/-- `fetch`, which comes at `now` and has the lock at `locked`: whether it starts a discovery, and what
it returns. -/
def fetch (now locked later : Nat) (discovery : Discovery) : DHCPTransport × Bool × Except Error (List Addr) :=
  match t.lastError with
  | some error => (t, false, .error error)
  | none =>
    if t.isFresh now then (t, false, .ok t.servers)
    else if t.isFresh locked then (t, false, .ok t.servers)
    else
      match t.updateServers later discovery with
      | (t, some error) => (t, true, .error error)
      | (t, none) => (t, true, .ok t.servers)

/-- `Exchange`, up to the servers that it asks. -/
def exchange (now locked later : Nat) (discovery : Discovery) : DHCPTransport × Bool × Except Error (List Addr) :=
  match t.fetch now locked later discovery with
  | (t, started, .error error) => (t, started, .error error)
  | (t, started, .ok servers) =>
    (t, started, if servers.length = 0 then .error (.new "dhcp: empty DNS servers from response")
      else .ok servers)

end DHCPTransport

/-! ### Runs -/

def Discovery.found : Discovery → Option (Except Error (List Addr))
  | .noInterface _ => none
  | .failed error _ => some (.error error)
  | .offered servers =>
    some (if servers = [] then .error (.new "dhcp: empty DNS servers response") else .ok servers)

/-- The transport, and the last discovery since the last reset, with the time of its end. -/
structure DHCPSystem where
  transport : DHCPTransport := {}
  last : Option (Nat × Except Error (List Addr)) := none

inductive DHCPEvent where
  | query (now locked later : Nat) (ordered : now ≤ locked) (discovery : Discovery)
  | reset
  | interfaceUpdated (later : Nat) (discovery : Discovery)

def DHCPSystem.lastAfter (s : DHCPSystem) (later : Nat) (discovery : Discovery) :
    Option (Nat × Except Error (List Addr)) :=
  (discovery.found.map fun result => (later, result)).or s.last

/-- **The transport**, with whether a query starts a discovery and what it returns. -/
def dhcp : Machine DHCPSystem DHCPEvent (Bool × Except Error (List Addr)) where
  step s
    | .query now locked later _ discovery =>
      let (transport, started, result) := s.transport.exchange now locked later discovery
      (⟨transport, if started then s.lastAfter later discovery else s.last⟩, some (started, result))
    | .reset => ({}, none)
    | .interfaceUpdated later discovery =>
      (⟨(s.transport.updateServers later discovery).1, s.lastAfter later discovery⟩, none)

/-- **What the transport is for.** A query starts a discovery exactly if the last one is an hour old, and
returns what that one found if it starts none. -/
def Recovers (s : DHCPSystem) : DHCPEvent → Prop
  | .query now locked later _ discovery =>
    ((s.transport.exchange now locked later discovery).2.1 = true ↔ ∀ last ∈ s.last, dhcpTTL ≤ now - last.1) ∧
    ((s.transport.exchange now locked later discovery).2.1 = false →
      ∀ last ∈ s.last, (s.transport.exchange now locked later discovery).2.2 = last.2)
  | _ => True

/-- A query that comes after a discovery without servers comes within the hour. -/
def Prompt (s : DHCPSystem) : DHCPEvent → Prop
  | .query now _ _ _ _ => ∀ last ∈ s.last, ∀ error, last.2 = .error error → now - last.1 < dhcpTTL
  | _ => True

/-- The fields are those of the last discovery. -/
def Remembers (s : DHCPSystem) : Prop :=
  match s.last with
  | none => s.transport.updatedAt = none ∧ s.transport.lastError = none
  | some (time, .error error) =>
    s.transport.updatedAt = some time ∧ s.transport.lastError = some error
  | some (time, .ok servers) => s.transport = ⟨some time, none, servers⟩ ∧ servers ≠ []

variable {s : DHCPSystem} {t : DHCPTransport} {now locked later : Nat} {discovery : Discovery}

open DHCPTransport

/-- **What a query does**: it returns the error, or the servers within the hour, or starts a discovery. -/
theorem exchange_cases (t : DHCPTransport) (now locked later : Nat) (discovery : Discovery) :
    (∃ error, t.lastError = some error ∧ t.exchange now locked later discovery = (t, false, .error error)) ∨
    t.lastError = none ∧ (t.isFresh now = true ∨ t.isFresh locked = true) ∧
      t.exchange now locked later discovery = (t, false, if t.servers.length = 0 then
        .error (.new "dhcp: empty DNS servers from response") else .ok t.servers) ∨
    t.lastError = none ∧ t.isFresh now = false ∧ ∃ result,
      t.exchange now locked later discovery = ((t.updateServers later discovery).1, true, result) := by
  cases remembered : t.lastError with
  | some error => exact .inl ⟨error, rfl, by simp [exchange, fetch, remembered]⟩
  | none =>
    right
    by_cases fresh : t.isFresh now = true ∨ t.isFresh locked = true
    · refine .inl ⟨rfl, fresh, ?_⟩
      rcases fresh with fresh | fresh <;> simp [exchange, fetch, remembered, fresh]
    · simp only [not_or] at fresh
      rcases updated : t.updateServers later discovery with ⟨after, _ | failed⟩ <;>
        simp [exchange, fetch, remembered, fresh, updated]

theorem Remembers.updateServers (remembers : Remembers s) (later : Nat) (discovery : Discovery) :
    Remembers ⟨(s.transport.updateServers later discovery).1, s.lastAfter later discovery⟩ := by
  cases discovery with
  | noInterface error => exact remembers
  | failed error offered => exact ⟨rfl, rfl⟩
  | offered servers =>
    by_cases none : servers = []
    · subst none
      exact ⟨rfl, rfl⟩
    · simp [Remembers, DHCPSystem.lastAfter, Discovery.found, DHCPTransport.updateServers, none]

theorem Remembers.step (remembers : Remembers s) (event : DHCPEvent) : Remembers (dhcp.step s event).1 := by
  cases event with
  | query now locked later ordered discovery =>
    rcases exchange_cases s.transport now locked later discovery with
      ⟨error, -, is⟩ | ⟨-, -, is⟩ | ⟨-, -, result, is⟩ <;> simp only [dhcp, is]
    · exact remembers
    · exact remembers
    · exact remembers.updateServers later discovery
  | reset => exact ⟨rfl, rfl⟩
  | interfaceUpdated later discovery => exact remembers.updateServers later discovery

/-- **One query.** -/
theorem Remembers.recovers_iff (remembers : Remembers s) (event : DHCPEvent) : Recovers s event ↔ Prompt s event := by
  cases event with
  | reset | interfaceUpdated => exact .rfl
  | query now locked later ordered discovery =>
    obtain ⟨t, last⟩ := s
    have cases := exchange_cases t now locked later discovery
    unfold isFresh at cases
    rcases last with _ | ⟨time, error | servers⟩
    · obtain ⟨never, ok⟩ := remembers
      rw [never, ok] at cases
      rcases cases with ⟨_, impossible, -⟩ | ⟨-, fresh, -⟩ | ⟨-, -, result, is⟩
      · cases impossible
      · simp at fresh
      · simp [Recovers, Prompt, is]
    · obtain ⟨-, failed⟩ := remembers
      rw [failed] at cases
      rcases cases with ⟨_, same, is⟩ | ⟨impossible, -⟩ | ⟨impossible, -⟩
      · cases same
        simp [Recovers, Prompt, is]
      · cases impossible
      · cases impossible
    · obtain ⟨rfl, some⟩ := remembers
      rcases cases with ⟨_, impossible, -⟩ | ⟨-, fresh, is⟩ | ⟨-, stale, result, is⟩
      · cases impossible
      · have early : now - time < dhcpTTL := by
          simp only [Option.any_some, decide_eq_true_eq] at fresh
          omega
        simp [Recovers, Prompt, is, some, early]
      · have late : dhcpTTL ≤ now - time := by simpa using stale
        simp [Recovers, Prompt, is, late]

/-- **When DHCP recovers by itself**: along a run, every query starts a discovery or is answered from the
last one as it should exactly if none comes later than an hour after a discovery without servers. -/
theorem dhcp_recovers_iff (events : List DHCPEvent) : dhcp.Along Recovers {} events ↔ dhcp.Along Prompt {} events :=
  Machine.along_iff_of_invariant Remembers (fun _ event remembers _ => remembers.recovers_iff event)
    (fun _ event remembers _ _ => remembers.step event) ⟨rfl, rfl⟩
    (dhcp.along_of_forall (fun _ _ => trivial) {} events)

/-- **An old error is never left behind**: a discovery fails, and a query long after starts none. -/
theorem dhcp_stuck : ¬ dhcp.Along Recovers {} [.query 0 0 5 (Nat.le_refl 0) (.failed .eof none),
      .query 9999 9999 9999 (Nat.le_refl 9999) (.offered [.v4 0])] := by
  rintro ⟨-, ⟨starts, -⟩, -⟩
  have started : false = true := starts.mpr fun last is => by
    cases is
    decide
  cases started

end SingBox.Dns
