/-
**The DNS transport manager** (`dns/transport_manager.go`).

It is a registry like that of the outbounds, with two pointers into it: the default server, which must not be a
fake-IP server, and the fake-IP server. Nobody forgets the fake-IP server when it is removed or replaced. `Remove`
looks at the next transport for the default the wrong way round: it refuses all but a fake-IP server.
-/

import SingBox.Manager.Outbound

namespace SingBox.Manager

open SingBox.Lib List Checked

/-! ### Transports and the manager -/

abbrev Transport := Entry Bytes Bytes

/-- `C.DNSTypeFakeIP`, "fakeip". -/
def dnsTypeFakeIP : Bytes := [0x66, 0x61, 0x6B, 0x65, 0x69, 0x70]

inductive TransportError where
  /-- `os.ErrInvalid`. -/
  | invalid
  /-- The error of the registry. -/
  | create (error : Error)
  /-- The stage and " dns/", the type and the tag in brackets, with the error. -/
  | start (transport : Transport) (error : Error)
  /-- "close dns/", the type and the tag in brackets, with the error. -/
  | closeExists (transport : Transport) (error : Error)
  /-- "server[", the tag, "] is depended by " and the dependents. -/
  | dependedBy (tag : Bytes) (dependBy : List Bytes)
  /-- "default server cannot be fakeip". -/
  | defaultFakeIP
  /-- "multiple fakeip server are not supported". -/
  | multipleFakeIP

structure TransportManager where
  defaultTag : Bytes
  started : Bool := false
  registry : Registry Bytes Bytes := {}
  (defaultTransport fakeIPTransport : Option Transport := none)
  created : Nat := 0

abbrev TransportResult := Checked TransportError Unit

namespace TransportManager

variable (m : TransportManager)

/-- The end of `Remove`: the transport is struck off, unless others depend on it. -/
def strikeOff (tag : Bytes) (transport : Transport) : TransportManager × TransportResult :=
  let dependBy := m.registry.dependBy tag
  if 0 < dependBy.length then (m, fail (.dependedBy tag dependBy))
  else ({ m with registry := m.registry.withdraw tag transport }, .ok ())

/-- `Remove`. The error of `Close` is ignored. -/
def remove (tag : Bytes) : TransportManager × TransportResult :=
  match m.registry.byTag tag with
  | none => (m, fail .invalid)
  | some transport =>
    if transport ∈ m.registry.list then
      let m := { m with registry := m.registry.unregister tag transport }
      if m.defaultTransport = some transport then
        match m.registry.list with
        | nextTransport :: _ =>
          if nextTransport.data ≠ dnsTypeFakeIP then (m, fail .defaultFakeIP)
          else { m with defaultTransport := some nextTransport }.strikeOff tag transport
        | [] => { m with defaultTransport := none }.strikeOff tag transport
      else m.strikeOff tag transport
    else (m, .error .panic)

def addFakeIP (transport : Transport) : TransportManager × TransportResult :=
  if transport.data = dnsTypeFakeIP then
    if m.fakeIPTransport ≠ none then (m, fail .multipleFakeIP)
    else ({ m with fakeIPTransport := some transport }, .ok ())
  else (m, .ok ())

/-- The end of `Create`: the transport is registered, and perhaps the default or the fake-IP server. -/
def add (transport : Transport) : TransportManager × TransportResult :=
  let m := { m with registry := m.registry.register transport }
  if transport.tag = m.defaultTag ∨ m.defaultTag = [] ∧ m.defaultTransport = none then
    if transport.data = dnsTypeFakeIP then (m, fail .defaultFakeIP)
    else { m with defaultTransport := some transport }.addFakeIP transport
  else m.addFakeIP transport

/-- `Create`. The registry makes a transport with these dependencies or fails; `startErr` and `closeErr` are what
starting it gives and what closing the transport gives that has the tag already. -/
def create (tag transportType : Bytes) (made : Except Error (List Bytes))
    (startErr closeErr : Option Error) : TransportManager × TransportResult :=
  if tag = [] then (m, fail .invalid)
  else
    match made with
    | .error error => (m, fail (.create error))
    | .ok dependencies =>
      let transport : Transport := ⟨m.created, tag, dependencies, transportType⟩
      let m := { m with created := m.created + 1 }
      match whenStarted m.started startErr with
      | some error => (m, fail (.start transport error))
      | none =>
        match m.registry.byTag tag with
        | none => m.add transport
        | some existsTransport =>
          match whenStarted m.started closeErr with
          | some error => (m, fail (.closeExists existsTransport error))
          | none =>
            if existsTransport ∈ m.registry.list then
              { m with registry := m.registry.unlist existsTransport }.add transport
            else (m, .error .panic)

end TransportManager

/-- A call of the manager, with how what it calls itself ends. -/
inductive TransportCall where
  | create (tag transportType : Bytes) (made : Except Error (List Bytes)) (startErr closeErr : Option Error)
  | remove (tag : Bytes)

def TransportManager.call (m : TransportManager) : TransportCall → TransportManager × TransportResult
  | .create tag transportType made startErr closeErr => m.create tag transportType made startErr closeErr
  | .remove tag => m.remove tag

def transportCalls : Machine TransportManager TransportCall TransportResult where
  step m call := ((m.call call).1, some (m.call call).2)

/-! ### What is asked for -/

/-- **Both pointers are at registered transports**, and the default is no fake-IP server. -/
structure Valid (m : TransportManager) : Prop where
  default : ∀ transport, m.defaultTransport = some transport →
    transport ∈ m.registry.list ∧ transport.data ≠ dnsTypeFakeIP
  fakeIP : ∀ transport, m.fakeIPTransport = some transport → transport ∈ m.registry.list

/-- The default is removed while there is another server that could be the default: the call succeeds, and such a
server is the default. -/
def HandsOver (m : TransportManager) : TransportCall → Prop
  | .create _ _ _ _ _ => True
  | .remove tag => ∀ transport, m.registry.byTag tag = some transport → m.defaultTransport = some transport →
    (∃ other ∈ m.registry.list, other ≠ transport ∧ other.data ≠ dnsTypeFakeIP) →
      (m.remove tag).2 = .ok () ∧ ∃ next, (m.remove tag).1.defaultTransport = some next ∧
        next ∈ (m.remove tag).1.registry.list ∧ next.data ≠ dnsTypeFakeIP

/-- A transport that a call takes out of the registry is not the fake-IP server; and if it is the default then it
was alone, or its place is taken under the configured tag by a server that is no fake-IP server. -/
def Spares (m : TransportManager) (call : TransportCall) : Prop :=
  ∀ transport ∈ m.registry.list, transport ∉ (m.call call).1.registry.list →
    m.fakeIPTransport ≠ some transport ∧
      (m.defaultTransport = some transport →
        match call with
        | .create tag transportType _ _ _ => tag = m.defaultTag ∧ transportType ≠ dnsTypeFakeIP
        | .remove _ => m.registry.list = [transport])

/-- The list and the map agree, new transports are new, and the fake-IP server is of its type. -/
structure Indexed (m : TransportManager) : Prop where
  consistent : m.registry.Consistent
  fresh : ∀ transport ∈ m.registry.list, transport.serial < m.created
  fakeIPType : ∀ transport, m.fakeIPTransport = some transport → transport.data = dnsTypeFakeIP

/-- A manager whose pointers are valid. -/
structure ValidManager where
  manager : TransportManager
  indexed : Indexed manager
  valid : Valid manager

open TransportManager

/-! ### `Create` -/

section Create

variable {m : TransportManager}

namespace TransportManager

/-- The transport that `Create` makes. -/
def made (m : TransportManager) (tag transportType : Bytes) (dependencies : List Bytes) : Transport :=
  ⟨m.created, tag, dependencies, transportType⟩

/-- **`Create`** fails and leaves all as it is, or registers a transport under a new tag, or in the place of the one
that has the tag. -/
theorem create_cases (consistent : m.registry.Consistent) (tag transportType : Bytes)
    (made : Except Error (List Bytes)) (startErr closeErr : Option Error) :
    (∃ created error, m.created ≤ created ∧
      m.create tag transportType made startErr closeErr = ({ m with created }, fail error)) ∨
    ∃ dependencies,
      (m.registry.byTag tag = none ∧
        m.create tag transportType made startErr closeErr =
          { m with created := m.created + 1 }.add (m.made tag transportType dependencies)) ∨
      ∃ old, m.registry.byTag tag = some old ∧
        m.create tag transportType made startErr closeErr =
          { m with created := m.created + 1, registry := m.registry.unlist old }.add
            (m.made tag transportType dependencies) := by
  fun_cases create m tag transportType made startErr closeErr with
  | case1 | case2 => exact .inl ⟨_, _, le_refl _, rfl⟩
  | case3 | case5 => exact .inl ⟨_, _, Nat.le_succ _, rfl⟩
  | case4 _ dependencies _ _ _ free => exact .inr ⟨dependencies, .inl ⟨free, rfl⟩⟩
  | case6 _ dependencies _ _ _ old found => exact .inr ⟨dependencies, .inr ⟨old, found, rfl⟩⟩
  | case7 _ _ _ _ old found _ absent => exact absurd ((consistent.indexed _ _).mp found).1 absent

theorem add_fst (m : TransportManager) (transport : Transport) :
    (m.add transport).1 =
      { m with
        registry := m.registry.register transport
        defaultTransport :=
          if (transport.tag = m.defaultTag ∨ m.defaultTag = [] ∧ m.defaultTransport = none) ∧
            transport.data ≠ dnsTypeFakeIP then some transport else m.defaultTransport
        fakeIPTransport :=
          if ¬(transport.tag = m.defaultTag ∨ m.defaultTag = [] ∧ m.defaultTransport = none) ∧
            transport.data = dnsTypeFakeIP ∧ m.fakeIPTransport = none then some transport
          else m.fakeIPTransport } := by
  unfold add addFakeIP
  by_cases takes : transport.tag = m.defaultTag ∨ m.defaultTag = [] ∧ m.defaultTransport = none
  · by_cases fake : transport.data = dnsTypeFakeIP <;> simp [takes, fake]
  · by_cases fake : transport.data = dnsTypeFakeIP
    · by_cases none : m.fakeIPTransport = none <;> simp [takes, fake, none]
    · simp [takes, fake]

theorem list_add (m : TransportManager) (transport : Transport) :
    (m.add transport).1.registry.list = m.registry.list ++ [transport] := by
  rw [add_fst]
  rfl

end TransportManager

theorem valid_add_iff {created : Nat} {r : Registry Bytes Bytes} {transport : Transport}
    (default : ∀ other, m.defaultTransport = some other → other.data ≠ dnsTypeFakeIP) :
    Valid ({ m with created, registry := r }.add transport).1 ↔
      (∀ other, m.fakeIPTransport = some other → other ∈ r.list ++ [transport]) ∧
        ∀ other, m.defaultTransport = some other → other ∈ r.list ++ [transport] ∨
          transport.tag = m.defaultTag ∧ transport.data ≠ dnsTypeFakeIP := by
  have last : transport ∈ r.list ++ [transport] := mem_append_right _ (mem_singleton_self _)
  rw [add_fst]
  constructor
  · rintro ⟨valid, fakeIP⟩
    dsimp only at valid fakeIP
    refine ⟨fun other is => fakeIP other ?_, fun other is => ?_⟩
    · rw [if_neg (by simp [is]), is]
    by_cases replaced : transport.tag = m.defaultTag ∧ transport.data ≠ dnsTypeFakeIP
    · exact .inr replaced
    · refine .inl (valid other ?_).1
      rw [if_neg (by simpa [is] using replaced), is]
  · rintro ⟨fakeIP, stays⟩
    refine ⟨fun other is => ?_, fun other is => ?_⟩
    · dsimp only at is
      split_ifs at is with takes
      · cases is
        exact ⟨last, takes.2⟩
      · rcases stays other is with member | replaced
        · exact ⟨member, default other is⟩
        · exact absurd ⟨.inl replaced.1, replaced.2⟩ takes
    · dsimp only at is
      split_ifs at is with takes
      · cases is
        exact last
      · exact fakeIP other is

theorem Indexed.add (indexed : Indexed m) {r : Registry Bytes Bytes} {tag transportType : Bytes}
    {dependencies : List Bytes} (sub : r.list ⊆ m.registry.list)
    (consistent : (r.register (m.made tag transportType dependencies)).Consistent) :
    Indexed ({ m with created := m.created + 1, registry := r }.add (m.made tag transportType dependencies)).1 := by
  rw [add_fst]
  refine ⟨consistent, fun transport member => ?_, fun transport is => ?_⟩
  · rcases mem_append.mp member with before | here
    · exact Nat.lt_succ_of_lt (indexed.fresh transport (sub before))
    · rw [mem_singleton.mp here]
      exact Nat.lt_succ_self _
  · dsimp only at is
    split_ifs at is with takes
    · cases is
      exact takes.2.1
    · exact indexed.fakeIPType transport is

section Gone

variable {before after : List Transport} {old : Transport} (inside : old ∈ before)
  (left : ∀ it ∈ before, it ∈ after ↔ it ≠ old)

include inside left

/-- If one transport goes then what is said of all that go is said of it. -/
theorem forall_gone_iff {P : Transport → Prop} : (∀ it ∈ before, it ∉ after → P it) ↔ P old := by
  refine ⟨fun all => all old inside fun stays => (left old inside).mp stays rfl, fun holds it member gone => ?_⟩
  rwa [not_not.mp (mt (left it member).mpr gone)]

theorem forall_pointer_iff {pointer : Option Transport} {P : Prop} (valid : ∀ it, pointer = some it → it ∈ before) :
    (∀ it, pointer = some it → it ∈ after ∨ P) ↔ (pointer = some old → P) := by
  refine ⟨fun all is => (all old is).resolve_left fun stays => (left old inside).mp stays rfl, fun holds it is => ?_⟩
  by_cases same : it = old
  · exact .inr (holds (same ▸ is))
  · exact .inl ((left it (valid it is)).mpr same)

end Gone

/-- **`Create` keeps the pointers valid** exactly if it spares them. -/
theorem valid_create_iff (indexed : Indexed m) (valid : Valid m) (tag transportType : Bytes)
    (made : Except Error (List Bytes)) (startErr closeErr : Option Error) :
    Indexed (m.create tag transportType made startErr closeErr).1 ∧
      (Valid (m.create tag transportType made startErr closeErr).1 ↔
        Spares m (.create tag transportType made startErr closeErr)) := by
  have notFake other is := (valid.default other is).2
  simp only [Spares, call]
  rcases create_cases indexed.consistent tag transportType made startErr closeErr with
    ⟨created, error, more, is⟩ | ⟨dependencies, ⟨new, is⟩ | ⟨old, found, is⟩⟩ <;> rw [is]
  · refine ⟨⟨indexed.consistent, fun transport member => (indexed.fresh transport member).trans_le more,
      indexed.fakeIPType⟩, iff_of_true ⟨valid.default, valid.fakeIP⟩ fun transport member gone => absurd member gone⟩
  · refine ⟨indexed.add (.refl _) (indexed.consistent.register new), iff_of_true ?_ ?_⟩
    · refine (valid_add_iff notFake).mpr ⟨fun other fake => ?_, fun other default => .inl ?_⟩
      · exact mem_append_left _ (valid.fakeIP other fake)
      · exact mem_append_left _ (valid.default other default).1
    · intro transport member gone
      rw [list_add] at gone
      exact absurd (mem_append_left _ member) gone
  · refine ⟨indexed.add erase_subset (indexed.consistent.replace found), (valid_add_iff notFake).trans ?_⟩
    have inside := ((indexed.consistent.indexed _ _).mp found).1
    -- Only the old transport goes.
    have left (transport : Transport) (member : transport ∈ m.registry.list) :
        transport ∈ (m.registry.unlist old).list ++ [m.made tag transportType dependencies] ↔ transport ≠ old := by
      have differs : transport ≠ m.made tag transportType dependencies := by
        rintro rfl
        exact lt_irrefl _ (indexed.fresh _ member)
      rw [mem_append, mem_singleton, indexed.consistent.mem_unlist, or_iff_left differs, and_iff_right member]
    have fakeIP := forall_pointer_iff inside left valid.fakeIP (P := False)
    simp only [or_false] at fakeIP
    have default := forall_pointer_iff inside left (fun it is => (valid.default it is).1)
      (P := tag = m.defaultTag ∧ transportType ≠ dnsTypeFakeIP)
    simp only [list_add]
    rw [forall_gone_iff inside left]
    exact and_congr fakeIP default

end Create

/-! ### `Remove` -/

section Remove

variable {m : TransportManager} {tag : Bytes} {transport : Transport}

def withDependents (r : Registry Bytes Bytes) (dependBy : Bytes → List Bytes) : Registry Bytes Bytes :=
  { r with dependBy }

theorem strikeOff_fst (m : TransportManager) (tag : Bytes) (transport : Transport) : ∃ dependBy,
    (m.strikeOff tag transport).1 = { m with registry := withDependents m.registry dependBy } := by
  unfold strikeOff
  dsimp only
  split_ifs
  · exact ⟨m.registry.dependBy, rfl⟩
  · exact ⟨_, rfl⟩

/-- The default after a transport has been taken out: it stays if it is another one, and also if the next transport
is not a fake-IP server. -/
def defaultWithout (m : TransportManager) (transport : Transport) : Option Transport :=
  if m.defaultTransport = some transport then
    match (m.registry.unlist transport).list with
    | next :: _ => if next.data ≠ dnsTypeFakeIP then m.defaultTransport else some next
    | [] => none
  else m.defaultTransport

/-- **`Remove`** takes the transport out of the registry. -/
theorem remove_found (consistent : m.registry.Consistent) (found : m.registry.byTag tag = some transport) :
    ∃ dependBy, (m.remove tag).1 =
      { m with
        registry         := withDependents (m.registry.unregister tag transport) dependBy
        defaultTransport := defaultWithout m transport } := by
  have member : transport ∈ m.registry.list := ((consistent.indexed _ _).mp found).1
  have list : (m.registry.unregister tag transport).list = (m.registry.unlist transport).list := rfl
  unfold remove defaultWithout
  rw [found]
  dsimp only
  rw [if_pos member, list]
  split_ifs with was
  · cases (m.registry.unlist transport).list with
    | nil => exact strikeOff_fst _ tag transport
    | cons next rest =>
      dsimp only
      by_cases fake : next.data = dnsTypeFakeIP
      · rw [if_neg (not_not.mpr fake), if_neg (not_not.mpr fake)]
        exact strikeOff_fst _ tag transport
      · rw [if_pos fake, if_pos fake]
        exact ⟨m.registry.dependBy, rfl⟩
  · exact strikeOff_fst _ tag transport

/-- **`Remove` keeps the pointers valid and hands the default over** exactly if it spares them. -/
theorem valid_remove_iff (indexed : Indexed m) (valid : Valid m) (tag : Bytes) :
    Indexed (m.remove tag).1 ∧ (Valid (m.remove tag).1 ∧ HandsOver m (.remove tag) ↔ Spares m (.remove tag)) := by
  simp only [Spares, call]
  cases found : m.registry.byTag tag with
  | none =>
    have is : m.remove tag = (m, .fail .invalid) := by simp [remove, found]
    rw [is]
    refine ⟨indexed, iff_of_true ⟨valid, fun transport known => ?_⟩ fun transport member gone => absurd member gone⟩
    cases found.symm.trans known
  | some transport =>
    obtain ⟨dependBy, is⟩ := remove_found indexed.consistent found
    have consistent := indexed.consistent.unregister found
    have member := ((indexed.consistent.indexed _ _).mp found).1
    have left other : other ∈ (m.registry.unlist transport).list ↔
        other ∈ m.registry.list ∧ other ≠ transport := indexed.consistent.mem_unlist
    have leaves other inside :
        other ∈ (m.registry.unlist transport).list ↔ other ≠ transport := (left other).trans (and_iff_right inside)
    have listed : (m.remove tag).1.registry.list = (m.registry.unlist transport).list := by rw [is]; rfl
    have fakeIP := forall_pointer_iff member leaves valid.fakeIP (P := False)
    simp only [or_false] at fakeIP
    refine ⟨?_, ?_⟩
    · rw [is]
      exact ⟨⟨consistent.indexed, consistent.distinct⟩, fun other inside => indexed.fresh other ((left other).mp inside).1,
        indexed.fakeIPType⟩
    have points : Valid (m.remove tag).1 ↔ (∀ other, defaultWithout m transport = some other →
        other ∈ (m.registry.unlist transport).list ∧ other.data ≠ dnsTypeFakeIP) ∧
          m.fakeIPTransport ≠ some transport := by
      rw [is]
      exact ⟨fun after => ⟨after.default, fakeIP.mp after.fakeIP⟩, fun after => ⟨after.1, fakeIP.mpr after.2⟩⟩
    rw [listed, forall_gone_iff member leaves, points]
    by_cases was : m.defaultTransport = some transport
    · have notFakeIP : m.fakeIPTransport ≠ some transport := fun fake =>
        (valid.default transport was).2 (indexed.fakeIPType transport fake)
      rw [and_iff_left notFakeIP, and_iff_right notFakeIP, defaultWithout, if_pos was]
      cases rest : (m.registry.unlist transport).list with
      | nil =>
        -- It was alone, and there is no default any more.
        have alone : m.registry.list = [transport] := by
          have perm := perm_cons_erase member
          rw [show m.registry.list.erase transport = [] from rest] at perm
          exact perm_singleton.mp perm
        refine iff_of_true ⟨by simp, fun other known default => ?_⟩ fun _ => alone
        rintro ⟨another, inside, differs, -⟩
        cases found.symm.trans known
        exact absurd (mem_singleton.mp (alone ▸ inside)) differs
      | cons next rest' =>
        refine iff_of_false ?_ fun spared => ?_
        · -- The default is a fake-IP server, or still the transport that is gone.
          rintro ⟨after, -⟩
          by_cases fake : next.data = dnsTypeFakeIP
          · exact (after next (if_neg (not_not.mpr fake))).2 fake
          · have inside := (after transport ((if_pos fake).trans was)).1
            exact ((left transport).mp (rest ▸ inside)).2 rfl
        · have inside := (left next).mp (rest ▸ mem_cons_self)
          rw [spared was] at inside
          exact inside.2 (mem_singleton.mp inside.1)
    · rw [defaultWithout, if_neg was]
      constructor
      · exact fun after => ⟨after.1.2, fun default => absurd default was⟩
      refine fun spared => ⟨⟨fun other default => ?_, spared.1⟩, fun other known default => ?_⟩
      · obtain ⟨inside, notFake⟩ := valid.default other default
        refine ⟨(left other).mpr ⟨inside, ?_⟩, notFake⟩
        rintro rfl
        exact was default
      · cases found.symm.trans known
        exact absurd default was

end Remove

/-- **The pointers stay valid along a run, and the default is handed over**, exactly if all calls spare them. -/
theorem pointers_valid_iff (m : ValidManager) (calls : List TransportCall) :
    transportCalls.Along (fun m call => Valid (m.call call).1 ∧ HandsOver m call) m.manager calls ↔
      transportCalls.Along Spares m.manager calls := by
  have agree (m : TransportManager) (call : TransportCall) (inv : Indexed m ∧ Valid m) :
      Indexed (m.call call).1 ∧ (Valid (m.call call).1 ∧ HandsOver m call ↔ Spares m call) := by
    obtain ⟨indexed, valid⟩ := inv
    cases call with
    | create tag transportType made startErr closeErr =>
      obtain ⟨next, keeps⟩ := valid_create_iff indexed valid tag transportType made startErr closeErr
      exact ⟨next, (and_iff_left trivial).trans keeps⟩
    | remove tag => exact valid_remove_iff indexed valid tag
  refine Machine.along_iff_of_invariant (fun m => Indexed m ∧ Valid m) (fun m call inv _ => (agree m call inv).2) ?_
    ⟨m.indexed, m.valid⟩ (transportCalls.along_of_forall (fun _ _ => trivial) m.manager calls)
  intro m call inv _ spares
  obtain ⟨indexed, keeps⟩ := agree m call inv
  exact ⟨indexed, (keeps.mpr spares).1⟩

def newTransportManager : ValidManager where
  manager := { defaultTag := [] }
  indexed := ⟨Registry.consistent_empty, by simp, by simp⟩
  valid := ⟨by simp, by simp⟩

/-- Two servers that are no fake-IP servers, and the first one is removed: it stays the default. -/
theorem default_not_handed_over :
    ¬transportCalls.Along (fun m call => Valid (m.call call).1 ∧ HandsOver m call) newTransportManager.manager
      [.create [97] [] (.ok []) none none, .create [98] [] (.ok []) none none, .remove [97]] := by
  rintro ⟨-, -, ⟨valid, -⟩, -⟩
  have member := (valid.default ⟨0, [97], [], []⟩ rfl).1
  revert member
  decide

end SingBox.Manager
