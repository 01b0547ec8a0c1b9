/-
**The remote provider** (`provider/remote/remote.go`).

A remote provider fetches a subscription, applies the options in it, and remembers the ETag so that it need not fetch
it again; it does so before the body is parsed. What it has is kept in a file, in a record of the cache database, or
in both. The parsers, the encoding of options, base64 and the hash are parameters (`SubscriptionLibrary`). The
subscription info, which is in a header or in the first line, is parsed as the source does it.
-/

import SingBox.Lib.Machine
import SingBox.Provider.Adapter
import SingBox.Subscription.Text
import Mathlib.Data.List.TakeWhile

namespace SingBox.Provider

open SingBox.Lib SingBox.Subscription

/-! ### Subscription info -/

structure SubscriptionInfo where
  (upload download total expire : Int := 0)
  deriving DecidableEq

inductive InfoKey where
  | upload
  | download
  | total
  | expire
  deriving DecidableEq

def InfoKey.text : InfoKey → Bytes
  | .upload => [0x75, 0x70, 0x6C, 0x6F, 0x61, 0x64]
  | .download => [0x64, 0x6F, 0x77, 0x6E, 0x6C, 0x6F, 0x61, 0x64]
  | .total => [0x74, 0x6F, 0x74, 0x61, 0x6C]
  | .expire => [0x65, 0x78, 0x70, 0x69, 0x72, 0x65]

/-- A match of the regular expression: a key and its value. -/
structure InfoMatch where
  key : InfoKey
  value : Bytes

def matchValue (key : InfoKey) (s : Bytes) : Option (InfoMatch × Bytes) :=
  match s.dropWhile isSpace with
  | 0x3D :: s =>
    let s := s.dropWhile isSpace
    let sign := s.take (if s.head? = some 0x2D then 1 else 0)
    let s := s.drop sign.length
    let digits := s.takeWhile isDigit
    let s := s.drop digits.length
    some (⟨key, sign ++ digits⟩, if s.head? = some 0x3B then s.drop 1 else s)
  | _ => none

/-- `(upload|download|total|expire)[\s\t]*=[\s\t]*(-?\d*);?`, at the beginning of a text. -/
def matchInfo (s : Bytes) : Option (InfoMatch × Bytes) :=
  [InfoKey.upload, .download, .total, .expire].findSome? fun key => (dropText key.text s).bind (matchValue key)

/-- `FindAllStringSubmatch`: the first matches in a text, from left to right. The bytes of a match are skipped. -/
def findInfo : Bytes → Nat → Nat → List InfoMatch
  | [], _, _ => []
  | _ :: s, skip + 1, limit => findInfo s skip limit
  | _ :: _, 0, 0 => []
  | byte :: s, 0, limit + 1 =>
    match matchInfo (byte :: s) with
    | some (found, rest) => found :: findInfo s (s.length - rest.length) limit
    | none => findInfo s 0 (limit + 1)

def SubscriptionInfo.set (info : SubscriptionInfo) (found : InfoMatch) : SubscriptionInfo :=
  match found.key with
  | .upload => { info with upload := (parseInt found.value).1 }
  | .download => { info with download := (parseInt found.value).1 }
  | .total => { info with total := (parseInt found.value).1 }
  | .expire => { info with expire := (parseInt found.value).1 }

def parseInfo (infoStr : Bytes) : Option SubscriptionInfo :=
  match findInfo infoStr 0 4 with
  | [] => none
  | found :: more => some ((found :: more).foldl SubscriptionInfo.set {})

/-- The line that `saveCacheFile` writes, without its end. -/
def infoText (info : SubscriptionInfo) : Bytes :=
  [0x23, 0x20] ++ (InfoKey.upload.text ++ 0x3D :: (intText info.upload ++
    [0x3B, 0x20] ++ InfoKey.download.text ++ [0x3D] ++ intText info.download ++
    [0x3B, 0x20] ++ InfoKey.total.text ++ [0x3D] ++ intText info.total ++
    [0x3B, 0x20] ++ InfoKey.expire.text ++ [0x3D] ++ intText info.expire ++ [0x3B]))

abbrev Line := { text : Bytes // newline ∉ text }

theorem newline_notMem_intText (n : Int) : newline ∉ intText n := by
  rw [intText]
  split_ifs with negative
  · exact List.not_mem_cons_of_ne_of_not_mem (by decide) (notMem_decimal rfl _)
  · exact notMem_decimal rfl _

theorem newline_notMem_infoText (info : SubscriptionInfo) : newline ∉ infoText info := by
  have numbers := fun n => newline_notMem_intText n
  have keys : ∀ key : InfoKey, newline ∉ key.text := by
    intro key
    cases key <;> decide
  have others : newline ≠ 0x23 ∧ newline ≠ 0x20 ∧ newline ≠ 0x3B ∧ newline ≠ 0x3D := by decide
  simp [infoText, numbers, keys, others]

def infoLine (info : SubscriptionInfo) : Line := ⟨infoText info, newline_notMem_infoText info⟩

def getFirstLine (content : Bytes) : Line × Bytes :=
  (⟨content.takeWhile (· ≠ newline), fun member => by simpa using List.mem_takeWhile_imp member⟩,
    (content.dropWhile (· ≠ newline)).drop 1)

/-! ### The provider -/

abbrev OptionLists (Options : Type) := List (OutboundOption Options) × List (OutboundOption Options)

/-- The parsers, the encoding of options as JSON and its decoding, base64 and the hash. -/
structure SubscriptionLibrary (Options Hash : Type) where
  (parseSubscription unmarshal : Bytes → Except Error (OptionLists Options))
  marshal : OptionLists Options → Bytes
  rawURLDecode : Bytes → Option Bytes
  makeHash : Bytes → Hash

/-- Whether a provider has a path and a cache file, and which tags its filters keep. -/
structure RemoteOptions where
  path : Bool
  cacheFile : Bool
  keeps : Bytes → Bool

/-- `adapter.SavedBinary`. Times are in nanoseconds. -/
structure SavedBinary (Hash : Type) where
  hash : Hash
  content : Bytes
  lastUpdated : Nat
  lastEtag : Bytes

def second : Nat := 10 ^ 9

/-- What `UnmarshalBinary` makes of the encoding of a record, in which the time is in seconds. -/
def SavedBinary.stored {Hash : Type} (saveSub : SavedBinary Hash) : SavedBinary Hash :=
  { saveSub with lastUpdated := saveSub.lastUpdated / second * second }

/-- What is there after a restart: the file, with the time of its last change, and the record. -/
structure Disk (Hash : Type) where
  file : Option (Bytes × Nat) := none
  record : Option (SavedBinary Hash) := none

structure Remote (Options Hash : Type) [Inhabited Hash] where
  lastEtag : Bytes := []
  (lastOutOpts lastEPOpts : List (OutboundOption Options) := [])
  lastUpdated : Nat := 0
  subscriptionInfo : SubscriptionInfo := {}
  hash : Hash := default
  disk : Disk Hash := {}

/-- An answer of the server: none that can be used, 304, or 200; with "subscription-userinfo". -/
inductive Answer where
  | failed (error : Error)
  | notModified (infoStr : Line)
  | ok (etag : Bytes) (infoStr : Line) (body : Bytes)

/-- How a file is written: with the time that it then has, or with an error, after which anything may be left. -/
inductive FileWrite where
  | done (modTime : Nat)
  | failed (error : Error) (left : Option (Bytes × Nat))

/-- A fetch: its answer, the time, and how the saves end. -/
structure Fetch where
  answer : Answer
  now : Nat
  file : FileWrite
  recordErr : Option Error := none

variable {Options Hash : Type} [Inhabited Hash]

def Remote.applied (s : Remote Options Hash) : OptionLists Options := (s.lastOutOpts, s.lastEPOpts)

def withLine (line : Option Line) (content : Bytes) : Bytes :=
  match line with
  | some line => line.1 ++ newline :: content
  | none => content

/-- What is in a body: its info, the line with it, and the content without that line. -/
structure Body where
  info : Option SubscriptionInfo
  infoStr : Line
  content : Bytes

section

variable (lib : SubscriptionLibrary Options Hash) (options : RemoteOptions)

def readBody (infoStr : Line) (body : Bytes) : Body :=
  let content := decodeBase64URLSafe lib.rawURLDecode body
  match parseInfo infoStr.1 with
  | some info => ⟨some info, infoStr, content⟩
  | none =>
    let lines := getFirstLine content
    match parseInfo lines.1.1 with
    | some info => ⟨some info, lines.1, decodeBase64URLSafe lib.rawURLDecode lines.2⟩
    | none => ⟨none, infoStr, content⟩

/-- `updateProviderFromContent`: the options in a content, without those that are filtered out. -/
def optionsOf (content : Bytes) : Except Error (OptionLists Options) := do
  let parsed ← lib.parseSubscription content
  return (parsed.1.filter fun it => options.keeps it.tag, parsed.2.filter fun it => options.keeps it.tag)

/-! ### Saving -/

namespace Remote

variable (s : Remote Options Hash) (fetch : Fetch)

def written (content : Bytes) (modTime : Nat) : Remote Options Hash :=
  { s with hash := lib.makeHash content, disk := { s.disk with file := some (content, modTime) } }

def saveCacheFile (info : Option SubscriptionInfo) (contentRaw : Bytes) : Remote Options Hash × Option Error :=
  let content := withLine (info.map infoLine) contentRaw
  match fetch.file with
  | .failed err left => ({ s with disk := { s.disk with file := left } }, some err)
  | .done modTime => (s.written lib content modTime, none)

/-- `SaveSubscription`, if there is a cache file. -/
def saveSubscription (saveSub : SavedBinary Hash) : Remote Options Hash :=
  match options.cacheFile, fetch.recordErr with
  | true, none => { s with disk := { s.disk with record := some saveSub.stored } }
  | _, _ => s

def saveErr (err : Error) : Error := .cause err (.new "save outbound provider cache file")

def refresh (infoStr : Line) (saveSub : SavedBinary Hash) : SavedBinary Hash :=
  let saveSub :=
    if options.path then { saveSub with hash := s.hash }
    else if (parseInfo infoStr.1).isSome && saveSub.content.contains newline then
      { saveSub with content := infoStr.1 ++ newline :: (getFirstLine saveSub.content).2 }
    else saveSub
  { saveSub with lastUpdated := s.lastUpdated }

def refreshRecord (infoStr : Line) : Remote Options Hash :=
  match s.disk.record with
  | some saveSub => s.saveSubscription options fetch (s.refresh options infoStr saveSub)
  | none => s

/-- The record is rewritten before the file, with the hash that the file had. -/
def saveNotModified (infoStr : Line) : Remote Options Hash × Option Error :=
  let saved := s.refreshRecord options fetch infoStr
  if options.path then
    (saved.saveCacheFile lib fetch (parseInfo infoStr.1) (lib.marshal saved.applied)).map id (·.map saveErr)
  else (saved, none)

/-- The file is written before the record, which has its hash. -/
def saveModified (info : Option SubscriptionInfo) (infoStr : Line) : Remote Options Hash × Option Error :=
  let content := lib.marshal s.applied
  if options.path then
    match s.saveCacheFile lib fetch info content with
    | (saved, some err) => (saved, some (saveErr err))
    | (saved, none) =>
      (saved.saveSubscription options fetch ⟨saved.hash, [], saved.lastUpdated, saved.lastEtag⟩, none)
  else
    let content := withLine (info.map fun _ => infoStr) content
    (s.saveSubscription options fetch ⟨default, content, s.lastUpdated, s.lastEtag⟩, none)

/-- `fetch`, after a 304. -/
def notModified (infoStr : Line) : Remote Options Hash × Option Error :=
  Remote.saveNotModified lib options
    { s with subscriptionInfo := (parseInfo infoStr.1).getD {}, lastUpdated := fetch.now } fetch infoStr

/-- `fetch`, after a 200: the ETag is remembered before the body is parsed. -/
def modified (etag : Bytes) (infoStr : Line) (body : Bytes) : Remote Options Hash × Option Error :=
  let remembered := { s with lastEtag := if etag = [] then s.lastEtag else etag }
  let read := readBody lib infoStr body
  match optionsOf lib options read.content with
  | .error err => (remembered, some err)
  | .ok opts =>
    Remote.saveModified lib options
      { remembered with
        lastOutOpts := opts.1, lastEPOpts := opts.2
        subscriptionInfo := read.info.getD {}, lastUpdated := fetch.now } fetch read.info read.infoStr

/-- `fetch`. -/
def fetchWith : Remote Options Hash × Option Error :=
  match fetch.answer with
  | .failed err => (s, some err)
  | .notModified infoStr => s.notModified lib options fetch infoStr
  | .ok etag infoStr body => s.modified lib options fetch etag infoStr body

/-! ### Saving leaves the options and the ETag as they are -/

structure Same (s t : Remote Options Hash) : Prop where
  lastEtag : t.lastEtag = s.lastEtag
  applied : t.applied = s.applied
  lastUpdated : t.lastUpdated = s.lastUpdated

variable {s} {lib options fetch}

theorem Same.refl (s : Remote Options Hash) : Same s s := ⟨rfl, rfl, rfl⟩

theorem Same.trans {s t u : Remote Options Hash} (first : Same s t) (second : Same t u) : Same s u :=
  ⟨second.lastEtag.trans first.lastEtag, second.applied.trans first.applied, second.lastUpdated.trans first.lastUpdated⟩

theorem saveCacheFile_same {info : Option SubscriptionInfo} {content : Bytes} :
    Same s (s.saveCacheFile lib fetch info content).1 := by
  rw [saveCacheFile]
  cases fetch.file <;> exact ⟨rfl, rfl, rfl⟩

theorem saveSubscription_same {saveSub : SavedBinary Hash} : Same s (s.saveSubscription options fetch saveSub) := by
  rw [saveSubscription]
  split <;> exact ⟨rfl, rfl, rfl⟩

variable {infoStr : Line}

theorem refreshRecord_same : Same s (s.refreshRecord options fetch infoStr) := by
  rw [refreshRecord]
  cases s.disk.record with
  | none => exact .refl s
  | some saveSub => exact saveSubscription_same

theorem saveNotModified_same : Same s (s.saveNotModified lib options fetch infoStr).1 := by
  rw [saveNotModified]
  split_ifs
  · exact refreshRecord_same.trans saveCacheFile_same
  · exact refreshRecord_same

theorem saveModified_same {info : Option SubscriptionInfo} :
    Same s (s.saveModified lib options fetch info infoStr).1 := by
  rw [saveModified]
  split_ifs
  · have file : Same s (s.saveCacheFile lib fetch info (lib.marshal s.applied)).1 := saveCacheFile_same
    generalize s.saveCacheFile lib fetch info (lib.marshal s.applied) = saved at file
    obtain ⟨saved, _ | err⟩ := saved
    · exact file.trans saveSubscription_same
    · exact file
  · exact saveSubscription_same

theorem fetchWith_of_notModified (answer : fetch.answer = .notModified infoStr) :
    s.fetchWith lib options fetch = s.notModified lib options fetch infoStr := by
  rw [fetchWith, answer]

theorem fetchWith_of_ok {etag body : Bytes} (answer : fetch.answer = .ok etag infoStr body) :
    s.fetchWith lib options fetch = s.modified lib options fetch etag infoStr body := by
  rw [fetchWith, answer]

theorem notModified_lastEtag : (s.notModified lib options fetch infoStr).1.lastEtag = s.lastEtag :=
  saveNotModified_same.lastEtag

theorem notModified_applied : (s.notModified lib options fetch infoStr).1.applied = s.applied :=
  saveNotModified_same.applied

/-- After a 304 only the file can fail. -/
theorem notModified_succeeds_iff : (s.notModified lib options fetch infoStr).2 = none ↔
    (options.path = true → ∃ modTime, fetch.file = .done modTime) := by
  rw [notModified, saveNotModified]
  split_ifs with path
  · cases file : fetch.file <;> simp [saveCacheFile, file, path]
  · simp [path]

section Modified

variable {etag body : Bytes} {infoStr : Line} {opts : OptionLists Options} {err : Error}

theorem modified_lastEtag (present : etag ≠ []) :
    (s.modified lib options fetch etag infoStr body).1.lastEtag = etag := by
  rw [modified]
  cases optionsOf lib options (readBody lib infoStr body).content with
  | error err => exact if_neg present
  | ok opts => exact saveModified_same.lastEtag.trans (if_neg present)

theorem modified_applied (parsed : optionsOf lib options (readBody lib infoStr body).content = .ok opts) :
    (s.modified lib options fetch etag infoStr body).1.applied = opts := by
  rw [modified, parsed]
  exact saveModified_same.applied

end Modified

end Remote

/-! ### The server -/

/-- What a server has at a moment: an ETag and the subscription info. -/
structure Moment where
  etag : Bytes
  infoStr : Line
  present : etag ≠ []

/-- A fetch from a server, which fails or is answered. -/
structure Attempt where
  served : Except Error Moment
  now : Nat
  file : FileWrite
  recordErr : Option Error := none

variable (bodyOf : Bytes → Bytes)

/-- The answer to a request with `If-None-Match`. -/
def answerTo (lastEtag : Bytes) : Except Error Moment → Answer
  | .error err => .failed err
  | .ok moment =>
    if lastEtag = moment.etag then .notModified moment.infoStr
    else .ok moment.etag moment.infoStr (bodyOf moment.etag)

def Attempt.fetch (attempt : Attempt) (lastEtag : Bytes) : Fetch :=
  ⟨answerTo bodyOf lastEtag attempt.served, attempt.now, attempt.file, attempt.recordErr⟩

def bodyOptions (infoStr : Line) (etag : Bytes) : Except Error (OptionLists Options) :=
  optionsOf lib options (readBody lib infoStr (bodyOf etag)).content

/-- A provider of a server, with the header that the last body came with. If the body whose ETag is remembered
could be parsed then its options are applied. -/
structure Session where
  remote : Remote Options Hash
  infoStr : Line
  kept : remote.lastEtag ≠ [] → ∀ opts, bodyOptions lib options bodyOf infoStr remote.lastEtag = .ok opts →
    remote.applied = opts

namespace Session

def fresh : Session lib options bodyOf := ⟨{}, ⟨[], List.not_mem_nil⟩, fun some => absurd rfl some⟩

def headerAfter (infoStr : Line) : Answer → Line
  | .ok _ header _ => header
  | _ => infoStr

variable {lib options bodyOf} (session : Session lib options bodyOf) (attempt : Attempt)

def fetched : Fetch := attempt.fetch bodyOf session.remote.lastEtag

section

variable {moment : Moment} (served : attempt.served = .ok moment)

include served

theorem fetched_kept (same : session.remote.lastEtag = moment.etag) :
    (session.fetched attempt).answer = .notModified moment.infoStr := by
  rw [fetched, Attempt.fetch, served]
  exact if_pos same

theorem fetched_new (other : session.remote.lastEtag ≠ moment.etag) :
    (session.fetched attempt).answer = .ok moment.etag moment.infoStr (bodyOf moment.etag) := by
  rw [fetched, Attempt.fetch, served]
  exact if_neg other

open Remote

omit served in
theorem kept_step :
    let s := (session.remote.fetchWith lib options (session.fetched attempt)).1
    let infoStr := headerAfter session.infoStr (session.fetched attempt).answer
    s.lastEtag ≠ [] → ∀ opts, bodyOptions lib options bodyOf infoStr s.lastEtag = .ok opts → s.applied = opts := by
  intro s infoStr present opts parsed
  cases served : attempt.served with
  | error err =>
    simp only [s, infoStr, fetchWith, fetched, Attempt.fetch, served] at present parsed ⊢
    exact session.kept present opts parsed
  | ok moment =>
    by_cases same : session.remote.lastEtag = moment.etag
    · have answer := session.fetched_kept attempt served same
      simp only [s, infoStr, fetchWith_of_notModified answer, answer, notModified_lastEtag,
        notModified_applied] at present parsed ⊢
      exact session.kept present opts parsed
    · -- the remembered body is the one that this answer has
      have answer := session.fetched_new attempt served same
      simp only [s, infoStr, fetchWith_of_ok answer, answer, modified_lastEtag moment.present] at present parsed ⊢
      exact modified_applied parsed

/-- `fetch`, from a server. -/
def step : Session lib options bodyOf × Option Error :=
  let after := session.remote.fetchWith lib options (session.fetched attempt)
  (⟨after.1, headerAfter session.infoStr (session.fetched attempt).answer, session.kept_step attempt⟩, after.2)

/-- A fetch that returns nil leaves the options of the body that the server has. -/
def InSync : Prop :=
  ∀ moment, attempt.served = .ok moment → (session.step attempt).2 = none →
    bodyOptions lib options bodyOf (session.step attempt).1.infoStr moment.etag =
      .ok (session.step attempt).1.remote.applied

/-- If the server still has the body whose ETag is remembered, and no file has to be written or it can be, then that
body parses. -/
def Parsable : Prop :=
  ∀ moment, attempt.served = .ok moment → session.remote.lastEtag = moment.etag →
    (options.path = true → ∃ modTime, attempt.file = .done modTime) →
      ∃ opts, bodyOptions lib options bodyOf session.infoStr moment.etag = .ok opts

theorem step_kept (same : session.remote.lastEtag = moment.etag) : (session.step attempt).1.infoStr = session.infoStr ∧
      (session.step attempt).1.remote.applied = session.remote.applied ∧
      ((session.step attempt).2 = none ↔ (options.path = true → ∃ modTime, attempt.file = .done modTime)) := by
  have answer := session.fetched_kept attempt served same
  simp only [step, fetchWith_of_notModified answer, answer, headerAfter]
  exact ⟨trivial, notModified_applied, notModified_succeeds_iff⟩

theorem step_new (other : session.remote.lastEtag ≠ moment.etag) (succeeds : (session.step attempt).2 = none) :
    bodyOptions lib options bodyOf (session.step attempt).1.infoStr moment.etag =
      .ok (session.step attempt).1.remote.applied := by
  have answer := session.fetched_new attempt served other
  simp only [step, fetchWith_of_ok answer, answer, headerAfter] at succeeds ⊢
  cases parsed : bodyOptions lib options bodyOf moment.infoStr moment.etag with
  | error err =>
    rw [modified, show optionsOf _ _ _ = _ from parsed] at succeeds
    exact absurd succeeds (Option.some_ne_none err)
  | ok opts => rw [modified_applied parsed]

end

theorem inSync_step_iff : session.InSync attempt ↔ session.Parsable attempt := by
  constructor
  · intro sync moment served same saves
    obtain ⟨header, -, succeeds⟩ := session.step_kept attempt served same
    rw [← header]
    exact ⟨_, sync moment served (succeeds.mpr saves)⟩
  · intro parsable moment served succeeds
    by_cases same : session.remote.lastEtag = moment.etag
    · obtain ⟨header, applied, saves⟩ := session.step_kept attempt served same
      obtain ⟨opts, parsed⟩ := parsable moment served same (saves.mp succeeds)
      rw [header, applied, parsed]
      rw [← same] at parsed
      rw [session.kept (same ▸ moment.present) opts parsed]
    · exact session.step_new attempt served same succeeds

end Session

def sessionMachine : Machine (Session lib options bodyOf) Attempt Error :=
  ⟨Session.step⟩

/-- **A successful fetch means that the provider is in sync**, in each run, exactly if no fetch finds the remembered ETag
on the server, with a body that does not parse, and can write its file. -/
theorem inSync_iff (session : Session lib options bodyOf) (attempts : List Attempt) :
    (sessionMachine lib options bodyOf).Along Session.InSync session attempts ↔
      (sessionMachine lib options bodyOf).Along Session.Parsable session attempts := by
  apply Machine.along_congr
  intro session attempt
  exact session.inSync_step_iff attempt

end

/-- A library in which one content cannot be parsed. -/
def rejecting : SubscriptionLibrary Unit Bytes where
  parseSubscription content := if content = [0x78] then .error (.new "no servers found") else .ok ([], [])
  unmarshal _ := .ok ([], [])
  marshal _ := []
  rawURLDecode _ := none
  makeHash := id

/-- The server has the body that cannot be parsed, and goes on having it: the second fetch returns nil. -/
theorem unparsed_not_modified :
    ¬ (sessionMachine rejecting ⟨false, false, fun _ => true⟩ id).Along Session.InSync (Session.fresh _ _ _)
      [⟨.ok ⟨[0x78], ⟨[], List.not_mem_nil⟩, List.cons_ne_nil _ _⟩, 1, .done 1, none⟩,
        ⟨.ok ⟨[0x78], ⟨[], List.not_mem_nil⟩, List.cons_ne_nil _ _⟩, 2, .done 2, none⟩] := by
  intro sync
  have second := sync.2.1 _ rfl rfl
  exact absurd second (by decide)

end SingBox.Provider
