/-
**A provider after a restart** (`loadCacheFile`, `loadFromContent` in `provider/remote/remote.go`).

A new provider loads what an earlier one saved: the file with the options, whose hash must be the one in the record,
or the content of the record. The first line is left out if it looks like subscription info. After a 304 the record
gets the hash of the file before the file is written. `Stored` ties the file, the record and the hash to the options,
over all fetches.
-/

import SingBox.Provider.Remote

namespace SingBox.Provider

open SingBox.Lib SingBox.Subscription List Remote

variable {Options Hash : Type}

/-! ### Loading -/

/-- The types that `ParseBoxSubscription` leaves out: direct, block, dns, selector, urltest and pass. -/
def boxSkipped : List Bytes :=
  [[0x64, 0x69, 0x72, 0x65, 0x63, 0x74], [0x62, 0x6C, 0x6F, 0x63, 0x6B], [0x64, 0x6E, 0x73],
    [0x73, 0x65, 0x6C, 0x65, 0x63, 0x74, 0x6F, 0x72], [0x75, 0x72, 0x6C, 0x74, 0x65, 0x73, 0x74],
    [0x70, 0x61, 0x73, 0x73]]

section

variable (lib : SubscriptionLibrary Options Hash) (options : RemoteOptions)

def parseBoxSubscription (content : Bytes) : Except Error (OptionLists Options) := do
  let document ← lib.unmarshal content
  let outbounds := document.1.filter fun it => !boxSkipped.contains it.type
  if outbounds = [] ∧ document.2 = [] then .error (.new "no servers found")
  else .ok (outbounds, document.2)

namespace Remote

variable [Inhabited Hash] [DecidableEq Hash] (s : Remote Options Hash)

def loadBox (info : SubscriptionInfo) (content : Bytes) : Remote Options Hash × Option Error :=
  match parseBoxSubscription lib content with
  | .error err => ({ s with subscriptionInfo := info }, some err)
  | .ok opts => ({ s with subscriptionInfo := info, lastOutOpts := opts.1, lastEPOpts := opts.2 }, none)

def loadFromContent (contentRaw : Bytes) : Remote Options Hash × Option Error :=
  let content := decodeBase64URLSafe lib.rawURLDecode contentRaw
  let lines := getFirstLine content
  match parseInfo lines.1.1 with
  | some info => s.loadBox lib info (decodeBase64URLSafe lib.rawURLDecode lines.2)
  | none => s.loadBox lib s.subscriptionInfo content

/-- `loadCacheFile`, when the content has been found. -/
def restore (content : Bytes) (lastUpdated : Nat) (lastEtag : Bytes) : Remote Options Hash × Option Error :=
  match s.loadFromContent lib content with
  | (loaded, some err) => (loaded, some err)
  | (loaded, none) => ({ loaded with lastUpdated := lastUpdated, lastEtag := lastEtag }, none)

/-- `loadCacheFile`, with the record that was found. -/
def loadFile (saveSub : SavedBinary Hash) (content : Bytes) : Remote Options Hash × Option Error :=
  if saveSub.hash ≠ lib.makeHash content then
    (s, some (.new "load outbound provider cache file failed: validation failed"))
  else s.restore lib content saveSub.lastUpdated saveSub.lastEtag

def loadCacheFile : Remote Options Hash × Option Error :=
  match options.path, s.disk.file, (if options.cacheFile then s.disk.record else none) with
  | true, none, some saveSub => ({ s with hash := saveSub.hash }, none)
  | true, none, none => (s, none)
  | true, some (content, _), some saveSub => Remote.loadFile lib { s with hash := saveSub.hash } saveSub content
  | true, some (content, modTime), none => s.restore lib content modTime []
  | false, _, some saveSub =>
    if saveSub.content ≠ [] then
      Remote.restore lib { s with hash := saveSub.hash } saveSub.content saveSub.lastUpdated saveSub.lastEtag
    else ({ s with hash := saveSub.hash }, none)
  | false, _, none => (s, none)

/-- A new provider that finds what this one has saved. -/
def restarted : Remote Options Hash := { disk := s.disk }

/-- A new provider loads the same options, time and ETag. -/
def Restored : Prop :=
  (s.restarted.loadCacheFile lib options).2 = none ∧ Same s (s.restarted.loadCacheFile lib options).1

end Remote

end

/-- What is assumed of the library: the encoding of options is an object in one line, which is decoded to the same
options and is not base64; and different texts have different hashes. -/
structure SubscriptionLibrary.Lawful (lib : SubscriptionLibrary Options Hash) : Prop where
  inverse : ∀ opts, lib.unmarshal (lib.marshal opts) = .ok opts
  oneLine : ∀ opts, newline ∉ lib.marshal opts
  object : ∀ opts, 0x7B ∈ lib.marshal opts
  alphabet : ∀ text, 0x7B ∈ text → lib.rawURLDecode text = none
  decodes_nil : lib.rawURLDecode [] = some []
  noDocument : ∃ err, lib.unmarshal [] = .error err
  collisionFree : Function.Injective lib.makeHash

/-! ### Info and lines -/

theorem findInfo_append {pre s : Bytes} (found : matchInfo s ≠ none) (limit : Nat) :
    findInfo (pre ++ s) 0 (limit + 1) ≠ [] := by
  induction pre with
  | nil =>
    cases s with
    | nil => exact absurd rfl found
    | cons byte s =>
      obtain ⟨here, same⟩ := Option.ne_none_iff_exists'.mp found
      simp [findInfo, same]
  | cons byte pre ih =>
    -- the first match is here or later
    rw [cons_append, findInfo]
    cases matchInfo (byte :: (pre ++ s)) with
    | none => exact ih
    | some here => exact cons_ne_nil _ _

theorem parseInfo_isSome {infoStr : Bytes} (found : findInfo infoStr 0 4 ≠ []) : (parseInfo infoStr).isSome := by
  rw [parseInfo]
  cases same : findInfo infoStr 0 4 with
  | nil => exact absurd same found
  | cons first more => rfl

theorem parseInfo_infoLine (info : SubscriptionInfo) : (parseInfo (infoLine info).1).isSome := by
  apply parseInfo_isSome
  apply findInfo_append
  simp [matchInfo, dropText, matchValue, isSpace]

theorem getFirstLine_line (line : Line) (content : Bytes) :
    getFirstLine (line.1 ++ newline :: content) = (line, content) := by
  have before : ∀ byte ∈ line.1, decide (byte ≠ newline) = true := by
    intro byte member
    exact decide_eq_true fun same => line.2 (same ▸ member)
  rw [getFirstLine, Prod.mk.injEq, Subtype.mk.injEq]
  rw [takeWhile_append_of_pos before, dropWhile_append_of_pos before]
  simp

theorem getFirstLine_of_notMem {content : Bytes} (one : newline ∉ content) :
    getFirstLine content = (⟨content, one⟩, []) := by
  have before : ∀ byte ∈ content, decide (byte ≠ newline) = true := by
    intro byte member
    exact decide_eq_true fun same => one (same ▸ member)
  rw [getFirstLine, Prod.mk.injEq, Subtype.mk.injEq]
  rw [takeWhile_eq_self_iff.mpr before, dropWhile_eq_nil_iff.mpr before]
  exact ⟨rfl, rfl⟩

theorem newline_mem_withLine_iff {line : Option Line} {content : Bytes} (one : newline ∉ content) :
    newline ∈ withLine line content ↔ line.isSome := by
  cases line with
  | none => simpa [withLine] using one
  | some line => simp [withLine]

/-! ### What is loaded -/

/-- There is something to load, and nothing that is left out. -/
def Servers (opts : OptionLists Options) : Prop :=
  opts ≠ ([], []) ∧ ∀ it ∈ opts.1, it.type ∉ boxSkipped

section

variable {lib : SubscriptionLibrary Options Hash} (lawful : lib.Lawful) {options : RemoteOptions}

include lawful

theorem decode_of_brace {content : Bytes} (brace : 0x7B ∈ content) : decodeBase64URLSafe lib.rawURLDecode content = content := by
  rw [decodeBase64URLSafe, lawful.alphabet, Option.getD_none]
  rw [mem_filter, mem_map]
  exact ⟨⟨0x7B, brace, by decide⟩, by decide⟩

theorem decode_nil : decodeBase64URLSafe lib.rawURLDecode [] = [] := by
  rw [decodeBase64URLSafe, map_nil, filter_nil, lawful.decodes_nil, Option.getD_some]

theorem brace_mem_withLine (line : Option Line) (opts : OptionLists Options) :
    0x7B ∈ withLine line (lib.marshal opts) := by
  cases line with
  | none => exact lawful.object opts
  | some line => exact mem_append_right _ (mem_cons_of_mem _ (lawful.object opts))

theorem parseBoxSubscription_marshal_iff (opts : OptionLists Options) :
    parseBoxSubscription lib (lib.marshal opts) = .ok opts ↔ Servers opts := by
  obtain ⟨outbounds, -⟩ := opts
  have kept : (outbounds.filter fun it => !boxSkipped.contains it.type) = outbounds ↔
      ∀ it ∈ outbounds, it.type ∉ boxSkipped := by
    simp [filter_eq_self]
  rw [Servers, ← kept, parseBoxSubscription, lawful.inverse]
  simp only [bind, Except.bind]
  split_ifs with nothing
  · refine iff_of_false (by simp) ?_
    rintro ⟨some, same⟩
    exact absurd (Prod.ext (same.symm.trans nothing.1) nothing.2) some
  · rw [Except.ok.injEq, Prod.mk.injEq, and_iff_left rfl]
    refine ⟨fun same => ⟨fun empty => nothing ?_, same⟩, And.right⟩
    rw [same]
    exact Prod.mk.injEq .. ▸ empty

namespace Remote

variable [Inhabited Hash] {s t : Remote Options Hash} {line : Option Line}

omit lawful in
theorem loadBox_iff {info : SubscriptionInfo} {content : Bytes} (opts : OptionLists Options) :
    (s.loadBox lib info content).2 = none ∧ (s.loadBox lib info content).1.applied = opts ↔
      parseBoxSubscription lib content = .ok opts := by
  rw [loadBox]
  cases parseBoxSubscription lib content with
  | error err => simp
  | ok loaded => simp [applied]

theorem loadFromContent_iff (valid : ∀ text ∈ line, (parseInfo text.1).isSome) (opts : OptionLists Options) :
    (s.loadFromContent lib (withLine line (lib.marshal opts))).2 = none ∧
        (s.loadFromContent lib (withLine line (lib.marshal opts))).1.applied = opts ↔
      (line.isSome ∨ parseInfo (lib.marshal opts) = none) ∧ Servers opts := by
  rw [loadFromContent, decode_of_brace lawful (brace_mem_withLine lawful line opts)]
  cases line with
  | some text =>
    obtain ⟨info, found⟩ := Option.isSome_iff_exists.mp (valid text rfl)
    simp only [withLine, getFirstLine_line, found, decode_of_brace lawful (lawful.object opts)]
    rw [loadBox_iff, parseBoxSubscription_marshal_iff lawful]
    exact (and_iff_right (.inl rfl)).symm
  | none =>
    simp only [withLine, getFirstLine_of_notMem (lawful.oneLine opts)]
    cases found : parseInfo (lib.marshal opts) with
    | none =>
      rw [loadBox_iff, parseBoxSubscription_marshal_iff lawful]
      exact (and_iff_right (.inr rfl)).symm
    | some info =>
      -- the whole JSON is taken for the info, and nothing is left
      obtain ⟨err, nothing⟩ := lawful.noDocument
      rw [loadBox_iff, decode_nil lawful, parseBoxSubscription, nothing]
      simp [bind, Except.bind]

omit lawful in
theorem restore_iff {content : Bytes} {lastUpdated : Nat} {lastEtag : Bytes} :
    (t.restore lib content lastUpdated lastEtag).2 = none ∧ Same s (t.restore lib content lastUpdated lastEtag).1 ↔
      ((t.loadFromContent lib content).2 = none ∧ (t.loadFromContent lib content).1.applied = s.applied) ∧
        lastUpdated = s.lastUpdated ∧ lastEtag = s.lastEtag := by
  rw [restore]
  obtain ⟨-, _ | -⟩ := t.loadFromContent lib content
  · constructor
    · rintro ⟨_, etag, applied, updated⟩
      exact ⟨⟨rfl, applied⟩, updated, etag⟩
    · rintro ⟨⟨_, applied⟩, updated, etag⟩
      exact ⟨rfl, etag, applied, updated⟩
  · simp

end Remote

end

/-! ### What is saved -/

section

variable [Inhabited Hash] (lib : SubscriptionLibrary Options Hash) (options : RemoteOptions)

/-- What is on the disk belongs to the options that are applied. -/
structure Stored (line : Option Line) (modTime : Nat) (hash : Hash) (s : Remote Options Hash) : Prop where
  valid : ∀ text ∈ line, (parseInfo text.1).isSome
  file : options.path → s.disk.file = some (withLine line (lib.marshal s.applied), modTime) ∧
    s.hash = lib.makeHash (withLine line (lib.marshal s.applied))
  record : options.cacheFile → ∃ saveSub : SavedBinary Hash, s.disk.record = some saveSub.stored ∧
    saveSub.lastUpdated = s.lastUpdated ∧ saveSub.lastEtag = s.lastEtag ∧
    (options.path → saveSub.hash = hash) ∧
    (¬ options.path → saveSub.content = withLine line (lib.marshal s.applied))

def Fetch.Saves (fetch : Fetch) (modTime : Nat) : Prop :=
  fetch.file = .done modTime ∧ fetch.recordErr = none

end

theorem stored_time_iff {n : Nat} : n / second * second = n ↔ second ∣ n :=
  ⟨fun same => ⟨n / second, by rw [Nat.mul_comm, same]⟩, Nat.div_mul_cancel⟩

section

variable [Inhabited Hash] [DecidableEq Hash] {lib : SubscriptionLibrary Options Hash} {options : RemoteOptions}
  {s : Remote Options Hash}

variable (lawful : lib.Lawful) {line : Option Line} {modTime : Nat} {hash : Hash}

include lawful

theorem Stored.loads_iff (stored : Stored lib options line modTime hash s)
    (saves : options.path ∨ options.cacheFile) : s.Restored lib options ↔
      ((line.isSome ∨ parseInfo (lib.marshal s.applied) = none) ∧ Servers s.applied) ∧
        (options.path → options.cacheFile → hash = s.hash) ∧ (options.cacheFile → second ∣ s.lastUpdated) ∧
        (¬ options.cacheFile → modTime = s.lastUpdated ∧ [] = s.lastEtag) := by
  rw [Remote.Restored]
  by_cases path : options.path <;> by_cases cacheFile : options.cacheFile
  · obtain ⟨saveSub, record, updated, etag, hashed, _⟩ := stored.record cacheFile
    obtain ⟨file, current⟩ := stored.file path
    rw [loadCacheFile, path, show s.restarted.disk.file = _ from file, if_pos cacheFile,
      show s.restarted.disk.record = _ from record]
    dsimp only
    have hashed : saveSub.stored.hash = hash := hashed path
    by_cases same : hash = s.hash
    · rw [loadFile, if_neg (not_not.mpr (hashed.trans (same.trans current))), restore_iff,
        loadFromContent_iff lawful stored.valid]
      have time : saveSub.stored.lastUpdated = s.lastUpdated ↔ second ∣ s.lastUpdated :=
        updated ▸ stored_time_iff
      simp [cacheFile, same, time, show saveSub.stored.lastEtag = s.lastEtag from etag]
    · have other : saveSub.stored.hash ≠ lib.makeHash (withLine line (lib.marshal s.applied)) :=
        fun equal => same (hashed.symm.trans (equal.trans current.symm))
      rw [loadFile, if_pos other]
      exact iff_of_false (fun loaded => by cases loaded.1) fun all => same (all.2.1 rfl cacheFile)
  · obtain ⟨file, -⟩ := stored.file path
    rw [loadCacheFile, path, show s.restarted.disk.file = _ from file, if_neg cacheFile, restore_iff,
      loadFromContent_iff lawful stored.valid]
    simp [cacheFile]
  · obtain ⟨saveSub, record, updated, etag, -, content⟩ := stored.record cacheFile
    have nonempty : saveSub.content ≠ [] := by
      rw [content path]
      exact ne_nil_of_mem (brace_mem_withLine lawful line s.applied)
    rw [loadCacheFile, Bool.eq_false_iff.mpr path, if_pos cacheFile, show s.restarted.disk.record = _ from record]
    dsimp only
    rw [if_pos (show saveSub.stored.content ≠ [] from nonempty), restore_iff,
      show saveSub.stored.content = _ from content path, loadFromContent_iff lawful stored.valid]
    have time : saveSub.stored.lastUpdated = s.lastUpdated ↔ second ∣ s.lastUpdated :=
      updated ▸ stored_time_iff
    simp [cacheFile, time, show saveSub.stored.lastEtag = s.lastEtag from etag]
  · exact absurd saves (not_or.mpr ⟨path, cacheFile⟩)

end

/-! ### Every fetch saves -/

section

variable [Inhabited Hash] {lib : SubscriptionLibrary Options Hash} {options : RemoteOptions}
  {s : Remote Options Hash} {fetch : Fetch} {modTime : Nat}

namespace Remote

variable {info : Option SubscriptionInfo}

theorem saveCacheFile_of_saves (saves : fetch.Saves modTime) {content : Bytes} :
    s.saveCacheFile lib fetch info content = (s.written lib (withLine (info.map infoLine) content) modTime, none) := by
  rw [saveCacheFile, saves.1]

section

variable {saveSub : SavedBinary Hash}

theorem saveSubscription_record (saves : fetch.Saves modTime) (cacheFile : options.cacheFile) :
    (s.saveSubscription options fetch saveSub).disk.record = some saveSub.stored := by
  rw [saveSubscription, cacheFile, saves.2]

theorem saveSubscription_file : (s.saveSubscription options fetch saveSub).disk.file = s.disk.file := by
  rw [saveSubscription]
  split <;> rfl

theorem saveSubscription_hash : (s.saveSubscription options fetch saveSub).hash = s.hash := by
  rw [saveSubscription]
  split <;> rfl

end

theorem valid_infoLine : ∀ text ∈ info.map infoLine, (parseInfo text.1).isSome := by
  intro text member
  obtain ⟨parsed, _, rfl⟩ := Option.map_eq_some_iff.mp member
  exact parseInfo_infoLine parsed

theorem stored_saveModified (saves : fetch.Saves modTime) {infoStr : Line}
    (found : info.isSome → (parseInfo infoStr.1).isSome) :
    ∃ line, Stored lib options line modTime (s.saveModified lib options fetch info infoStr).1.hash
      (s.saveModified lib options fetch info infoStr).1 := by
  by_cases path : options.path
  · rw [saveModified, if_pos path, saveCacheFile_of_saves saves]
    refine ⟨info.map infoLine, valid_infoLine, fun _ => ?_, fun cacheFile => ?_⟩
    · rw [saveSubscription_same.applied, saveSubscription_hash, saveSubscription_file]
      exact ⟨rfl, rfl⟩
    refine ⟨_, saveSubscription_record saves cacheFile, ?_, ?_, fun _ => ?_, fun off => absurd path off⟩
    · exact saveSubscription_same.lastUpdated.symm
    · exact saveSubscription_same.lastEtag.symm
    · exact saveSubscription_hash.symm
  · rw [saveModified, if_neg path]
    refine ⟨info.map fun _ => infoStr, ?_, fun on => absurd on path, fun cacheFile => ?_⟩
    · intro text member
      obtain ⟨parsed, some, rfl⟩ := Option.map_eq_some_iff.mp member
      exact found (some ▸ rfl)
    · refine ⟨_, saveSubscription_record saves cacheFile, ?_, ?_, fun on => absurd on path, fun _ => ?_⟩
      · exact saveSubscription_same.lastUpdated.symm
      · exact saveSubscription_same.lastEtag.symm
      · rw [saveSubscription_same.applied]

/-! #### A 304 -/

variable {line : Option Line} {hash : Hash} {infoStr : Line} {saveSub : SavedBinary Hash}

theorem refresh_lastEtag : (s.refresh options infoStr saveSub).lastEtag = saveSub.lastEtag := by
  rw [refresh]
  split_ifs <;> rfl

theorem refresh_content (s : Remote Options Hash) (infoStr : Line) (saveSub : SavedBinary Hash) {content : Bytes}
    (one : newline ∉ content) (path : ¬ options.path)
    (valid : ∀ text ∈ line, (parseInfo text.1).isSome) (saved : saveSub.content = withLine line content) :
    ∃ next : Option Line, (∀ text ∈ next, (parseInfo text.1).isSome) ∧
      (s.refresh options infoStr saveSub).content = withLine next content := by
  rw [refresh, saved]
  split_ifs with both
  · obtain ⟨found, member⟩ := Bool.and_eq_true_iff.mp both
    rw [contains_iff_mem, newline_mem_withLine_iff one] at member
    obtain ⟨text, rfl⟩ := Option.isSome_iff_exists.mp member
    refine ⟨some infoStr, fun text member => Option.some.inj member ▸ found, ?_⟩
    rw [show withLine (some text) content = text.1 ++ newline :: content from rfl, getFirstLine_line]
    rfl
  · exact ⟨line, valid, saved⟩

theorem refreshRecord_disk (record : s.disk.record = some saveSub) : s.refreshRecord options fetch infoStr =
      s.saveSubscription options fetch (s.refresh options infoStr saveSub) := by
  rw [refreshRecord, record]

theorem stored_saveNotModified (lawful : lib.Lawful) (saves : fetch.Saves modTime) {before : Remote Options Hash}
    {time : Nat} (stored : Stored lib options line time hash before) (disk : s.disk = before.disk)
    (applied : s.applied = before.applied) (etag : s.lastEtag = before.lastEtag) (same : s.hash = before.hash) :
    ∃ next, Stored lib options next modTime before.hash (s.saveNotModified lib options fetch infoStr).1 := by
  by_cases path : options.path
  · rw [saveNotModified, if_pos path, saveCacheFile_of_saves saves]
    refine ⟨(parseInfo infoStr.1).map infoLine, valid_infoLine, fun _ => ⟨rfl, rfl⟩, fun cacheFile => ?_⟩
    obtain ⟨saveSub, record, _, sameEtag, _⟩ := stored.record cacheFile
    rw [← disk] at record
    refine ⟨s.refresh options infoStr saveSub.stored, ?_, ?_, ?_, fun _ => .trans ?_ same, fun off => absurd path off⟩
    · change (s.refreshRecord options fetch infoStr).disk.record = _
      rw [refreshRecord_disk record, saveSubscription_record saves cacheFile]
    · exact refreshRecord_same.lastUpdated.symm
    · refine refresh_lastEtag.trans (sameEtag.trans ?_)
      exact etag.symm.trans refreshRecord_same.lastEtag.symm
    · rw [refresh, if_pos path]
  · rw [saveNotModified, if_neg path]
    by_cases cacheFile : options.cacheFile
    · obtain ⟨saveSub, record, _, sameEtag, _, content⟩ := stored.record cacheFile
      rw [← disk] at record
      obtain ⟨next, valid, refreshed⟩ :=
        s.refresh_content infoStr saveSub.stored (lawful.oneLine before.applied) path stored.valid (content path)
      refine ⟨next, valid, fun on => absurd on path, fun _ => ⟨s.refresh options infoStr saveSub.stored, ?_, ?_, ?_,
        fun on => absurd on path, fun _ => ?_⟩⟩
      · rw [refreshRecord_disk record, saveSubscription_record saves cacheFile]
      · exact refreshRecord_same.lastUpdated.symm
      · refine refresh_lastEtag.trans (sameEtag.trans ?_)
        exact etag.symm.trans refreshRecord_same.lastEtag.symm
      · rw [refreshed, refreshRecord_same.applied, applied]
    · exact ⟨line, stored.valid, fun on => absurd on path, fun on => absurd on cacheFile⟩

end Remote

end

theorem readBody_found {lib : SubscriptionLibrary Options Hash} (infoStr : Line) (body : Bytes) :
    (readBody lib infoStr body).info.isSome → (parseInfo (readBody lib infoStr body).infoStr.1).isSome := by
  rw [readBody]
  cases header : parseInfo infoStr.1 with
  | some info => exact fun _ => Option.isSome_iff_exists.mpr ⟨info, header⟩
  | none =>
    dsimp only
    cases first : parseInfo (getFirstLine (decodeBase64URLSafe lib.rawURLDecode body)).1.1 with
    | some info => exact fun _ => Option.isSome_iff_exists.mpr ⟨info, first⟩
    | none => exact fun some => absurd some Bool.false_ne_true

/-! ### Runs -/

def Fetch.IsModified (fetch : Fetch) : Prop :=
  ∃ etag infoStr body, fetch.answer = .ok etag infoStr body

section

variable [Inhabited Hash] (lib : SubscriptionLibrary Options Hash) (options : RemoteOptions)

def remoteMachine : Machine (Remote Options Hash) Fetch Error := ⟨fun s fetch => s.fetchWith lib options fetch⟩

/-- A fetch that returns nil, and in which everything is saved. -/
def Succeeds (s : Remote Options Hash) (fetch : Fetch) : Prop :=
  (∃ modTime, fetch.Saves modTime) ∧ (s.fetchWith lib options fetch).2 = none

/-- The content that is saved, in the file or else in the record. -/
def Remote.saved (s : Remote Options Hash) : Bytes :=
  if options.path then (s.disk.file.map Prod.fst).getD [] else (s.disk.record.map SavedBinary.content).getD []

/-- **What a new provider needs** to load the same, given the provider before the last fetch and after it. -/
structure Restorable (before : Remote Options Hash) (last : Fetch) (after : Remote Options Hash) : Prop where
  servers : Servers after.applied
  line : newline ∈ after.saved options ∨ parseInfo (lib.marshal after.applied) = none
  unchanged : options.path → options.cacheFile → ∀ infoStr, last.answer = .notModified infoStr →
    before.saved options = withLine ((parseInfo infoStr.1).map infoLine) (lib.marshal before.applied)
  seconds : options.cacheFile → second ∣ after.lastUpdated
  alone : ¬ options.cacheFile → last.file = .done after.lastUpdated ∧ after.lastEtag = []

end

section

variable [Inhabited Hash] {lib : SubscriptionLibrary Options Hash} {options : RemoteOptions}
  {s : Remote Options Hash} {fetch : Fetch} {modTime : Nat} {line : Option Line} {hash : Hash}

theorem Stored.saved_eq (stored : Stored lib options line modTime hash s)
    (saves : options.path ∨ options.cacheFile) : s.saved options = withLine line (lib.marshal s.applied) := by
  rw [saved]
  by_cases path : options.path
  · rw [if_pos path, (stored.file path).1]
    rfl
  · obtain ⟨saveSub, record, _, _, _, content⟩ := stored.record (saves.resolve_left path)
    rw [if_neg path, record]
    exact content path

/-- After a 304 the file has the info of the answer and the options as they were. -/
theorem saved_of_notModified (saves : fetch.Saves modTime) (path : options.path) {infoStr : Line}
    (answer : fetch.answer = .notModified infoStr) : (s.fetchWith lib options fetch).1.saved options =
      withLine ((parseInfo infoStr.1).map infoLine) (lib.marshal s.applied) := by
  rw [fetchWith_of_notModified answer, notModified, saveNotModified, if_pos path, saveCacheFile_of_saves saves, saved,
    if_pos path, refreshRecord_same.applied]
  rfl

theorem stored_of_modified (saves : fetch.Saves modTime) (modified : fetch.IsModified)
    (succeeds : (s.fetchWith lib options fetch).2 = none) :
    ∃ line, Stored lib options line modTime (s.fetchWith lib options fetch).1.hash
      (s.fetchWith lib options fetch).1 := by
  obtain ⟨etag, infoStr, body, answer⟩ := modified
  rw [fetchWith_of_ok answer] at succeeds ⊢
  cases parsed : optionsOf lib options (readBody lib infoStr body).content with
  | error err =>
    rw [modified, parsed] at succeeds
    exact absurd succeeds (Option.some_ne_none err)
  | ok opts =>
    rw [modified, parsed]
    exact stored_saveModified saves (readBody_found infoStr body)

theorem stored_of_not_modified (lawful : lib.Lawful) (saves : fetch.Saves modTime) (kept : ¬ fetch.IsModified)
    (succeeds : (s.fetchWith lib options fetch).2 = none) {time : Nat} (stored : Stored lib options line time hash s) :
    ∃ next, Stored lib options next modTime s.hash (s.fetchWith lib options fetch).1 := by
  cases answer : fetch.answer with
  | failed err =>
    rw [fetchWith, answer] at succeeds
    exact absurd succeeds (Option.some_ne_none err)
  | notModified infoStr =>
    rw [fetchWith_of_notModified answer]
    exact stored_saveNotModified lawful saves stored rfl rfl rfl rfl
  | ok etag infoStr body => exact absurd ⟨etag, infoStr, body, answer⟩ kept

end

section

variable [Inhabited Hash] {lib : SubscriptionLibrary Options Hash} {options : RemoteOptions} (lawful : lib.Lawful)

include lawful

theorem stored_of_run {start : Remote Options Hash} {past : List Fetch} {last : Fetch} {modTime : Nat}
    (begins : ∀ first ∈ (past ++ [last]).head?, first.IsModified) (saves : last.Saves modTime)
    (fetched : (remoteMachine lib options).Along (Succeeds lib options) start (past ++ [last])) :
    let before := (remoteMachine lib options).run start past
    let after := (remoteMachine lib options).run start (past ++ [last])
    (last.IsModified → ∃ line, Stored lib options line modTime after.hash after) ∧
      (¬ last.IsModified → ∃ line time hash next, Stored lib options line time hash before ∧
        Stored lib options next modTime before.hash after) := by
  induction past using reverseRecOn generalizing last modTime with
  | nil =>
    have modified : last.IsModified := begins last rfl
    exact ⟨fun _ => stored_of_modified saves modified fetched.1.2, absurd modified⟩
  | append_singleton past previous ih =>
    intro before after
    obtain ⟨earlier, _, succeeds⟩ := Machine.along_concat _ |>.mp fetched
    have here : after = (before.fetchWith lib options last).1 := Machine.run_concat ..
    rw [here]
    refine ⟨fun modified => stored_of_modified saves modified succeeds, fun kept => ?_⟩
    obtain ⟨_, ⟨time, previousSaves⟩, _⟩ := Machine.along_concat _ |>.mp earlier
    have first : ∀ first ∈ (past ++ [previous]).head?, first.IsModified := by
      intro first member
      apply begins
      rw [head?_append, Option.mem_def.mp member]
      rfl
    obtain ⟨ofModified, ofKept⟩ := ih first previousSaves earlier
    obtain ⟨line, hash, stored⟩ : ∃ line hash, Stored lib options line time hash before := by
      by_cases modified : previous.IsModified
      · obtain ⟨line, stored⟩ := ofModified modified
        exact ⟨line, _, stored⟩
      · obtain ⟨_, _, _, line, _, stored⟩ := ofKept modified
        exact ⟨line, _, stored⟩
    obtain ⟨next, result⟩ := stored_of_not_modified lawful saves kept succeeds stored
    exact ⟨line, time, hash, next, stored, result⟩

variable [DecidableEq Hash]

theorem Stored.restorable_iff {line : Option Line} {modTime : Nat} {hash : Hash} {before after : Remote Options Hash}
    {last : Fetch} (stored : Stored lib options line modTime hash after) (saves : options.path ∨ options.cacheFile)
    (saved : last.Saves modTime) (hashed : options.path → (hash = after.hash ↔
      ∀ infoStr, last.answer = .notModified infoStr →
        before.saved options = withLine ((parseInfo infoStr.1).map infoLine) (lib.marshal before.applied))) :
    after.Restored lib options ↔ Restorable lib options before last after := by
  have lined : newline ∈ after.saved options ↔ line.isSome := by
    rw [stored.saved_eq saves, newline_mem_withLine_iff (lawful.oneLine _)]
  have timed : last.file = .done after.lastUpdated ↔ modTime = after.lastUpdated := by
    rw [saved.1, FileWrite.done.injEq]
  rw [stored.loads_iff lawful saves, ← lined]
  constructor
  · rintro ⟨⟨first, servers⟩, same, seconds, alone⟩
    exact ⟨servers, first, fun path cacheFile => (hashed path).mp (same path cacheFile), seconds,
      fun off => ⟨timed.mpr (alone off).1, (alone off).2.symm⟩⟩
  · rintro ⟨servers, first, unchanged, seconds, alone⟩
    exact ⟨⟨first, servers⟩, fun path cacheFile => (hashed path).mpr (unchanged path cacheFile), seconds,
      fun off => ⟨timed.mp (alone off).1, (alone off).2.symm⟩⟩

/-- **A provider survives a restart** exactly if what the last fetch left is restorable. -/
theorem restored_iff (saves : options.path ∨ options.cacheFile) (start : Remote Options Hash) (past : List Fetch)
    (last : Fetch) (begins : ∀ first ∈ (past ++ [last]).head?, first.IsModified)
    (fetched : (remoteMachine lib options).Along (Succeeds lib options) start (past ++ [last])) :
    ((remoteMachine lib options).run start (past ++ [last])).Restored lib options ↔
      Restorable lib options ((remoteMachine lib options).run start past) last
        ((remoteMachine lib options).run start (past ++ [last])) := by
  obtain ⟨-, ⟨modTime, saved⟩, succeeds⟩ := Machine.along_concat _ |>.mp fetched
  obtain ⟨ofModified, ofKept⟩ := stored_of_run lawful begins saved fetched
  cases answer : last.answer with
  | failed err =>
    rw [fetchWith, answer] at succeeds
    exact absurd succeeds (Option.some_ne_none err)
  | ok etag infoStr body =>
    obtain ⟨line, stored⟩ := ofModified ⟨etag, infoStr, body, answer⟩
    refine stored.restorable_iff lawful saves saved fun _ => iff_of_true rfl fun _ kept => ?_
    rw [answer] at kept
    cases kept
  | notModified infoStr =>
    have kept : ¬ last.IsModified := by
      rintro ⟨_, _, _, modified⟩
      rw [answer] at modified
      cases modified
    obtain ⟨_, _, _, _, earlier, stored⟩ := ofKept kept
    apply stored.restorable_iff lawful saves saved
    intro path
    -- different files have different hashes
    have rewritten : ((remoteMachine lib options).run start (past ++ [last])).saved options =
        withLine ((parseInfo infoStr.1).map infoLine) (lib.marshal ((remoteMachine lib options).run start past).applied) := by
      rw [Machine.run_concat]
      exact saved_of_notModified saved path answer
    rw [(earlier.file path).2, (stored.file path).2, lawful.collisionFree.eq_iff, ← earlier.saved_eq saves,
      ← stored.saved_eq saves, rewritten, answer]
    exact ⟨fun same _ kept => Answer.notModified.inj kept ▸ same, fun same => same infoStr rfl⟩

end

/-! ### A lawful library -/

def fieldsOf (it : OutboundOption Bytes) : List Nat × List Nat × List Nat :=
  (it.type.map UInt8.toNat, it.tag.map UInt8.toNat, it.options.map UInt8.toNat)

def ofFields (fields : List Nat × List Nat × List Nat) : OutboundOption Bytes :=
  ⟨fields.1.map UInt8.ofNat, fields.2.1.map UInt8.ofNat, fields.2.2.map UInt8.ofNat⟩

def codeOf (opts : OptionLists Bytes) : Nat := Encodable.encode (opts.1.map fieldsOf, opts.2.map fieldsOf) + 1

/-- A document with one SOCKS server. -/
def document : Bytes :=
  "\x7b\"outbounds\":[\x7b\"type\":\"socks\",\"tag\":\"a\",\"server\":\"b\",\"server_port\":1080\x7d]\x7d".toUTF8.toList

/-- The options of the document. The fields of the server are kept as they are written. -/
def served : OptionLists Bytes :=
  ([⟨"socks".toUTF8.toList, "a".toUTF8.toList, "\"server\":\"b\",\"server_port\":1080".toUTF8.toList⟩], [])

/-- A library that knows the document. It writes other options as a number behind a brace. -/
def plain : SubscriptionLibrary Bytes Bytes where
  parseSubscription content := if content = document then .ok served else .error (.new "no servers found")
  unmarshal content :=
    if content = document then .ok served
    else
      let code := Nat.ofDigits 10 (content.tail.reverse.map fun byte => (byte - 0x30).toNat) - 1
      match (Encodable.decode code : Option (List (List Nat × List Nat × List Nat) × List (List Nat × List Nat × List Nat))),
          content with
      | some lists, _ :: _ => .ok (lists.1.map ofFields, lists.2.map ofFields)
      | _, _ => .error .eof
  marshal opts := if opts = served then document else 0x7B :: decimal (codeOf opts)
  rawURLDecode text := if text = [] then some [] else none
  makeHash := id

theorem plain_lawful : plain.Lawful where
  inverse opts := by
    have positive : codeOf opts ≠ 0 := Nat.succ_ne_zero _
    have other : 0x7B :: decimal (codeOf opts) ≠ document := by
      intro same
      have quote : 0x22 ∈ decimal (codeOf opts) := by
        have member : (0x22 : UInt8) ∈ 0x7B :: decimal (codeOf opts) := same ▸ by decide +kernel
        exact (mem_cons.mp member).resolve_left (by decide)
      exact notMem_decimal (by decide) _ quote
    by_cases known : opts = served
    · simp [plain, known]
    · simp only [plain, if_neg known, if_neg other, digits_of_decimal positive, Nat.ofDigits_digits, tail_cons]
      rw [codeOf]
      simp [ofFields, fieldsOf, Function.comp_def]
  oneLine opts := by
    simp only [plain]
    split_ifs
    · decide +kernel
    · exact not_mem_cons_of_ne_of_not_mem (by decide) (notMem_decimal (by decide) _)
  object opts := by
    simp only [plain]
    split_ifs
    · decide +kernel
    · exact mem_cons_self
  alphabet text brace := if_neg (ne_nil_of_mem brace)
  decodes_nil := rfl
  noDocument := ⟨.eof, by decide +kernel⟩
  collisionFree := Function.injective_id

def withPathAndCache : RemoteOptions := ⟨true, true, fun _ => true⟩

def totalOne : Line := ⟨[0x74, 0x6F, 0x74, 0x61, 0x6C, 0x3D, 0x31], by decide⟩

def totalTwo : Line := ⟨[0x74, 0x6F, 0x74, 0x61, 0x6C, 0x3D, 0x32], by decide⟩

def firstFetch : Fetch := ⟨.ok [0x65] totalOne document, 0, .done 0, none⟩

def secondFetch (infoStr : Line) : Fetch := ⟨.notModified infoStr, second, .done second, none⟩

/-- With the same info, the file stays as it is and is loaded. -/
theorem restored_with_same_info :
    ((remoteMachine plain withPathAndCache).run {} ([firstFetch] ++ [secondFetch totalOne])).Restored plain
      withPathAndCache := by
  apply (restored_iff plain_lawful (.inl rfl) {} [firstFetch] (secondFetch totalOne) ?_ ?_).mpr
  · have applied : ((remoteMachine plain withPathAndCache).run {} ([firstFetch] ++ [secondFetch totalOne])).applied =
        served := by
      decide +kernel
    refine ⟨?_, .inl (by decide +kernel), ?_, fun _ => ⟨1, by decide +kernel⟩, fun off => absurd rfl off⟩
    · rw [Servers, applied]
      decide +kernel
    · rintro _ _ infoStr ⟨⟩
      decide +kernel
  · rintro first ⟨rfl⟩
    exact ⟨_, _, _, rfl⟩
  · exact ⟨⟨⟨_, rfl, rfl⟩, by decide +kernel⟩, ⟨⟨_, rfl, rfl⟩, by decide +kernel⟩, trivial⟩

/-- With other info, the record has the hash that the file had before, and is not loaded. -/
theorem not_restored_with_other_info : (remoteMachine plain withPathAndCache).Along (Succeeds plain withPathAndCache) {}
        [firstFetch, secondFetch totalTwo] ∧
      ¬ ((remoteMachine plain withPathAndCache).run {} [firstFetch, secondFetch totalTwo]).Restored plain
        withPathAndCache := by
  refine ⟨⟨⟨⟨_, rfl, rfl⟩, by decide +kernel⟩, ⟨⟨_, rfl, rfl⟩, by decide +kernel⟩, trivial⟩, fun restored => ?_⟩
  exact absurd restored.1 (by decide +kernel)

end SingBox.Provider
