/-
**Plugin options** (`transport/sip003/args.go`, and the builder in `provider/parser/clash.go`).

The options of a plugin are keys and values in one string, in which `;`, `=` and backslashes are escaped by a
backslash. The builder for Clash subscriptions escapes nothing.
-/

import SingBox.Subscription.Parse

namespace SingBox.Subscription

open SingBox.Lib Function List

def backslash : UInt8 := 0x5C
def equalSign : UInt8 := 0x3D
def semicolon : UInt8 := 0x3B

/-! ### Parsing -/

/-- The errors of the parser, with the text they quote. -/
inductive ArgsError
  | finalEscape (s : Bytes)
  | emptyKey (s : Bytes)

/-- `Args`; a key that is not there has no values. -/
abbrev Args := Bytes → List Bytes

def Args.add (args : Args) (key value : Bytes) : Args := update args key (args key ++ [value])

/-- The loop of `indexUnescaped`: what is read before a terminator, and what is left from there on. -/
def unescape (term : Bytes) : Bytes → Option (Bytes × Bytes)
  | [] => some ([], [])
  | [b] => if b ∈ term then some ([], [b]) else if b = backslash then none else some ([b], [])
  | b :: next :: s =>
    if b ∈ term then some ([], b :: next :: s)
    else if b = backslash then (unescape term s).map fun read => (next :: read.1, read.2)
    else (unescape term (next :: s)).map fun read => (b :: read.1, read.2)

def indexUnescaped (s term : Bytes) : Except ArgsError (Bytes × Bytes) :=
  (unescape term s).elim (.error (.finalEscape s)) .ok

/-- The loop of `ParsePluginOptions`: each round takes a byte at least, since no key is empty. -/
def parseOptions : (rounds : Nat) → Bytes → Args → Except ArgsError Args
  | 0, _, opts => .ok opts
  | rounds + 1, s, opts =>
    if s = [] then .ok opts
    else do
      let read ← indexUnescaped s [equalSign, semicolon]
      -- the position has not moved yet, so the text quoted is always empty
      if read.1 = [] then .error (.emptyKey [])
      else if read.2.head? = some equalSign then do
        let value ← indexUnescaped (read.2.drop 1) [semicolon]
        parseOptions rounds (value.2.drop 1) (opts.add read.1 value.1)
      else parseOptions rounds (read.2.drop 1) (opts.add read.1 (text "1"))

def parsePluginOptions (s : Bytes) : Except ArgsError Args := parseOptions s.length s fun _ => []

/-! ### What is read back -/

def escape (s : Bytes) : Bytes :=
  s.flatMap fun b => if b = semicolon ∨ b = equalSign ∨ b = backslash then [backslash, b] else [b]

/-- Pairs in one string, with keys and values as `write` has them. -/
def joined (write : Bytes → Bytes) (pairs : List (Bytes × Bytes)) : Bytes :=
  (text ";").intercalate (pairs.map fun pair => write pair.1 ++ text "=" ++ write pair.2)

def Args.addAll (args : Args) (pairs : List (Bytes × Bytes)) : Args :=
  pairs.foldl (fun args pair => args.add pair.1 pair.2) args

def Plain (term s : Bytes) : Prop := s.all fun b => b ∉ term ∧ b ≠ backslash

def Ends (term rest : Bytes) : Prop := ∀ b ∈ rest.head?, b ∈ term

def Reads (term raw value : Bytes) : Prop := ∀ rest, Ends term rest → unescape term (raw ++ rest) = some (value, rest)

variable {term rest value key : Bytes} {opts : Args} {pairs : List (Bytes × Bytes)} {write : Bytes → Bytes} {b : UInt8}

theorem unescape_of_ends (ends : Ends term rest) : unescape term rest = some ([], rest) := by
  fun_cases unescape term rest <;> simp_all [Ends]

theorem unescape_plain (plain : b ∉ term ∧ b ≠ backslash) (s : Bytes) :
    unescape term (b :: s) = (unescape term s).map fun read => (b :: read.1, read.2) := by
  cases s <;> simp [unescape, plain]

theorem reads_plain (plain : Plain term value) : Reads term value value := by
  intro rest ends
  induction value with
  | nil => exact unescape_of_ends ends
  | cons b value ih =>
    rw [Plain, all_cons, Bool.and_eq_true, decide_eq_true_iff] at plain
    rw [cons_append, unescape_plain plain.1, ih plain.2]
    rfl

theorem reads_escape (special : ∀ b ∈ term, b = semicolon ∨ b = equalSign) : Reads term (escape value) value := by
  have plain : backslash ∉ term := fun member => absurd (special _ member) (by decide)
  intro rest ends
  induction value with
  | nil => exact unescape_of_ends ends
  | cons b value ih =>
    rw [escape, flatMap_cons, ← escape, append_assoc]
    split_ifs with escaped
    · rw [cons_append, cons_append, nil_append, unescape, if_neg plain, if_pos rfl, ih]
      rfl
    · have apart : b ∉ term ∧ b ≠ backslash := by grind
      rw [cons_append, nil_append, unescape_plain apart, ih]
      rfl

theorem unescape_escaped (plain : backslash ∉ term) (s : Bytes) :
    unescape term (backslash :: b :: s) = (unescape term s).map fun read => (b :: read.1, read.2) := by
  simp [unescape, plain]

/-- **Only a plain value is read as itself**, and none as itself behind backslashes: each backslash that is read takes two
of the text, so that ever more of them are missing. -/
theorem plain_of_unescape (ends : Ends [semicolon] rest) {missing : Nat} {left : Bytes}
    (read : unescape [semicolon] (value ++ rest) = some (replicate missing backslash ++ value, left)) :
    missing = 0 ∧ Plain [semicolon] value := by
  induction size : value.length using Nat.strong_induction_on generalizing missing value with | _ size ih
  rcases value with _ | ⟨b, value⟩
  · rw [nil_append, unescape_of_ends ends] at read
    obtain ⟨none, -⟩ : missing = 0 ∧ rest = left := by simpa using read
    exact ⟨none, rfl⟩
  by_cases stops : b = semicolon
  · rw [unescape_of_ends (by simp [Ends, stops])] at read
    simp at read
  by_cases escapes : b = backslash
  · subst escapes
    have turned (value : Bytes) : replicate missing backslash ++ backslash :: value =
        backslash :: (replicate missing backslash ++ value) := by
      rw [append_cons, ← replicate_succ', replicate_succ, cons_append]
    rw [turned] at read
    rcases value with _ | ⟨next, value⟩
    · rcases rest with _ | ⟨next, rest⟩
      · cases read
      · obtain rfl : next = semicolon := by simpa [Ends] using ends
        rw [singleton_append, unescape_escaped (by decide)] at read
        obtain ⟨⟨_, _⟩, here, same⟩ := Option.map_eq_some_iff.mp read
        simp [semicolon, backslash] at same
    · rw [cons_append, cons_append, unescape_escaped (by decide)] at read
      obtain ⟨⟨read, left⟩, here, same⟩ := Option.map_eq_some_iff.mp read
      obtain ⟨⟨rfl, rfl⟩, rfl⟩ : (next = backslash ∧ read = _) ∧ left = _ := by simpa using same
      rw [turned, ← cons_append, ← replicate_succ] at here
      exact absurd (ih _ (by grind) here rfl).1 (Nat.succ_ne_zero missing)
  · rw [cons_append, unescape_plain ⟨by simpa using stops, escapes⟩] at read
    obtain ⟨⟨read, left⟩, here, same⟩ := Option.map_eq_some_iff.mp read
    cases missing with
    | zero =>
      cases same
      simpa [Plain, stops, escapes] using ih _ (by grind) (show _ = some (replicate 0 backslash ++ _, _) from here) rfl
    | succ missing => exact absurd (cons.inj (Prod.mk.inj same).1).1 escapes

theorem parseOptions_extends {rounds : Nat} {s : Bytes} {result : Args} (done : parseOptions rounds s opts = .ok result)
    (key : Bytes) : opts key <+: result key := by
  induction rounds generalizing s opts with
  | zero => cases done; exact prefix_rfl
  | succ rounds ih =>
    have grows (name value : Bytes) : opts key <+: opts.add name value key := by
      rw [Args.add]
      by_cases same : key = name
      · rw [same, update_self]
        exact prefix_append ..
      · rw [update_of_ne same]
    rw [parseOptions] at done
    split_ifs at done with empty
    · cases done
      exact prefix_rfl
    · obtain ⟨read, -, done⟩ := bind_eq_ok_iff.mp done
      split_ifs at done with unnamed assigned
      · obtain ⟨value, -, done⟩ := bind_eq_ok_iff.mp done
        exact (grows ..).trans (ih done)
      · exact (grows ..).trans (ih done)

theorem Args.addAll_of_notMem (absent : key ∉ pairs.map Prod.fst) : opts.addAll pairs key = opts key := by
  induction pairs generalizing opts with
  | nil => rfl
  | cons pair pairs ih =>
    rw [map_cons, mem_cons, not_or] at absent
    exact (ih absent.2).trans (update_of_ne absent.1 ..)

theorem joined_cons (write : Bytes → Bytes) (pair : Bytes × Bytes) (pairs : List (Bytes × Bytes)) :
    ∃ rest, Ends [semicolon] rest ∧ rest.drop 1 = joined write pairs ∧
      joined write (pair :: pairs) = write pair.1 ++ equalSign :: (write pair.2 ++ rest) := by
  cases pairs with
  | nil => exact ⟨[], by simp [Ends], rfl, by simp [joined, show text "=" = [equalSign] from rfl]⟩
  | cons next pairs =>
    refine ⟨semicolon :: joined write (next :: pairs), by simp [Ends], rfl, ?_⟩
    simp [joined, show text "=" = [equalSign] from rfl, show text ";" = [semicolon] from rfl]

/-- A round that finds a key and a value. -/
theorem parseOptions_value {raw : Bytes} (named : key ≠ [] ∧ Reads [equalSign, semicolon] raw key) (rounds : Nat)
    (s : Bytes) : parseOptions (rounds + 1) (raw ++ equalSign :: s) opts =
      (indexUnescaped s [semicolon] >>= fun value => parseOptions rounds (value.2.drop 1) (opts.add key value.1)) := by
  rw [parseOptions, indexUnescaped, named.2 _ (by simp [Ends])]
  simp [named.1, bind, Except.bind]

theorem parseOptions_nil (rounds : Nat) : parseOptions rounds [] opts = .ok opts := by
  cases rounds <;> rfl

theorem parseOptions_joined {rounds : Nat} (enough : (joined write pairs).length ≤ rounds)
    (keys : ∀ pair ∈ pairs, pair.1 ≠ [] ∧ Reads [equalSign, semicolon] (write pair.1) pair.1)
    (values : ∀ pair ∈ pairs, Reads [semicolon] (write pair.2) pair.2) :
    parseOptions rounds (joined write pairs) opts = .ok (opts.addAll pairs) := by
  induction pairs generalizing rounds opts with
  | nil => exact parseOptions_nil rounds
  | cons pair pairs ih =>
    obtain ⟨rest, ends, left, eq⟩ := joined_cons write pair pairs
    rw [eq] at enough ⊢
    cases rounds with
    | zero => simp at enough
    | succ rounds =>
      rw [parseOptions_value (keys pair mem_cons_self), indexUnescaped, values pair mem_cons_self rest ends]
      show parseOptions rounds (rest.drop 1) _ = _
      rw [left, ih]
      · rfl
      · have := congrArg length left
        grind
      · exact fun pair member => keys pair (mem_cons_of_mem _ member)
      · exact fun pair member => values pair (mem_cons_of_mem _ member)

/-- If a string is read back then its values are plain: the first that is not is read as another value. -/
theorem plain_of_parseOptions {rounds : Nat} (enough : (joined id pairs).length ≤ rounds)
    (keys : ∀ pair ∈ pairs, pair.1 ≠ [] ∧ Reads [equalSign, semicolon] pair.1 pair.1)
    (distinct : (pairs.map Prod.fst).Nodup)
    (done : parseOptions rounds (joined id pairs) opts = .ok (opts.addAll pairs)) :
    ∀ pair ∈ pairs, Plain [semicolon] pair.2 := by
  induction pairs generalizing rounds opts with
  | nil => exact forall_mem_nil _
  | cons pair pairs ih =>
    obtain ⟨rest, ends, left, eq⟩ := joined_cons id pair pairs
    rw [eq] at enough done
    obtain ⟨other, distinct⟩ := nodup_cons.mp distinct
    cases rounds with
    | zero => simp at enough
    | succ rounds =>
      simp only [id] at done
      rw [parseOptions_value (keys pair mem_cons_self)] at done
      obtain ⟨⟨value, after⟩, found, done⟩ := bind_eq_ok_iff.mp done
      have read : unescape [semicolon] (pair.2 ++ rest) = some (value, after) := by
        rw [indexUnescaped] at found
        cases read : unescape [semicolon] (pair.2 ++ rest) with
        | none => rw [read] at found; cases found
        | some both => rw [read] at found; cases found; rfl
      have same : value = pair.2 := by
        have first := parseOptions_extends done pair.1
        have last : opts.addAll (pair :: pairs) pair.1 = opts pair.1 ++ [pair.2] :=
          (Args.addAll_of_notMem other).trans (update_self ..)
        rw [last, Args.add, update_self, prefix_append_right_inj] at first
        simpa using first
      subst same
      have plain := (plain_of_unescape ends (show _ = some (replicate 0 backslash ++ _, _) from read)).2
      cases read.symm.trans (reads_plain plain _ ends)
      rw [forall_mem_cons]
      refine ⟨plain, ih ?_ (fun pair member => keys pair (mem_cons_of_mem _ member)) distinct (left ▸ done)⟩
      have := congrArg length left
      grind

/-- **What is escaped is read back**, as the same multimap. -/
theorem parsePluginOptions_escape (named : ∀ pair ∈ pairs, pair.1 ≠ []) :
    parsePluginOptions (joined escape pairs) = .ok (Args.addAll (fun _ => []) pairs) := by
  refine parseOptions_joined le_rfl (fun pair member => ⟨named pair member, ?_⟩) fun pair _ => ?_ <;>
    exact reads_escape (by simp)

/-! ### The builder -/

/-- The pairs of a plugin's options that have a value. -/
def writtenPairs (lib : ClashLibrary) (entries : ClashMap lib.Value) : List (Bytes × Bytes) :=
  entries.filterMap fun entry => (entry.2.bind lib.valueText).map (entry.1, ·)

variable {lib : ClashLibrary}

theorem pluginOptions_eq {entries : ClashMap lib.Value} {parts : List (Option Bytes)}
    (printed : entries.mapM (pluginOption lib) = .ok parts) :
    parts.filterMap id = (writtenPairs lib entries).map fun pair => pair.1 ++ text "=" ++ pair.2 := by
  induction entries generalizing parts with
  | nil =>
    rw [← Except.ok.inj printed]
    rfl
  | cons entry entries ih =>
    rw [mapM_cons] at printed
    obtain ⟨part, one, printed⟩ := bind_eq_ok_iff.mp printed
    obtain ⟨rest, others, same⟩ := bind_eq_ok_iff.mp printed
    rw [← Except.ok.inj same, writtenPairs, filterMap_cons, filterMap_cons, ih others]
    obtain ⟨key, value⟩ := entry
    cases value with
    | none =>
      rw [← Except.ok.inj one]
      rfl
    | some value =>
      obtain ⟨text, shown, same⟩ := bind_eq_ok_iff.mp one
      rw [← Except.ok.inj same, Option.bind_some]
      rw [printValue] at shown
      split at shown
      · rename_i printed isText
        rw [isText, Except.ok.inj shown]
        rfl
      · cases shown

theorem fst_writtenPairs_sublist (entries : ClashMap lib.Value) :
    (writtenPairs lib entries).map Prod.fst <+ entries.map Prod.fst := by
  induction entries with
  | nil => exact .refl _
  | cons entry entries ih =>
    rw [writtenPairs, filterMap_cons]
    cases entry.2.bind lib.valueText with
    | none => exact ih.cons _
    | some value => exact ih.cons_cons _

theorem fst_pluginEntries (lib : ClashLibrary) (plugin : Bytes) (opts : ClashMap lib.Value) :
    ((pluginEntries lib plugin opts).map Prod.fst).Nodup ∧ ∀ key ∈ (pluginEntries lib plugin opts).map Prod.fst,
      key ≠ [] ∧ Plain [equalSign, semicolon] key := by
  rw [pluginEntries]
  split_ifs <;> (simp only [map_cons, map_nil, Plain]; decide)

theorem Args.addAll_perm {other : List (Bytes × Bytes)} (distinct : (pairs.map Prod.fst).Nodup) (perm : pairs ~ other) :
    opts.addAll pairs = opts.addAll other := by
  refine perm.foldl_eq' (fun x memX y memY args => ?_) opts
  by_cases same : x.1 = y.1
  · rw [inj_on_of_nodup_map distinct memX memY same]
  · simp only [add, update_of_ne same, update_of_ne (.symm same), update_comm same]

/-- **Plugin options are read back**, both those of the builder and escaped ones, exactly if no value that the builder
writes has a `;` or a backslash. -/
theorem clashPluginOptions_parsed_iff (lib : ClashLibrary) (plugin : Bytes) (opts : ClashMap lib.Value) {built : Bytes}
    (done : clashPluginOptions lib plugin opts = .ok built) :
    (parsePluginOptions built = .ok (Args.addAll (fun _ => []) (writtenPairs lib (pluginEntries lib plugin opts))) ∧
        ∀ pairs : List (Bytes × Bytes), (∀ pair ∈ pairs, pair.1 ≠ []) →
          parsePluginOptions (joined escape pairs) = .ok (Args.addAll (fun _ => []) pairs)) ↔
      ∀ pair ∈ writtenPairs lib (pluginEntries lib plugin opts), Plain [semicolon] pair.2 := by
  obtain ⟨parts, printed, same⟩ := bind_eq_ok_iff.mp done
  obtain ⟨distinct, plain⟩ := fst_pluginEntries lib plugin opts
  have perm := lib.order.perm (pluginEntries lib plugin opts)
  have written : writtenPairs lib (lib.order.arrange (pluginEntries lib plugin opts)) ~
      writtenPairs lib (pluginEntries lib plugin opts) := perm.filterMap _
  have sub := fst_writtenPairs_sublist (lib.order.arrange (pluginEntries lib plugin opts))
  have once := sub.nodup ((perm.map _).nodup_iff.mpr distinct)
  rw [and_iff_left fun _ => parsePluginOptions_escape, ← Except.ok.inj same, pluginOptions_eq printed,
    ← Args.addAll_perm once written]
  have keys : ∀ pair ∈ writtenPairs lib (lib.order.arrange (pluginEntries lib plugin opts)),
      pair.1 ≠ [] ∧ Reads [equalSign, semicolon] pair.1 pair.1 := by
    intro pair member
    have key := plain pair.1 ((perm.map _).subset (sub.subset (mem_map_of_mem member)))
    exact ⟨key.1, reads_plain key.2⟩
  simp only [← written.mem_iff]
  show parsePluginOptions (joined id _) = _ ↔ _
  exact ⟨plain_of_parseOptions le_rfl keys once,
    fun values => parseOptions_joined le_rfl keys fun pair member => reads_plain (values pair member)⟩

/-- Libraries whose option values are texts. -/
def textValues : ClashLibrary := { numberOfOutbounds.toClashLibrary with
  Value := Bytes, valueText := some, decodeOptions := fun _ _ => .error .invalid }

/-- A value may have a `=`. -/
theorem clashPluginOptions_parsed_plain :
    parsePluginOptions (text "obfs=http;obfs-host=a=b") =
      .ok (Args.addAll (fun _ => []) [(text "obfs", text "http"), (text "obfs-host", text "a=b")]) :=
  ((clashPluginOptions_parsed_iff textValues (text "obfs") [(text "mode", some (text "http")),
    (text "host", some (text "a=b"))] rfl).mpr (by simp only [Plain]; decide)).1

/-- A host with a `;` is cut off there. -/
theorem clashPluginOptions_parsed_wrong :
    clashPluginOptions textValues (text "obfs") [(text "host", some (text "a;b"))] =
      .ok (text "obfs-host=a;b") ∧
    (parsePluginOptions (text "obfs-host=a;b")).map (· (text "obfs-host")) = .ok [text "a"] :=
  ⟨rfl, rfl⟩

end SingBox.Subscription
