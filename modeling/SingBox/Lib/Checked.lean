/-
**Computations with run-time checks.**

A `Checked` computation returns a value or an error, or it does not return at all: an index or a slice out of bounds
stops it with a panic, and a loop may go on for ever. `Meets post` says that it returns, and that a value that it
returns meets the postcondition. The rules are equivalences, so that they find the exact condition under which a
computation returns. `PanicsUnless` is for computations without errors, which have a value or panic.
-/

import SingBox.Lib.Loop
import Mathlib.Tactic

namespace SingBox.Lib

open List

theorem bind_eq_ok_iff {ε α β : Type} {first : Except ε α} {next : α → Except ε β} {result : β} :
    first >>= next = .ok result ↔ ∃ value, first = .ok value ∧ next value = .ok result := by
  cases first with
  | ok value =>
    refine ⟨fun done => ⟨value, rfl, done⟩, ?_⟩
    rintro ⟨other, same, done⟩
    rw [Except.ok.inj same]
    exact done
  | error error =>
    refine ⟨fun impossible => ?_, ?_⟩
    · exact nomatch impossible
    · rintro ⟨value, impossible, -⟩
      exact nomatch impossible

theorem forall₂_of_mapM_eq_ok {ε α β : Type} {f : α → Except ε β} {xs : List α} {ys : List β}
    (done : xs.mapM f = .ok ys) : List.Forall₂ (fun x y => f x = .ok y) xs ys := by
  induction xs generalizing ys with
  | nil =>
    rw [← Except.ok.inj done]
    exact .nil
  | cons x xs ih =>
    rw [mapM_cons] at done
    obtain ⟨y, first, done⟩ := bind_eq_ok_iff.mp done
    obtain ⟨more, rest, done⟩ := bind_eq_ok_iff.mp done
    rw [← Except.ok.inj done]
    exact .cons first (ih rest)

theorem forall_of_mapM_eq_ok {ε α β : Type} {post : β → Prop} {f : α → Except ε β} {xs : List α} {ys : List β}
    (each : ∀ x ∈ xs, ∀ y, f x = .ok y → post y) (done : xs.mapM f = .ok ys) : ∀ y ∈ ys, post y := by
  intro y member
  obtain ⟨x, found, result⟩ := exists_of_forall₂ (forall₂_of_mapM_eq_ok done) member
  exact each x found y result

/-- How a computation can end other than with a value. -/
inductive Fault (ε : Type) where
  | error (error : ε)
  | panic
  | loops
  deriving DecidableEq

abbrev Checked (ε α : Type) := Except (Fault ε) α

namespace Checked

variable {ε α β : Type}

def fail (error : ε) : Checked ε α := .error (.error error)

def ensure (condition : Prop) [Decidable condition] (error : ε) : Checked ε Unit :=
  if condition then .ok () else fail error

/-- `xs[i]`. -/
def elem (xs : List α) (i : Nat) : Checked ε α :=
  if bound : i < xs.length then .ok xs[i] else .error .panic

/-- `xs[low:high]`. -/
def slice (xs : List α) (low high : Nat) : Checked ε (List α) :=
  if low ≤ high ∧ high ≤ xs.length then .ok ((xs.take high).drop low) else .error .panic

/-- `xs[low:]`. -/
def sliceFrom (xs : List α) (low : Nat) : Checked ε (List α) := slice xs low xs.length

/-- A type assertion, given the value if it is of the type. -/
def asserted : Option α → Checked ε α
  | some value => .ok value
  | none => .error .panic

def attempt {δ : Type} : Checked ε α → Checked δ (Except ε α)
  | .ok value => .ok (.ok value)
  | .error (.error error) => .ok (.error error)
  | .error .panic => .error .panic
  | .error .loops => .error .loops

/-- The computation returns, and a value that it returns meets `post`. -/
def Meets (post : α → Prop) : Checked ε α → Prop
  | .ok value => post value
  | .error (.error _) => True
  | .error .panic | .error .loops => False

abbrev Returns (computation : Checked ε α) : Prop := Meets (fun _ => True) computation

section Rules

variable {post : α → Prop} {post' : β → Prop}

@[simp] theorem meets_ok {value : α} : Meets post (.ok value : Checked ε α) ↔ post value := Iff.rfl

@[simp] theorem meets_pure {value : α} : Meets post (pure value : Checked ε α) ↔ post value := Iff.rfl

@[simp] theorem meets_fail (error : ε) : Meets post (fail error : Checked ε α) := trivial

@[simp] theorem not_meets_panic : ¬ Meets post (.error .panic : Checked ε α) := id

@[simp] theorem not_meets_loops : ¬ Meets post (.error .loops : Checked ε α) := id

variable {computation : Checked ε α}

theorem Meets.of_ok {value : α} (meets : Meets post computation) (done : computation = .ok value) : post value := by
  rw [done] at meets
  exact meets

theorem Meets.fails_or_ok (meets : Meets post computation) :
    (∃ error, computation = fail error) ∨ ∃ value, computation = .ok value ∧ post value := by
  cases computation with
  | ok value => exact .inr ⟨value, rfl, meets⟩
  | error fault =>
    cases fault with
    | error error => exact .inl ⟨error, rfl⟩
    | panic | loops => exact meets.elim

theorem ensure_eq_ok_iff {condition : Prop} [Decidable condition] {error : ε} {value : Unit} :
    (ensure condition error : Checked ε Unit) = .ok value ↔ condition := by
  by_cases holds : condition
  · rw [ensure, if_pos holds]
    exact iff_of_true rfl holds
  · rw [ensure, if_neg holds]
    exact iff_of_false (fun impossible => by cases impossible) holds

theorem sliceFrom_eq_ok {xs : List α} {low : Nat} (inside : low ≤ xs.length) :
    (sliceFrom xs low : Checked ε (List α)) = .ok (xs.drop low) := by
  rw [sliceFrom, slice, if_pos ⟨inside, le_refl _⟩, take_length]

theorem Meets.weaken {other : α → Prop} (meets : Meets post computation)
    (weaker : ∀ value, post value → other value) : Meets other computation := by
  cases computation with
  | ok value => exact weaker value meets
  | error fault =>
    cases fault with
    | error error => trivial
    | panic | loops => exact meets.elim

theorem Meets.iff_forall_ok (returns : Returns computation) :
    Meets post computation ↔ ∀ value, computation = .ok value → post value := by
  rcases returns.fails_or_ok with ⟨error, failed⟩ | ⟨value, done, -⟩
  · rw [failed]
    exact iff_of_true trivial fun value same => by cases same
  · rw [done]
    exact ⟨fun it other same => Except.ok.inj same ▸ it, fun it => it value rfl⟩

/-- **Sequencing.** -/
theorem meets_bind_iff {first : Checked ε α} {next : α → Checked ε β} :
    Meets post' (first >>= next) ↔ Meets (fun value => Meets post' (next value)) first := by
  cases first with
  | ok value => exact .rfl
  | error fault => cases fault <;> exact .rfl

theorem meets_ensure_iff {condition : Prop} [Decidable condition] {error : ε} {post : Unit → Prop} :
    Meets post (ensure condition error) ↔ (condition → post ()) := by
  by_cases holds : condition
  · rw [ensure, if_pos holds]
    exact ⟨fun it _ => it, fun it => it holds⟩
  · rw [ensure, if_neg holds]
    exact iff_of_true trivial fun it => absurd it holds

theorem meets_elem_iff {xs : List α} {i : Nat} :
    Meets post (elem xs i : Checked ε α) ↔ ∃ bound : i < xs.length, post xs[i] := by
  by_cases bound : i < xs.length
  · rw [elem, dif_pos bound]
    exact ⟨fun it => ⟨bound, it⟩, fun it => it.2⟩
  · rw [elem, dif_neg bound]
    exact iff_of_false not_meets_panic fun it => bound it.1

theorem meets_slice_iff {xs : List α} {low high : Nat} {post : List α → Prop} :
    Meets post (slice xs low high : Checked ε (List α)) ↔
      (low ≤ high ∧ high ≤ xs.length) ∧ post ((xs.take high).drop low) := by
  by_cases bound : low ≤ high ∧ high ≤ xs.length
  · rw [slice, if_pos bound]
    exact ⟨fun it => ⟨bound, it⟩, fun it => it.2⟩
  · rw [slice, if_neg bound]
    exact iff_of_false not_meets_panic fun it => bound it.1

theorem meets_sliceFrom_iff {xs : List α} {low : Nat} {post : List α → Prop} :
    Meets post (sliceFrom xs low : Checked ε (List α)) ↔ low ≤ xs.length ∧ post (xs.drop low) := by
  rw [sliceFrom, meets_slice_iff, take_length]
  exact ⟨fun it => ⟨it.1.1, it.2⟩, fun it => ⟨⟨it.1, le_refl _⟩, it.2⟩⟩

/-! The same rules, for the first step of a sequence. -/

section First

variable {γ : Type} {next : γ → Checked ε β}

theorem Meets.ensure {condition : Prop} [Decidable condition] {error : ε} {next : Unit → Checked ε β}
    (rest : condition → Meets post' (next ())) : Meets post' (Checked.ensure condition error >>= next) :=
  meets_bind_iff.mpr (meets_ensure_iff.mpr rest)

theorem Meets.elem {xs : List γ} {i : Nat} (bound : i < xs.length) (rest : Meets post' (next xs[i])) :
    Meets post' (Checked.elem xs i >>= next) :=
  meets_bind_iff.mpr (meets_elem_iff.mpr ⟨bound, rest⟩)

theorem Meets.slice {xs : List γ} {low high : Nat} {next : List γ → Checked ε β} (order : low ≤ high)
    (bound : high ≤ xs.length) (rest : Meets post' (next ((xs.take high).drop low))) :
    Meets post' (Checked.slice xs low high >>= next) :=
  meets_bind_iff.mpr (meets_slice_iff.mpr ⟨⟨order, bound⟩, rest⟩)

theorem Meets.sliceFrom {xs : List γ} {low : Nat} {next : List γ → Checked ε β} (bound : low ≤ xs.length)
    (rest : Meets post' (next (xs.drop low))) : Meets post' (Checked.sliceFrom xs low >>= next) :=
  meets_bind_iff.mpr (meets_sliceFrom_iff.mpr ⟨bound, rest⟩)

end First

theorem meets_asserted_iff {found : Option α} :
    Meets post (asserted found : Checked ε α) ↔ ∃ value, found = some value ∧ post value := by
  cases found with
  | some value =>
    refine ⟨fun it => ⟨value, rfl, it⟩, ?_⟩
    rintro ⟨other, same, it⟩
    rw [Option.some.inj same]
    exact it
  | none =>
    refine iff_of_false id ?_
    rintro ⟨value, same, -⟩
    cases same

theorem meets_attempt_const_iff {δ : Type} {rest : Prop} :
    Meets (fun _ => rest) (attempt computation : Checked δ (Except ε α)) ↔ Returns computation ∧ rest := by
  cases computation with
  | ok value => exact ⟨fun it => ⟨trivial, it⟩, And.right⟩
  | error fault =>
    cases fault with
    | error error => exact ⟨fun it => ⟨trivial, it⟩, And.right⟩
    | panic | loops => exact iff_of_false id fun it => it.1

theorem eq_ok_of_attempt {δ : Type} {value : α}
    (done : (attempt computation : Checked δ (Except ε α)) = .ok (.ok value)) : computation = .ok value := by
  cases computation with
  | ok other => rw [Except.ok.inj (Except.ok.inj done)]
  | error fault => cases fault <;> cases done

theorem meets_mapM {f : α → Checked ε β} {xs : List α} (each : ∀ x ∈ xs, Meets post' (f x)) :
    Meets (fun ys => ∀ y ∈ ys, post' y) (xs.mapM f) := by
  induction xs with
  | nil => exact forall_mem_nil _
  | cons x xs ih =>
    rw [mapM_cons, meets_bind_iff]
    refine (each x mem_cons_self).weaken fun y here => ?_
    rw [meets_bind_iff]
    refine (ih fun other member => each other (mem_cons_of_mem _ member)).weaken fun ys there => ?_
    exact forall_mem_cons.mpr ⟨here, there⟩

theorem bind_eq_loops_iff {first : Checked ε α} {next : α → Checked ε β} : first >>= next = .error .loops ↔
      first = .error .loops ∨ ∃ value, first = .ok value ∧ next value = .error .loops := by
  cases first with
  | ok value | error fault => simp [bind, Except.bind]

@[simp] theorem ensure_ne_loops (condition : Prop) [Decidable condition] (error : ε) :
    ensure condition error ≠ .error .loops := by
  unfold ensure fail
  split <;> simp

@[simp] theorem elem_ne_loops (xs : List α) (i : Nat) : (elem xs i : Checked ε α) ≠ .error .loops := by
  unfold elem
  split <;> simp

@[simp] theorem slice_ne_loops (xs : List α) (low high : Nat) :
    (slice xs low high : Checked ε (List α)) ≠ .error .loops := by
  unfold slice
  split <;> simp

end Rules

/-! ### Computations without errors -/

/-- The computation has a value if the condition holds, and panics if not. -/
structure PanicsUnless (safe : Prop) (computation : Checked ε α) : Prop where
  ok : safe → ∃ value, computation = .ok value
  panic : ¬ safe → computation = .error .panic

namespace PanicsUnless

variable {safe safe' : Prop} {computation : Checked ε α}

section

variable (it : PanicsUnless safe computation)

include it

theorem returns_iff : Returns computation ↔ safe := by
  by_cases holds : safe
  · obtain ⟨value, done⟩ := it.ok holds
    rw [done]
    exact iff_of_true trivial holds
  · rw [it.panic holds]
    exact iff_of_false id holds

theorem meets_iff {post : α → Prop} (all : ∀ value, computation = .ok value → post value) :
    Meets post computation ↔ safe := by
  rw [← it.returns_iff]
  exact ⟨fun meets => meets.weaken fun _ _ => trivial, fun returns => (Meets.iff_forall_ok returns).mpr all⟩

omit it in
theorem of_ok {value : α} (holds : safe) : PanicsUnless safe (.ok value : Checked ε α) :=
  ⟨fun _ => ⟨value, rfl⟩, fun fails => absurd holds fails⟩

omit it in
theorem value (value : α) : PanicsUnless True (.ok value : Checked ε α) := .of_ok trivial

theorem congr (same : safe ↔ safe') : PanicsUnless safe' computation :=
  ⟨fun holds => it.ok (same.mpr holds), fun fails => it.panic fun holds => fails (same.mp holds)⟩

theorem bind {next : α → Checked ε β} (after : ∀ value, PanicsUnless safe' (next value)) :
    PanicsUnless (safe ∧ safe') (computation >>= next) := by
  constructor
  · rintro ⟨first, second⟩
    obtain ⟨value, done⟩ := it.ok first
    rw [done]
    exact (after value).ok second
  · intro fails
    by_cases first : safe
    · obtain ⟨value, done⟩ := it.ok first
      rw [done]
      exact (after value).panic fun second => fails ⟨first, second⟩
    · rw [it.panic first]
      rfl

theorem map {f : α → β} : PanicsUnless safe (computation >>= fun value => .ok (f value)) :=
  (it.bind fun value => .value (f value)).congr (and_iff_left trivial)

end

theorem foldlM {σ : Type} {step : σ → α → Checked ε σ} {init : σ} {xs : List α} {safe : α → Prop}
    (round : ∀ state, ∀ x ∈ xs, PanicsUnless (safe x) (step state x)) :
    PanicsUnless (∀ x ∈ xs, safe x) (xs.foldlM step init) := by
  induction xs generalizing init with
  | nil => exact .of_ok (forall_mem_nil _)
  | cons x xs ih =>
    refine ((round init x mem_cons_self).bind fun next => ih fun state other member => ?_).congr forall_mem_cons.symm
    exact round state other (mem_cons_of_mem _ member)

theorem mapM {f : α → Checked ε β} {xs : List α} {safe : α → Prop}
    (round : ∀ x ∈ xs, PanicsUnless (safe x) (f x)) : PanicsUnless (∀ x ∈ xs, safe x) (xs.mapM f) := by
  induction xs with
  | nil => exact .of_ok (forall_mem_nil _)
  | cons x xs ih =>
    rw [mapM_cons]
    refine ((round x mem_cons_self).bind fun y => ?_).congr forall_mem_cons.symm
    exact (ih fun other member => round other (mem_cons_of_mem _ member)).map

end PanicsUnless

end Checked

end SingBox.Lib
