/-
**Connections that are returned before their response** (`HTTP2Conn` of `transport/v2rayhttp` and `GunConn` of
`transport/v2raygrpclite`, which do the same here).

The goroutine of the round trip publishes the reader and closes `create`; only `Read` waits for that. `Close` closes the
reader that it finds, and nobody closes one that comes later. `lateConns_released_iff`: all calls of `Read` are released
and the body is closed exactly if `Close` does not come before the response.

`Setup` is one step: who looks between its assignments sees what it would see after them, or waits for `create`.
-/

import SingBox.Lib.Machine

namespace SingBox.V2rayHttp

open SingBox.Lib

/-- How the round trip ends: with status 200, with another one, or with an error. -/
inductive RoundTrip where
  | ok
  | status
  | error

/-- `waiting` are the calls of `Read` that wait for `create`, and `body` is whether the response's body is closed. -/
structure LateConn where
  (reader create : Bool := false)
  waiting : List Nat := []
  closed : Bool := false
  body : Option Bool := none

inductive LateEvent where
  | read (call : Nat)
  | roundTrip (result : RoundTrip)
  | close

namespace LateConn

variable (c : LateConn)

def read (call : Nat) : LateConn := if c.reader || c.create then c else { c with waiting := call :: c.waiting }

/-- The end of the goroutine that `dialHTTP2` and `DialContext` start, with `Setup`. -/
def roundTrip : RoundTrip → LateConn
  | .ok => { c with reader := true, create := true, waiting := [], body := some false }
  | .status => { c with create := true, waiting := [], body := some true }
  | .error => { c with create := true, waiting := [] }

def close : LateConn := { c with closed := true, body := if c.reader then some true else c.body }

def step : LateEvent → LateConn
  | .read call => c.read call
  | .roundTrip result => if c.create then c else c.roundTrip result
  | .close => c.close

/-- **No call waits** after `Close` or the round trip, and after both the body is closed. -/
def Released : Prop := (c.closed ∨ c.create → c.waiting = []) ∧ (c.closed → c.create → c.body ≠ some false)

/-- What comes before the response is no `Close` that a `Read` or a successful response meets. -/
def Orderly : LateEvent → Prop
  | .read _ => c.closed → c.create
  | .roundTrip .ok => c.closed → c.create
  | .roundTrip _ => True
  | .close => c.waiting = []

def Sound : Prop := c.Released ∧ (c.reader → c.create) ∧ (c.body = some false → c.reader)

variable {c}

theorem Sound.released_iff (sound : c.Sound) (event : LateEvent) : (c.step event).Released ↔ c.Orderly event := by
  obtain ⟨⟨free, body⟩, published, opened⟩ := sound
  cases event with
  | read call =>
    simp only [step, read, Orderly]
    split_ifs with there
    · have created : c.create = true := by grind
      exact iff_of_true ⟨free, body⟩ fun _ => created
    · simp_all [Released]
  | roundTrip result =>
    simp only [step]
    split_ifs with done
    · cases result <;> simp_all [Released, Orderly]
    · cases result <;> simp_all [Released, Orderly, roundTrip]
  | close =>
    simp only [step, close, Orderly, Released]
    split_ifs <;> simp_all

theorem Sound.step (sound : c.Sound) (event : LateEvent) (orderly : c.Orderly event) : (c.step event).Sound := by
  refine ⟨(sound.released_iff event).mpr orderly, ?_⟩
  obtain ⟨-, published, opened⟩ := sound
  cases event with
  | read call =>
    simp only [LateConn.step, read]
    split_ifs <;> exact ⟨published, opened⟩
  | roundTrip result =>
    simp only [LateConn.step]
    split_ifs
    · exact ⟨published, opened⟩
    · cases result <;> simp_all [roundTrip]
  | close =>
    simp only [LateConn.step, close]
    split_ifs <;> simp_all

end LateConn

def lateConns : Machine LateConn LateEvent Unit where
  step c event := (c.step event, none)

/-- **The stream is released** along a run exactly if `Close` comes when no `Read` waits, and no `Read` or successful
response comes between it and the end of the round trip. -/
theorem lateConns_released_iff (events : List LateEvent) :
    lateConns.Along (fun c event => (c.step event).Released) {} events ↔ lateConns.Along LateConn.Orderly {} events :=
  Machine.along_iff_of_invariant LateConn.Sound (fun _ event sound _ => sound.released_iff event)
    (fun _ event sound _ => sound.step event) ⟨by simp [LateConn.Released], by simp, by simp⟩
    (lateConns.along_of_forall (fun _ _ => trivial) {} events)

/-- The response comes after `Close`: its body stays open. And a `Read` that waits is not released by `Close`. -/
theorem lateConns_leak :
    ¬ lateConns.Along (fun c event => (c.step event).Released) {} [.close, .roundTrip .ok] ∧
      ¬ lateConns.Along (fun c event => (c.step event).Released) {} [.read 0, .close] := by
  refine ⟨fun along => ?_, fun along => ?_⟩
  · exact along.2.1.2 rfl rfl rfl
  · exact absurd (along.2.1.1 (.inl rfl)) (by decide)

end SingBox.V2rayHttp
