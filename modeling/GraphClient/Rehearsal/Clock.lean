/-!
# Virtual clock

A world that is run on a clock of whole milliseconds. Everything that can happen at an instant
happens before time goes on, and then the clock jumps to the next instant that something waits for.
-/

namespace GraphClient.Rehearsal

/-- How a world of some kind moves. -/
structure Mechanism (σ : Type) where
  /-- The time in milliseconds. -/
  time : σ → Nat
  /-- The next thing that can happen at this instant. -/
  next? : σ → Option σ
  /-- The next later time that something waits for. -/
  due? : σ → Option Nat
  /-- The world at a later time. -/
  moveTo : Nat → σ → σ

namespace Mechanism

variable {σ : Type} (m : Mechanism σ)

/-- Everything that can happen at this instant. -/
def settle : (fuel : Nat) → σ → σ
  | 0, w => w
  | fuel + 1, w =>
    match m.next? w with
    | some w => settle fuel w
    | none => w

/-- Everything that can happen up to a time and at that time. -/
def runTo (time : Nat) : (fuel : Nat) → σ → σ
  | 0, w => w
  | fuel + 1, w =>
    let w := m.settle fuel w
    if time ≤ m.time w then w
    else
      let stop := match m.due? w with
        | some due => min due time
        | none => time
      runTo time fuel (m.moveTo stop w)

/-- Everything that can happen until something is so, or until nothing more can happen. -/
def runUntil (done : σ → Bool) : (fuel : Nat) → σ → σ
  | 0, w => w
  | fuel + 1, w =>
    let w := m.settle fuel w
    if done w then w
    else
      match m.due? w with
      | some due => runUntil done fuel (m.moveTo due w)
      | none => w

/-- More steps than any run takes. -/
def ample : Nat := Nat.pow 10 12

end Mechanism

end GraphClient.Rehearsal
