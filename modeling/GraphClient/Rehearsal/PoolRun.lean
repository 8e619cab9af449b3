import GraphClient.Client
import GraphClient.Rehearsal.Clock
import GraphClient.Rehearsal.Server

/-!
# Pools before a scripted server

A pool, or a client of it, run on a virtual clock through a list of deeds at given times. The run
takes steps of the pool only; the script decides what its channels do, and of several steps that
could be taken the first in a fixed order is.
-/

namespace GraphClient.Rehearsal

/-- A pool and its channels, one for each session. -/
structure PoolWorld where
  pool : Pool
  script : ServerScript
  channels : Array ScriptedChannel
  /-- Requests so far. -/
  requests : Nat
  /-- Calls that have returned, with the times of their returns. -/
  returns : List (Nat × Nat)

namespace PoolWorld

def time (w : PoolWorld) : Nat := w.pool.now.millis

/-- The outcome that a call has returned with. -/
def returned? (pool : Pool) (call : Nat) : Option Outcome :=
  pool.calls[call]?.bind (·.phase.outcome?)

/-- The call that an event has ended. -/
def endedCall? (pool : Pool) : Pool.Event → Option Nat
  | .call i | .expire i => if (returned? pool i).isSome then some i else none
  | _ => none

/-- The world after an event of the pool; a request that begins gets an identifier of its own. -/
def act? (w : PoolWorld) (event : Pool.Event) : Option PoolWorld := do
  let (event, requests) := match event with
    | .begin i _ => (.begin i (freshId w.requests), w.requests + 1)
    | event => (event, w.requests)
  let pool ← w.pool.step? event
  let returns := match endedCall? pool event with
    | some i => (i, w.time) :: w.returns
    | none => w.returns
  some { w with pool, requests, returns }

/-- The channel of a session does what the session waits for. -/
def serve? (w : PoolWorld) (i : Nat) : Option PoolWorld := do
  let s ← w.pool.sessions[i]?
  let ch ← w.channels[i]?
  let (event, ch) ← ch.serve? w.script w.pool.config w.time s
  { w with channels := w.channels.setIfInBounds i ch }.act? (.session i event)

def next? (w : PoolWorld) : Option PoolWorld :=
  w.pool.internalEvents.findSome? w.act? <|>
    (List.range w.channels.size).findSome? w.serve? <|>
    w.pool.timerEvents.findSome? w.act?

def due? (w : PoolWorld) : Option Nat :=
  earliestAfter w.time
    (w.pool.deadlines.map Instant.ceilMillis ++
      (w.pool.sessions.zip w.channels).toList.filterMap fun (s, ch) => ch.due? s)

def mechanism : Mechanism PoolWorld :=
  { time
    next?
    due?
    moveTo := fun time w => (w.act? (.advance (.ofMillis time))).getD w }

/-- The world once all channels are open or given up. -/
def connect (config : ClientConfig) (script : ServerScript) : PoolWorld :=
  let w : PoolWorld :=
    { pool := Pool.opening config (.ofMillis 0)
      script
      channels := (Array.range config.poolSize).map fun i =>
        ScriptedChannel.opening script i 0 config.address.url
      requests := 0
      returns := [] }
  mechanism.runUntil (·.pool.ready) Mechanism.ample w

end PoolWorld

/-- What is asked of a pool or a client. -/
inductive PoolDeed where
  | query (q : Query) (timeout : Option Duration)
  | close
  | metrics
  | isOpen
  | inspect
  | settings

/-- What came of a deed at once. A query that is under way is known by the number of its call. -/
inductive PoolReport where
  | called (call : Nat)
  | refused (e : ClientError) (time : Nat)
  /-- The clock cannot show the deadlines of the call. -/
  | untimed
  | closed
  | metrics (m : PoolMetrics)
  | isOpen (b : Bool)
  | text (text : String)
  | settings (url : String) (poolSize : Nat)

namespace PoolWorld

/-- A query of a client, or of a pool. -/
def query (w : PoolWorld) (viaClient : Bool) (q : Query) (timeout : Option Duration) :
    PoolReport × PoolWorld :=
  let number := w.pool.calls.size
  if viaClient then
    match Client.query ⟨w.pool⟩ q timeout with
    | .ok c =>
      if w.pool.showsDeadlines (timeout.getD w.pool.config.queryTimeout) then
        (.called number, { w with pool := c.pool })
      else (.untimed, w)
    | .error e => (.refused e w.time, w)
  else
    match w.act? (.arrive q.toScript (timeout.getD .longest)) with
    | some w => (.called number, w)
    | none => (.untimed, w)

/-- The world once the pool is closed. -/
def close (w : PoolWorld) (viaClient : Bool) : PoolWorld :=
  let w :=
    if viaClient then { w with pool := (Client.close ⟨w.pool⟩).pool } else (w.act? .close).getD w
  mechanism.runUntil (fun w => w.pool.closers.all (· == .done)) Mechanism.ample w

def perform (w : PoolWorld) (viaClient : Bool) : PoolDeed → PoolReport × PoolWorld
  | .query q timeout => w.query viaClient q timeout
  | .close => (.closed, w.close viaClient)
  | .metrics => (.metrics w.pool.metrics, w)
  | .isOpen => (.isOpen w.pool.isOpen, w)
  | .inspect =>
    (.text (if viaClient then (Client.mk w.pool).debugText else w.pool.debugText), w)
  | .settings => (.settings w.pool.config.address.url w.pool.config.poolSize, w)

/-- Deeds, each at its time or at once. What can happen at that instant happens before and
after. -/
def performAll (viaClient : Bool) (w : PoolWorld) :
    List (Option Nat × PoolDeed) → List PoolReport × PoolWorld
  | [] => ([], w)
  | (time, deed) :: rest =>
    let w := mechanism.runTo (time.getD w.time) Mechanism.ample w
    let (report, w) := w.perform viaClient deed
    let w := mechanism.settle Mechanism.ample w
    let (reports, w) := performAll viaClient w rest
    (report :: reports, w)

/-- The world once all calls have returned and some time has passed. -/
def finish (w : PoolWorld) (millis : Nat) : PoolWorld :=
  let w := mechanism.runUntil (·.pool.calls.all (·.phase.isOver)) Mechanism.ample w
  mechanism.runTo (w.time + millis) Mechanism.ample w

/-- The outcome of a call and the time of its return. -/
def outcome? (w : PoolWorld) (call : Nat) : Option (Outcome × Nat) := do
  let outcome ← returned? w.pool call
  let time ← List.lookup call w.returns
  some (outcome, time)

end PoolWorld

end GraphClient.Rehearsal
