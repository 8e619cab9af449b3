import GraphClient.Pool.Semaphore
import GraphClient.Session.Step

/-!
# Session pools

A pool has a fixed number of sessions and lends each to one request at a time. A caller waits for a
permit, takes the first idle session, and lets a task of its own serve the request: if the caller
gives up, the task goes on until the answer is complete or a second deadline has passed. The task
then gives the session back, or discards it if it is disconnected.

Callers, tasks and closers are programs that run beside one another. Their phases name the points
between two of their steps.
-/

namespace GraphClient

/-- Where a caller is. -/
inductive CallPhase where
  /-- It has set its deadlines and has not looked at the pool. -/
  | arrived
  /-- It found the pool open and has not asked for a permit. -/
  | admitted
  /-- It has asked for a permit. -/
  | waiting
  /-- It has used up a permit and has not taken a session. -/
  | permitted
  /-- It has taken a session that does not count as in use yet. -/
  | holding (session : Nat)
  /-- Its task has begun, and it waits for the outcome. -/
  | running
  | returned (outcome : Outcome)
  | abandoned

namespace CallPhase

/-- The outcome that a caller has returned with. -/
def outcome? : CallPhase → Option Outcome
  | returned outcome => some outcome
  | _ => none

/-- The caller waits no longer. -/
def isOver : CallPhase → Bool
  | returned _ | abandoned => true
  | _ => false

end CallPhase

/-- Where the task of a caller is. -/
inductive TaskPhase where
  /-- There is no task. -/
  | none
  /-- It has a session and has not begun the request. -/
  | spawned (session : Nat)
  | submitting (session : Nat)
  /-- The request took too long, and the session is being disconnected. -/
  | expiring (session : Nat)
  /-- The request is over. -/
  | releasing (session : Nat) (outcome : Outcome)
  /-- The session no longer counts as in use. -/
  | placing (session : Nat) (outcome : Outcome)
  /-- The session is idle, and its permit is not yet there. -/
  | permitting (outcome : Outcome)
  /-- The session is being disconnected. -/
  | discarding (session : Nat) (outcome : Outcome)
  /-- The last live session is gone, and the semaphore is not yet closed. -/
  | sealing (outcome : Outcome)
  | finished (outcome : Outcome)

namespace TaskPhase

/-- The session that a task holds. -/
def session? : TaskPhase → Option Nat
  | spawned s | submitting s | expiring s | releasing s _ | placing s _ | discarding s _ => some s
  | _ => Option.none

end TaskPhase

/-- Where a closer is. -/
inductive CloserPhase where
  | arrived
  /-- The pool is shut, and its semaphore is not. -/
  | drained (sessions : List Nat)
  /-- The semaphore is closed, and these sessions are to be disconnected. -/
  | clearing (sessions : List Nat)
  /-- The first session is being disconnected. -/
  | disconnecting (session : Nat) (rest : List Nat)
  | done
  deriving DecidableEq, Repr

/-- A call for the result of a script. -/
structure Call where
  script : String
  timeout : Duration
  deadline : Instant
  drainDeadline : Instant
  phase : CallPhase
  task : TaskPhase

/-- What a pool counts. -/
structure PoolMetrics where
  size : Nat
  live : Nat
  idle : Nat
  inUse : Nat
  checkouts : Nat
  discarded : Nat
  timeouts : Nat
  deriving DecidableEq, Repr

/-- A pool with its sessions, callers, tasks and closers. -/
structure Pool where
  config : ClientConfig
  now : Instant
  sessions : Array Session
  /-- All sessions have been opened or given up. -/
  ready : Bool
  isOpen : Bool
  /-- Positions of the idle sessions, the next to be taken first. -/
  idle : List Nat
  semaphore : Semaphore
  live : Nat
  inUse : Nat
  checkouts : Nat
  discarded : Nat
  timeouts : Nat
  calls : Array Call
  closers : List CloserPhase

namespace Pool

/-- A pool whose sessions are being opened from an instant on. -/
def opening (config : ClientConfig) (now : Instant) : Pool :=
  { config
    now
    sessions := (Array.range config.poolSize).map fun i => Session.opening config (i + 1) now
    ready := false
    isOpen := true
    idle := List.range config.poolSize
    semaphore := Semaphore.new config.poolSize
    live := config.poolSize
    inUse := 0
    checkouts := 0
    discarded := 0
    timeouts := 0
    calls := #[]
    closers := [] }

/-- The error of a caller that gets no session. -/
def exhausted (p : Pool) : ClientError :=
  .poolExhausted (if p.isOpen then "No live sessions" else "Pool is closed")

def metrics (p : Pool) : PoolMetrics :=
  { size := p.config.poolSize
    live := p.live
    idle := p.idle.length
    inUse := p.inUse
    checkouts := p.checkouts
    discarded := p.discarded
    timeouts := p.timeouts }

/-- The address and the counts of sessions, for diagnostics. -/
def debugText (p : Pool) : String :=
  "SessionPool \x7b address: " ++ p.config.address.debugText ++ ", live: " ++ toString p.live ++
    ", idle: " ++ toString p.idle.length ++ ", in_use: " ++ toString p.inUse ++ " \x7d"

end Pool

end GraphClient
