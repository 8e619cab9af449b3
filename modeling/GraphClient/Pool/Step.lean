import GraphClient.Pool.Basic

/-!
# Steps of a pool

Every event that can happen in a pool, one at a time. Callers, tasks and closers take their next
step on their own; sessions take theirs with their channels; time passes while nobody has a step to
take. A run is any sequence of these steps, so what holds after every step holds under every
interleaving.
-/

namespace GraphClient.Pool

/-- What can happen in a pool. -/
inductive Event where
  /-- All sessions have been opened or given up. -/
  | connected
  | arrive (script : String) (timeout : Duration)
  /-- A caller takes its next step. -/
  | call (call : Nat)
  /-- The deadline of a caller has passed. -/
  | expire (call : Nat)
  /-- A caller stops waiting for the answer to its call. -/
  | abandon (call : Nat)
  /-- A task begins its request, which has this identifier. -/
  | begin (call : Nat) (id : Uuid)
  /-- A task takes its next step. -/
  | task (call : Nat)
  /-- The drain deadline of a task has passed. -/
  | drain (call : Nat)
  | close
  /-- A closer takes its next step. -/
  | closer (closer : Nat)
  /-- Something happens to a session on its own. -/
  | session (session : Nat) (event : Session.Event)
  /-- The clock goes on to an instant. -/
  | advance (later : Instant)

def noSessionWithin (timeout : Duration) : ClientError :=
  .timeout ("No session available within " ++ timeout.text)

def timedOutAfter (timeout : Duration) : ClientError :=
  .timeout ("Request timed out after " ++ timeout.text)

def notDrained : ClientError := .timeout "Request did not complete"

def setCall (p : Pool) (i : Nat) (c : Call) : Pool :=
  { p with calls := p.calls.setIfInBounds i c }

def setSession (p : Pool) (i : Nat) (s : Session) : Pool :=
  { p with sessions := p.sessions.setIfInBounds i s }

/-- The pool after an event of one of its sessions. -/
def sessionStep? (p : Pool) (i : Nat) (event : Session.Event) : Option Pool := do
  let s ← p.sessions[i]?
  let s ← s.step? p.config p.now event
  some (p.setSession i s)

/-- The outcome of the request that a session has just ended. -/
def outcome? (p : Pool) (i : Nat) : Option Outcome := p.sessions[i]?.bind (·.activity.outcome?)

/-- A session has just been disconnected. -/
def hasEnded (p : Pool) (i : Nat) : Bool := p.sessions[i]?.any (·.activity.hasEnded)

/-- The clock can show both deadlines of a call. A caller that cannot set its deadlines fails before
it has looked at the pool. -/
def showsDeadlines (p : Pool) (timeout : Duration) : Bool :=
  ((p.now.deadline? timeout).bind (·.deadline? p.config.drainTimeout)).isSome

/-- A new caller, with its deadlines. -/
def arrive (p : Pool) (script : String) (timeout : Duration) : Pool :=
  let deadline := p.now.deadlineAfter timeout
  let drainDeadline := deadline.deadlineAfter p.config.drainTimeout
  { p with calls := p.calls.push ⟨script, timeout, deadline, drainDeadline, .arrived, .none⟩ }

/-- A caller takes the first idle session, if there is one. -/
def takeIdle (p : Pool) (i : Nat) (c : Call) : Pool :=
  match p.idle with
  | [] => p.setCall i { c with phase := .returned (.error p.exhausted) }
  | s :: rest => { p with idle := rest }.setCall i { c with phase := .holding s }

/-- The session that a caller has taken counts as in use, and the task of the caller starts. -/
def lend (p : Pool) (i : Nat) (c : Call) (s : Nat) : Pool :=
  { p with inUse := p.inUse + 1, checkouts := p.checkouts + 1 }.setCall i
    { c with phase := .running, task := .spawned s }

/-- The next step of a caller. -/
def callStep? (p : Pool) (i : Nat) : Option Pool := do
  let c ← p.calls[i]?
  match c.phase with
  | .arrived =>
    if p.isOpen then some (p.setCall i { c with phase := .admitted })
    else
      let e := ClientError.poolExhausted "Pool is closed"
      some (p.setCall i { c with phase := .returned (.error e) })
  | .admitted =>
    if p.semaphore.closed then
      some (p.setCall i { c with phase := .returned (.error p.exhausted) })
    else
      some ({ p with semaphore := p.semaphore.ask i }.setCall i { c with phase := .waiting })
  | .waiting =>
    if p.semaphore.closed then
      some ({ p with semaphore := p.semaphore.leave i }.setCall i
        { c with phase := .returned (.error p.exhausted) })
    else if i ∈ p.semaphore.granted then
      some ({ p with semaphore := p.semaphore.consume i }.setCall i { c with phase := .permitted })
    else none
  | .permitted => some (p.takeIdle i c)
  | .holding s => some (p.lend i c s)
  | .running =>
    match c.task with
    | .finished outcome => some (p.setCall i { c with phase := .returned outcome })
    | _ => none
  | .returned _ | .abandoned => none

/-- A caller whose deadline has passed gives up, unless it can go on. -/
def expire? (p : Pool) (i : Nat) : Option Pool := do
  let c ← p.calls[i]?
  if p.now < c.deadline ∨ (p.callStep? i).isSome then none
  else
    match c.phase with
    | .waiting =>
      some ({ p with
          semaphore := p.semaphore.leave i
          timeouts := p.timeouts + 1 }.setCall i
        { c with phase := .returned (.error (noSessionWithin c.timeout)) })
    | .running =>
      some ({ p with timeouts := p.timeouts + 1 }.setCall i
        { c with phase := .returned (.error (timedOutAfter c.timeout)) })
    | _ => none

/-- A caller goes away while it waits. -/
def abandon? (p : Pool) (i : Nat) : Option Pool := do
  let c ← p.calls[i]?
  match c.phase with
  | .waiting =>
    some ({ p with semaphore := p.semaphore.leave i }.setCall i { c with phase := .abandoned })
  | .arrived | .running => some (p.setCall i { c with phase := .abandoned })
  | _ => none

/-- A task begins its request. -/
def begin? (p : Pool) (i : Nat) (id : Uuid) : Option Pool := do
  let c ← p.calls[i]?
  match c.task with
  | .spawned s =>
    let p ← p.sessionStep? s (.submit id c.script)
    some (p.setCall i { c with task := .submitting s })
  | _ => none

/-- A task puts a connected session back into an open pool, and begins to discard any other. -/
def place? (p : Pool) (i : Nat) (c : Call) (s : Nat) (outcome : Outcome) : Option Pool := do
  let session ← p.sessions[s]?
  if session.isConnected ∧ p.isOpen then
    some ({ p with idle := p.idle ++ [s] }.setCall i { c with task := .permitting outcome })
  else
    let p ← p.sessionStep? s .disconnect
    some (p.setCall i { c with task := .discarding s outcome })

/-- The next step of a task. -/
def taskStep? (p : Pool) (i : Nat) : Option Pool := do
  let c ← p.calls[i]?
  match c.task with
  | .submitting s =>
    let outcome ← p.outcome? s
    let p ← p.sessionStep? s .collect
    some (p.setCall i { c with task := .releasing s outcome })
  | .expiring s =>
    if p.hasEnded s then
      let p ← p.sessionStep? s .collect
      some (p.setCall i { c with task := .releasing s (.error notDrained) })
    else none
  | .releasing s outcome =>
    some ({ p with inUse := p.inUse - 1 }.setCall i { c with task := .placing s outcome })
  | .placing s outcome => p.place? i c s outcome
  | .permitting outcome =>
    some ({ p with semaphore := p.semaphore.release }.setCall i
      { c with task := .finished outcome })
  | .discarding s outcome =>
    if p.hasEnded s then
      let p ← p.sessionStep? s .collect
      let live := p.live - 1
      let task := if live = 0 then TaskPhase.sealing outcome else .finished outcome
      some ({ p with live, discarded := p.discarded + 1 }.setCall i { c with task })
    else none
  | .sealing outcome =>
    some ({ p with semaphore := p.semaphore.close }.setCall i { c with task := .finished outcome })
  | .none | .spawned _ | .finished _ => none

/-- A task whose drain deadline has passed drops its request, unless it can go on, and disconnects
the session. -/
def drain? (p : Pool) (i : Nat) : Option Pool := do
  let c ← p.calls[i]?
  match c.task with
  | .submitting s =>
    if p.now < c.drainDeadline ∨ (p.outcome? s).isSome ∨ (p.sessionStep? s .claim).isSome then none
    else
      let p ← p.sessionStep? s .cancel
      let p ← p.sessionStep? s .disconnect
      some (p.setCall i { c with task := .expiring s })
  | _ => none

/-- The next step of a closer. -/
def closerStep? (p : Pool) (k : Nat) : Option Pool := do
  let phase ← p.closers[k]?
  let set (p : Pool) (phase : CloserPhase) : Pool := { p with closers := p.closers.set k phase }
  match phase with
  | .arrived => some (set { p with isOpen := false, idle := [] } (.drained p.idle))
  | .drained sessions =>
    some (set { p with semaphore := p.semaphore.close } (.clearing sessions))
  | .clearing [] => some (set p .done)
  | .clearing (s :: rest) =>
    let p ← p.sessionStep? s .disconnect
    some (set p (.disconnecting s rest))
  | .disconnecting s rest =>
    if p.hasEnded s then
      let p ← p.sessionStep? s .collect
      some (set { p with live := p.live - 1 } (.clearing rest))
    else none
  | .done => none

/-- The events of a session that do not come from its user. -/
def isOwnEvent : Session.Event → Bool
  | .submit _ _ | .disconnect | .cancel | .collect => false
  | _ => true

/-- Steps that wait for nothing outside the pool. -/
def internalEvents (p : Pool) : List Event :=
  let calls := List.range p.calls.size
  let sessions := List.range p.sessions.size
  .connected ::
    calls.map .call ++ calls.map .expire ++
    sessions.map (.session · .stop) ++ sessions.map (.session · .claim) ++
    calls.map (.begin · Uuid.nil) ++ calls.map .task ++
    (List.range p.closers.length).map .closer

/-- Steps that wait for an instant of the clock. -/
def timerEvents (p : Pool) : List Event :=
  let sessions := List.range p.sessions.size
  (List.range p.calls.size).map .drain ++ sessions.map (.session · .openExpired) ++
    sessions.map (.session · .tick)

/-- The pool after an event other than the passage of time. -/
def act? (p : Pool) (event : Event) : Option Pool :=
  match event with
  | .connected =>
    if p.ready ∨ p.sessions.any (·.activity.isOpening) then none
    else some { p with ready := true }
  | .arrive script timeout =>
    if p.ready ∧ p.showsDeadlines timeout then some (p.arrive script timeout) else none
  | .call i => p.callStep? i
  | .expire i => p.expire? i
  | .abandon i => p.abandon? i
  | .begin i id => p.begin? i id
  | .task i => p.taskStep? i
  | .drain i => p.drain? i
  | .close => if p.ready then some { p with closers := p.closers ++ [.arrived] } else none
  | .closer k => p.closerStep? k
  | .session i event => if isOwnEvent event then p.sessionStep? i event else none
  | .advance _ => none

/-- Nobody in the pool has a step to take at this instant. -/
def isQuiet (p : Pool) : Bool :=
  (p.internalEvents ++ p.timerEvents).all fun event => (p.act? event).isNone

/-- The instant that a call and its task wait for. -/
def callDeadlines (c : Call) : List Instant :=
  (match c.phase with
    | .waiting | .running => [c.deadline]
    | _ => []) ++
  (match c.task with
    | .submitting _ => [c.drainDeadline]
    | _ => [])

/-- The instants that somebody in the pool waits for. -/
def deadlines (p : Pool) : List Instant :=
  p.calls.toList.flatMap callDeadlines ++ p.sessions.toList.flatMap Session.deadlines

/-- The pool after an event. Time passes only while the pool is quiet, and it stops at the first
whole millisecond at which somebody waits no longer. -/
def step? (p : Pool) (event : Event) : Option Pool :=
  match event with
  | .advance later =>
    if p.now < later ∧ p.isQuiet ∧ p.deadlines.all (later ≤ .ofMillis ·.ceilMillis) then
      some { p with now := later }
    else none
  | event => p.act? event

/-- The pool after a run of events. -/
def run? (p : Pool) (events : List Event) : Option Pool := events.foldlM step? p

end GraphClient.Pool
