import GraphClient.Rehearsal.Clock
import GraphClient.Rehearsal.Server

/-!
# Sessions before a scripted server

One session with one channel, run on a virtual clock through a list of deeds.
-/

namespace GraphClient.Rehearsal

/-- A session, its channel and the time. -/
structure SessionWorld where
  config : ClientConfig
  script : ServerScript
  time : Nat
  session : Session
  channel : ScriptedChannel
  /-- Requests so far. -/
  requests : Nat

namespace SessionWorld

def now (w : SessionWorld) : Instant := .ofMillis w.time

def act? (w : SessionWorld) (event : Session.Event) : Option SessionWorld :=
  (w.session.step? w.config w.now event).map fun session => { w with session }

/-- The channel does what the session waits for. -/
def serve? (w : SessionWorld) : Option SessionWorld := do
  let (event, channel) ← w.channel.serve? w.script w.config w.time w.session
  { w with channel }.act? event

def next? (w : SessionWorld) : Option SessionWorld :=
  w.act? .stop <|> w.act? .claim <|> w.serve? <|> w.act? .openExpired <|> w.act? .tick

def due? (w : SessionWorld) : Option Nat :=
  earliestAfter w.time
    (w.session.deadlines.map Instant.ceilMillis ++ (w.channel.due? w.session).toList)

def mechanism : Mechanism SessionWorld :=
  { time := (·.time), next?, due?, moveTo := fun time w => { w with time } }

/-- The world once an event of the user and what follows from it are over. -/
def perform (w : SessionWorld) (event : Session.Event) : SessionWorld :=
  match w.act? event with
  | none => w
  | some w => mechanism.runUntil (fun w => (w.act? .collect).isSome) Mechanism.ample w

/-- The world once the channel is open or given up. -/
def connect (config : ClientConfig) (script : ServerScript) (id : Nat) : SessionWorld :=
  let w : SessionWorld :=
    { config
      script
      time := 0
      session := Session.opening config id (.ofMillis 0)
      channel := ScriptedChannel.opening script 0 0 config.address.url
      requests := 0 }
  mechanism.runUntil (fun w => !w.session.activity.isOpening) Mechanism.ample w

end SessionWorld

/-- What the user of a session does. -/
inductive SessionDeed where
  | submit (script : String)
  | sleep (millis : Nat)
  | disconnect
  | inspect

/-- What came of a deed: an outcome or a text, and how the session is after it. -/
structure SessionReport where
  outcome : Option Outcome
  text : Option String
  time : Nat
  state : SessionState
  connected : Bool

namespace SessionWorld

def report (w : SessionWorld) (outcome : Option Outcome) (text : Option String) :
    SessionReport :=
  ⟨outcome, text, w.time, w.session.state, w.session.isConnected⟩

/-- The user takes note of what is over. -/
def collect (w : SessionWorld) : Option Outcome × SessionWorld :=
  (w.session.activity.outcome?, (w.act? .collect).getD w)

/-- What comes of one deed. -/
def performOne (w : SessionWorld) : SessionDeed → SessionReport × SessionWorld
  | .submit text =>
    let w := { w with requests := w.requests + 1 }.perform (.submit (freshId w.requests) text)
    let (outcome, w) := w.collect
    (w.report outcome none, w)
  | .sleep millis =>
    let w := mechanism.runTo (w.time + millis) Mechanism.ample w
    (w.report none none, w)
  | .disconnect =>
    let (_, w) := (w.perform .disconnect).collect
    (w.report none none, w)
  | .inspect => (w.report none (some (w.session.debugText w.config)), w)

/-- The reports on deeds done one after another. -/
def performAll (w : SessionWorld) : List SessionDeed → List SessionReport × SessionWorld
  | [] => ([], w)
  | deed :: rest =>
    let (report, w) := w.performOne deed
    let (reports, w) := w.performAll rest
    (report :: reports, w)

end SessionWorld

end GraphClient.Rehearsal
